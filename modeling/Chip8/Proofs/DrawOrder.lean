import Chip8.Proofs.EventStream
import Chip8.Proofs.MachineRuns
import Chip8.Proofs.SpareEvents
import Chip8.Proofs.SpriteBits

/-!
# Drawings in any order

A drawing switches pixels, and which ones does not depend on what is lit. So drawings can be done
in any order (`Bitmap.drawAll_perm`), and one that is done twice is undone (`Bitmap.stamp_stamp`):
those that are done an even number of times leave nothing. What a display shows is what was drawn
since it was last cleared (`foldl_serve`), so after a run it does not tell in which order that was
(`drawn_in_any_order`). The flags that the drawings return do tell.
-/

namespace Chip8

/-- A sprite and where its top left corner is put. -/
structure Drawing where
  sprite : List Byte
  x : Nat
  y : Nat
  deriving DecidableEq

/-- The drawing with its corner where it wraps to. -/
def Drawing.wrapped (d : Drawing) : Drawing := { d with x := d.x % 64, y := d.y % 32 }

/-- The drawings are the same but for their order, with their corners where they wrap to. -/
def Drawing.SameUpToOrder (ds ds' : List Drawing) : Prop :=
  (ds.map wrapped).Perm (ds'.map wrapped)

namespace Bitmap

/-- The display after one more drawing. -/
def stamp (s : Bitmap) (d : Drawing) : Bitmap := (s.draw d.sprite d.x d.y).1

/-- The display after drawings one after another. -/
def drawAll (s : Bitmap) (ds : List Drawing) : Bitmap := ds.foldl stamp s

theorem pixel_stamp (s : Bitmap) (d : Drawing) (p : Fin 64 × Fin 32) :
    (s.stamp d).pixel p.1 p.2 =
      (s.pixel p.1 p.2 ^^ decide (bitsOn d.sprite d.x d.y p % 2 = 1)) :=
  pixel_draw_bitsOn ..

theorem stamp_wrapped (s : Bitmap) (d : Drawing) : s.stamp d.wrapped = s.stamp d := by
  apply ext_pixel
  intro p
  rw [pixel_stamp, pixel_stamp, Drawing.wrapped, bitsOn_mod]

theorem stamp_comm (s : Bitmap) (d d' : Drawing) : (s.stamp d).stamp d' = (s.stamp d').stamp d := by
  apply ext_pixel
  intro p
  rw [pixel_stamp, pixel_stamp, pixel_stamp, pixel_stamp, Bool.xor_right_comm]

theorem stamp_stamp (s : Bitmap) (d : Drawing) : (s.stamp d).stamp d = s := by
  apply ext_pixel
  intro p
  rw [pixel_stamp, pixel_stamp, Bool.xor_assoc, Bool.xor_self, Bool.xor_false]

theorem drawAll_map_wrapped (s : Bitmap) (ds : List Drawing) :
    s.drawAll (ds.map Drawing.wrapped) = s.drawAll ds := by
  rw [drawAll, List.foldl_map]
  simp only [stamp_wrapped]
  rfl

theorem drawAll_perm (s : Bitmap) {ds ds' : List Drawing} (perm : ds.Perm ds') :
    s.drawAll ds = s.drawAll ds' :=
  perm.foldl_eq' (fun d _ d' _ s => stamp_comm s d d') s

theorem drawAll_of_sameUpToOrder (s : Bitmap) {ds ds' : List Drawing}
    (same : Drawing.SameUpToOrder ds ds') : s.drawAll ds = s.drawAll ds' := by
  rw [← drawAll_map_wrapped, drawAll_perm s same, drawAll_map_wrapped]

/-- Drawings that all come in pairs leave the display as it was. -/
theorem drawAll_of_even (s : Bitmap) {ds : List Drawing} (even : ∀ d, ds.count d % 2 = 0) :
    s.drawAll ds = s := by
  -- The first drawing comes again, so both can be taken away.
  induction size : ds.length using Nat.strongRecOn generalizing ds with
  | ind n ih =>
    cases ds with
    | nil => rfl
    | cons d rest =>
      have again : d ∈ rest := by
        have twice := even d
        rw [List.count_cons_self] at twice
        exact List.count_pos_iff.1 (by omega)
      have fewer : (rest.erase d).length < n := by
        rw [List.length_erase_of_mem again, ← size, List.length_cons]
        omega
      have left : ∀ d', (rest.erase d).count d' % 2 = 0 := by
        intro d'
        have before := even d'
        rw [List.count_cons] at before
        rw [List.count_erase]
        by_cases here : d = d'
        · simp only [beq_iff_eq, here, if_true] at before ⊢
          omega
        · simpa [here] using before
      calc s.drawAll (d :: rest)
          = s.drawAll (d :: d :: rest.erase d) :=
            drawAll_perm s ((List.perm_cons_erase again).cons d)
        _ = ((s.stamp d).stamp d).drawAll (rest.erase d) := rfl
        _ = s.drawAll (rest.erase d) := by rw [stamp_stamp]
        _ = s := ih _ fewer left rfl

end Bitmap

/-! ## What a display is asked for -/

/-- The drawing that is asked for, if one is. -/
def ScreenCall.drawing? : ScreenCall → Option Drawing
  | .draw sprite x y => some ⟨sprite, x.toNat, y.toNat⟩
  | .clear | .message _ => none

/-- The drawings since the display was last cleared: those behind which it is not cleared again. -/
def drawnSinceClear : List ScreenCall → List Drawing
  | [] => []
  | call :: rest =>
    if .clear ∈ rest then drawnSinceClear rest
    else call.drawing?.toList ++ drawnSinceClear rest

/-- What a display shows that has done what it is asked for. -/
def Bitmap.serve (s : Bitmap) : ScreenCall → Bitmap
  | .clear => .blank
  | .draw sprite x y => (s.draw sprite x.toNat y.toNat).1
  | .message _ => s

theorem foldl_serve (s : Bitmap) (calls : List ScreenCall) :
    calls.foldl Bitmap.serve s =
      (if .clear ∈ calls then .blank else s).drawAll (drawnSinceClear calls) := by
  induction calls generalizing s with
  | nil => rfl
  | cons call rest ih =>
    rw [List.foldl_cons, ih, drawnSinceClear]
    by_cases cleared : .clear ∈ rest
    · rw [if_pos cleared, if_pos (List.mem_cons_of_mem _ cleared), if_pos cleared]
    · rw [if_neg cleared, if_neg cleared]
      cases call with
      | clear => rfl
      | draw | message =>
        rw [if_neg (by simp [cleared])]
        rfl

theorem foldl_serve_of_sameUpToOrder (s : Bitmap) {calls : List ScreenCall} {ds : List Drawing}
    (same : Drawing.SameUpToOrder ds (drawnSinceClear calls)) :
    calls.foldl Bitmap.serve s = (if .clear ∈ calls then .blank else s).drawAll ds := by
  rw [foldl_serve, Bitmap.drawAll_of_sameUpToOrder _ same]

/-! ## Runs -/

theorem Machine.screen_step (m : Machine) (s : Bitmap) (random : Byte) (i : Instruction) :
    let effect := m.step s random i
    effect.screen = effect.call.toList.foldl Bitmap.serve s := by
  unfold step
  cases i.operation? with
  | none => rfl
  | some op =>
    cases op with
    | ret =>
      simp only [execute]
      split <;> rfl
    | call =>
      simp only [execute]
      split <;> rfl
    | _ => rfl

/-- What the screen is asked for on the way. -/
def Device.calls (d : Device) : List (Instruction × Byte) → List ScreenCall
  | [] => []
  | order :: rest => (d.obey order).call.toList ++ (d.obey order).device.calls rest

theorem Device.screen_after (d : Device) (orders : List (Instruction × Byte)) :
    (d.after obey orders).screen = (d.calls orders).foldl Bitmap.serve d.screen := by
  induction orders generalizing d with
  | nil => rfl
  | cons order rest ih =>
    have shown : (d.obey order).device.screen =
        (d.obey order).call.toList.foldl Bitmap.serve d.screen := d.machine.screen_step ..
    rw [calls, List.foldl_append, ← shown]
    exact ih (d.obey order).device

namespace Emulator

theorem screen_settle (e : Emulator) (i : Instruction) (effect : Effect) :
    (e.settle i effect).emulator.screen = effect.screen ∧
      (e.settle i effect).screenCalls = effect.call.toList := by
  obtain ⟨machine, screen, _ | call, fault | outcome⟩ := effect
  · exact ⟨rfl, rfl⟩
  · cases outcome <;> exact ⟨rfl, rfl⟩
  · exact ⟨rfl, rfl⟩
  · cases outcome <;> exact ⟨rfl, rfl⟩

theorem screen_handle (e : Emulator) (event : Event) :
    (e.handle event).emulator.screen =
      (e.handle event).screenCalls.foldl Bitmap.serve e.screen := by
  by_cases stopped : e.mode = .stopped
  · rw [handle_of_stopped stopped]
    rfl
  have reacts := handle_reacts stopped event
  generalize e.handle event = reaction at reacts ⊢
  cases reacts with
  | runs =>
    obtain ⟨screen, calls⟩ := e.screen_settle e.machine.fetch
      (e.machine.step e.screen e.random.peek e.machine.fetch)
    rw [cycle, screen, calls]
    exact e.machine.screen_step ..
  | press =>
    unfold press
    split <;> rfl
  | release =>
    unfold release
    split <;> rfl
  | rests | quit | frame | ignored => rfl

theorem screen_after (e : Emulator) (events : List Event) :
    (e.after events).screen =
      ((e.reactions events).flatMap Reaction.screenCalls).foldl Bitmap.serve e.screen := by
  induction events generalizing e with
  | nil => rfl
  | cons event rest ih =>
    rw [after_cons, ih, screen_handle, reactions, List.flatMap_cons, List.foldl_append]

end Emulator

namespace Run

/-- What the screen was asked for. -/
def screenCalls (r : Run) : List ScreenCall :=
  r.calls.toList.filterMap fun
    | .screen call => some call
    | .frame _ => none

/-- The display shows what was asked for, from the clearing on. -/
def Shows (r : Run) : Prop := r.emulator.screen = r.screenCalls.foldl Bitmap.serve .blank

theorem Shows.start (e : Emulator) : (start e).Shows := by
  cases debug : e.config.debug <;> simp [Shows, Run.start, screenCalls, debug, Bitmap.serve]

theorem screenCalls_feed {r : Run} (goesOn : ¬ r.isOver) (event : Event) :
    (r.feed event).screenCalls = r.screenCalls ++ (r.emulator.handle event).screenCalls := by
  rw [feed, if_neg goesOn, screenCalls, Array.toList_appendList, List.filterMap_append]
  rfl

theorem Shows.feed {r : Run} (h : r.Shows) (event : Event) : (r.feed event).Shows := by
  by_cases ended : r.isOver
  · rwa [feed_of_isOver ended]
  · rw [Shows, screenCalls_feed ended, List.foldl_append, ← show r.emulator.screen = _ from h,
      ← Emulator.screen_handle, Run.feed, if_neg ended]

theorem Shows.foldl {r : Run} (h : r.Shows) (events : List Event) :
    (events.foldl Run.feed r).Shows := by
  induction events generalizing r with
  | nil => exact h
  | cons event rest ih => exact ih (h.feed event)

theorem Shows.finish {r : Run} (h : r.Shows) : r.finish.Shows := by
  unfold Run.finish
  split <;> exact h

end Run

/-- Drawings that are the same but for their order leave the same display, and those that are each
done an even number of times leave it as it was; coordinates count as those they wrap to. So what
a display shows is told by the drawings since it was last cleared, in any order: after any
instructions, after any events, and after a run, which begins with clearing it. -/
theorem drawn_in_any_order :
    (∀ (s : Bitmap) (ds ds' : List Drawing), Drawing.SameUpToOrder ds ds' →
      s.drawAll ds = s.drawAll ds') ∧
    (∀ (s : Bitmap) (ds : List Drawing), (∀ d, (ds.map Drawing.wrapped).count d % 2 = 0) →
      s.drawAll ds = s) ∧
    (∀ (d : Device) (orders : List (Instruction × Byte)) (ds : List Drawing),
      let calls := d.calls orders
      Drawing.SameUpToOrder ds (drawnSinceClear calls) →
        (d.after Device.obey orders).screen =
          (if .clear ∈ calls then .blank else d.screen).drawAll ds) ∧
    (∀ (e : Emulator) (events : List Event) (ds : List Drawing),
      let calls := (e.reactions events).flatMap Reaction.screenCalls
      Drawing.SameUpToOrder ds (drawnSinceClear calls) →
        (e.after events).screen =
          (if .clear ∈ calls then .blank else e.screen).drawAll ds) ∧
    ∀ (e : Emulator) (events : List Event) (ds : List Drawing),
      Drawing.SameUpToOrder ds (drawnSinceClear (e.run events).screenCalls) →
        (e.run events).emulator.screen = Bitmap.blank.drawAll ds := by
  refine ⟨fun s ds ds' same => s.drawAll_of_sameUpToOrder same, ?_, ?_, ?_, ?_⟩
  · intro s ds even
    rw [← s.drawAll_map_wrapped, s.drawAll_of_even even]
  · intro d orders ds calls same
    rw [d.screen_after, foldl_serve_of_sameUpToOrder _ same]
  · intro e events ds calls same
    rw [e.screen_after, foldl_serve_of_sameUpToOrder _ same]
  · intro e events ds same
    have shows : (e.run events).Shows := ((Run.Shows.start e).foldl events).finish
    rw [show (e.run events).emulator.screen = _ from shows, foldl_serve_of_sameUpToOrder _ same,
      ite_self]

/-- A run draws two sprites that meet in one pixel. Drawn in the other order, one of them over the
edges, they leave the same; drawn once more, they are gone. -/
theorem drawn_in_any_order_of_overlap :
    let m := { Machine.ofFont .standard with
      memory := (Memory.blank.writeBlock 0 [0xC0, 0x40]).writeBlock programStart
        [0xD0, 0x02, 0xA0, 0x01, 0xD0, 0x01] }
    let run := (Emulator.ofMachine m {} (.ofSeed 0)).run [.tick, .tick, .tick, .quit]
    let ds : List Drawing := [⟨[0x40], 64, 32⟩, ⟨[0xC0, 0x40], 0, 0⟩]
    Drawing.SameUpToOrder ds (drawnSinceClear run.screenCalls) ∧
      run.emulator.screen = Bitmap.blank.drawAll ds ∧
      run.emulator.screen = Bitmap.blank.drawAll ds.reverse ∧
      Bitmap.blank.drawAll (ds ++ drawnSinceClear run.screenCalls) = .blank := by
  intro m run ds
  have drawn : drawnSinceClear run.screenCalls = [⟨[0xC0, 0x40], 0, 0⟩, ⟨[0x40], 0, 0⟩] := by
    decide +kernel
  have same : Drawing.SameUpToOrder ds (drawnSinceClear run.screenCalls) := by
    rw [drawn]
    exact .swap ..
  have turned : Drawing.SameUpToOrder ds ds.reverse := .swap ..
  have shown : run.emulator.screen = Bitmap.blank.drawAll ds :=
    drawn_in_any_order.2.2.2.2 _ _ ds same
  refine ⟨same, shown, shown.trans (drawn_in_any_order.1 .blank ds _ turned), ?_⟩
  apply drawn_in_any_order.2.1
  intro d
  rw [List.map_append, List.count_append, List.Perm.count_eq same d]
  omega

end Chip8
