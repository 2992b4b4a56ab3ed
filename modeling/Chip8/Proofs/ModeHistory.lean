import Chip8.Proofs.Decoding
import Chip8.Proofs.KeyWait

/-!
# The mode and the history

The mode of an emulator can be told from the events that it has handled and the instructions that
ran on the way: it is stopped once a quit has come, it waits while the last instruction that did not
fail asks for a key that has not come, and else it is the mode that the configuration names
(`Emulator.mode_of_history`). What one event does to a wait is said in
`Emulator.handle_awaitingKey_iff`.
-/

namespace Chip8

/-- Only `Fx0A` asks for a key, and it does not fail. -/
theorem Machine.step_result_awaitKey_iff {m : Machine} {screen : Bitmap} {random : Byte}
    {i : Instruction} {r : Reg} :
    (m.step screen random i).result = .ok (.awaitKey r) ↔ i.operation? = some (.awaitKey r) := by
  unfold step
  cases i.operation? with
  | none => simp
  | some op =>
    cases op with
    | ret | call =>
      simp only [execute]
      split <;> simp
    | _ => simp [execute]

namespace Emulator

variable {e : Emulator} {event : Event} {events : List Event} {r : Reg}

/-! ## Modes within reach -/

/-- Instructions run in the mode that the configuration names and in no other. -/
def FollowsConfig (e : Emulator) : Prop :=
  e.mode = .stopped ∨ (∃ r, e.mode = .awaitingKey r) ∨ e.mode = e.config.activeMode

theorem settle_mode (e : Emulator) (i : Instruction) (effect : Effect) :
    (∃ r, effect.result = .ok (.awaitKey r) ∧ (e.settle i effect).emulator.mode = .awaitingKey r) ∨
      (∀ r, effect.result ≠ .ok (.awaitKey r)) ∧ (e.settle i effect).emulator.mode = e.mode := by
  obtain ⟨machine, screen, call, fault | outcome⟩ := effect
  · exact .inr ⟨nofun, rfl⟩
  · cases outcome with
    | awaitKey r => exact .inl ⟨r, rfl, rfl⟩
    | _ => exact .inr ⟨nofun, rfl⟩

theorem FollowsConfig.handle (h : e.FollowsConfig) (event : Event) :
    (e.handle event).emulator.FollowsConfig := by
  have same := handle_config e event
  by_cases stopped : e.mode = .stopped
  · rwa [handle_of_stopped stopped]
  have reacts := handle_reacts stopped event
  generalize e.handle event = reaction at reacts same ⊢
  unfold FollowsConfig
  rw [same]
  cases reacts with
  | runs =>
    obtain ⟨r, -, waits⟩ | ⟨-, mode⟩ := e.settle_mode e.machine.fetch _
    · exact .inr (.inl ⟨r, waits⟩)
    · rw [cycle, mode]
      exact h
  | quit => exact .inl rfl
  | press =>
    unfold press
    split
    · exact .inr (.inr rfl)
    · exact h
  | release =>
    unfold release
    split <;> exact h
  | rests | frame | ignored => exact h

theorem FollowsConfig.after (h : e.FollowsConfig) (events : List Event) :
    (e.after events).FollowsConfig :=
  after_induction (P := FollowsConfig) (Q := fun _ => True) (fun _ event _ h => h.handle event)
    (fun _ _ => trivial) h

theorem after_stopped_iff (live : e.mode ≠ .stopped) :
    (e.after events).mode = .stopped ↔ .quit ∈ events := by
  constructor
  · intro stopped
    apply Classical.byContradiction
    intro others
    exact after_ne_stopped live others stopped
  · intro mem
    obtain ⟨before, rest, rfl⟩ := List.append_of_mem mem
    rw [after_append]
    by_cases already : (e.after before).mode = .stopped
    · rwa [after_of_stopped already]
    · rw [after_quit already]

/-! ## Waits -/

/-- The event runs an instruction that does not fail. -/
def Executes (e : Emulator) (event : Event) : Prop :=
  e.Runs event ∧ (e.handle event).fault = none

/-- No instruction runs without failing and no key of the keypad goes down. -/
structure Undisturbed (e : Emulator) (events : List Event) : Prop where
  rests : ∀ before event rest, events = before ++ event :: rest → ¬ (e.after before).Executes event
  unpressed : ∀ k, .keyDown k ∈ events → ¬ onKeypad k

/-- The event between the two lists runs the last instruction that does not fail. It asks for a key,
and no key of the keypad goes down after it. -/
structure LeftWaiting (e : Emulator) (before : List Event) (go : Event) (rest : List Event)
    (r : Reg) : Prop where
  executes : (e.after before).Executes go
  awaits : (e.after before).machine.fetch.word.StandsFor (.awaitKey r)
  undisturbed : ((e.after before).handle go).emulator.Undisturbed rest

theorem undisturbed_nil (e : Emulator) : e.Undisturbed [] where
  rests before event rest split := by simp at split
  unpressed k mem := by simp at mem

theorem Undisturbed.cons (h : (e.handle event).emulator.Undisturbed events)
    (rests : ¬ e.Executes event) (unpressed : ∀ k, event = .keyDown k → ¬ onKeypad k) :
    e.Undisturbed (event :: events) where
  rests before next rest split := by
    cases before with
    | nil =>
      rw [List.nil_append, List.cons.injEq] at split
      rwa [after_nil, ← split.1]
    | cons first before =>
      rw [List.cons_append, List.cons.injEq] at split
      rw [← split.1, after_cons]
      exact h.rests before next rest split.2
  unpressed k mem := by
    obtain rfl | mem := List.mem_cons.1 mem
    · exact unpressed k rfl
    · exact h.unpressed k mem

theorem executes_of_awaitKey (runs : e.Runs event)
    (awaits : e.machine.fetch.operation? = some (.awaitKey r)) : e.Executes event :=
  ⟨runs, by rw [handle_of_awaitKey runs awaits]⟩

theorem not_runs_of_awaitingKey (h : e.mode = .awaitingKey r) (event : Event) :
    ¬ e.Runs event := by
  simp [Runs, h]

/-- A wait begins with an instruction and ends with a quit or with a key of the keypad. -/
theorem handle_awaitingKey_iff (live : e.mode ≠ .stopped) :
    (e.handle event).emulator.mode = .awaitingKey r ↔
      e.Executes event ∧ e.machine.fetch.operation? = some (.awaitKey r) ∨
      e.mode = .awaitingKey r ∧ event ≠ .quit ∧ ∀ k, event = .keyDown k → ¬ onKeypad k := by
  constructor
  · intro waits
    have reacts := handle_reacts live event
    generalize handled : e.handle event = reaction at reacts waits
    cases reacts with
    | runs runs =>
      obtain ⟨r', result, mode⟩ | ⟨-, mode⟩ := e.settle_mode e.machine.fetch
        (e.machine.step e.screen e.random.peek e.machine.fetch)
      · obtain rfl : r' = r := Mode.awaitingKey.inj (mode.symm.trans waits)
        have awaits := Machine.step_result_awaitKey_iff.1 result
        exact .inl ⟨executes_of_awaitKey runs awaits, awaits⟩
      · exact absurd runs (not_runs_of_awaitingKey (mode.symm.trans waits) event)
    | rests _ pulse => exact .inr ⟨waits, by rcases pulse with rfl | rfl <;> simp⟩
    | quit => cases waits
    | frame => exact .inr ⟨waits, nofun, nofun⟩
    | press =>
      unfold press at waits
      split at waits
      · exact absurd waits (by unfold Config.activeMode; split <;> nofun)
      · next unawaited => exact absurd waits (unawaited r)
    | release =>
      unfold release at waits
      split at waits <;> exact .inr ⟨waits, nofun, nofun⟩
    | @ignored _ key keypad of_key =>
      refine .inr ⟨waits, by rcases of_key with rfl | rfl <;> nofun, ?_⟩
      rintro k rfl
      rcases of_key with same | same
      · rwa [Event.keyDown.inj same]
      · cases same
  · rintro (⟨executes, awaits⟩ | ⟨waits, other, unpressed⟩)
    · rw [handle_of_awaitKey executes.1 awaits]
    · have idle : e.Idle event := by
        refine ⟨live, other, not_runs_of_awaitingKey waits event, ?_⟩
        rintro k _ rfl keypad
        exact absurd keypad (unpressed k rfl)
      rwa [(handle_of_idle idle).1]

theorem after_of_awaitingKey (waits : e.mode = .awaitingKey r) (others : .quit ∉ events)
    (unpressed : ∀ k, .keyDown k ∈ events → ¬ onKeypad k) :
    (e.after events).mode = .awaitingKey r := by
  rw [after_of_idle (idle_of_awaitingKey waits others unpressed)]
  exact waits

/-- What a wait at the end of a history goes back to: one at its beginning, or an instruction that
ran on the way. -/
theorem begun_of_awaitingKey (live : e.mode ≠ .stopped) (others : .quit ∉ events)
    (waits : (e.after events).mode = .awaitingKey r) :
    e.mode = .awaitingKey r ∧ e.Undisturbed events ∨
      ∃ before go rest, events = before ++ go :: rest ∧ e.LeftWaiting before go rest r := by
  -- A wait that what follows finds already there is begun by the first event or carried past it.
  induction events generalizing e with
  | nil => exact .inl ⟨waits, undisturbed_nil e⟩
  | cons event events ih =>
    rw [List.mem_cons, not_or] at others
    have next := handle_ne_stopped live (Ne.symm others.1)
    obtain ⟨mode, undisturbed⟩ | ⟨before, go, rest, rfl, left⟩ := ih next others.2 waits
    · obtain ⟨executes, awaits⟩ | ⟨mode, -, unpressed⟩ := (handle_awaitingKey_iff live).1 mode
      · exact .inr ⟨[], event, events, rfl, executes, Operation.standsFor_of_ofWord? awaits,
          undisturbed⟩
      · have rests : ¬ e.Executes event :=
          fun executes => not_runs_of_awaitingKey mode event executes.1
        exact .inl ⟨mode, undisturbed.cons rests unpressed⟩
    · exact .inr ⟨event :: before, go, rest, rfl, left.executes, left.awaits, left.undisturbed⟩

theorem after_awaitingKey_iff (active : e.mode = e.config.activeMode) (others : .quit ∉ events) :
    (e.after events).mode = .awaitingKey r ↔
      ∃ before go rest, events = before ++ go :: rest ∧ e.LeftWaiting before go rest r := by
  have live : e.mode ≠ .stopped := by
    rw [active]
    exact activeMode_ne_stopped e.config
  constructor
  · intro waits
    obtain ⟨waits, -⟩ | left := begun_of_awaitingKey live others waits
    · rw [active, Config.activeMode] at waits
      split at waits <;> cases waits
    · exact left
  · rintro ⟨before, go, rest, rfl, left⟩
    rw [after_append, after_cons]
    simp only [List.mem_append, List.mem_cons, not_or] at others
    have awaits : (e.after before).machine.fetch.operation? = some (.awaitKey r) :=
      Operation.ofWord?_of_standsFor left.awaits
    have begun : ((e.after before).handle go).emulator.mode = .awaitingKey r :=
      (handle_awaitingKey_iff (after_ne_stopped live others.1)).2 (.inl ⟨left.executes, awaits⟩)
    exact after_of_awaitingKey begun others.2.2 left.undisturbed.unpressed

/-- The mode is told by the history, failing instructions included: it is stopped once a quit has
come. Before that it waits exactly if the last instruction that did not fail asks for a key and no
key of the keypad has gone down since; else it is the one that the configuration names. Once
stopped, nothing changes any more. -/
theorem mode_of_history (m : Machine) (screen : Bitmap) (config : Config) (random : RandomSource)
    (events : List Event) :
    let e := { ofMachine m config random with screen }
    let now := e.after events
    (now.mode = .stopped ↔ .quit ∈ events) ∧
      (.quit ∉ events →
        (∀ r, now.mode = .awaitingKey r ↔
          ∃ before go rest, events = before ++ go :: rest ∧ e.LeftWaiting before go rest r) ∧
        ((∀ r, now.mode ≠ .awaitingKey r) →
          now.mode = if config.debug then .stepping else .running)) ∧
      (now.mode = .stopped → ∀ event, now.handle event = { emulator := now }) := by
  intro e now
  have active : e.mode = e.config.activeMode := rfl
  have stopped_iff : now.mode = .stopped ↔ .quit ∈ events :=
    after_stopped_iff (activeMode_ne_stopped config)
  refine ⟨stopped_iff, ?_, handle_of_stopped⟩
  intro others
  refine ⟨fun r => after_awaitingKey_iff active others, ?_⟩
  intro unawaited
  have follows : now.FollowsConfig := FollowsConfig.after (.inr (.inr active)) events
  obtain stopped | ⟨r, waits⟩ | mode := follows
  · exact absurd (stopped_iff.1 stopped) others
  · exact absurd waits (unawaited r)
  · rw [mode, after_config]
    rfl

end Emulator

end Chip8
