import Chip8.Proofs.History

/-!
# Debug mode

Debug mode replaces the instruction clock with requested steps and changes nothing else. The
`mirror` of an emulator is the same emulator in the other of the two modes; the mirror of an event
swaps ticks and steps. Handling an event and taking the mirror commute (`Emulator.handle_mirror`),
so a debugger runs the program that the clock runs (`Emulator.debugger_agrees`).
-/

namespace Chip8

/-- Ticks and steps change places. -/
def Event.mirror : Event → Event
  | .tick => .step
  | .step => .tick
  | event => event

/-- The two modes in which instructions run change places. -/
def Mode.mirror : Mode → Mode
  | .running => .stepping
  | .stepping => .running
  | mode => mode

def Config.mirror (config : Config) : Config := { config with debug := !config.debug }

theorem Config.activeMode_mirror (config : Config) :
    config.mirror.activeMode = config.activeMode.mirror := by
  unfold activeMode mirror
  cases config.debug <;> rfl

namespace Emulator

/-- The same emulator with debug mode switched over. -/
def mirror (e : Emulator) : Emulator :=
  { e with config := e.config.mirror, mode := e.mode.mirror }

end Emulator

def Reaction.mirror (r : Reaction) : Reaction := { r with emulator := r.emulator.mirror }

namespace Emulator

variable {e : Emulator} {event : Event}

/-! ## One event -/

theorem mirror_stopped_iff : e.mirror.mode = .stopped ↔ e.mode = .stopped := by
  cases mode : e.mode <;> simp [mirror, Mode.mirror, mode]

theorem runs_mirror_iff : e.mirror.Runs event.mirror ↔ e.Runs event := by
  cases event <;> cases mode : e.mode <;> simp [Runs, mirror, Event.mirror, Mode.mirror, mode]

theorem settle_mirror (e : Emulator) (i : Instruction) (effect : Effect) :
    e.mirror.settle i effect = (e.settle i effect).mirror := by
  obtain ⟨machine, screen, call, fault | outcome⟩ := effect
  · rfl
  · cases outcome <;> rfl

theorem cycle_mirror (e : Emulator) : e.mirror.cycle = e.cycle.mirror := settle_mirror ..

/-- A key wait is the same in both modes; what it resumes to is not. -/
theorem press_mirror (e : Emulator) (key : Byte) : e.mirror.press key = (e.press key).mirror := by
  unfold press
  cases mode : e.mode with
  | awaitingKey r =>
    have resumed := e.config.activeMode_mirror
    simp only [mirror, Mode.mirror, Reaction.mirror, mode, resumed]
  | _ => simp only [mirror, Mode.mirror, Reaction.mirror, mode, withKey]

theorem release_mirror (e : Emulator) (key : Byte) :
    e.mirror.release key = (e.release key).mirror := by
  unfold release
  by_cases held : e.machine.key = some key
  · simp only [mirror, Reaction.mirror, withKey, held, if_true]
  · simp only [mirror, Reaction.mirror, held, if_false]

theorem Reacts.mirror {r : Reaction} (h : e.Reacts event r) :
    e.mirror.Reacts event.mirror r.mirror := by
  cases h with
  | runs runs =>
    rw [← cycle_mirror]
    exact .runs (runs_mirror_iff.2 runs)
  | rests rests pulse =>
    have rests' : ¬ e.mirror.Runs event.mirror := fun runs => rests (runs_mirror_iff.1 runs)
    rcases pulse with rfl | rfl
    · exact .rests rests' (.inr rfl)
    · exact .rests rests' (.inl rfl)
  | quit => exact .quit
  | frame => exact .frame
  | press keypad =>
    rw [← press_mirror]
    exact .press keypad
  | release keypad =>
    rw [← release_mirror]
    exact .release keypad
  | ignored keypad of_key =>
    rcases of_key with rfl | rfl
    · exact .ignored keypad (.inl rfl)
    · exact .ignored keypad (.inr rfl)

theorem handle_mirror (e : Emulator) (event : Event) :
    e.mirror.handle event.mirror = (e.handle event).mirror := by
  by_cases stopped : e.mode = .stopped
  · rw [handle_of_stopped stopped, handle_of_stopped (mirror_stopped_iff.2 stopped)]
    rfl
  have live : e.mirror.mode ≠ .stopped := fun h => stopped (mirror_stopped_iff.1 h)
  exact (reacts_iff live).1 (handle_reacts stopped event).mirror

/-! ## Whole histories -/

theorem after_mirror (e : Emulator) (events : List Event) :
    e.mirror.after (events.map Event.mirror) = (e.after events).mirror := by
  induction events generalizing e with
  | nil => rfl
  | cons event rest ih =>
    have step := handle_mirror e event
    rw [List.map_cons, after_cons, after_cons, step]
    exact ih _

theorem reactions_mirror (e : Emulator) (events : List Event) :
    e.mirror.reactions (events.map Event.mirror) = (e.reactions events).map Reaction.mirror := by
  induction events generalizing e with
  | nil => rfl
  | cons event rest ih =>
    have step := handle_mirror e event
    rw [List.map_cons, reactions, reactions, List.map_cons, step]
    exact congrArg _ (ih _)

/-- What can be seen of two emulators is the same, and one waits for a tick where the other waits
for a step. -/
structure Agrees (clock debugger : Emulator) : Prop where
  machine : clock.machine = debugger.machine
  executed : clock.executed = debugger.executed
  frames : clock.frames = debugger.frames
  screen : clock.screen = debugger.screen
  running_iff : clock.mode = .running ↔ debugger.mode = .stepping
  stepping_iff : clock.mode = .stepping ↔ debugger.mode = .running
  awaitingKey_iff : ∀ r, clock.mode = .awaitingKey r ↔ debugger.mode = .awaitingKey r
  stopped_iff : clock.mode = .stopped ↔ debugger.mode = .stopped

theorem agrees_mirror (e : Emulator) : e.Agrees e.mirror where
  machine := rfl
  executed := rfl
  frames := rfl
  screen := rfl
  running_iff := by cases mode : e.mode <;> simp [mirror, Mode.mirror, mode]
  stepping_iff := by cases mode : e.mode <;> simp [mirror, Mode.mirror, mode]
  awaitingKey_iff := by cases mode : e.mode <;> simp [mirror, Mode.mirror, mode]
  stopped_iff := by cases mode : e.mode <;> simp [mirror, Mode.mirror, mode]

/-- A debugger that is sent a step for every tick does what the clock does, event by event. The
list of events is any list, so they agree after each of its prefixes. -/
theorem debugger_agrees (m : Machine) (screen : Bitmap) (config : Config) (random : RandomSource)
    (events : List Event) :
    let clock := { ofMachine m { config with debug := false } random with screen }
    let debugger := { ofMachine m { config with debug := true } random with screen }
    (clock.after events).Agrees (debugger.after (events.map Event.mirror)) ∧
      (debugger.reactions (events.map Event.mirror)).map (fun r => (r.calls, r.notes, r.fault)) =
        (clock.reactions events).map (fun r => (r.calls, r.notes, r.fault)) := by
  intro clock debugger
  have mirrored : debugger = clock.mirror := rfl
  rw [mirrored, after_mirror, reactions_mirror]
  refine ⟨agrees_mirror _, ?_⟩
  rw [List.map_map]
  rfl

end Emulator

end Chip8
