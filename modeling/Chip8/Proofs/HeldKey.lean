import Chip8.Proofs.WellFormed

/-!
# The key that is down

Instructions look at the key that is down and leave it alone. So what a list of events makes of it
is told by the key events among them (`Emulator.after_key`), whatever ran in between.
-/

namespace Chip8

namespace Machine

theorem step_key (m : Machine) (screen : Bitmap) (random : Byte) (i : Instruction) :
    (m.step screen random i).machine.key = m.key := by
  unfold step
  split
  · exact (execute_keeps ..).key
  · rfl

end Machine

namespace Emulator

variable {e : Emulator}

/-- The key that is down after an event, when `key` was down before it. -/
def keyAfter (key : Option Byte) (event : Event) : Option Byte :=
  match event with
  | .keyDown k => if onKeypad k then some k else key
  | .keyUp k => if onKeypad k ∧ key = some k then none else key
  | _ => key

theorem cycle_key (e : Emulator) : e.cycle.emulator.machine.key = e.machine.key := by
  rw [cycle_machine]
  exact Machine.step_key ..

theorem press_key (e : Emulator) (key : Byte) : (e.press key).emulator.machine.key = some key := by
  unfold press
  split <;> rfl

theorem release_key (e : Emulator) (key : Byte) :
    (e.release key).emulator.machine.key =
      if e.machine.key = some key then none else e.machine.key := by
  unfold release
  split <;> rfl

theorem handle_key (h : e.mode ≠ .stopped) (event : Event) :
    (e.handle event).emulator.machine.key = keyAfter e.machine.key event := by
  have reacts := handle_reacts h event
  generalize e.handle event = r at reacts ⊢
  cases reacts with
  | runs runs =>
    rw [cycle_key]
    rcases runs with ⟨rfl, -⟩ | ⟨rfl, -⟩ <;> rfl
  | rests _ pulse => rcases pulse with rfl | rfl <;> rfl
  | quit | frame => rfl
  | press keypad =>
    rw [press_key]
    exact (if_pos keypad).symm
  | release keypad =>
    rw [release_key, keyAfter]
    simp only [keypad, true_and]
  | ignored keypad of_key =>
    rcases of_key with rfl | rfl
    · exact (if_neg keypad).symm
    · exact (if_neg fun both => keypad both.1).symm

theorem after_key (h : e.mode ≠ .stopped) {events : List Event} (others : .quit ∉ events) :
    (e.after events).machine.key = events.foldl keyAfter e.machine.key := by
  induction events generalizing e with
  | nil => rfl
  | cons event rest ih =>
    rw [List.mem_cons, not_or] at others
    have live := handle_ne_stopped h (Ne.symm others.1)
    rw [after_cons, ih live others.2, handle_key h, List.foldl_cons]

end Emulator

end Chip8
