import Chip8.Proofs.MachineRuns

/-!
# The instructions that run

A `Turn` is an instruction that runs and the machine that it finds, whether it fails or not. The
turns of a history are the ticks and steps that find the emulator ready for them, and no other
events (`Emulator.turns_append`). In between the machine is left alone but for its key and, where a
key wait ends, a register (`Emulator.machine_of_turns_nil`).
-/

namespace Chip8

structure Turn where
  /-- The machine before the instruction. -/
  machine : Machine
  instruction : Instruction

def Turn.operation? (t : Turn) : Option Operation := t.instruction.operation?

namespace Device

def turns (d : Device) : List (Instruction × Byte) → List Turn
  | [] => []
  | order :: rest => ⟨d.machine, order.1⟩ :: (d.obey order).device.turns rest

theorem after_append {α : Type} (step : Device → α → Effect) (d : Device) (before rest : List α) :
    d.after step (before ++ rest) = (d.after step before).after step rest :=
  List.foldl_append

theorem turns_append (d : Device) (before rest : List (Instruction × Byte)) :
    d.turns (before ++ rest) = d.turns before ++ (d.after obey before).turns rest := by
  induction before generalizing d with
  | nil => rfl
  | cons order before ih => rw [List.cons_append, turns, turns, ih, List.cons_append]; rfl

theorem length_turns (d : Device) (orders : List (Instruction × Byte)) :
    (d.turns orders).length = orders.length := by
  induction orders generalizing d with
  | nil => rfl
  | cons order rest ih => rw [turns, List.length_cons, List.length_cons, ih]

end Device

namespace Emulator

variable {e : Emulator} {event : Event} {events : List Event}

/-- The turn that comes of an event. -/
def turn? (e : Emulator) (event : Event) : Option Turn :=
  if e.Runs event then some ⟨e.machine, e.machine.fetch⟩ else none

def turns (e : Emulator) : List Event → List Turn
  | [] => []
  | event :: rest => (e.turn? event).toList ++ (e.handle event).emulator.turns rest

theorem turns_append (e : Emulator) (before rest : List Event) :
    e.turns (before ++ rest) = e.turns before ++ (e.after before).turns rest := by
  induction before generalizing e with
  | nil => rfl
  | cons event before ih =>
    rw [List.cons_append, turns, turns, ih, after_cons, List.append_assoc]

theorem turn?_of_runs (runs : e.Runs event) :
    e.turn? event = some ⟨e.machine, e.machine.fetch⟩ :=
  if_pos runs

theorem turn?_of_not_runs (rests : ¬ e.Runs event) : e.turn? event = none := if_neg rests

theorem length_turn? (e : Emulator) (event : Event) :
    (e.turn? event).toList.length = if e.Runs event then 1 else 0 := by
  unfold turn?
  split <;> rfl

theorem turns_concat (e : Emulator) (events : List Event) (event : Event) :
    e.turns (events ++ [event]) = e.turns events ++ ((e.after events).turn? event).toList := by
  rw [turns_append, turns, turns, List.append_nil]

theorem machine_of_runs (runs : e.Runs event) :
    (e.handle event).emulator.machine =
      (e.machine.step e.screen e.random.peek e.machine.fetch).machine := by
  rw [handle_of_runs runs, cycle_machine]

/-- An event for which nothing runs changes the key, and a register if the key was awaited. -/
theorem machine_of_not_runs (rests : ¬ e.Runs event) :
    ∃ key v, (e.handle event).emulator.machine = { e.machine with key, v } := by
  by_cases stopped : e.mode = .stopped
  · rw [handle_of_stopped stopped]
    exact ⟨_, _, rfl⟩
  have reacts := handle_reacts stopped event
  generalize e.handle event = reaction at reacts ⊢
  cases reacts with
  | runs runs => exact absurd runs rests
  | press =>
    unfold press
    split <;> exact ⟨_, _, rfl⟩
  | release =>
    unfold release
    split <;> exact ⟨_, _, rfl⟩
  | rests | quit | frame | ignored => exact ⟨_, _, rfl⟩

theorem machine_of_turns_nil (rests : e.turns events = []) :
    ∃ key v, (e.after events).machine = { e.machine with key, v } := by
  induction events generalizing e with
  | nil => exact ⟨_, _, rfl⟩
  | cons event rest ih =>
    rw [turns, List.append_eq_nil_iff, turn?] at rests
    obtain ⟨first, others⟩ := rests
    have idle : ¬ e.Runs event := by
      intro runs
      simp [runs] at first
    obtain ⟨key, v, step⟩ := machine_of_not_runs idle
    obtain ⟨key', v', run⟩ := ih others
    exact ⟨key', v', by rw [after_cons, run, step]⟩

end Emulator

end Chip8
