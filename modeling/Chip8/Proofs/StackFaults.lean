import Chip8.Proofs.CallStack
import Chip8.Proofs.Checked
import Chip8.Proofs.Decoding
import Chip8.Proofs.Timers

/-!
# Faults of the call stack

An instruction fails if it returns without a return address or calls with all slots in use, and for
no other reason (`Machine.step_error_iff`). By then the program counter has moved on, and the timers
drop afterwards as they always do; nothing else has changed and the screen was not asked for
anything (`Machine.step_of_misuses`). An emulator that meets such an instruction reports the fault
and is left ready for more events (`Machine.fault_leaves_rest`).
-/

namespace Chip8

namespace Machine

variable {m : Machine} {fault : StackFault} {i : Instruction}

/-- The word asks of the call stack what it cannot give. The fault names the address of the
instruction. -/
def Misuses (m : Machine) (w : Word) (fault : StackFault) : Prop :=
  w = 0x00EE ∧ m.depth = 0 ∧ fault = .underflow m.pc ∨
    w.family = 0x2 ∧ m.depth = 16 ∧ fault = .overflow m.pc

theorem misuses_iff : m.Misuses i.word fault ↔
    i.operation? = some .ret ∧ m.depth = 0 ∧ fault = .underflow m.pc ∨
      ∃ addr, i.operation? = some (.call addr) ∧ m.depth = 16 ∧ fault = .overflow m.pc := by
  have returns : i.operation? = some .ret ↔ i.word = 0x00EE := Operation.ofWord?_eq_some_iff
  have calls : ∀ addr, i.operation? = some (.call addr) ↔
      i.word.family = 0x2 ∧ addr = i.word.addr := fun _ => Operation.ofWord?_eq_some_iff
  simp [Misuses, returns, calls]

theorem step_of_misuses (bad : m.Misuses i.word fault) (screen : Bitmap) (random : Byte) :
    m.step screen random i =
      { machine := { m with pc := m.pc + 2 }.tickTimers, screen, result := .error fault } := by
  -- The program counter has left the instruction that the fault names.
  have pc : m.pc + 2 - 2 = m.pc := BitVec.add_sub_cancel ..
  obtain ⟨returns, empty, rfl⟩ | ⟨addr, calls, full, rfl⟩ := misuses_iff.1 bad
  · simp only [step, returns, execute, pop?, empty, pc]
  · simp only [step, calls, execute, push?, full, Nat.lt_irrefl, dif_neg, not_false_eq_true, pc]

theorem step_error_iff (h : m.InBounds) (screen : Bitmap) (random : Byte) :
    (m.step screen random i).result = .error fault ↔ m.Misuses i.word fault := by
  constructor
  · intro fails
    by_cases calls : ∃ addr, i.operation? = some (.call addr)
    · obtain ⟨addr, calls⟩ := calls
      obtain ⟨full, result, -⟩ | ⟨-, result, -⟩ := step_call h screen random calls
      · rw [length_returns h] at full
        rw [result, Except.error.injEq] at fails
        exact misuses_iff.2 (.inr ⟨addr, calls, full, fails.symm⟩)
      · simp [result] at fails
    by_cases returning : i.operation? = some .ret
    · obtain ⟨empty, result, -⟩ | ⟨result, -⟩ := step_ret h screen random returning
      · have none : m.depth = 0 := by rw [← length_returns h, empty, List.length_nil]
        rw [result, Except.error.injEq] at fails
        exact misuses_iff.2 (.inl ⟨returning, none, fails.symm⟩)
      · simp [result] at fails
    · rw [not_exists] at calls
      obtain ⟨⟨outcome, result⟩, -⟩ := step_other m screen random calls returning
      simp [result] at fails
  · intro bad
    rw [step_of_misuses bad]

end Machine

namespace Emulator

variable {e : Emulator} {event : Event} {fault : StackFault}

theorem fault_of_not_runs (rests : ¬ e.Runs event) : (e.handle event).fault = none := by
  by_cases stopped : e.mode = .stopped
  · rw [handle_of_stopped stopped]
  have reacts := handle_reacts stopped event
  generalize e.handle event = reaction at reacts ⊢
  cases reacts with
  | runs runs => exact absurd runs rests
  | press =>
    unfold press
    split <;> rfl
  | rests | quit | frame | release | ignored => rfl

theorem settle_fault_iff (e : Emulator) (i : Instruction) (effect : Effect) :
    (e.settle i effect).fault = some fault ↔ effect.result = .error fault := by
  obtain ⟨machine, screen, call, other | outcome⟩ := effect
  · simp [settle]
  · cases outcome <;> simp [settle]

theorem usesRandom_of_misuses {m : Machine} {i : Instruction} (bad : m.Misuses i.word fault) :
    i.usesRandom = false := by
  obtain ⟨returns, -⟩ | ⟨addr, calls, -⟩ := Machine.misuses_iff.1 bad
  · simp [Instruction.usesRandom, returns]
  · simp [Instruction.usesRandom, calls]

theorem handle_of_misuses (runs : e.Runs event)
    (bad : e.machine.Misuses e.machine.fetch.word fault) :
    e.handle event = {
      emulator := { e with machine := { e.machine with pc := e.machine.pc + 2 }.tickTimers }
      notes := [e.machine.note e.machine.fetch]
      fault := some fault } := by
  rw [handle_of_runs runs, cycle, Machine.step_of_misuses bad]
  simp [settle, usesRandom_of_misuses bad]

theorem fault_handle_iff (h : e.machine.InBounds) : (e.handle event).fault = some fault ↔
    e.Runs event ∧ e.machine.Misuses e.machine.fetch.word fault := by
  by_cases runs : e.Runs event
  · rw [handle_of_runs runs, cycle, settle_fault_iff, Machine.step_error_iff h]
    exact (and_iff_right runs).symm
  · simp [fault_of_not_runs runs, runs]

end Emulator

namespace Machine

/-- An instruction fails exactly if it misuses the call stack, with the address it stands at. Then
the program counter has moved on and the timers have dropped, and that is all. An emulator that runs
such an instruction changes in nothing else either: the same events as before make it run the
instruction behind, and whatever comes later is reacted to as ever. -/
theorem fault_leaves_rest (m : Machine) (inside : m.InBounds) (screen : Bitmap) (random : Byte)
    (i : Instruction) :
    let effect := m.step screen random i
    m.stepChecked screen random i = .ok effect ∧
      (∀ fault, effect.result = .error fault ↔ m.Misuses i.word fault) ∧
      (∀ fault, effect.result = .error fault →
        let after := effect.machine
        after = { m with pc := after.pc, delay := after.delay, sound := after.sound } ∧
          after.pc.toNat = (m.pc.toNat + 2) % 65536 ∧
          (∀ t : Timer, t.read after = t.read m - 1) ∧
          effect.call = none ∧ effect.screen = screen) ∧
      ∀ (e : Emulator) event fault, e.machine = m →
        let failed := e.handle event
        (failed.fault = some fault ↔ e.Runs event ∧ m.Misuses m.fetch.word fault) ∧
          (failed.fault = some fault →
            failed.emulator = { e with machine := { m with pc := m.pc + 2 }.tickTimers } ∧
              failed.calls = [] ∧
              (∀ next, failed.emulator.Runs next ↔ e.Runs next) ∧
              failed.emulator.machine.fetch = .fetch m.memory (m.pc + 2) ∧
              ∀ later next, .quit ∉ later →
                let now := failed.emulator.after later
                now.Reacts next (now.handle next)) := by
  intro effect
  have fails : ∀ fault, effect.result = .error fault ↔ m.Misuses i.word fault :=
    fun fault => step_error_iff inside screen random
  refine ⟨stepChecked_eq inside screen random i, fails, ?_, ?_⟩
  · intro fault failed
    have left : effect = _ := step_of_misuses ((fails fault).1 failed) screen random
    rw [left]
    refine ⟨rfl, BitVec.toNat_add .., ?_, rfl, rfl⟩
    intro t
    exact t.read_tickTimers _
  · rintro e event fault rfl failed
    have faulty : failed.fault = some fault ↔ _ := Emulator.fault_handle_iff inside
    refine ⟨faulty, ?_⟩
    intro fails
    obtain ⟨runs, bad⟩ := faulty.1 fails
    have left : failed = _ := Emulator.handle_of_misuses runs bad
    have live : failed.emulator.mode ≠ .stopped := by
      rw [left]
      intro stopped
      simp [Emulator.Runs, show e.mode = .stopped from stopped] at runs
    refine ⟨by rw [left], by rw [left], fun _ => by rw [left]; rfl, by rw [left]; rfl, ?_⟩
    intro later next others
    exact Emulator.handle_reacts (Emulator.after_ne_stopped live others) next

/-- A call from the last address, where the program counter wraps as it moves on. -/
theorem fault_leaves_rest_of_wrap :
    let m := { ofFont .standard with
      memory := (Memory.blank.write 0xFFE 0x2A).write 0xFFF 0xBC
      pc := 0xFFFE
      depth := 16 }
    let e := Emulator.ofMachine m {} (.ofSeed 0)
    let failed := e.handle .tick
    m.InBounds ∧ m.Misuses m.fetch.word (.overflow 0xFFFE) ∧
      (m.step .blank 0 m.fetch).result = .error (.overflow 0xFFFE) ∧
      failed.fault = some (.overflow 0xFFFE) ∧ failed.emulator.machine.pc = 0x0000 ∧
      failed.emulator.executed = 0 ∧ failed.emulator.Runs .tick := by
  intro m e failed
  have inside : m.InBounds := ⟨Nat.zero_le _, Nat.le_refl _⟩
  have word : m.fetch.word = 0x2ABC := by
    show Memory.word _ _ = _
    rw [Memory.word, Memory.read_write, Memory.read_write, Memory.read_write, Memory.read_write]
    decide
  have bad : m.Misuses m.fetch.word (.overflow 0xFFFE) := by
    rw [word]
    exact .inr ⟨rfl, rfl, rfl⟩
  obtain ⟨-, fails, -, handled⟩ := fault_leaves_rest m inside .blank 0 m.fetch
  obtain ⟨faulty, left⟩ := handled e .tick (.overflow 0xFFFE) rfl
  have runs : e.Runs .tick := .inl ⟨rfl, rfl⟩
  have fault := faulty.2 ⟨runs, bad⟩
  obtain ⟨emulator, -, ready, -⟩ := left fault
  refine ⟨inside, bad, (fails _).2 bad, fault, ?_, ?_, (ready .tick).2 runs⟩
  · rw [emulator]
    show (0xFFFE : Word) + 2 = 0
    decide
  · rw [emulator]
    rfl

end Machine

end Chip8
