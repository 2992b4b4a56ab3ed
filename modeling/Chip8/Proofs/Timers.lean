import Chip8.Proofs.Decoding
import Chip8.Proofs.Turns

/-!
# Timers

Both timers drop by one with every instruction, down to zero, and an instruction that loads one
drops it at once. So what a timer reads is told by the last load and the number of turns since
(`Timer.ClosedForm`). One more turn keeps this form (`Timer.ClosedForm.turn`), and an event for
which nothing runs leaves the timers alone, so the form holds after any run of a machine and after
any history of an emulator (`Timer.closedForm_of_runs`).
-/

namespace Chip8

inductive Timer where
  | delay
  | sound
  deriving DecidableEq, Repr

namespace Timer

def read (t : Timer) (m : Machine) : Nat :=
  match t with
  | delay => m.delay.toNat
  | sound => m.sound.toNat

/-- The operation that loads the timer from a register. -/
def load : Timer → Reg → Operation
  | delay => .setDelay
  | sound => .setSound

def Unloaded (t : Timer) (turns : List Turn) : Prop :=
  ∀ turn ∈ turns, ∀ x, ¬ turn.instruction.word.StandsFor (t.load x)

/-- What a timer reads after some turns if it read `start` before them: the register that the last
load found, less one for that turn and for each turn behind it; without a load `start`, less one for
each turn. It stays at zero. -/
def ClosedForm (t : Timer) (start : Nat) (turns : List Turn) (value : Nat) : Prop :=
  (∃ before turn rest x, turns = before ++ turn :: rest ∧
      turn.instruction.word.StandsFor (t.load x) ∧ t.Unloaded rest ∧
      value = (turn.machine.reg x).toNat - (rest.length + 1)) ∨
    t.Unloaded turns ∧ value = start - turns.length

variable {t : Timer} {m : Machine} {i : Instruction} {x : Reg}

/-! ## One instruction -/

theorem read_congr {m' : Machine} (delay : m'.delay = m.delay) (sound : m'.sound = m.sound) :
    t.read m' = t.read m := by
  cases t with
  | delay => exact congrArg BitVec.toNat delay
  | sound => exact congrArg BitVec.toNat sound

theorem read_tickTimers (t : Timer) (m : Machine) : t.read m.tickTimers = t.read m - 1 := by
  have drop : ∀ b : Byte, (if b = 0 then 0 else b - 1).toNat = b.toNat - 1 := by
    intro b
    split
    · next zero => simp [zero]
    · next nonzero =>
      have positive : b.toNat ≠ 0 := fun zero => nonzero (BitVec.eq_of_toNat_eq zero)
      have := b.isLt
      simp only [BitVec.toNat_sub, BitVec.reduceToNat]
      omega
  cases t with
  | delay => exact drop m.delay
  | sound => exact drop m.sound

theorem read_execute_load (t : Timer) (m : Machine) (screen : Bitmap) (random : Byte) (x : Reg) :
    t.read (m.execute screen random (t.load x)).machine = (m.reg x).toNat := by
  cases t <;> rfl

theorem read_execute_other (m : Machine) (screen : Bitmap) (random : Byte) {op : Operation}
    (other : ∀ x, op ≠ t.load x) : t.read (m.execute screen random op).machine = t.read m := by
  have kept := m.execute_keeps screen random op
  cases t with
  | delay => exact congrArg BitVec.toNat (kept.delay other)
  | sound => exact congrArg BitVec.toNat (kept.sound other)

/-- The turn that loads a timer drops it at once. -/
theorem read_step_load (m : Machine) (screen : Bitmap) (random : Byte)
    (loads : i.word.StandsFor (t.load x)) :
    t.read (m.step screen random i).machine = (m.reg x).toNat - 1 := by
  have decodes : i.operation? = some (t.load x) := Operation.ofWord?_of_standsFor loads
  simp only [Machine.step, decodes]
  rw [read_tickTimers, read_execute_load]
  rfl

theorem read_step_other (m : Machine) (screen : Bitmap) (random : Byte)
    (other : ∀ x, ¬ i.word.StandsFor (t.load x)) :
    t.read (m.step screen random i).machine = t.read m - 1 := by
  have advanced : t.read { m with pc := m.pc + 2 } = t.read m := read_congr rfl rfl
  simp only [Machine.step]
  rw [read_tickTimers, ← advanced]
  cases operation : i.operation? with
  | none => rfl
  | some op =>
    have notLoad : ∀ x, op ≠ t.load x := by
      rintro x rfl
      exact other x (Operation.standsFor_of_ofWord? operation)
    exact congrArg (· - 1) (read_execute_other _ screen random notLoad)

/-- `Fx07` stores what the delay timer reads before the turn. -/
theorem reg_step_getDelay (m : Machine) (screen : Bitmap) (random : Byte)
    (gets : i.word.StandsFor (.getDelay x)) :
    ((m.step screen random i).machine.reg x).toNat = delay.read m := by
  have decodes : i.operation? = some (.getDelay x) := Operation.ofWord?_of_standsFor gets
  simp [Machine.step, decodes, Machine.execute, Machine.reg, Machine.setReg, Machine.tickTimers,
    read]

/-! ## Runs and histories -/

namespace ClosedForm

variable {start : Nat} {turns : List Turn}

theorem nil (t : Timer) (start : Nat) : t.ClosedForm start [] start := .inr ⟨nofun, rfl⟩

theorem turn (h : t.ClosedForm start turns (t.read m)) (screen : Bitmap) (random : Byte)
    (i : Instruction) :
    t.ClosedForm start (turns ++ [⟨m, i⟩]) (t.read (m.step screen random i).machine) := by
  by_cases loads : ∃ x, i.word.StandsFor (t.load x)
  · obtain ⟨x, loads⟩ := loads
    exact .inl ⟨turns, ⟨m, i⟩, [], x, rfl, loads, nofun, read_step_load m screen random loads⟩
  · rw [not_exists] at loads
    have unloaded : ∀ {rest : List Turn}, t.Unloaded rest → t.Unloaded (rest ++ [⟨m, i⟩]) := by
      intro rest none turn mem
      obtain mem | mem := List.mem_append.1 mem
      · exact none turn mem
      · rw [List.mem_singleton.1 mem]
        exact loads
    rw [read_step_other m screen random loads]
    obtain ⟨before, last, rest, x, rfl, load, none, value⟩ | ⟨none, value⟩ := h
    · refine .inl ⟨before, last, rest ++ [⟨m, i⟩], x, by simp, load, unloaded none, ?_⟩
      rw [value, List.length_append, List.length_singleton]
      omega
    · refine .inr ⟨unloaded none, ?_⟩
      rw [value, List.length_append, List.length_singleton]
      omega

theorem obey {d : Device} (h : t.ClosedForm start turns (t.read d.machine))
    (orders : List (Instruction × Byte)) :
    t.ClosedForm start (turns ++ d.turns orders) (t.read (d.after Device.obey orders).machine) := by
  induction orders generalizing d turns with
  | nil => rwa [Device.turns, List.append_nil]
  | cons order rest ih =>
    rw [Device.turns, List.append_cons]
    exact ih (h.turn d.screen order.2 order.1)

theorem handle {e : Emulator} (h : t.ClosedForm start turns (t.read e.machine)) (event : Event) :
    t.ClosedForm start (turns ++ (e.turn? event).toList)
      (t.read (e.handle event).emulator.machine) := by
  by_cases runs : e.Runs event
  · rw [Emulator.turn?_of_runs runs, Emulator.machine_of_runs runs]
    exact h.turn e.screen e.random.peek e.machine.fetch
  · obtain ⟨key, v, idle⟩ := Emulator.machine_of_not_runs runs
    have same : t.read { e.machine with key, v } = t.read e.machine := read_congr rfl rfl
    rw [Emulator.turn?_of_not_runs runs, idle, same]
    simpa using h

theorem after {e : Emulator} (h : t.ClosedForm start turns (t.read e.machine))
    (events : List Event) :
    t.ClosedForm start (turns ++ e.turns events) (t.read (e.after events).machine) := by
  induction events generalizing e turns with
  | nil => rwa [Emulator.turns, List.append_nil]
  | cons event rest ih =>
    rw [Emulator.turns, ← List.append_assoc]
    exact ih (h.handle event)

end ClosedForm

/-- The timers after any instructions of a machine, failing and unrecognized ones included, and
after any events of an emulator, of which only the ticks and steps that run an instruction count.
What `Fx07` stores next has the same form. -/
theorem closedForm_of_runs (t : Timer) (d : Device) (orders : List (Instruction × Byte))
    (e : Emulator) (events : List Event) :
    let ran := d.after Device.obey orders
    let now := e.after events
    t.ClosedForm (t.read d.machine) (d.turns orders) (t.read ran.machine) ∧
      (d.turns orders).length = orders.length ∧
      (∀ order x, order.1.word.StandsFor (.getDelay x) →
        delay.ClosedForm (delay.read d.machine) (d.turns orders)
          ((ran.obey order).machine.reg x).toNat) ∧
      t.ClosedForm (t.read e.machine) (e.turns events) (t.read now.machine) ∧
      (∀ event, (e.turns (events ++ [event])).length = (e.turns events).length +
        if event = .tick ∧ now.mode = .running ∨ event = .step ∧ now.mode = .stepping then 1
        else 0) ∧
      ∀ event x, now.Runs event → now.machine.fetch.word.StandsFor (.getDelay x) →
        delay.ClosedForm (delay.read e.machine) (e.turns events)
          ((now.handle event).emulator.machine.reg x).toNat := by
  intro ran now
  have ofDevice : ∀ t : Timer,
      t.ClosedForm (t.read d.machine) (d.turns orders) (t.read ran.machine) :=
    fun t => (ClosedForm.nil t _).obey orders
  have ofEmulator : ∀ t : Timer,
      t.ClosedForm (t.read e.machine) (e.turns events) (t.read now.machine) :=
    fun t => (ClosedForm.nil t _).after events
  refine ⟨ofDevice t, d.length_turns orders, ?_, ofEmulator t, ?_, ?_⟩
  · intro order x gets
    rw [Device.obey, reg_step_getDelay _ _ _ gets]
    exact ofDevice delay
  · intro event
    rw [Emulator.turns_concat, List.length_append, Emulator.length_turn?]
    rfl
  · intro event x runs gets
    rw [Emulator.machine_of_runs runs, reg_step_getDelay _ _ _ gets]
    exact ofEmulator delay

end Timer

end Chip8
