import Chip8.Proofs.MachineRuns

/-!
# The program counter modulo memory

The program counter and the return addresses are full words, though memory has but 4096 cells. Words
that are equal modulo 4096 name the same cell (`Word.Congruent`), and the machine never tells them
apart: machines that differ in such words only run alike (`Machine.Congruent.step`), however long
(`Device.congruent_runs`). So a counter of twelve bits would do.
-/

namespace Chip8

/-- The words name the same memory cell. -/
def Word.Congruent (a b : Word) : Prop := a.toNat % 4096 = b.toNat % 4096

instance (a b : Word) : Decidable (Word.Congruent a b) := inferInstanceAs (Decidable (_ = _))

namespace Word.Congruent

variable {a b : Word}

theorem refl (a : Word) : Congruent a a := rfl

theorem add_two (h : Congruent a b) : Congruent (a + 2) (b + 2) := by
  unfold Congruent at *
  simp only [BitVec.toNat_add, BitVec.reduceToNat]
  omega

theorem sub_two (h : Congruent a b) : Congruent (a - 2) (b - 2) := by
  unfold Congruent at *
  simp only [BitVec.toNat_sub, BitVec.reduceToNat]
  omega

end Word.Congruent

/-- The same word, read from the same cell. -/
structure Instruction.Congruent (i i' : Instruction) : Prop where
  word : i.word = i'.word
  address : Word.Congruent i.address i'.address

/-- Machines that differ in addresses of instructions only, and there only by what memory wraps. -/
structure Machine.Congruent (m m' : Machine) : Prop where
  pc : Word.Congruent m.pc m'.pc
  stack : ∀ d (h : d < 16), Word.Congruent m.stack[d] m'.stack[d]
  others : m' = { m with pc := m'.pc, stack := m'.stack }

structure Device.Congruent (d d' : Device) : Prop where
  machine : d.machine.Congruent d'.machine
  screen : d.screen = d'.screen

namespace Effect

/-- The same outcome, or the same kind of fault at congruent addresses. -/
inductive CongruentResult : Except StackFault Outcome → Except StackFault Outcome → Prop
  | ok (outcome : Outcome) : CongruentResult (.ok outcome) (.ok outcome)
  | overflow {pc pc' : Word} : Word.Congruent pc pc' →
      CongruentResult (.error (.overflow pc)) (.error (.overflow pc'))
  | underflow {pc pc' : Word} : Word.Congruent pc pc' →
      CongruentResult (.error (.underflow pc)) (.error (.underflow pc'))

/-- The same call, but for the address in the message about an unrecognized word. -/
inductive CongruentCall : Option ScreenCall → Option ScreenCall → Prop
  | same (call : Option ScreenCall) : CongruentCall call call
  | unrecognized {i i' : Instruction} : i.Congruent i' →
      CongruentCall (some (.message i.unrecognizedText)) (some (.message i'.unrecognizedText))

/-- Effects that differ in addresses of instructions only. -/
structure Congruent (effect effect' : Effect) : Prop where
  device : effect.device.Congruent effect'.device
  call : CongruentCall effect.call effect'.call
  result : CongruentResult effect.result effect'.result

end Effect

namespace Machine.Congruent

variable {m m' : Machine}

/-- The second machine is the first one with other addresses. -/
theorem exists_eq (h : m.Congruent m') : ∃ pc stack,
    Word.Congruent m.pc pc ∧ (∀ d (h : d < 16), Word.Congruent m.stack[d] stack[d]) ∧
      m' = { m with pc, stack } :=
  ⟨m'.pc, m'.stack, h.pc, h.stack, h.others⟩

theorem inBounds (h : m.Congruent m') (inside : m.InBounds) : m'.InBounds := by
  obtain ⟨pc', stack', -, -, rfl⟩ := h.exists_eq
  exact inside.congr rfl rfl

theorem fetch (h : m.Congruent m') : m.fetch.Congruent m'.fetch := by
  obtain ⟨pc', stack', pc, stack, rfl⟩ := h.exists_eq
  exact ⟨m.memory.word_congr pc, pc⟩

theorem withPc (h : m.Congruent m') {pc pc' : Word} (congruent : Word.Congruent pc pc') :
    { m with pc }.Congruent { m' with pc := pc' } := by
  obtain ⟨_, stack', -, stack, rfl⟩ := h.exists_eq
  exact ⟨congruent, stack, rfl⟩

theorem withRegisters (h : m.Congruent m') (v : Vector Byte 16) :
    { m with v }.Congruent { m' with v } := by
  obtain ⟨pc', stack', pc, stack, rfl⟩ := h.exists_eq
  exact ⟨pc, stack, rfl⟩

theorem skipIf (h : m.Congruent m') (condition : Bool) :
    (m.skipIf condition).Congruent (m'.skipIf condition) := by
  unfold Machine.skipIf
  split
  · exact h.withPc h.pc.add_two
  · exact h

theorem tickTimers (h : m.Congruent m') : m.tickTimers.Congruent m'.tickTimers := by
  obtain ⟨pc', stack', pc, stack, rfl⟩ := h.exists_eq
  exact ⟨pc, stack, rfl⟩

theorem push? (h : m.Congruent m') {a a' : Word} (congruent : Word.Congruent a a') :
    m.push? a = none ∧ m'.push? a' = none ∨
      ∃ pushed pushed', m.push? a = some pushed ∧ m'.push? a' = some pushed' ∧
        pushed.Congruent pushed' := by
  obtain ⟨pc', stack', pc, stack, rfl⟩ := h.exists_eq
  by_cases room : m.depth < 16
  · refine .inr ⟨_, _, dif_pos room, dif_pos room, pc, ?_, rfl⟩
    intro d slot
    simp only [Vector.getElem_set]
    split
    · exact congruent
    · exact stack d slot
  · exact .inl ⟨dif_neg room, dif_neg room⟩

theorem pop? (h : m.Congruent m') :
    m.pop? = none ∧ m'.pop? = none ∨
      ∃ a a' popped popped', m.pop? = some (a, popped) ∧ m'.pop? = some (a', popped') ∧
        Word.Congruent a a' ∧ popped.Congruent popped' := by
  obtain ⟨pc', stack', pc, stack, rfl⟩ := h.exists_eq
  unfold Machine.pop?
  cases m.depth with
  | zero => exact .inl ⟨rfl, rfl⟩
  | succ d =>
    refine .inr ⟨_, _, _, _, rfl, rfl, ?_, pc, stack, rfl⟩
    by_cases slot : d < 16
    · simpa [slot] using stack d slot
    · simp [slot, Word.Congruent.refl]

/-- Only the operations that use the program counter or the stack have to be looked at. -/
theorem execute (h : m.Congruent m') (screen : Bitmap) (random : Byte) (op : Operation) :
    (m.execute screen random op).Congruent (m'.execute screen random op) := by
  cases op with
  | ret =>
    obtain ⟨none, none'⟩ | ⟨a, a', popped, popped', some, some', address, rest⟩ := h.pop?
    · simp only [Machine.execute, none, none']
      exact ⟨⟨h, rfl⟩, .same _, .underflow h.pc.sub_two⟩
    · simp only [Machine.execute, some, some']
      exact ⟨⟨rest.withPc address, rfl⟩, .same _, .ok _⟩
  | call addr =>
    obtain ⟨none, none'⟩ | ⟨pushed, pushed', some, some', rest⟩ := h.push? h.pc
    · simp only [Machine.execute, none, none']
      exact ⟨⟨h, rfl⟩, .same _, .overflow h.pc.sub_two⟩
    · simp only [Machine.execute, some, some']
      exact ⟨⟨rest.withPc (.refl _), rfl⟩, .same _, .ok _⟩
  | jump | jumpOffset =>
    obtain ⟨pc', stack', pc, stack, rfl⟩ := h.exists_eq
    exact ⟨⟨⟨.refl _, stack, rfl⟩, rfl⟩, .same _, .ok _⟩
  | skipEqByte | skipNeByte | skipEqReg | skipNeReg | skipKey | skipNoKey =>
    have skips := h.skipIf
    obtain ⟨pc', stack', pc, stack, rfl⟩ := h.exists_eq
    exact ⟨⟨skips _, rfl⟩, .same _, .ok _⟩
  | load x =>
    -- Kept apart from the rest, or unification unfolds the registers that are loaded.
    have loads := h.withRegisters
    obtain ⟨pc', stack', pc, stack, rfl⟩ := h.exists_eq
    exact ⟨⟨loads _, rfl⟩, .same _, .ok _⟩
  | _ =>
    obtain ⟨pc', stack', pc, stack, rfl⟩ := h.exists_eq
    exact ⟨⟨⟨pc, stack, rfl⟩, rfl⟩, .same _, .ok _⟩

theorem step (h : m.Congruent m') (screen : Bitmap) (random : Byte) {i i' : Instruction}
    (same : i.Congruent i') : (m.step screen random i).Congruent (m'.step screen random i') := by
  have advanced := h.withPc h.pc.add_two
  have operation : i'.operation? = i.operation? := by
    rw [Instruction.operation?, Instruction.operation?, same.word]
  unfold Machine.step
  rw [operation]
  cases i.operation? with
  | none => exact ⟨⟨advanced.tickTimers, rfl⟩, .unrecognized same, .ok _⟩
  | some op =>
    obtain ⟨⟨machine, screen⟩, call, result⟩ := advanced.execute screen random op
    exact ⟨⟨machine.tickTimers, screen⟩, call, result⟩

end Machine.Congruent

/-- The machine with its program counter inside memory. -/
def Machine.wrapped (m : Machine) : Machine :=
  { m with pc := BitVec.ofNat 16 (m.pc.toNat % 4096) }

theorem Machine.Congruent.wrapped {m m' : Machine} (h : m.Congruent m') :
    m.Congruent m'.wrapped where
  pc := by
    have pc : Word.Congruent m.pc m'.pc := h.pc
    unfold Word.Congruent at *
    rw [Machine.wrapped, BitVec.toNat_ofNat]
    omega
  stack := h.stack
  others := by
    obtain ⟨pc', stack', pc, stack, rfl⟩ := h.exists_eq
    rfl

namespace Device

variable {d d' : Device}

/-- Runs the instruction at the program counter, which is brought inside memory before. -/
def wrappedCycle (d : Device) (random : Byte) : Effect :=
  { d with machine := d.machine.wrapped }.cycle random

theorem Congruent.cycle (h : d.Congruent d') (random : Byte) :
    (d.cycle random).Congruent (d'.cycle random) := by
  unfold Device.cycle obey
  rw [h.screen]
  exact h.machine.step d'.screen random h.machine.fetch

theorem Congruent.wrappedCycle (h : d.Congruent d') (random : Byte) :
    (d.cycle random).Congruent (d'.wrappedCycle random) := by
  have wrapped : d.Congruent { d' with machine := d'.machine.wrapped } :=
    ⟨h.machine.wrapped, h.screen⟩
  exact wrapped.cycle random

/-- However many instructions have run, congruent devices are congruent, and the next instruction
comes to the same, or fails in the same way, on both. Nor does it matter whether the program counter
is brought inside memory before each instruction. A machine in bounds stays there in all of these
runs. -/
theorem congruent_runs (h : d.Congruent d') (before : List Byte) (random : Byte) :
    let now := d.after cycle before
    let now' := d'.after cycle before
    let wrapped := d'.after wrappedCycle before
    now.Congruent now' ∧ (now.cycle random).Congruent (now'.cycle random) ∧
      now.Congruent wrapped ∧ (now.cycle random).Congruent (wrapped.wrappedCycle random) ∧
      (d.machine.InBounds →
        now.machine.InBounds ∧ now'.machine.InBounds ∧ wrapped.machine.InBounds) := by
  intro now now' wrapped
  have same : now.Congruent now' :=
    after_related (R := Congruent) (fun _ _ random h => (h.cycle random).device) h before
  have same' : now.Congruent wrapped :=
    after_related (R := Congruent) (fun _ _ random h => (h.wrappedCycle random).device) h before
  refine ⟨same, same.cycle random, same', same'.wrappedCycle random, ?_⟩
  intro start
  have inside : now.machine.InBounds :=
    after_induction (P := fun d => d.machine.InBounds) (fun _ _ h => inBounds_obey h _) start before
  exact ⟨inside, same.machine.inBounds inside, same'.machine.inBounds inside⟩

/-- A counter past the top of memory and one inside it. -/
theorem congruent_runs_past_top :
    let m := Machine.ofFont .standard
    let d : Device := ⟨m, .blank⟩
    let d' : Device := ⟨{ m with pc := 0xF200, stack := .replicate 16 0x3000 }, .blank⟩
    d.Congruent d' ∧ d.machine.pc ≠ d'.machine.pc ∧
      (d.after cycle [0, 0]).Congruent (d'.after cycle [0, 0]) ∧
      ((d.after cycle [0, 0]).cycle 0).Congruent
        ((d'.after wrappedCycle [0, 0]).wrappedCycle 0) ∧
      (d'.after cycle [0, 0]).machine.InBounds := by
  intro m d d'
  have slots : ∀ k (h : k < 16), Word.Congruent m.stack[k] d'.machine.stack[k] := by
    intro k h
    simp [m, d', Machine.ofFont, Word.Congruent]
  have congruent : d.Congruent d' := ⟨⟨by decide, slots, rfl⟩, rfl⟩
  obtain ⟨same, -, -, wrapped, bounds⟩ := congruent_runs congruent [0, 0] 0
  obtain ⟨-, inside, -⟩ := bounds (.ofFont .standard)
  exact ⟨congruent, by decide, same, wrapped, inside⟩

end Device

end Chip8
