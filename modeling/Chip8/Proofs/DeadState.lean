import Chip8.Proofs.MachineRuns

/-!
# Dead state

Three parts of a machine are kept though no instruction reads them: the sound timer, the size of the
program, and the slots of the stack from its depth on. What is dead moves with the depth: a call
writes its slot before the slot becomes live, and a return leaves a dead one behind. So machines
that agree on all the rest (`Machine.AgreesLive`) do so after every instruction, which comes to the
same on both (`Machine.AgreesLive.step`), and no run tells them apart (`Device.dead_unseen`).
-/

namespace Chip8

/-- Machines that differ at most in what is dead. -/
structure Machine.AgreesLive (m m' : Machine) : Prop where
  slots : ∀ d (h : d < 16), d < m.depth → m.stack[d] = m'.stack[d]
  others : m' = { m with stack := m'.stack, sound := m'.sound, programSize := m'.programSize }

structure Device.AgreesLive (d d' : Device) : Prop where
  machine : d.machine.AgreesLive d'.machine
  screen : d.screen = d'.screen

/-- The same outcome or fault, the same call of the screen, and no difference left behind but in
what is dead. -/
structure Effect.AgreesLive (effect effect' : Effect) : Prop where
  device : effect.device.AgreesLive effect'.device
  call : effect.call = effect'.call
  result : effect.result = effect'.result

namespace Machine.AgreesLive

variable {m m' : Machine}

/-- The second machine is the first one with other dead state. -/
theorem exists_eq (h : m.AgreesLive m') : ∃ stack sound programSize,
    (∀ d (h : d < 16), d < m.depth → m.stack[d] = stack[d]) ∧
      m' = { m with stack, sound, programSize } :=
  ⟨m'.stack, m'.sound, m'.programSize, h.slots, h.others⟩

theorem pc_eq (h : m.AgreesLive m') : m'.pc = m.pc := by
  obtain ⟨stack', sound', size', -, rfl⟩ := h.exists_eq
  rfl

theorem fetch_eq (h : m.AgreesLive m') : m'.fetch = m.fetch := by
  obtain ⟨stack', sound', size', -, rfl⟩ := h.exists_eq
  rfl

theorem withPc (h : m.AgreesLive m') (pc : Word) : { m with pc }.AgreesLive { m' with pc } := by
  obtain ⟨stack', sound', size', slots, rfl⟩ := h.exists_eq
  exact ⟨slots, rfl⟩

theorem withRegisters (h : m.AgreesLive m') (v : Vector Byte 16) :
    { m with v }.AgreesLive { m' with v } := by
  obtain ⟨stack', sound', size', slots, rfl⟩ := h.exists_eq
  exact ⟨slots, rfl⟩

theorem skipIf (h : m.AgreesLive m') (condition : Bool) :
    (m.skipIf condition).AgreesLive (m'.skipIf condition) := by
  obtain ⟨stack', sound', size', slots, rfl⟩ := h.exists_eq
  simp only [skipIf_eq]
  exact ⟨slots, rfl⟩

theorem tickTimers (h : m.AgreesLive m') : m.tickTimers.AgreesLive m'.tickTimers := by
  obtain ⟨stack', sound', size', slots, rfl⟩ := h.exists_eq
  exact ⟨slots, rfl⟩

/-- The slot that becomes live holds the address that was pushed. -/
theorem push? (h : m.AgreesLive m') (a : Word) :
    m.push? a = none ∧ m'.push? a = none ∨
      ∃ pushed pushed', m.push? a = some pushed ∧ m'.push? a = some pushed' ∧
        pushed.AgreesLive pushed' := by
  obtain ⟨stack', sound', size', slots, rfl⟩ := h.exists_eq
  by_cases room : m.depth < 16
  · refine .inr ⟨_, _, dif_pos room, dif_pos room, ?_, rfl⟩
    intro d slot below
    simp only [Vector.getElem_set]
    split
    · rfl
    · exact slots d slot (by dsimp only at below; omega)
  · exact .inl ⟨dif_neg room, dif_neg room⟩

/-- The address that is popped was live. -/
theorem pop? (h : m.AgreesLive m') :
    m.pop? = none ∧ m'.pop? = none ∨
      ∃ a popped popped', m.pop? = some (a, popped) ∧ m'.pop? = some (a, popped') ∧
        popped.AgreesLive popped' := by
  obtain ⟨stack', sound', size', slots, rfl⟩ := h.exists_eq
  unfold Machine.pop?
  cases depth : m.depth with
  | zero => exact .inl ⟨rfl, rfl⟩
  | succ d =>
    rw [depth] at slots
    have same : stack'[d]? = m.stack[d]? := by
      by_cases slot : d < 16
      · simp [slot, slots d slot (Nat.lt_succ_self d)]
      · simp [slot]
    have popped' := congrArg (fun a => some (a.getD 0,
      { m with depth := d, stack := stack', sound := sound', programSize := size' })) same
    refine .inr ⟨_, _, _, rfl, popped', ?_, rfl⟩
    intro k slot below
    exact slots k slot (Nat.lt_succ_of_lt below)

theorem execute (h : m.AgreesLive m') (screen : Bitmap) (random : Byte) (op : Operation) :
    (m.execute screen random op).AgreesLive (m'.execute screen random op) := by
  cases op with
  | ret =>
    obtain ⟨none, none'⟩ | ⟨a, popped, popped', some, some', rest⟩ := h.pop?
    · simp only [Machine.execute, none, none', h.pc_eq]
      exact ⟨⟨h, rfl⟩, rfl, rfl⟩
    · simp only [Machine.execute, some, some']
      exact ⟨⟨rest.withPc a, rfl⟩, rfl, rfl⟩
  | call addr =>
    obtain ⟨none, none'⟩ | ⟨pushed, pushed', some, some', rest⟩ := h.push? m.pc
    · simp only [Machine.execute, none, none', h.pc_eq]
      exact ⟨⟨h, rfl⟩, rfl, rfl⟩
    · simp only [Machine.execute, some, some', h.pc_eq]
      exact ⟨⟨rest.withPc _, rfl⟩, rfl, rfl⟩
  | skipEqByte | skipNeByte | skipEqReg | skipNeReg | skipKey | skipNoKey =>
    have skips := h.skipIf
    obtain ⟨stack', sound', size', slots, rfl⟩ := h.exists_eq
    exact ⟨⟨skips _, rfl⟩, rfl, rfl⟩
  | load x =>
    -- Kept apart from the rest, or unification unfolds the registers that are loaded.
    have loads := h.withRegisters
    obtain ⟨stack', sound', size', slots, rfl⟩ := h.exists_eq
    exact ⟨⟨loads _, rfl⟩, rfl, rfl⟩
  | _ =>
    obtain ⟨stack', sound', size', slots, rfl⟩ := h.exists_eq
    exact ⟨⟨⟨slots, rfl⟩, rfl⟩, rfl, rfl⟩

theorem step (h : m.AgreesLive m') (screen : Bitmap) (random : Byte) (i : Instruction) :
    (m.step screen random i).AgreesLive (m'.step screen random i) := by
  have advanced := h.withPc (m.pc + 2)
  unfold Machine.step
  rw [h.pc_eq]
  cases i.operation? with
  | none => exact ⟨⟨advanced.tickTimers, rfl⟩, rfl, rfl⟩
  | some op =>
    obtain ⟨⟨machine, screen⟩, call, result⟩ := advanced.execute screen random op
    exact ⟨⟨machine.tickTimers, screen⟩, call, result⟩

end Machine.AgreesLive

namespace Device

variable {d d' : Device}

theorem AgreesLive.cycle (h : d.AgreesLive d') (random : Byte) :
    (d.cycle random).AgreesLive (d'.cycle random) := by
  unfold Device.cycle obey
  rw [h.screen, h.machine.fetch_eq]
  exact h.machine.step d'.screen random d.machine.fetch

/-- However many instructions have run, devices that differ in dead state only do so still, and the
next instruction comes to the same on both, with the same call of the screen or the same fault. -/
theorem dead_unseen (h : d.AgreesLive d') (before : List Byte) (random : Byte) :
    let now := d.after cycle before
    let now' := d'.after cycle before
    now.AgreesLive now' ∧ (now.cycle random).AgreesLive (now'.cycle random) := by
  intro now now'
  have same : now.AgreesLive now' :=
    after_related (R := AgreesLive) (fun _ _ random h => (h.cycle random).device) h before
  exact ⟨same, same.cycle random⟩

/-- A return to the one live slot, below fifteen stale ones. -/
theorem dead_unseen_of_return :
    let m := { Machine.ofFont .standard with
      memory := (Memory.ofFont .standard).withProgram [0x00, 0xEE]
      stack := .replicate 16 0x300
      depth := 1 }
    let stale := (Vector.replicate 16 0x666).set 0 0x300
    let d : Device := ⟨m, .blank⟩
    let d' : Device := ⟨{ m with stack := stale, sound := 9, programSize := 2 }, .blank⟩
    d.AgreesLive d' ∧ d.machine.stack ≠ d'.machine.stack ∧
      (d.after cycle [0]).AgreesLive (d'.after cycle [0]) ∧
      (d'.after cycle [0]).machine.pc = 0x300 := by
  intro m stale d d'
  have slots : ∀ k (h : k < 16), k < d.machine.depth → d.machine.stack[k] = stale[k] := by
    intro k slot below
    have first : k = 0 := Nat.lt_one_iff.1 below
    subst first
    rfl
  have agree : d.AgreesLive d' := ⟨⟨slots, rfl⟩, rfl⟩
  have word : m.memory.word (programStart + 0) = 0x00EE :=
    Memory.word_withProgram (.ofFont .standard) [0x00, 0xEE] (by decide)
  have ret : m.fetch = ⟨0x00EE, 0x200⟩ := congrArg (Instruction.mk · 0x200) word
  have moved : d.after cycle [0] = (m.step .blank 0 ⟨0x00EE, 0x200⟩).device := by
    rw [← ret]
    rfl
  have returned : (d.after cycle [0]).machine.pc = 0x300 := by
    rw [moved]
    rfl
  have same := (dead_unseen agree [0] 0).1
  exact ⟨agree, by decide, same, same.machine.pc_eq.trans returned⟩

end Device

end Chip8
