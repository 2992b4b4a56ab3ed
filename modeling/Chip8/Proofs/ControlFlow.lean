import Chip8.Proofs.StackFaults

/-!
# Where an instruction leads

The program counter moves past an instruction before the operation runs, which then may overwrite
it or move it once more. `Machine.LeadsTo` tells for each operation where that ends. Only a call or
a return can fail; one that does, and a word that stands for nothing, lead to the next instruction
(`Machine.step_controlFlow`). Conditional skips come in pairs (`Operation.Opposite`), one for either
outcome of a comparison, and nothing but the program counter tells their effects apart.
-/

namespace Chip8

/-- The second operation skips where the first does not. -/
inductive Operation.Opposite : Operation → Operation → Prop where
  | byte (x : Reg) (kk : Byte) : Opposite (.skipEqByte x kk) (.skipNeByte x kk)
  | register (x y : Reg) : Opposite (.skipEqReg x y) (.skipNeReg x y)
  | key (x : Reg) : Opposite (.skipKey x) (.skipNoKey x)

/-- The operation needs a free slot or a return address on the call stack. -/
def Operation.UsesStack : Operation → Prop
  | .call _ | .ret => True
  | _ => False

namespace Machine

/-- Whether the operation skips the instruction behind it. -/
def Skips (m : Machine) : Operation → Prop
  | .skipEqByte x kk => m.reg x = kk
  | .skipNeByte x kk => m.reg x ≠ kk
  | .skipEqReg x y => m.reg x = m.reg y
  | .skipNeReg x y => m.reg x ≠ m.reg y
  | .skipKey x => m.key = some (m.reg x)
  | .skipNoKey x => m.key ≠ some (m.reg x)
  | _ => False

/-- The address so many bytes behind the program counter. -/
def ahead (m : Machine) (bytes : Nat) : Nat := (m.pc.toNat + bytes) % 65536

/-- The program counter may be `pc` after the operation has run. A call or a return that fails leads
elsewhere. -/
def LeadsTo (m : Machine) (pc : Nat) : Operation → Prop
  | .jump addr | .call addr => pc = addr.toNat
  | .ret => ∃ d, ∃ slot : d < 16, m.depth = d + 1 ∧ pc = m.stack[d].toNat
  | .jumpOffset addr => pc = (addr.toNat + (m.reg .zero).toNat) % 4096
  | op => m.Skips op ∧ pc = m.ahead 4 ∨ ¬ m.Skips op ∧ pc = m.ahead 2

variable {m : Machine} {op op' : Operation} {i : Instruction}

theorem toNat_pc_add_two (m : Machine) : (m.pc + 2).toNat = m.ahead 2 := BitVec.toNat_add ..

theorem toNat_pc_add_four (m : Machine) : (m.pc + 2 + 2).toNat = m.ahead 4 := by
  rw [BitVec.add_assoc]
  exact BitVec.toNat_add ..

/-- The program counter has moved past the skip already, and moves once more if the skip is due. -/
theorem pc_skipIf (m : Machine) (condition : Bool) :
    ({ m with pc := m.pc + 2 }.skipIf condition).pc.toNat =
      if condition then m.ahead 4 else m.ahead 2 := by
  rw [skipIf_eq]
  cases condition with
  | true => exact m.toNat_pc_add_four
  | false => exact m.toNat_pc_add_two

theorem leadsTo_skipIf {condition : Bool} {due : Prop} (iff : condition = true ↔ due) :
    let pc := ({ m with pc := m.pc + 2 }.skipIf condition).pc.toNat
    due ∧ pc = m.ahead 4 ∨ ¬ due ∧ pc = m.ahead 2 := by
  intro pc
  have moved : pc = _ := m.pc_skipIf condition
  rw [← iff, moved]
  cases condition <;> simp

/-! ## Operations -/

theorem leadsTo_call {addr : Address} (screen : Bitmap) (random : Byte) {outcome : Outcome}
    (succeeds : (m.execute screen random (.call addr)).result = .ok outcome) :
    (m.execute screen random (.call addr)).machine.pc.toNat = addr.toNat := by
  simp only [execute] at succeeds ⊢
  split at succeeds
  · have := addr.isLt
    simp only [BitVec.toNat_setWidth]
    omega
  · cases succeeds

theorem leadsTo_ret (inside : m.InBounds) (screen : Bitmap) (random : Byte) {outcome : Outcome}
    (succeeds : (m.execute screen random .ret).result = .ok outcome) :
    ∃ d, ∃ slot : d < 16, m.depth = d + 1 ∧
      (m.execute screen random .ret).machine.pc.toNat = m.stack[d].toNat := by
  simp only [execute] at succeeds ⊢
  split at succeeds
  · next popped =>
    obtain ⟨d, depth, rfl, -⟩ := pop?_eq_some_iff.1 popped
    have bound := inside.depth_le
    have slot : d < 16 := by omega
    refine ⟨d, slot, depth, ?_⟩
    simp [slot]
  · cases succeeds

theorem leadsTo_execute (inside : m.InBounds) (screen : Bitmap) (random : Byte)
    (op : Operation) :
    let effect := { m with pc := m.pc + 2 }.execute screen random op
    (op.UsesStack → ∃ outcome, effect.result = .ok outcome) →
      m.LeadsTo effect.machine.pc.toNat op := by
  intro effect succeeds
  have advanced : { m with pc := m.pc + 2 }.InBounds := inside.congr rfl rfl
  cases op with
  | jump addr =>
    have := addr.isLt
    show (addr.setWidth 16).toNat = addr.toNat
    rw [BitVec.toNat_setWidth]
    omega
  | call addr =>
    obtain ⟨outcome, succeeded⟩ := succeeds trivial
    exact leadsTo_call screen random succeeded
  | ret =>
    obtain ⟨outcome, succeeded⟩ := succeeds trivial
    exact leadsTo_ret advanced screen random succeeded
  | jumpOffset addr =>
    show (BitVec.ofNat 16 ((addr.toNat + (m.reg .zero).toNat) % 4096)).toNat = _
    rw [BitVec.toNat_ofNat]
    omega
  -- The comparisons look at the registers and the key, which the program counter does not touch.
  | skipEqByte | skipEqReg | skipKey => exact leadsTo_skipIf beq_iff_eq
  | skipNeByte | skipNeReg | skipNoKey => exact leadsTo_skipIf bne_iff_ne
  | _ => exact .inr ⟨id, m.toNat_pc_add_two⟩

/-- Two opposite operations make opposite uses of one condition. -/
theorem execute_opposite (m : Machine) (screen : Bitmap) (random : Byte)
    (opposite : op.Opposite op') : ∃ condition,
      m.execute screen random op = { machine := m.skipIf condition, screen } ∧
        m.execute screen random op' = { machine := m.skipIf !condition, screen } := by
  cases opposite <;> exact ⟨_, rfl, rfl⟩

/-! ## Instructions -/

theorem leadsTo_step (inside : m.InBounds) (screen : Bitmap) (random : Byte)
    (stands : i.word.StandsFor op)
    (succeeds : op.UsesStack → ∃ outcome, (m.step screen random i).result = .ok outcome) :
    m.LeadsTo (m.step screen random i).machine.pc.toNat op := by
  have decodes : i.operation? = some op := Operation.ofWord?_of_standsFor stands
  simp only [step, decodes] at succeeds ⊢
  exact leadsTo_execute inside screen random op succeeds

theorem step_opposite (m : Machine) (screen : Bitmap) (random : Byte) {other : Instruction}
    (opposite : op.Opposite op') (stands : i.word.StandsFor op)
    (others : other.word.StandsFor op') :
    let effect := m.step screen random i
    let effect' := m.step screen random other
    let pc := effect.machine.pc.toNat
    let pc' := effect'.machine.pc.toNat
    (pc = m.ahead 4 ∧ pc' = m.ahead 2 ∨ pc = m.ahead 2 ∧ pc' = m.ahead 4) ∧
      effect' = { effect with machine := { effect.machine with pc := effect'.machine.pc } } := by
  have decodes : i.operation? = some op := Operation.ofWord?_of_standsFor stands
  have decodes' : other.operation? = some op' := Operation.ofWord?_of_standsFor others
  obtain ⟨condition, run, run'⟩ :=
    execute_opposite { m with pc := m.pc + 2 } screen random opposite
  intro effect effect' pc pc'
  have first : pc = if condition then m.ahead 4 else m.ahead 2 := by
    simp only [pc, effect, step, decodes, run]
    exact m.pc_skipIf condition
  have second : pc' = if !condition then m.ahead 4 else m.ahead 2 := by
    simp only [pc', effect', step, decodes', run']
    exact m.pc_skipIf !condition
  constructor
  · rw [first, second]
    cases condition <;> simp
  · simp only [effect, effect', step, decodes, decodes', run, run', skipIf_eq]
    rfl

/-- Keys are below sixteen, so a register above fifteen holds no key that is down. -/
theorem step_of_high (h : m.WellFormed) (screen : Bitmap) (random : Byte) {x : Reg}
    (high : 15 < (m.reg x).toNat) :
    let pc := (m.step screen random i).machine.pc.toNat
    (i.word.StandsFor (.skipKey x) → pc = m.ahead 2) ∧
      (i.word.StandsFor (.skipNoKey x) → pc = m.ahead 4) := by
  intro pc
  have up : m.key ≠ some (m.reg x) := by
    intro down
    have := h.key_lt (m.reg x) down
    omega
  constructor
  · intro stands
    obtain ⟨down, -⟩ | ⟨-, moved⟩ := leadsTo_step h.inBounds screen random stands nofun
    · exact absurd down up
    · exact moved
  · intro stands
    obtain ⟨-, moved⟩ | ⟨down, -⟩ := leadsTo_step h.inBounds screen random stands nofun
    · exact moved
    · exact absurd up down

/-- Where any word leads. What stands for an operation leads where `LeadsTo` says, a call or a
return if it succeeds; these fail exactly if they misuse the stack, and nothing else fails. What
fails or is unknown leads to the next instruction. Of two opposite skips exactly one is due, and
nothing but the program counter tells their effects apart. In what a run reaches a register above
fifteen is never the key that is down. -/
theorem step_controlFlow (m : Machine) (screen : Bitmap) (random : Byte) (i : Instruction) :
    let effect := m.step screen random i
    let pc := effect.machine.pc.toNat
    (m.InBounds → m.stepChecked screen random i = .ok effect ∧
        (∀ op, i.word.StandsFor op →
          (op.UsesStack → ∃ outcome, effect.result = .ok outcome) → m.LeadsTo pc op) ∧
        (∀ fault, effect.result = .error fault ↔ m.Misuses i.word fault) ∧
        (∀ fault, effect.result = .error fault → pc = m.ahead 2) ∧
        ((∀ op, ¬ i.word.StandsFor op) → pc = m.ahead 2)) ∧
      (∀ op op' (other : Instruction), op.Opposite op' → i.word.StandsFor op →
        other.word.StandsFor op' →
          let effect' := m.step screen random other
          let pc' := effect'.machine.pc.toNat
          (pc = m.ahead 4 ∧ pc' = m.ahead 2 ∨ pc = m.ahead 2 ∧ pc' = m.ahead 4) ∧
            effect' = { effect with machine := { effect.machine with pc := effect'.machine.pc } }) ∧
      ∀ (font : Font) (program : List Byte) (loaded : Machine) (config : Config)
        (source : RandomSource) (events : List Event), (ofFont font).load program = .ok loaded →
          m = ((Emulator.ofMachine loaded config source).after events).machine →
            ∀ x, 15 < (m.reg x).toNat →
              (i.word.StandsFor (.skipKey x) → pc = m.ahead 2) ∧
                (i.word.StandsFor (.skipNoKey x) → pc = m.ahead 4) := by
  intro effect pc
  refine ⟨?_, ?_, ?_⟩
  · intro inside
    have fails : ∀ fault, effect.result = .error fault ↔ m.Misuses i.word fault :=
      fun fault => step_error_iff inside screen random
    refine ⟨stepChecked_eq inside screen random i, ?_, fails, ?_, ?_⟩
    · intro op stands succeeds
      exact leadsTo_step inside screen random stands succeeds
    · intro fault failed
      have left : effect = _ := step_of_misuses ((fails fault).1 failed) screen random
      simp only [pc, left]
      exact m.toNat_pc_add_two
    · intro unknown
      have none : i.operation? = none := Operation.ofWord?_eq_none_iff.2 unknown
      simp only [pc, effect, step, none]
      exact m.toNat_pc_add_two
  · intro op op' other opposite stands others
    exact step_opposite m screen random opposite stands others
  · intro font program loaded config source events load reached x high
    have started : loaded.WellFormed := (WellFormed.ofFont font).load load
    have now := (Emulator.WellFormed.ofMachine started config source).after events
    exact step_of_high (reached ▸ now.machine) screen random high

/-- A skip at the last word wraps: past one more word if it is due, to zero if it is not. With 255
in a register, as a program has it after its first instruction, the skips that look at the key take
it for up, also while the key 15 is down. -/
theorem step_controlFlow_of_wrap :
    (let m := { ofFont .standard with pc := 0xFFFE }
      let skip := m.step .blank 0 ⟨0x3000, 0xFFFE⟩
      let stay := m.step .blank 0 ⟨0x4000, 0xFFFE⟩
      m.InBounds ∧ skip.machine.pc.toNat = 2 ∧ stay.machine.pc.toNat = 0) ∧
    ∃ loaded, (ofFont .standard).load [0x60, 0xFF] = .ok loaded ∧
      let m := ((Emulator.ofMachine loaded {} (.ofSeed 0)).after [.tick, .keyDown 15]).machine
      m.key = some 15 ∧ m.reg .zero = 255 ∧
        (m.step .blank 0 ⟨0xE09E, 0x202⟩).machine.pc.toNat = 0x204 ∧
        (m.step .blank 0 ⟨0xE0A1, 0x202⟩).machine.pc.toNat = 0x206 := by
  constructor
  · intro m skip stay
    have inside : m.InBounds := ⟨Nat.zero_le _, Nat.zero_le _⟩
    have equal : (0x3000 : Word).StandsFor (.skipEqByte 0 0) := ⟨rfl, rfl, rfl⟩
    have unequal : (0x4000 : Word).StandsFor (.skipNeByte 0 0) := ⟨rfl, rfl, rfl⟩
    obtain ⟨runs, pairs, -⟩ := step_controlFlow m .blank 0 ⟨0x3000, 0xFFFE⟩
    obtain ⟨-, leads, -⟩ := runs inside
    obtain ⟨-, two⟩ | ⟨notDue, -⟩ := leads _ equal nofun
    · obtain ⟨⟨-, zero⟩ | ⟨stays, -⟩, -⟩ := pairs _ _ ⟨0x4000, 0xFFFE⟩ (.byte 0 0) equal unequal
      · exact ⟨inside, two.trans (by decide), zero.trans (by decide)⟩
      · exact absurd (two.symm.trans stays) (by decide)
    · exact absurd rfl notDue
  · obtain ⟨loaded, load, memory, -, start⟩ :=
      exists_load_ofFont .standard [0x60, 0xFF] (by decide)
    refine ⟨loaded, load, ?_⟩
    intro m
    have word : loaded.fetch.word = 0x60FF := by
      show loaded.memory.word loaded.pc.toNat = _
      rw [memory, start]
      exact Memory.word_withProgram (k := 0) (.ofFont .standard) [0x60, 0xFF] (by decide)
    have sets : loaded.fetch.operation? = some (.setByte .zero 0xFF) := by
      rw [Instruction.operation?, word]
      decide
    have now : m = { ({ loaded with pc := loaded.pc + 2 }.setReg .zero 0xFF).tickTimers with
        key := some 15 } := by
      simp [m, Emulator.ofMachine, Emulator.handle, Emulator.cycle, Emulator.settle, step, execute,
        sets, Config.activeMode, Emulator.onKeypad, Emulator.press, Emulator.withKey]
    have high : m.reg .zero = 255 := by
      rw [now]
      exact (reg_setReg ..).trans (if_pos rfl)
    have pc : m.pc = 0x202 := by
      rw [now]
      show loaded.pc + 2 = _
      rw [start]
      decide
    obtain ⟨-, -, up⟩ := step_controlFlow m .blank 0 ⟨0xE09E, 0x202⟩
    obtain ⟨-, -, up'⟩ := step_controlFlow m .blank 0 ⟨0xE0A1, 0x202⟩
    have far : 15 < (m.reg .zero).toNat := by rw [high]; decide
    have stays := (up .standard [0x60, 0xFF] loaded {} (.ofSeed 0) [.tick, .keyDown 15] load rfl
      .zero far).1 ⟨rfl, rfl, rfl⟩
    have skips := (up' .standard [0x60, 0xFF] loaded {} (.ofSeed 0) [.tick, .keyDown 15] load rfl
      .zero far).2 ⟨rfl, rfl, rfl⟩
    refine ⟨by rw [now], high, ?_, ?_⟩
    · rw [stays, ahead, pc]
      rfl
    · rw [skips, ahead, pc]
      rfl

end Machine

end Chip8
