import Chip8.Proofs.CallStack
import Chip8.Proofs.Checked
import Chip8.Proofs.Decoding
import Chip8.Proofs.ProgramListing
import Chip8.Proofs.Timers

/-!
# What an instruction may touch

`Operation.footprint` lists for each operation the parts of the machine that it may change besides
the program counter, and `Operation.screenCall` what it asks of the screen. A step stays within the
footprint of its word (`Machine.step_footprint`): all else is as it was, except that the timers
drop. A word that stands for nothing leaves no footprint. A register outside all footprints of a run
is the same after it (`Device.reg_after`).
-/

namespace Chip8

/-- The parts of a machine that an operation may change. -/
structure Footprint where
  /-- How many cells of memory, from the index on. -/
  cells : Nat := 0
  /-- Whether the first free slot of the stack. -/
  slot : Bool := false
  depth : Bool := false
  index : Bool := false
  registers : List Reg := []
  /-- The timer that is loaded. -/
  timer : Option Timer := none

namespace Operation

def footprint : Operation → Footprint
  | .clear | .sys _ | .jump _ | .jumpOffset _ => {}
  | .skipEqByte .. | .skipNeByte .. | .skipEqReg .. | .skipNeReg .. => {}
  | .skipKey _ | .skipNoKey _ | .awaitKey _ => {}
  | .call _ => { slot := true, depth := true }
  | .ret => { depth := true }
  | .setByte x _ | .addByte x _ | .random x _ | .getDelay x => { registers := [x] }
  | .copy x _ | .or x _ | .and x _ | .xor x _ => { registers := [x] }
  | .add x _ | .sub x _ | .shiftRight x | .shiftLeft x => { registers := [x, .flag] }
  | .subReversed _ y => { registers := [y, .flag] }
  | .draw .. => { registers := [.flag] }
  | .load x => { registers := (List.finRange 16).filter (· ≤ x) }
  | .setIndex _ | .addIndex _ | .glyph _ => { index := true }
  | .decimal _ => { cells := 3 }
  | .store x => { cells := x.val + 1 }
  | .setDelay _ => { timer := some .delay }
  | .setSound _ => { timer := some .sound }

/-- What the operation asks of the screen. -/
def screenCall (m : Machine) : Operation → Option ScreenCall
  | .clear => some .clear
  | .sys addr => some (.message ("skip instruction " ++ (Operation.sys addr).mnemonic))
  | .draw x y n => some (.draw (m.memory.readBlock m.index.toNat n.val) (m.reg x) (m.reg y))
  | _ => none

end Operation

namespace Machine

/-- The second machine can be what an instruction with the footprint leaves of the first. -/
structure StaysWithin (m : Machine) (f : Footprint) (after : Machine) : Prop where
  memory : ∀ c < 4096, (∀ k < f.cells, (m.index.toNat + k) % 4096 ≠ c) →
    after.memory.read c = m.memory.read c
  stack : ∀ d (slot : d < 16), f.slot = false ∨ d ≠ m.depth → after.stack[d] = m.stack[d]
  depth : f.depth = false → after.depth = m.depth
  index : f.index = false → after.index = m.index
  register : ∀ r, r ∉ f.registers → after.reg r = m.reg r
  timer : ∀ t : Timer, f.timer ≠ some t → t.read after = t.read m - 1
  key : after.key = m.key
  programSize : after.programSize = m.programSize

variable (m : Machine) (screen : Bitmap) (random : Byte) {op : Operation} {i : Instruction}

/-! ## Operations -/

/-- Calls and returns write no more than the program counter and the stack, and a call no slot but
the first free one. -/
theorem execute_call (addr : Address) : ∃ pc stack depth result,
    m.execute screen random (.call addr) =
        { machine := { m with pc, stack, depth }, screen, result } ∧
      ∀ d (slot : d < 16), d ≠ m.depth → stack[d] = m.stack[d] := by
  simp only [execute]
  split
  · next pushed =>
    obtain ⟨room, rfl⟩ := push?_eq_some_iff.1 pushed
    refine ⟨_, _, _, _, rfl, ?_⟩
    intro d slot other
    exact Vector.getElem_set_ne room slot other.symm
  · exact ⟨_, _, _, _, rfl, fun _ _ _ => rfl⟩

theorem execute_ret : ∃ pc depth result,
    m.execute screen random .ret = { machine := { m with pc, depth }, screen, result } := by
  simp only [execute]
  split
  · next popped =>
    obtain ⟨d, -, -, rfl⟩ := pop?_eq_some_iff.1 popped
    exact ⟨_, _, _, rfl⟩
  · exact ⟨_, _, _, rfl⟩

theorem stack_execute {d : Nat} (slot : d < 16) (spared : op.footprint.slot = false ∨ d ≠ m.depth) :
    (m.execute screen random op).machine.stack[d] = m.stack[d] := by
  by_cases calls : ∃ addr, op = .call addr
  · obtain ⟨addr, rfl⟩ := calls
    obtain ⟨pc, stack, depth, result, effect, others⟩ := m.execute_call screen random addr
    rw [effect]
    exact others d slot (spared.resolve_left (by simp [Operation.footprint]))
  by_cases returning : op = .ret
  · obtain ⟨pc, depth, result, effect⟩ := m.execute_ret screen random
    rw [returning, effect]
  · rw [not_exists] at calls
    rw [(execute_other m screen random calls returning).2.1]

theorem depth_execute (spared : op.footprint.depth = false) :
    (m.execute screen random op).machine.depth = m.depth := by
  have notCall : ∀ addr, op ≠ .call addr := by
    rintro addr rfl
    cases spared
  have notRet : op ≠ .ret := by
    rintro rfl
    cases spared
  exact (execute_other m screen random notCall notRet).2.2

theorem index_execute (spared : op.footprint.index = false) :
    (m.execute screen random op).machine.index = m.index := by
  cases op with
  | ret =>
    obtain ⟨pc, depth, result, effect⟩ := m.execute_ret screen random
    rw [effect]
  | call addr =>
    obtain ⟨pc, stack, depth, result, effect, -⟩ := m.execute_call screen random addr
    rw [effect]
  | skipEqByte | skipNeByte | skipEqReg | skipNeReg | skipKey | skipNoKey =>
    simp only [execute, skipIf_eq]
  | setIndex | addIndex | glyph => cases spared
  | _ => rfl

theorem reg_execute {r : Reg} (spared : r ∉ op.footprint.registers) :
    (m.execute screen random op).machine.reg r = m.reg r := by
  cases op with
  | ret =>
    obtain ⟨pc, depth, result, effect⟩ := m.execute_ret screen random
    rw [effect]
    rfl
  | call addr =>
    obtain ⟨pc, stack, depth, result, effect, -⟩ := m.execute_call screen random addr
    rw [effect]
    rfl
  | skipEqByte | skipNeByte | skipEqReg | skipNeReg | skipKey | skipNoKey =>
    simp only [execute, skipIf_eq]
    rfl
  | setByte | addByte | random | getDelay | copy | or | and | xor =>
    exact m.reg_setReg_of_ne _ (List.ne_of_not_mem_cons spared)
  -- Sums and differences write the flag behind the result, shifts before it.
  | add | sub | subReversed =>
    obtain ⟨destination, rest⟩ := List.ne_and_not_mem_of_not_mem_cons spared
    exact (reg_setFlag_of_ne _ _ (List.ne_of_not_mem_cons rest)).trans
      (m.reg_setReg_of_ne _ destination)
  | shiftRight | shiftLeft =>
    obtain ⟨destination, rest⟩ := List.ne_and_not_mem_of_not_mem_cons spared
    exact (reg_setReg_of_ne _ _ destination).trans
      (m.reg_setFlag_of_ne _ (List.ne_of_not_mem_cons rest))
  | draw => exact m.reg_setFlag_of_ne _ (List.ne_of_not_mem_cons spared)
  | load x =>
    have above : ¬ r ≤ x := by simpa [Operation.footprint] using spared
    have loaded : (m.execute screen random (.load x)).machine.reg r =
        if r ≤ x then _ else m.reg r := Vector.getElem_ofFn ..
    rw [loaded, if_neg above]
  | _ => rfl

theorem call_execute (op : Operation) :
    (m.execute screen random op).call = op.screenCall m := by
  cases op with
  | ret =>
    obtain ⟨pc, depth, result, effect⟩ := m.execute_ret screen random
    rw [effect]
    rfl
  | call addr =>
    obtain ⟨pc, stack, depth, result, effect, -⟩ := m.execute_call screen random addr
    rw [effect]
    rfl
  | _ => rfl

/-! ## Instructions -/

theorem written_eq_window (decodes : i.operation? = some op) :
    Turn.written ⟨m, i⟩ = Memory.window m.index.toNat op.footprint.cells := by
  simp only [Turn.written, Turn.operation?, decodes]
  cases op <;> rfl

theorem staysWithin_step (decodes : i.operation? = some op) :
    m.StaysWithin op.footprint (m.step screen random i).machine := by
  have timers : ∀ t : Timer, op.footprint.timer ≠ some t →
      ∀ x, ¬ i.word.StandsFor (t.load x) := by
    intro t spared x loads
    have decodes' : i.operation? = some (t.load x) := Operation.ofWord?_of_standsFor loads
    obtain rfl : op = t.load x := Option.some.inj (decodes.symm.trans decodes')
    cases t <;> exact spared rfl
  have cells : ∀ c < 4096, (∀ k < op.footprint.cells, (m.index.toNat + k) % 4096 ≠ c) →
      (m.step screen random i).machine.memory.read c = m.memory.read c := by
    intro c inside spared
    refine m.read_step screen random i ?_
    rw [written_eq_window m decodes, Nat.mod_eq_of_lt inside, Memory.mem_window]
    rintro ⟨k, written, cell⟩
    exact spared k written cell
  let advanced := { m with pc := m.pc + 2 }
  have kept := advanced.execute_keeps screen random op
  have run : (m.step screen random i).machine =
      (advanced.execute screen random op).machine.tickTimers := by
    simp only [step, decodes, advanced]
  refine ⟨cells, ?stack, ?depth, ?index, ?register, ?timer, ?key, ?programSize⟩
  case timer => exact fun t spared => Timer.read_step_other m screen random (timers t spared)
  all_goals rw [run]
  case stack => exact fun d slot => advanced.stack_execute screen random slot
  case depth => exact advanced.depth_execute screen random
  case index => exact advanced.index_execute screen random
  case register => exact fun r => advanced.reg_execute screen random
  case key => exact kept.key
  case programSize => exact kept.programSize

theorem staysWithin_step_of_none (none : i.operation? = none) :
    m.StaysWithin {} (m.step screen random i).machine := by
  have left : (m.step screen random i).machine = { m with pc := m.pc + 2 }.tickTimers := by
    simp only [step, none]
  rw [left]
  exact ⟨fun _ _ _ => rfl, fun _ _ _ => rfl, fun _ => rfl, fun _ => rfl, fun _ _ => rfl,
    fun t _ => t.read_tickTimers _, rfl, rfl⟩

/-- What any word may touch, on any machine in bounds: what is in the footprint of its operation,
and the screen with the one call that the operation makes, if any. A word that stands for no
operation is reported on the screen and touches nothing. -/
theorem step_footprint (inside : m.InBounds) (i : Instruction) :
    let effect := m.step screen random i
    m.stepChecked screen random i = .ok effect ∧
      (∀ op, i.word.StandsFor op →
        m.StaysWithin op.footprint effect.machine ∧ effect.call = op.screenCall m) ∧
      ((∀ op, ¬ i.word.StandsFor op) →
        m.StaysWithin {} effect.machine ∧
          effect.call = some (.message i.unrecognizedText)) := by
  intro effect
  refine ⟨stepChecked_eq inside screen random i, ?_, ?_⟩
  · intro op stands
    have decodes : i.operation? = some op := Operation.ofWord?_of_standsFor stands
    refine ⟨m.staysWithin_step screen random decodes, ?_⟩
    simp only [effect, step, decodes]
    exact call_execute { m with pc := m.pc + 2 } screen random op
  · intro unknown
    have none : i.operation? = none := Operation.ofWord?_eq_none_iff.2 unknown
    refine ⟨m.staysWithin_step_of_none screen random none, ?_⟩
    simp only [effect, step, none]

/-- Four registers stored from two cells below the top of memory leave the rest of the font alone,
and the machine but for memory. -/
theorem step_footprint_at_top :
    let m := { ofFont .standard with index := 0xFFE, pc := 0x2F0, delay := 9 }
    let effect := m.step .blank 0 ⟨0xF355, 0x2F0⟩
    m.InBounds ∧ (0xF355 : Word).StandsFor (.store 3) ∧
      (∀ c < 4096, c ∉ [0xFFE, 0xFFF, 0, 1] → effect.machine.memory.read c = m.memory.read c) ∧
      (∀ r, effect.machine.reg r = m.reg r) ∧ effect.machine.index = 0xFFE ∧
      effect.machine.delay.toNat = 8 ∧ effect.call = none := by
  intro m effect
  have inside : m.InBounds := ⟨by decide, Nat.zero_le _⟩
  have stands : (0xF355 : Word).StandsFor (.store 3) := ⟨rfl, rfl, rfl⟩
  obtain ⟨-, within, -⟩ := step_footprint m .blank 0 inside ⟨0xF355, 0x2F0⟩
  obtain ⟨kept, call⟩ := within (.store 3) stands
  refine ⟨inside, stands, ?_, fun r => kept.register r nofun, kept.index rfl,
    kept.timer .delay nofun, call⟩
  intro c inMemory apart
  have window : ∀ k < 4, (0xFFE + k) % 4096 ∈ [0xFFE, 0xFFF, 0, 1] := by decide
  exact kept.memory c inMemory fun k few cell => apart (cell ▸ window k few)

end Machine

namespace Device

/-! ## Runs -/

variable {r : Reg}

theorem reg_obey (d : Device) {order : Instruction × Byte}
    (spared : ∀ op, order.1.word.StandsFor op → r ∉ op.footprint.registers) :
    (d.obey order).device.machine.reg r = d.machine.reg r := by
  cases operation : order.1.operation? with
  | none => exact (d.machine.staysWithin_step_of_none d.screen order.2 operation).register r nofun
  | some op =>
    have outside := spared op (Operation.standsFor_of_ofWord? operation)
    exact (d.machine.staysWithin_step d.screen order.2 operation).register r outside

/-- A register that no instruction of a run may write is the same after it. -/
theorem reg_after (d : Device) {orders : List (Instruction × Byte)} (spared : ∀ order ∈ orders,
      ∀ op, order.1.word.StandsFor op → r ∉ op.footprint.registers) :
    (d.after obey orders).machine.reg r = d.machine.reg r :=
  d.after_kept (fun d => d.machine.reg r) fun d order mem => d.reg_obey (spared order mem)

end Device

end Chip8
