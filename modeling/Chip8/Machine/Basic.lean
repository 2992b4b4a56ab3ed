import Chip8.Font.Basic
import Chip8.Instruction

/-!
# The machine

Registers, memory, call stack, timers and the held key. The program counter is a full word:
it runs past the top of memory and wraps at sixteen bits, while `fetch` finds the word it
points at modulo the size of memory. Slots of the stack at or above `depth` are stale and
kept as they are.
-/

namespace Chip8

structure Machine where
  memory : Memory
  /-- Registers `V0` to `VF`. -/
  v : Vector Byte 16
  /-- The register `I`. -/
  index : Word
  pc : Word
  stack : Vector Word 16
  /-- Number of occupied stack slots. -/
  depth : Nat
  delay : Byte
  sound : Byte
  /-- The key that is down, if any. -/
  key : Option Byte
  programSize : Nat
  deriving DecidableEq

/-- Why the machine halts. Both carry the address of the instruction at fault. -/
inductive StackFault where
  /-- A call with all return slots in use. -/
  | overflow (pc : Word)
  /-- A return with an empty stack. -/
  | underflow (pc : Word)
  deriving DecidableEq, Repr

def StackFault.message : StackFault → String
  | overflow pc =>
    "stack overflow: call at " ++ hexMarked 3 pc.toNat ++ " with all return slots in use"
  | underflow pc =>
    "stack underflow: return at " ++ hexMarked 3 pc.toNat ++ " with an empty stack"

/-- A program that does not fit above `programStart`. -/
structure ProgramTooLarge where
  size : Nat
  deriving DecidableEq, Repr

def ProgramTooLarge.message (e : ProgramTooLarge) : String :=
  "program is " ++ toString e.size ++ " bytes but only " ++ toString maxProgramSize ++
    " bytes fit above " ++ hexMarked 3 programStart

namespace Machine

/-- A machine that has not run, with the given font and no program. -/
def ofFont (font : Font) : Machine where
  memory := .ofFont font
  v := Vector.replicate 16 0
  index := 0
  pc := BitVec.ofNat 16 programStart
  stack := Vector.replicate 16 0
  depth := 0
  delay := 0
  sound := 0
  key := none
  programSize := 0

/-- Puts a program into memory. Nothing of a longer one that was there before remains; the
registers are left alone. -/
def load (m : Machine) (program : List Byte) : Except ProgramTooLarge Machine :=
  if maxProgramSize < program.length then .error ⟨program.length⟩
  else .ok { m with memory := m.memory.withProgram program, programSize := program.length }

theorem load_eq_error_iff {m : Machine} {program : List Byte} {e : ProgramTooLarge} :
    m.load program = .error e ↔ maxProgramSize < program.length ∧ e = ⟨program.length⟩ := by
  unfold load
  split
  · next large => rw [Except.error.injEq, eq_comm, and_iff_right large]
  · next fits => exact ⟨nofun, fun large => absurd large.1 fits⟩

theorem load_eq_ok_iff {m loaded : Machine} {program : List Byte} :
    m.load program = .ok loaded ↔ program.length ≤ maxProgramSize ∧
      loaded = { m with
        memory := m.memory.withProgram program
        programSize := program.length } := by
  unfold load
  split
  · next large => exact ⟨nofun, fun fits => absurd fits.1 (Nat.not_le.2 large)⟩
  · next fits => rw [Except.ok.injEq, eq_comm, and_iff_right (Nat.le_of_not_lt fits)]

/-- A machine that has not run takes any program that fits. -/
theorem exists_load_ofFont (font : Font) (program : List Byte)
    (fits : program.length ≤ maxProgramSize) :
    ∃ loaded, (ofFont font).load program = .ok loaded ∧
      loaded.memory = (Memory.ofFont font).withProgram program ∧
      loaded.programSize = program.length ∧ loaded.pc = BitVec.ofNat 16 programStart :=
  ⟨_, load_eq_ok_iff.2 ⟨fits, rfl⟩, rfl, rfl, rfl⟩

/-- The instruction at the program counter. -/
def fetch (m : Machine) : Instruction := .fetch m.memory m.pc

/-- The loaded program as instructions. -/
def listing (m : Machine) : List Instruction :=
  Instruction.listing m.memory programStart m.programSize

def reg (m : Machine) (r : Reg) : Byte := m.v[r]

def setReg (m : Machine) (r : Reg) (b : Byte) : Machine := { m with v := m.v.set r b }

def setFlag (m : Machine) (flag : Bool) : Machine := m.setReg .flag (if flag then 1 else 0)

theorem reg_setReg (m : Machine) (r s : Reg) (b : Byte) :
    (m.setReg r b).reg s = if s = r then b else m.reg s := by
  simp only [reg, setReg, Fin.getElem_fin, Vector.getElem_set, Fin.ext_iff, eq_comm (a := s.val)]

theorem reg_setReg_of_ne (m : Machine) {r s : Reg} (b : Byte) (other : s ≠ r) :
    (m.setReg r b).reg s = m.reg s := by
  rw [reg_setReg, if_neg other]

theorem reg_setFlag_of_ne (m : Machine) (flag : Bool) {r : Reg} (other : r ≠ .flag) :
    (m.setFlag flag).reg r = m.reg r :=
  m.reg_setReg_of_ne _ other

/-- Both timers drop by one and stay at zero. -/
def tickTimers (m : Machine) : Machine :=
  { m with
    delay := if m.delay = 0 then 0 else m.delay - 1
    sound := if m.sound = 0 then 0 else m.sound - 1 }

/-- Moves the program counter past the next instruction if the condition holds. -/
def skipIf (m : Machine) (condition : Bool) : Machine :=
  if condition then { m with pc := m.pc + 2 } else m

/-- Puts a return address on the stack, unless it is full. -/
def push? (m : Machine) (address : Word) : Option Machine :=
  if h : m.depth < 16 then
    some { m with stack := m.stack.set m.depth address, depth := m.depth + 1 }
  else none

/-- Takes the last return address off the stack, unless it is empty. -/
def pop? (m : Machine) : Option (Word × Machine) :=
  match m.depth with
  | 0 => none
  | d + 1 => some (m.stack[d]?.getD 0, { m with depth := d })

end Machine

end Chip8
