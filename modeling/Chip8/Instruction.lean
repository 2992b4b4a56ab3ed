import Chip8.Memory
import Chip8.Operation.Mnemonic

/-!
# Instructions

An instruction is a word together with the address it was read from. `Instruction.fetch` reads
one from memory, `listing` reads the words of a program, and `ofImage` splits a program
image that is not in memory.
-/

namespace Chip8

structure Instruction where
  word : Word
  address : Word
  deriving DecidableEq, Repr

namespace Instruction

def operation? (i : Instruction) : Option Operation := Operation.ofWord? i.word

/-- The mnemonic, or `UNKNOWN` for a word that stands for no operation. -/
def text (i : Instruction) : String :=
  match i.operation? with
  | some op => op.mnemonic
  | none => "UNKNOWN"

/-- The instruction at an address. The address is kept as it is, the memory behind it is
found modulo 4096. -/
def fetch (m : Memory) (address : Word) : Instruction := ⟨m.word address.toNat, address⟩

/-- The instructions in the `size` bytes from `start` on, two bytes each. An odd last byte is
paired with the byte that follows it in memory. -/
def listing (m : Memory) (start size : Nat) : List Instruction :=
  (List.range ((size + 1) / 2)).map fun k =>
    let a := (start + 2 * k) % 4096
    ⟨m.word a, BitVec.ofNat 16 a⟩

/-- The instructions of a program image whose first byte has the given address. An odd last
byte is dropped; addresses wrap at sixteen bits. -/
def ofImage (address : Word) : List Byte → List Instruction
  | high :: low :: rest => ⟨.ofBytes high low, address⟩ :: ofImage (address + 2) rest
  | _ => []

/-- One line of a disassembly: address, word and mnemonic between tabs. -/
def disassemblyLine (i : Instruction) : String :=
  hexMarked 4 i.address.toNat ++ ":\t" ++ hexMarked 4 i.word.toNat ++ "\t" ++ i.text

end Instruction

/-- The disassembly of a program image, addressed as if it were loaded. -/
def disassemble (image : List Byte) : List String :=
  (Instruction.ofImage (BitVec.ofNat 16 programStart) image).map (·.disassemblyLine)

end Chip8
