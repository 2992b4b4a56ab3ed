import Chip8.Machine.Basic

/-!
# What the panels show

The texts of the three panels beside the display. The console has the newest messages under a
fixed header; its history keeps the last 64 messages. The program panel has the page of the
listing that holds the program counter, with the instruction at the program counter marked; a
page has 40 lines, and the first one starts at `programStart`. The hardware panel has registers,
program counter, index register, call stack, timers and the held key, one a line. The next free
stack slot is marked; a full stack has none.
-/

namespace Chip8

/-- The messages kept for the console, oldest first. -/
structure Console where
  history : List String
  deriving DecidableEq, Repr

namespace Console

abbrev capacity : Nat := 64

def empty : Console := ⟨[]⟩

/-- Appends a message, dropping the oldest one if the history is full. -/
def push (c : Console) (message : String) : Console :=
  let kept := if capacity ≤ c.history.length then c.history.drop 1 else c.history
  ⟨kept ++ [message]⟩

def header : List String := ["> press ESC to quit", ""]

/-- The header and the newest `visible` messages. -/
def lines (c : Console) (visible : Nat) : List String :=
  header ++ c.history.drop (c.history.length - visible)

end Console

namespace ProgramPanel

abbrev pageSize : Nat := 40

/-- The index of the first line of the page that holds the program counter. -/
def pageStart (pc : Word) : Nat := (pc.toNat - programStart) / 2 / pageSize * pageSize

def marker : String := "  <-- PC"

/-- One line: address, word and mnemonic, and the marker at the program counter. -/
def line (pc : Word) (i : Instruction) : String :=
  hexMarked 3 i.address.toNat ++ ": " ++ hex 4 i.word.toNat ++ " " ++ i.text ++
    if i.address = pc then marker else ""

/-- The lines of the page that holds the program counter. -/
def lines (pc : Word) (listing : List Instruction) : List String :=
  ((listing.drop (pageStart pc)).take pageSize).map (line pc)

end ProgramPanel

namespace HardwarePanel

def marker : String := "  <-- SP"

def registerLine (m : Machine) (r : Reg) : String :=
  r.text ++ " = " ++ hexMarked 2 (m.reg r).toNat

def stackLine (m : Machine) (slot : Fin 16) : String :=
  "S" ++ hexUpper slot.val ++ " = " ++ hexMarked 3 m.stack[slot].toNat ++
    if m.depth = slot.val then marker else ""

def keyLine (key : Option Byte) : String :=
  "KEY = " ++ match key with
    | some k => hexUpper k.toNat
    | none => "-"

def lines (m : Machine) : List String :=
  (List.finRange 16).map (registerLine m) ++
    ["", "PC = " ++ hexMarked 3 m.pc.toNat, "I  = " ++ hexMarked 3 m.index.toNat, ""] ++
    (List.finRange 16).map (stackLine m) ++
    ["", "DT = " ++ hexMarked 2 m.delay.toNat, "ST = " ++ hexMarked 2 m.sound.toNat,
      keyLine m.key]

end HardwarePanel

end Chip8
