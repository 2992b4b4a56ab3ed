import Chip8.Machine.Step

/-!
# Events, modes and configuration

The emulator consumes one ordered stream of events that the clocks and the keyboard
produce. Its mode says what it is waiting for.
-/

namespace Chip8

inductive Event where
  /-- The instruction clock fired. -/
  | tick
  /-- The frame clock fired. -/
  | frame
  /-- A single step was requested. -/
  | step
  | keyDown (key : Byte)
  | keyUp (key : Byte)
  | quit
  deriving DecidableEq, Repr

inductive Mode where
  | running
  /-- Debug mode: one instruction for each requested step. -/
  | stepping
  /-- An instruction waits for a key to store in the register. -/
  | awaitingKey (register : Reg)
  | stopped
  deriving DecidableEq, Repr

structure Config where
  instructionsPerSecond : Nat := 500
  framesPerSecond : Nat := 60
  /-- Replace the instruction clock with requested steps. -/
  debug : Bool := false
  deriving DecidableEq, Repr

/-- The mode in which instructions run. -/
def Config.activeMode (c : Config) : Mode := if c.debug then .stepping else .running

/-- An endless sequence of random bytes and how many of them are used up. -/
structure RandomSource where
  byteAt : Nat → Byte
  used : Nat := 0

namespace RandomSource

def peek (r : RandomSource) : Byte := r.byteAt r.used

def advance (r : RandomSource) : RandomSource := { r with used := r.used + 1 }

/-- Bytes from a mixing function of the seed and the position. -/
def ofSeed (seed : Nat) : RandomSource where
  byteAt n :=
    let mixed := (seed + n) * 0x9E3779B97F4A7C15 % 0x10000000000000000
    let stirred := (mixed / 0x100000000 + mixed % 0x100000000) * 0x45D9F3B
    BitVec.ofNat 8 (stirred / 0x10000)

end RandomSource

/-- Whether running the instruction uses up a random byte. -/
def Instruction.usesRandom (i : Instruction) : Bool :=
  match i.operation? with
  | some (.random _ _) => true
  | _ => false

end Chip8
