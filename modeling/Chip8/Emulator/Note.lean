import Chip8.Emulator.Event
import Chip8.Log.Record

/-!
# What the emulator logs

A note says what happened; its level and its wording are functions of it.
-/

namespace Chip8

inductive Note where
  | programLoaded (size : Nat)
  | executing (address : Word) (op : Operation)
  | unrecognized (i : Instruction)
  | quitRequested
  | keyIgnored (key : Byte)
  | keyAwaited (register : Reg)
  | keyStored (key : Byte) (register : Reg)
  | started (config : Config)
  | sourcesClosed
  | halted (pc : Word) (fault : StackFault)
  | stopped (executed frames : Nat)
  deriving DecidableEq, Repr

namespace Note

def level : Note → Log.Level
  | executing _ _ => .trace
  | programLoaded _ | quitRequested | keyAwaited _ | keyStored _ _ => .debug
  | started _ | sourcesClosed | stopped _ _ => .info
  | unrecognized _ | keyIgnored _ => .warn
  | halted _ _ => .error

def text : Note → String
  | programLoaded size =>
    "loaded " ++ toString size ++ " byte program at " ++ hexMarked 3 programStart
  | executing address op => hexMarked 3 address.toNat ++ ": " ++ op.mnemonic
  | unrecognized i => i.unrecognizedText
  | quitRequested => "quit requested"
  | keyIgnored key => "ignoring key " ++ hexMarked 1 key.toNat ++ " outside the keypad"
  | keyAwaited register => "waiting for a key for " ++ register.text
  | keyStored key register => "key " ++ hexUpper key.toNat ++ " stored in " ++ register.text
  | started config =>
    "scheduler starting: " ++ toString config.instructionsPerSecond ++ " instructions/s, " ++
      toString config.framesPerSecond ++ " frames/s, debug=" ++ toString config.debug
  | sourcesClosed => "all event sources closed"
  | halted pc fault => "machine halted at " ++ hexMarked 3 pc.toNat ++ ": " ++ fault.message
  | stopped executed frames =>
    "scheduler stopped after " ++ toString executed ++ " instructions and " ++
      toString frames ++ " frames"

/-- The note as a line of a trace. -/
def line (n : Note) : String := n.level.name ++ " " ++ n.text

/-- The part of the emulator that the note comes from. -/
def target : Note → String
  | programLoaded _ => "chipterm_chip8::machine"
  | executing _ _ | unrecognized _ => "chipterm_chip8::executor"
  | _ => "chipterm_chip8::scheduler"

def record (n : Note) : Log.Record := ⟨n.level, n.target, n.text⟩

end Note

/-- The note of the instruction about to run on a machine. -/
def Machine.note (m : Machine) (i : Instruction) : Note :=
  match i.operation? with
  | some op => .executing m.pc op
  | none => .unrecognized i

end Chip8
