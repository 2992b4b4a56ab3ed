import Chip8.Emulator.Note

/-!
# The emulator

A machine with its display, driven by events. `Emulator.handle` applies one event to the
end before the next is looked at, so a frame always shows the state between two whole
instructions. A fault of the machine is reported and leaves the emulator ready for more
events; only `quit` stops it.
-/

namespace Chip8

/-- What a frame shows: the machine, the program as it was loaded, and the display. -/
structure Frame where
  machine : Machine
  listing : List Instruction
  screen : Bitmap

/-- What the emulator asks of the one who shows it. -/
inductive FrontendCall where
  | screen (call : ScreenCall)
  | frame (view : Frame)

structure Emulator where
  machine : Machine
  /-- The program as it was loaded. -/
  listing : List Instruction
  screen : Bitmap
  config : Config
  mode : Mode
  random : RandomSource
  /-- Instructions that ran without a fault. -/
  executed : Nat
  frames : Nat

/-- What comes of handling an event. -/
structure Reaction where
  emulator : Emulator
  calls : List FrontendCall := []
  notes : List Note := []
  fault : Option StackFault := none

namespace Emulator

/-- An emulator about to run a machine on a blank display. -/
def ofMachine (machine : Machine) (config : Config) (random : RandomSource) : Emulator where
  machine
  listing := machine.listing
  screen := .blank
  config
  mode := config.activeMode
  random
  executed := 0
  frames := 0

/-- What a frame shows now. -/
def frame (e : Emulator) : Frame := ⟨e.machine, e.listing, e.screen⟩

def withKey (e : Emulator) (key : Option Byte) : Emulator :=
  { e with machine := { e.machine with key } }

/-- What running the instruction comes to, once its effect is known. -/
def settle (e : Emulator) (i : Instruction) (effect : Effect) : Reaction :=
  let after := { e with
    machine := effect.machine
    screen := effect.screen
    random := if i.usesRandom then e.random.advance else e.random }
  let calls := (effect.call.map FrontendCall.screen).toList
  let note := e.machine.note i
  match effect.result with
  | .error fault => { emulator := after, calls, notes := [note], fault := some fault }
  | .ok (.awaitKey r) =>
    { emulator := { after with executed := e.executed + 1, mode := .awaitingKey r }
      calls
      notes := [note, .keyAwaited r] }
  | .ok _ => { emulator := { after with executed := e.executed + 1 }, calls, notes := [note] }

/-- Runs the instruction at the program counter. -/
def cycle (e : Emulator) : Reaction :=
  let i := e.machine.fetch
  e.settle i (e.machine.step e.screen e.random.peek i)

/-- A key went down. A waiting instruction gets it and ends its wait. -/
def press (e : Emulator) (key : Byte) : Reaction :=
  match e.mode with
  | .awaitingKey r =>
    let machine := { e.machine with key := some key }.setReg r key
    { emulator := { e with machine, mode := e.config.activeMode }
      notes := [.keyStored key r] }
  | _ => { emulator := e.withKey (some key) }

/-- A key went up. Only the key that is down is released by it. -/
def release (e : Emulator) (key : Byte) : Reaction :=
  { emulator := if e.machine.key = some key then e.withKey none else e }

/-- Whether the key is on the keypad. -/
def onKeypad (key : Byte) : Bool := key.toNat < 16

/-- Applies one event. -/
def handle (e : Emulator) (event : Event) : Reaction :=
  match event, e.mode with
  | _, .stopped => { emulator := e }
  | .quit, _ => { emulator := { e with mode := .stopped }, notes := [.quitRequested] }
  | .frame, _ =>
    { emulator := { e with frames := e.frames + 1 }, calls := [.frame e.frame] }
  | .keyDown key, _ =>
    if onKeypad key then e.press key else { emulator := e, notes := [.keyIgnored key] }
  | .keyUp key, _ =>
    if onKeypad key then e.release key else { emulator := e, notes := [.keyIgnored key] }
  | .tick, .running => e.cycle
  | .step, .stepping => e.cycle
  | .tick, _ | .step, _ => { emulator := e }

end Emulator

end Chip8
