import Chip8.CommandLine.Grammar
import Chip8.CommandLine.Number
import Chip8.Keyboard.Keymap

/-!
# The options of the two programs

The emulator takes a program and options for its rates, font, keymap and log file. The
disassembler takes a file.
-/

namespace Chip8.CommandLine

structure Options where
  rom : String := ""
  debug : Bool := false
  ips : Nat := 500
  fps : Nat := 60
  font : Option String := none
  keymap : Keymap := .literal
  logFile : Option String := none
  deriving DecidableEq, Repr

def Options.config (o : Options) : Config where
  instructionsPerSecond := o.ips
  framesPerSecond := o.fps
  debug := o.debug

/-- A parameter that takes any path but the empty one. -/
def pathParameter {α : Type} (name : String) (put : String → α → α) : Parameter α where
  name
  set path a := if path = "" then .error (.missingValue name) else .ok (put path a)

/-- A parameter that takes a rate. -/
def rateParameter {α : Type} (name : String) (put : Nat → α → α) : Parameter α where
  name
  set text a :=
    match readRate text with
    | .ok n => .ok (put n a)
    | .error e => .error (.refusedValue text name e.message)

def keymapParameter {α : Type} (name : String) (put : Keymap → α → α) : Parameter α where
  name
  set
    | "literal", a => .ok (put .literal a)
    | "qwerty", a => .ok (put .qwerty a)
    | "", _ => .error (.missingValue name)
    | text, _ => .error (.invalidValue text name)

/-- The command line of the emulator. -/
def emulatorGrammar : Grammar Options where
  operand := pathParameter "<ROM>" fun rom o => { o with rom }
  items := [
    ("debug", .flag "--debug" fun o => { o with debug := true }),
    ("ips", .option (rateParameter "--ips <IPS>" fun ips o => { o with ips })),
    ("fps", .option (rateParameter "--fps <FPS>" fun fps o => { o with fps })),
    ("font", .option (pathParameter "--font <PATH>" fun path o => { o with font := some path })),
    ("keymap", .option (keymapParameter "--keymap <KEYMAP>" fun keymap o => { o with keymap })),
    ("log-file",
      .option (pathParameter "--log-file <PATH>" fun path o => { o with logFile := some path }))]

/-- The command line of the disassembler, which names the file to list. -/
def disassemblerGrammar : Grammar String where
  operand := pathParameter "<FILE>" fun path _ => path
  items := []

/-- Reads the command line of the emulator. -/
def Options.ofArguments (arguments : List String) : Except Stop Options :=
  emulatorGrammar.read {} arguments

end Chip8.CommandLine
