import Chip8.CommandLine.Options
import Chip8.Files
import Chip8.Font.Source
import Chip8.Text.Basic

/-!
# Loading a machine

The machine that a command line asks for: the font first, if one is named, then the program.
-/

namespace Chip8

/-- Why a font file gives no font. -/
inductive FontFileError where
  | unreadable (e : FileError)
  | refused (e : Font.SourceError)
  deriving DecidableEq, Repr

/-- An error of the file is named as such and then told. -/
def FontFileError.message : FontFileError → String
  | unreadable e => "io error: " ++ e.message ++ ": " ++ e.message
  | refused e => e.message

/-- Why there is no machine. Each carries the path of the file at fault. -/
inductive LoadError where
  | font (path : String) (e : FontFileError)
  | unreadable (path : String) (e : FileError)
  | tooLarge (path : String) (e : ProgramTooLarge)
  deriving DecidableEq, Repr

def LoadError.message : LoadError → String
  | font path e => "failed to load font " ++ path ++ ": " ++ e.message
  | unreadable path e => "failed to read program " ++ path ++ ": " ++ e.message
  | tooLarge path e => "failed to load program " ++ path ++ ": " ++ e.message

/-- The font in a file of the given content. -/
def Font.ofFile (content : Except FileError (List Byte)) : Except FontFileError Font :=
  match content with
  | .error e => .error (.unreadable e)
  | .ok bytes =>
    match Text.decoded? bytes with
    | none => .error (.unreadable .notText)
    | some source => (Font.ofSource source).mapError .refused

/-- The machine with a program from a file of the given content. -/
def Machine.ofFile (font : Font) (path : String) (content : Except FileError (List Byte)) :
    Except LoadError Machine :=
  match content with
  | .error e => .error (.unreadable path e)
  | .ok program => ((Machine.ofFont font).load program).mapError (.tooLarge path)

namespace CommandLine.Options

variable {m : Type → Type} [Monad m] [MonadFiles m]

def readFont (o : Options) : m (Except LoadError Font) := do
  match o.font with
  | none => return .ok .standard
  | some path =>
    return (Font.ofFile (← MonadFiles.read path)).mapError (.font path)

/-- The machine with the font and the program that the options name. The program is read
only if the font is a good one. -/
def readMachine (o : Options) : m (Except LoadError Machine) := do
  match ← o.readFont with
  | .error e => return .error e
  | .ok font => return Machine.ofFile font o.rom (← MonadFiles.read o.rom)

end CommandLine.Options

end Chip8
