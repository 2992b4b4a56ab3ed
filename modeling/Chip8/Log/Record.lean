import Chip8.Text.Control

/-!
# Log records

A record as it stands in a log, without the time in front of it. There are five levels from the
gravest to the most detailed; a limit of `none` admits nothing.
-/

namespace Chip8.Log

inductive Level where
  | error
  | warn
  | info
  | debug
  | trace
  deriving DecidableEq, Repr

namespace Level

def name : Level → String
  | error => "ERROR"
  | warn => "WARN"
  | info => "INFO"
  | debug => "DEBUG"
  | trace => "TRACE"

/-- How detailed the level is. -/
def detail : Level → Nat
  | error => 1
  | warn => 2
  | info => 3
  | debug => 4
  | trace => 5

/-- Whether a limit lets records of this level through. -/
def admittedBy (level : Level) (limit : Option Level) : Bool :=
  level.detail ≤ limit.elim 0 detail

end Level

structure Record where
  level : Level
  /-- The part of the program that speaks. -/
  target : String
  message : String
  deriving DecidableEq, Repr

namespace Record

/-- Further lines of a message are indented. -/
def indented (message : List Char) : List Char :=
  message.flatMap fun c => if c = '\n' then '\n' :: List.replicate 4 ' ' else [c]

/-- Level, target and message on lines of their own. Levels are filled up to the width of the
longest, and only the plain part of it all is written. -/
def text (r : Record) : String :=
  Text.plain (String.ofList (r.level.name.toList.rightpad 5 ' ') ++ " " ++ r.target ++ "] " ++
    String.ofList (indented r.message.toList) ++ "\n")

end Record

end Chip8.Log
