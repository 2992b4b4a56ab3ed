import Chip8.Log.Record
import Chip8.Regex.Basic
import Chip8.Text.Basic

/-!
# Log filters

Which records are logged. A filter is written as directives between commas, such as
`info,chipterm_tui=off`, and after a slash a regular expression that must match somewhere in a
message. A directive limits the targets that begin with its name, or all targets if it has none;
of those that apply to a target the one with the longest name counts. What cannot be read is
dropped with a warning.
-/

namespace Chip8.Log

structure Directive where
  name : Option String
  /-- The most detailed level that is logged. -/
  limit : Option Level
  deriving DecidableEq, Repr

/-- What is wrong with the text of a filter. -/
inductive FilterWarning where
  | unreadable (text : String)
  | tooManySlashes (text : String)
  | badPattern (e : Regex.PatternError)
  deriving DecidableEq, Repr

def FilterWarning.message (w : FilterWarning) : String :=
  let complaint := match w with
    | unreadable text => "invalid logging spec '" ++ text ++ "'"
    | tooManySlashes text => "invalid logging spec '" ++ text ++ "' (too many '/'s)"
    | badPattern e => "invalid regex filter - " ++ e.message
  "warning: " ++ complaint ++ ", ignoring it"

/-- The limit that a word names, in either case. -/
def limit? (word : String) : Option (Option Level) :=
  [("off", none), ("error", some Level.error), ("warn", some .warn), ("info", some .info),
    ("debug", some .debug), ("trace", some .trace)].lookup word.toLower

namespace Directive

/-- A lone word is a limit for all targets or else the name of targets without a limit. -/
def ofWord (word : String) : Directive :=
  match limit? word with
  | some limit => ⟨none, limit⟩
  | none => ⟨some word, some .trace⟩

/-- Reads a directive, which has the form `limit`, `name`, `name=` or `name=limit`. -/
def ofText (text : List Char) : Except FilterWarning Directive :=
  match text.splitOn '=' with
  | [word] => .ok (ofWord (String.ofList word))
  | [name, value] =>
    let name := String.ofList name
    match String.ofList (Text.trim value) with
    | "" => .ok ⟨some name, some .trace⟩
    | word =>
      match limit? word with
      | some limit => .ok ⟨some name, limit⟩
      | none => .error (.unreadable word)
  | _ => .error (.unreadable (String.ofList text))

/-- Bytes of the name. -/
def reach (d : Directive) : Nat := (d.name.getD "").utf8ByteSize

def appliesTo (d : Directive) (target : String) : Bool :=
  match d.name with
  | some name => name.toList.isPrefixOf target.toList
  | none => true

end Directive

structure Filter where
  directives : List Directive := []
  /-- What must match somewhere in a message. -/
  content : Option Regex := none
  deriving DecidableEq, Repr

namespace Filter

/-- Adds a directive in place of one of the same name. -/
def put (f : Filter) (d : Directive) : Filter :=
  { f with directives :=
      if f.directives.any fun old => old.name = d.name then
        f.directives.map fun old => if old.name = d.name then d else old
      else f.directives ++ [d] }

/-- Without directives, errors are logged. -/
def inForce (f : Filter) : List Directive :=
  if f.directives.isEmpty then [⟨none, some .error⟩] else f.directives

/-- The longer of two directives, or the later one if they are equally long. -/
def longer (best : Option Directive) (d : Directive) : Option Directive :=
  match best with
  | some b => if d.reach < b.reach then some b else some d
  | none => some d

/-- The limit for a target. -/
def limit (f : Filter) (target : String) : Option Level :=
  ((f.inForce.filter (·.appliesTo target)).foldl longer none).elim none (·.limit)

def admits (f : Filter) (r : Record) : Bool :=
  r.level.admittedBy (f.limit r.target) && f.content.all (·.occursIn r.message)

/-- Reads the directives of a filter. -/
def ofDirectives (text : List Char) : Filter × List FilterWarning :=
  ((text.splitOn ',').map Text.trim).foldl (fun (f, warnings) part =>
    if part.isEmpty then (f, warnings)
    else
      match Directive.ofText part with
      | .ok d => (f.put d, warnings)
      | .error w => (f, warnings ++ [w])) ({}, [])

/-- Reads a filter. -/
def ofText (text : String) : Filter × List FilterWarning :=
  match text.toList.splitOn '/' with
  | [directives] => ofDirectives directives
  | [directives, content] =>
    let (f, warnings) := ofDirectives directives
    match Regex.ofText (String.ofList content) with
    | .ok regex => ({ f with content := some regex }, warnings)
    | .error e => (f, warnings ++ [.badPattern e])
  | _ => ({}, [.tooManySlashes text])

end Filter

end Chip8.Log
