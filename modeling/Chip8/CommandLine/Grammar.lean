import Chip8.CommandLine.Usage

/-!
# Reading a command line

A command line has one operand, options with a value, flags, and requests for help or the
version. It is read from the left and the first problem ends it. A value is looked at only
when the next option or operand begins or the line ends, so an argument that does not exist
is reported before a bad value in front of it. After `--` everything is an operand.
-/

namespace Chip8.CommandLine

/-- Something that takes a value. -/
structure Parameter (α : Type) where
  name : String
  /-- Puts a value in its place, or refuses it. -/
  set : String → α → Except UsageError α

inductive Item (α : Type) where
  | option (parameter : Parameter α)
  | flag (name : String) (set : α → α)
  | help
  | version

/-- The name under which problems with an item are reported. -/
def Item.name {α : Type} : Item α → String
  | option p => p.name
  | flag name _ => name
  | help => "--help"
  | version => "--version"

structure Grammar (α : Type) where
  operand : Parameter α
  /-- Items by their long names, without dashes. -/
  items : List (String × Item α)

def Grammar.item? {α : Type} (g : Grammar α) (name : String) : Option (Item α) :=
  ([("help", Item.help), ("version", Item.version)] ++ g.items).lookup name

/-- What an argument looks like. -/
inductive Shape where
  /-- A long name with the value attached to it, if any. -/
  | long (name : String) (value : Option String)
  /-- A dash and at least one letter, of which the first counts. -/
  | short (letter : Char)
  | plain
  deriving DecidableEq, Repr

def Shape.ofArgument (argument : String) : Shape :=
  match argument.toList with
  | '-' :: '-' :: rest =>
    let value := match rest.dropWhile (· != '=') with
      | [] => none
      | _ :: value => some (String.ofList value)
    .long (String.ofList (rest.takeWhile (· != '='))) value
  | '-' :: letter :: _ => .short letter
  | _ => .plain

/-- How far a command line has been read. -/
structure Reading (α : Type) where
  result : α
  /-- Names of the parameters and flags that are settled. -/
  given : List String := []
  /-- The parameter whose value comes next or has not been looked at yet. -/
  pending : Option (Parameter α × Option String) := none
  operandSeen : Bool := false
  operandsOnly : Bool := false

namespace Reading

variable {α : Type}

/-- Settles a parameter with its value. -/
def settleWith (r : Reading α) (p : Parameter α) (value : String) : Except Stop (Reading α) :=
  if p.name ∈ r.given then .error (.usage (.repeated p.name))
  else
    match p.set value r.result with
    | .error e => .error (.usage e)
    | .ok result => .ok { r with result, given := p.name :: r.given }

/-- Settles the pending parameter. -/
def settle (r : Reading α) : Except Stop (Reading α) :=
  match r.pending with
  | none => .ok r
  | some (p, none) => .error (.usage (.missingValue p.name))
  | some (p, some value) => { r with pending := none }.settleWith p value

def takeOperand (g : Grammar α) (r : Reading α) (argument : String) :
    Except Stop (Reading α) :=
  if r.operandSeen then .error (.usage (.unexpectedArgument argument))
  else do
    let r ← r.settle
    return { r with pending := some (g.operand, some argument), operandSeen := true }

def takeItem (r : Reading α) (item : Item α) (value : Option String) :
    Except Stop (Reading α) :=
  match item, value with
  | .option p, some value => do (← r.settle).settleWith p value
  | .option p, none => do return { (← r.settle) with pending := some (p, none) }
  | item, some value => .error (.usage (.unneededValue value item.name))
  | .flag name set, none => do
    let r ← r.settle
    if name ∈ r.given then .error (.usage (.repeated name))
    else return { r with result := set r.result, given := name :: r.given }
  | .help, none => do
    let _ ← r.settle
    .error (.help true)
  | .version, none => do
    let _ ← r.settle
    .error .version

def takeShort (r : Reading α) (letter : Char) : Except Stop (Reading α) :=
  match letter with
  | 'h' => do
    let _ ← r.settle
    .error (.help false)
  | 'V' => r.takeItem .version none
  | _ => .error (.usage (.unexpectedArgument ("-" ++ String.singleton letter)))

/-- Reads one argument. -/
def take (g : Grammar α) (r : Reading α) (argument : String) : Except Stop (Reading α) :=
  if r.operandsOnly then r.takeOperand g argument
  else if argument = "--" then .ok { r with operandsOnly := true }
  else
    match Shape.ofArgument argument with
    | .long name value =>
      match g.item? name with
      | some item => r.takeItem item value
      | none => .error (.usage (.unexpectedArgument ("--" ++ name)))
    | .short letter => r.takeShort letter
    | .plain =>
      match r.pending with
      | some (p, none) => .ok { r with pending := some (p, some argument) }
      | _ => r.takeOperand g argument

end Reading

/-- Reads a whole command line, starting from the values that hold by default. -/
def Grammar.read {α : Type} (g : Grammar α) (start : α) (arguments : List String) :
    Except Stop α := do
  let r ← arguments.foldlM (Reading.take g) { result := start }
  let r ← r.settle
  if r.operandSeen then return r.result
  else .error (.usage (.missingOperand g.operand.name))

end Chip8.CommandLine
