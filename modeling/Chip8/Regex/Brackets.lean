import Chip8.Regex.Escape

/-!
# Sets in brackets

A set of characters lists characters, ranges, classes and further sets, and combines such lists
by operators of equal rank from the left. What is open while a set is read is kept on a stack.
-/

namespace Chip8.Regex

/-- Members of a set that have been read, the last one first. -/
structure Members where
  span : Span
  nodes : List SetNode := []

namespace Members

def push (m : Members) (n : SetNode) : Members :=
  { span := ⟨if m.nodes.isEmpty then n.span.start else m.span.start, n.span.stop⟩
    nodes := n :: m.nodes }

def node (m : Members) : SetNode :=
  match m.nodes with
  | [] => .empty m.span
  | [n] => n
  | nodes => .union m.span nodes.reverse

end Members

/-- Something of a set that waits for the rest of it. -/
inductive Pending where
  /-- An opened set, and the members around it that come before. -/
  | opened (span : Span) (negated : Bool) (outer : Members)
  /-- An operator and what stands left of it. -/
  | operator (operation : SetOperation) (left : SetNode)

/-- The operand of a pending operator together with its other one. -/
def Pending.close : List Pending → SetNode → List Pending × SetNode
  | .operator operation left :: stack, right => (stack, .operation operation left right)
  | stack, right => (stack, right)

/-- The span of the innermost opened set. -/
def Pending.innermost? : List Pending → Option Span
  | [] => none
  | .opened span _ _ :: _ => some span
  | .operator _ _ :: stack => Pending.innermost? stack

/-- The ranges of the classes that have a name. -/
def namedRanges : List (String × List (Char × Char)) :=
  [("alnum", [('0', '9'), ('A', 'Z'), ('a', 'z')]),
    ("alpha", [('A', 'Z'), ('a', 'z')]),
    ("ascii", [('\x00', '\x7f')]),
    ("blank", [('\t', '\t'), (' ', ' ')]),
    ("cntrl", [('\x00', '\x1f'), ('\x7f', '\x7f')]),
    ("digit", [('0', '9')]),
    ("graph", [('!', '~')]),
    ("lower", [('a', 'z')]),
    ("print", [(' ', '~')]),
    ("punct", [('!', '/'), (':', '@'), ('[', '\x60'), ('\x7b', '~')]),
    ("space", [('\t', '\r'), (' ', ' ')]),
    ("upper", [('A', 'Z')]),
    ("word", [('0', '9'), ('A', 'Z'), ('_', '_'), ('a', 'z')]),
    ("xdigit", [('0', '9'), ('A', 'F'), ('a', 'f')])]

/-- What follows `[` in a class with a name: whether it is negated, the name, and the number of
characters up to the end. -/
def className? (rest : List Char) : Option (Bool × String × Nat) :=
  match rest with
  | ':' :: rest =>
    let negated := rest.head? = some '^'
    let rest := if negated then rest.drop 1 else rest
    let name := rest.takeWhile (· ≠ ':')
    if [':', ']'].isPrefixOf (rest.drop name.length) then
      some (negated, String.ofList name, name.length + if negated then 4 else 3)
    else none
  | _ => none

namespace Reader

def setUnclosed {α : Type} (stack : List Pending) : Reader α := do
  fail .setUnclosed ((Pending.innermost? stack).getD (← get).here)

/-- Takes a class with a name if there is one, starting at its bracket. -/
def namedClass? : Reader (Option SetNode) := do
  let k ← get
  match className? (k.rest.drop 1) with
  | none => return none
  | some (negated, name, size) =>
    match namedRanges.lookup name with
    | none => return none
    | some ranges => do
      set (k.steps (size + 1))
      return some (.named ((← get).since k.position) negated ranges)

/-- Takes the dashes at the beginning of a set. -/
def leadingDashes (start : Position) : Nat → Members → Reader Members
  | 0, m => return m
  | n + 1, m => do
    let k ← get
    if k.char? = some '-' then
      next
      if (← get).atEnd then fail .setUnclosed (.point start)
      leadingDashes start n (m.push (.literal { span := k.charSpan, char := '-' }))
    else return m

/-- Opens a set. Dashes at its beginning, or else a closing bracket, are members. -/
def openSet (outer : Members) : Reader (Pending × Members) := do
  let start := (← get).position
  let mustGoOn : Reader Unit := do
    next
    let k ← get
    if k.atEnd then fail .setUnclosed (k.since start)
  mustGoOn
  let negated := (← get).char? = some '^'
  if negated then mustGoOn
  let k ← get
  let members ← leadingDashes start k.rest.length { span := k.here }
  let k ← get
  if members.nodes.isEmpty ∧ k.char? = some ']' then
    mustGoOn
    let members := members.push (.literal { span := k.charSpan, char := ']' })
    return (.opened ((← get).since start) negated outer, members)
  else return (.opened (k.since start) negated outer, members)

/-- Takes a character or an escape in a set. -/
def member (c : Char) : Reader Primitive := if c = '\\' then escape else plainChar c

def memberNode : Primitive → Reader SetNode
  | .literal l => return .literal l
  | .property p => return .property p
  | .perl span negated perlClass => return .perl span negated perlClass
  | p => fail .setEscape p.span

def boundary : Primitive → Reader Literal
  | .literal l => return l
  | p => fail .rangeBoundary p.span

/-- Takes a single member or a range. -/
def memberOrRange (stack : List Pending) (c : Char) : Reader SetNode := do
  let first ← member c
  modify Cursor.skip
  let k ← get
  if k.atEnd then setUnclosed stack
  if k.char? ≠ some '-' ∨ k.peek? = some ']' ∨ k.peek? = some '-' then memberNode first
  else
    next
    match (← get).char? with
    | none => setUnclosed stack
    | some c => do
      let last ← member c
      let a ← boundary first
      let b ← boundary last
      if b.char < a.char then fail .rangeReversed (first.span.upTo last.span)
      return .range a b

/-- The operator that two equal characters make. -/
def operation? : List Char → Option SetOperation
  | '&' :: '&' :: _ => some .intersection
  | '-' :: '-' :: _ => some .difference
  | '~' :: '~' :: _ => some .symmetricDifference
  | _ => none

/-- Reads on in a set until the outermost one is closed. Each round takes a character at
least. -/
def setItems : Nat → List Pending → Members → Reader Node
  | 0, stack, _ => setUnclosed stack
  | n + 1, stack, members => do
    modify Cursor.skip
    let k ← get
    match k.char? with
    | none => setUnclosed stack
    | some '[' => do
      match ← namedClass? with
      | some node => setItems n stack (members.push node)
      | none => do
        let (opened, inner) ← openSet members
        setItems n (opened :: stack) inner
    | some ']' => do
      let (stack, content) := Pending.close stack members.node
      step
      match stack with
      | .opened span negated outer :: stack =>
        let span := (← get).since span.start
        if stack.isEmpty then return .set span negated content
        else setItems n stack (outer.push (.bracketed span negated content))
      | _ => return .set members.span false content
    | some c => do
      match operation? k.rest with
      | some operation => do
        let (stack, left) := Pending.close stack members.node
        step
        step
        setItems n (.operator operation left :: stack) { span := (← get).here }
      | none => do
        let node ← memberOrRange stack c
        setItems n stack (members.push node)

/-- Takes a set, starting at its bracket. -/
def bracketSet : Reader Node := do
  let k ← get
  let (opened, members) ← openSet { span := k.here }
  setItems (k.rest.length + 1) [opened] members

end Reader

end Chip8.Regex
