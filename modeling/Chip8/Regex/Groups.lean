import Chip8.Regex.Brackets
import Chip8.Text.Basic

/-!
# Groups, alternatives and repetition

A whole pattern is read from the left. The groups that are open are kept on a stack, together
with what stands before them and with the alternatives read so far.
-/

namespace Chip8.Regex

/-- Parts that stand one after the other, the last one first. -/
structure Parts where
  start : Position
  nodes : List Node := []

namespace Parts

def push (p : Parts) (n : Node) : Parts := { p with nodes := n :: p.nodes }

def node (p : Parts) (stop : Position) : Node :=
  match p.nodes with
  | [] => .empty ⟨p.start, stop⟩
  | [n] => n
  | nodes => .concat ⟨p.start, stop⟩ nodes.reverse

end Parts

/-- What is still open around the parts that are being read. -/
inductive Frame where
  /-- A group, the parts before it, and whether blanks are ignored outside of it. -/
  | group (span : Span) (flags : FlagList) (captures : Bool) (outer : Parts) (ignoresBlanks : Bool)
  /-- Alternatives, the last one first. -/
  | alternatives (start : Position) (branches : List Node)

/-- What an opening parenthesis begins. -/
inductive Opening where
  | flags (span : Span) (flags : FlagList)
  | group (flags : FlagList) (name : Option (List Char × Span)) (captures : Bool)

/-- How far a pattern has been read. -/
structure Progress where
  parts : Parts
  stack : List Frame := []
  /-- The names of the groups so far. -/
  names : List (List Char × Span) := []

namespace Reader

/-- The letters of the flags. -/
def flagLetters : List (Char × Flag) :=
  [('i', .ignoreCase), ('m', .multiLine), ('s', .dotMatchesNewLine), ('U', .swapGreed),
    ('u', .unicode), ('R', .crlf), ('x', .ignoreBlanks)]

/-- A flag or the sign that turns flags off, which may stand once each. -/
def flagItem (taken : List (Option Flag × Span)) (c : Char) : Reader (Option Flag × Span) := do
  let span := (← get).charSpan
  if c = '-' then
    match taken.lookup none with
    | some earlier => throw ⟨.negationTaken, span, some earlier⟩
    | none => return (none, span)
  else
    match flagLetters.lookup c with
    | none => fail .flagUnknown span
    | some flag =>
      match taken.lookup (some flag) with
      | some earlier => throw ⟨.flagTaken, span, some earlier⟩
      | none => return (some flag, span)

/-- Takes flags up to a colon or a closing parenthesis. The last one taken comes first. -/
def flagItems : Nat → List (Option Flag × Span) → Reader FlagList
  | 0, taken => return (taken.map (·.1)).reverse
  | n + 1, taken => do
    let k ← get
    match k.char? with
    | none => fail .flagMissing k.here
    | some ':' | some ')' =>
      match taken with
      | (none, span) :: _ => fail .negationDangling span
      | _ => return (taken.map (·.1)).reverse
    | some c => do
      let item ← flagItem taken c
      step
      let k ← get
      if k.atEnd then fail .flagMissing k.here
      flagItems n (item :: taken)

/-- Whether a character can stand in the name of a group, and as its first one. -/
def isNameChar (first : Bool) (c : Char) : Bool :=
  c = '_' || Text.isLetter c ||
    (!first && (c = '.' || c = '[' || c = ']' || Text.isNumeral c))

def nameChars : Nat → List Char → Reader (List Char)
  | 0, taken => return taken.reverse
  | n + 1, taken => do
    let k ← get
    match k.char? with
    | none | some '>' => return taken.reverse
    | some c =>
      if isNameChar taken.isEmpty c then
        step
        nameChars n (c :: taken)
      else fail .nameCharacter k.charSpan

/-- Takes the name of a group, which no other group may have. -/
def groupName (names : List (List Char × Span)) : Reader (List Char × Span) := do
  let k ← get
  let name ← nameChars k.rest.length []
  let k' ← get
  if k'.atEnd then fail .nameUnclosed k'.here
  step
  if name.isEmpty then fail .nameEmpty k.here
  let span := k'.since k.position
  match names.lookup name with
  | some earlier => throw ⟨.nameTaken, span, some earlier⟩
  | none => return (name, span)

/-- Takes an opening parenthesis and what belongs to it. -/
def opening (names : List (List Char × Span)) : Reader Opening := do
  let paren := (← get).charSpan
  next
  if ← ["?=", "?!", "?<=", "?<!"].anyM take? then
    fail .lookAround ((← get).since paren.start)
  let inner := (← get).here
  if ← ["?P<", "?<"].anyM take? then
    return .group [] (some (← groupName names)) true
  else if ← take? "?" then
    let k ← get
    if k.atEnd then fail .groupUnclosed paren
    let flags ← flagItems k.rest.length []
    let closed := (← get).char? = some ')'
    step
    if closed then
      if flags.isEmpty then fail .nothingToRepeat inner
      return .flags ((← get).since paren.start) flags
    else return .group flags none false
  else return .group [] none true

/-- A number, or what is wrong with it. -/
def number : Reader (Except Fault Nat) := do
  let _ ← takeAll Text.isBlank
  let start := (← get).position
  let digits ← takeAll Char.isDigit
  let span := (← get).since start
  let _ ← takeAll Text.isBlank
  let n := digits.foldl (fun n c => n * 10 + (c.toNat - '0'.toNat)) 0
  if digits.isEmpty then return .error ⟨.countMissing, span, none⟩
  else if 0xFFFFFFFF < n then return .error ⟨.numberTooLarge, span, none⟩
  else return .ok n

/-- Takes the part that an operator repeats away from the others. -/
def repeated (p : Parts) : Reader (Node × Parts) := do
  let k ← get
  match p.nodes with
  | [] | .empty _ :: _ | .flags _ _ :: _ => fail .nothingToRepeat k.here
  | node :: nodes => return (node, { p with nodes })

/-- The parts with a repetition at the end, which reaches up to here. -/
def pushRepetition (p : Parts) (node : Node) (min : Nat) (max : Option Nat) : Reader Parts := do
  return p.push (.repetition ((← get).since node.span.start) min max node)

/-- Takes an operator of one character. A question mark behind it asks for short matches, which
makes no difference to whether there is one. -/
def shortRepetition (p : Parts) (min : Nat) (max : Option Nat) : Reader Parts := do
  let (node, p) ← repeated p
  step
  if (← get).char? = some '?' then step
  pushRepetition p node min max

/-- Takes a count in braces. -/
def countedRepetition (p : Parts) : Reader Parts := do
  let start := (← get).position
  let (node, p) ← repeated p
  let goOn : Reader Unit := do
    let k ← get
    if k.atEnd then fail .countUnclosed (k.since start)
  next
  goOn
  let first ← number
  goOn
  let (min, max) ←
    if (← get).char? = some ',' then do
      next
      goOn
      if (← get).char? = some '}' then pure (← liftExcept first, none)
      else do
        let min ← liftExcept first
        pure (min, some (← liftExcept (← number)))
    else do
      let min ← liftExcept first
      pure (min, some min)
  let k ← get
  if k.char? ≠ some '}' then fail .countUnclosed (k.since start)
  next
  if (← get).char? = some '?' then step
  if max.any (· < min) then fail .countReversed ((← get).since start)
  pushRepetition p node min max

/-- Opens a group, or applies flags to what follows. -/
def openGroup (p : Progress) : Reader Progress := do
  let paren := (← get).charSpan
  let opened ← opening p.names
  let k ← get
  match opened with
  | .flags span flags => do
    set { k with ignoresBlanks := (flags.setting? .ignoreBlanks).getD k.ignoresBlanks }
    return { p with parts := p.parts.push (.flags span flags) }
  | .group flags name captures => do
    set { k with ignoresBlanks := (flags.setting? .ignoreBlanks).getD k.ignoresBlanks }
    return {
      parts := ⟨k.position, []⟩
      stack := .group paren flags captures p.parts k.ignoresBlanks :: p.stack
      names := name.toList ++ p.names }

/-- Begins another alternative. -/
def nextAlternative (p : Progress) : Reader Progress := do
  let k ← get
  step
  let branch := p.parts.node k.position
  let parts := ⟨(← get).position, []⟩
  match p.stack with
  | .alternatives start branches :: stack =>
    return { p with parts, stack := .alternatives start (branch :: branches) :: stack }
  | stack => return { p with parts, stack := .alternatives p.parts.start [branch] :: stack }

/-- The alternatives up to here as one part, and the frames around them. -/
def gathered (p : Progress) (stop : Position) : List Frame × Node :=
  let last := p.parts.node stop
  match p.stack with
  | .alternatives start branches :: stack =>
    (stack, .alternation ⟨start, stop⟩ (last :: branches).reverse)
  | stack => (stack, last)

/-- Closes a group. -/
def closeGroup (p : Progress) : Reader Progress := do
  let k ← get
  match gathered p k.position with
  | (.group span flags captures outer ignoresBlanks :: stack, node) => do
    step
    modify fun k => { k with ignoresBlanks }
    let span := (← get).since span.start
    return { p with parts := outer.push (.group span flags captures node), stack }
  | _ => fail .groupUnopened k.charSpan

/-- The whole pattern, if no group is open. -/
def close (p : Progress) : Reader Node := do
  match gathered p (← get).position with
  | ([], node) => return node
  | (.group span .. :: _, _) => fail .groupUnclosed span
  | (.alternatives .. :: _, node) => return node

/-- Reads on to the end of the pattern. Each round takes a character at least. -/
def remaining : Nat → Progress → Reader Node
  | 0, p => close p
  | n + 1, p => do
    modify Cursor.skip
    let atParts (f : Parts → Reader Parts) : Reader Progress := do
      return { p with parts := ← f p.parts }
    match (← get).char? with
    | none => close p
    | some '(' => remaining n (← openGroup p)
    | some ')' => remaining n (← closeGroup p)
    | some '|' => remaining n (← nextAlternative p)
    | some '[' => remaining n (← atParts fun parts => return parts.push (← bracketSet))
    | some '?' => remaining n (← atParts (shortRepetition · 0 (some 1)))
    | some '*' => remaining n (← atParts (shortRepetition · 0 none))
    | some '+' => remaining n (← atParts (shortRepetition · 1 none))
    | some '\x7b' => remaining n (← atParts countedRepetition)
    | some c => remaining n (← atParts fun parts => return parts.push (← primitive c).node)

end Reader

/-- The structure of a pattern. -/
def Node.ofPattern (pattern : List Char) : Except Fault Node :=
  (Reader.remaining (pattern.length + 1) ⟨⟨{}, []⟩, [], []⟩).run' { rest := pattern }

end Chip8.Regex
