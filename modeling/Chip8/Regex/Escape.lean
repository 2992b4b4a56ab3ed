import Chip8.Regex.Reader
import Chip8.Regex.Syntax

/-!
# Single characters and escapes

What is read in one piece: a character, or what a backslash begins. An escape is a character by
its number or name, a class or property of characters, or a condition on what is around it.
-/

namespace Chip8.Regex

/-- A smallest part of a pattern. -/
inductive Primitive where
  | literal (l : Literal)
  | dot (span : Span)
  | assertion (span : Span) (assertion : Assertion)
  | property (p : Property)
  | perl (span : Span) (negated : Bool) (perlClass : PerlClass)
  deriving DecidableEq, Repr

namespace Primitive

def node : Primitive → Node
  | literal l => .literal l
  | dot span => .dot span
  | assertion span a => .assertion span a
  | property p => .property p
  | perl span negated perlClass => .perl span negated perlClass

def span (p : Primitive) : Span := p.node.span

end Primitive

namespace Reader

def isHexDigit (c : Char) : Bool :=
  c.isDigit || ('a' ≤ c && c ≤ 'f') || ('A' ≤ c && c ≤ 'F')

def hexDigitValue (c : Char) : Nat :=
  if c.isDigit then c.toNat - '0'.toNat else c.toLower.toNat - 'a'.toNat + 10

/-- The character whose number the digits are. -/
def charOfHex? (digits : List Char) : Option Char :=
  let n := digits.foldl (fun n c => n * 16 + hexDigitValue c) 0
  if n.isValidChar then some (Char.ofNat n) else none

/-- Takes a fixed number of digits, and stays at the last one. -/
def hexDigits : Nat → List Char → Reader (List Char)
  | 0, taken => return taken.reverse
  | n + 1, taken => do
    unless taken.isEmpty do next
    let k ← get
    match k.char? with
    | none => fail .escapeIncomplete k.here
    | some c => if isHexDigit c then hexDigits n (c :: taken) else fail .hexDigit k.charSpan

/-- Takes digits in braces. -/
def bracedHex (start : Position) : Reader Literal := do
  let brace := (← get).charSpan
  next
  let digits ← takeAll isHexDigit
  let k ← get
  match k.char? with
  | none => fail .escapeIncomplete (k.since brace.start)
  | some '}' => do
    next
    let span := (← get).since start
    if digits.isEmpty then fail .hexEmpty ⟨brace.start, span.stop⟩
    match charOfHex? digits with
    | none => fail .hexNoCharacter ⟨brace.stop, k.position⟩
    | some char => return { span, char }
  | some _ => fail .hexDigit k.charSpan

/-- Takes a character by its number, with so many digits if there are no braces. -/
def hexLiteral (start : Position) (count : Nat) : Reader Literal := do
  next
  let k ← get
  match k.char? with
  | none => fail .escapeIncomplete k.here
  | some '{' => bracedHex start
  | some _ => do
    let digits ← hexDigits count []
    next
    let span := (← get).since start
    match charOfHex? digits with
    | none => fail .hexNoCharacter ⟨k.position, span.stop⟩
    | some char => return { span, char, asByte := count = 2 }

/-- The name of a property, unless it is given a value. -/
def propertyName? (name : List Char) : Option (List Char) :=
  if name.contains ':' || name.contains '=' then none else some name

/-- Takes a property, of one letter or in braces. -/
def property (start : Position) : Reader Property := do
  next
  let k ← get
  match k.char? with
  | none => fail .escapeIncomplete k.here
  | some '{' => do
    next
    let name ← takeAll (· ≠ '}')
    let k ← get
    if k.atEnd then fail .escapeIncomplete k.here
    step
    return ⟨(← get).since start, propertyName? name⟩
  | some '\\' => fail .propertyName k.charSpan
  | some c => do
    next
    return ⟨(← get).since start, some [c]⟩

def wordEdges : List (String × WordEdge) :=
  [("start", .start), ("end", .stop), ("start-half", .startHalf), ("end-half", .stopHalf)]

/-- Takes the kind of a word boundary in braces. Braces with anything but letters and dashes are
a count, which is left alone. -/
def wordEdge? (start : Position) : Reader (Option WordEdge) := do
  let isWordChar (c : Char) : Bool := c.isAlpha || c = '-'
  let brace ← get
  next
  let k ← get
  match k.char? with
  | none => fail .braceUnclosed (k.since start)
  | some c =>
    if isWordChar c then
      let name ← takeAll isWordChar
      let k' ← get
      if k'.char? ≠ some '}' then fail .boundaryUnclosed (k'.since brace.position)
      step
      match wordEdges.lookup (String.ofList name) with
      | some edge => return some edge
      | none => fail .boundaryUnknown ⟨k.position, k'.position⟩
    else
      set brace
      return none

/-- Characters with a name of one letter. -/
def namedChars : List (Char × Char) :=
  [('a', '\x07'), ('f', '\x0c'), ('t', '\t'), ('n', '\n'), ('r', '\r'), ('v', '\x0b')]

/-- Assertions with a name of one character. -/
def namedAssertions : List (Char × Assertion) :=
  [('A', .textStart), ('z', .textEnd), ('b', .word .boundary), ('B', .word .noBoundary),
    ('<', .word .start), ('>', .word .stop)]

/-- Classes with a name of one letter, which is a capital if they are negated. -/
def namedClasses : List (Char × PerlClass) := [('d', .digit), ('s', .space), ('w', .word)]

/-- Whether a backslash in front of a character takes away any meaning it has. -/
def isEscapable (c : Char) : Bool := c.toNat < 0x80 && !c.isAlphanum && c ≠ '<' && c ≠ '>'

/-- Takes an escape of one character. -/
def shortEscape (start : Position) (c : Char) : Reader Primitive := do
  step
  let k ← get
  let span := k.since start
  if isEscapable c then return .literal { span, char := c }
  else if let some char := namedChars.lookup c then return .literal { span, char }
  else if let some perlClass := namedClasses.lookup c.toLower then
    return .perl span c.isUpper perlClass
  else
    match namedAssertions.lookup c with
    | none => fail .escapeUnknown span
    | some a =>
      if a = .word .boundary ∧ k.char? = some '{' then
        match ← wordEdge? start with
        | some edge => return .assertion ((← get).since start) (.word edge)
        | none => return .assertion span a
      else return .assertion span a

/-- Takes what a backslash begins. -/
def escape : Reader Primitive := do
  let start := (← get).position
  step
  let k ← get
  match k.char? with
  | none => fail .escapeIncomplete (k.since start)
  | some 'x' => .literal <$> hexLiteral start 2
  | some 'u' => .literal <$> hexLiteral start 4
  | some 'U' => .literal <$> hexLiteral start 8
  | some 'p' | some 'P' => .property <$> property start
  | some c =>
    if c.isDigit then fail .backreference ⟨start, k.charSpan.stop⟩ else shortEscape start c

/-- Takes a character that stands for itself. -/
def plainChar (c : Char) : Reader Primitive := do
  let k ← get
  step
  return .literal { span := k.charSpan, char := c }

/-- Takes a character outside of sets. -/
def primitive (c : Char) : Reader Primitive := do
  let span := (← get).charSpan
  match c with
  | '\\' => escape
  | '.' => do step; return .dot span
  | '^' => do step; return .assertion span .lineStart
  | '$' => do step; return .assertion span .lineEnd
  | c => plainChar c

end Reader

end Chip8.Regex
