import Chip8.Regex.Fault
import Chip8.Regex.Pattern

/-!
# What a pattern means

The flags in force decide what the parts of a pattern match. Flags hold up to the end of the
group they are in. Matching is by characters: there are no tables for the properties of
characters or their cases, and a pattern that needs them is refused. Without the Unicode flag
classes are sets of bytes, which must be those of ASCII characters.
-/

namespace Chip8.Regex

/-- The flags that decide what a part matches. -/
structure Mode where
  ignoreCase : Bool := false
  multiLine : Bool := false
  dotMatchesNewLine : Bool := false
  unicode : Bool := true
  crlf : Bool := false
  deriving DecidableEq, Repr

def Mode.set (m : Mode) (flags : FlagList) : Mode where
  ignoreCase := (flags.setting? .ignoreCase).getD m.ignoreCase
  multiLine := (flags.setting? .multiLine).getD m.multiLine
  dotMatchesNewLine := (flags.setting? .dotMatchesNewLine).getD m.dotMatchesNewLine
  unicode := (flags.setting? .unicode).getD m.unicode
  crlf := (flags.setting? .crlf).getD m.crlf

/-- The name of a property as it is looked up: without case, blanks, underscores, dashes and a
leading `is`. -/
def normalName (name : List Char) : List Char :=
  let lower (cs : List Char) : List Char := cs.map Char.toLower
  let body := if lower (name.take 2) = ['i', 's'] then name.drop 2 else name
  (lower body).filter fun c => c.toNat < 0x80 && c ≠ ' ' && c ≠ '_' && c ≠ '-'

/-- What is wrong with asking for a property. Names that could be those of a property or of a
value are taken as values. -/
def Property.complaint (p : Property) (m : Mode) : Complaint :=
  if !m.unicode then .unicodeHere
  else
    match p.name.map fun name => String.ofList (normalName name) with
    | some "cf" | some "sc" | some "lc" => .propertyValueUnknown
    | _ => .propertyUnknown

/-- A set that has been put together, and whether it has members whose case has not been looked
at. -/
structure Collected where
  chars : CharSet
  unfolded : Bool

namespace Collected

def union (a b : Collected) : Collected := ⟨a.chars.union b.chars, a.unfolded || b.unfolded⟩

/-- The set in both cases, if case is ignored. -/
def fold (m : Mode) (span : Span) (s : Collected) : Except Fault CharSet :=
  if !m.ignoreCase then .ok s.chars
  else if !m.unicode then .ok s.chars.bothCases
  else if s.unfolded then .error ⟨.caseUnknown, span, none⟩
  else .ok s.chars

/-- The set or, if it is negated, what is not in it. -/
def finish (m : Mode) (span : Span) (negated : Bool) (s : Collected) : Except Fault CharSet := do
  let folded ← s.fold m span
  let chars := if negated then folded.compl else folded
  if !m.unicode && !chars.isAscii then .error ⟨.invalidText, span, none⟩ else return chars

end Collected

/-- The character of a literal. Without the Unicode flag the number of a byte stands for that
byte. -/
def Literal.plain (l : Literal) (m : Mode) : Except Fault Char :=
  if !m.unicode && l.asByte && 0x80 ≤ l.char.toNat then .error ⟨.invalidText, l.span, none⟩
  else .ok l.char

/-- The character of a literal in a set. -/
def Literal.member (l : Literal) (m : Mode) : Except Fault Char := do
  let c ← l.plain m
  if !m.unicode && 0x80 ≤ c.toNat then .error ⟨.unicodeHere, l.span, none⟩ else return c

namespace PerlClass

def chars : PerlClass → CharSet
  | digit => .range '0' '9'
  | space => .ofRanges [('\t', '\r'), (' ', ' ')]
  | word => .ofRanges [('0', '9'), ('A', 'Z'), ('_', '_'), ('a', 'z')]

def meaning (k : PerlClass) (m : Mode) (span : Span) (negated : Bool) : Except Fault CharSet :=
  if m.unicode then .error ⟨.perlClassUnknown, span, none⟩
  else if negated then .error ⟨.invalidText, span, none⟩
  else .ok k.chars

end PerlClass

def SetOperation.apply : SetOperation → CharSet → CharSet → CharSet
  | intersection => .inter
  | difference => .diff
  | symmetricDifference => .symmDiff

mutual

def SetNode.meaning (m : Mode) : SetNode → Except Fault Collected
  | .empty _ => .ok ⟨.empty, false⟩
  | .literal l => do return ⟨.single (← l.member m), true⟩
  | .range first last => do return ⟨.range (← first.member m) (← last.member m), true⟩
  | .named span negated ranges => do
    return ⟨← Collected.finish m span negated ⟨.ofRanges ranges, true⟩, true⟩
  | .property p => .error ⟨p.complaint m, p.span, none⟩
  | .perl span negated k => do return ⟨← k.meaning m span negated, true⟩
  | .bracketed span negated content => do
    return ⟨← (← content.meaning m).finish m span negated, false⟩
  | .union _ items => SetNode.meanings m items
  | .operation op left right => do
    let a ← left.meaning m
    let b ← right.meaning m
    let b ← b.fold m right.span
    return ⟨op.apply (← a.fold m left.span) b, false⟩

def SetNode.meanings (m : Mode) : List SetNode → Except Fault Collected
  | [] => .ok ⟨.empty, false⟩
  | n :: rest => do return (← n.meaning m).union (← SetNode.meanings m rest)

end

/-- What a literal outside of sets matches. -/
def Literal.meaning (l : Literal) (m : Mode) : Except Fault Pattern := do
  let c ← l.plain m
  if !m.ignoreCase then return .chars (.single c)
  else if m.unicode then throw ⟨.caseUnknown, l.span, none⟩
  else if c.isAlpha then return .chars (.bothCases (.single c))
  else return .chars (.single c)

/-- What a dot matches. -/
def dotMeaning (m : Mode) (span : Span) : Except Fault Pattern :=
  if !m.unicode then .error ⟨.invalidText, span, none⟩
  else if m.dotMatchesNewLine then .ok (.chars (.compl .empty))
  else if m.crlf then .ok (.chars (.compl (.union (.single '\r') (.single '\n'))))
  else .ok (.chars (.compl (.single '\n')))

def Assertion.meaning (a : Assertion) (m : Mode) : Look :=
  match a with
  | lineStart => if m.multiLine then .lineStart m.crlf else .textStart
  | lineEnd => if m.multiLine then .lineEnd m.crlf else .textEnd
  | textStart => .textStart
  | textEnd => .textEnd
  | word edge => .word m.unicode edge

mutual

/-- What a part matches, and the flags that hold behind it. -/
def Node.meaning (m : Mode) : Node → Except Fault (Pattern × Mode)
  | .empty _ => .ok (.empty, m)
  | .flags _ fs => .ok (.empty, m.set fs)
  | .literal l => do return (← l.meaning m, m)
  | .dot span => do return (← dotMeaning m span, m)
  | .assertion _ a => .ok (.look (a.meaning m), m)
  | .property p => .error ⟨p.complaint m, p.span, none⟩
  | .perl span negated k => do return (.chars (← k.meaning m span negated), m)
  | .set span negated content => do
    return (.chars (← (← content.meaning m).finish m span negated), m)
  | .repetition _ min max node => do
    let (p, m) ← node.meaning m
    return (.repetition min max p, m)
  | .group _ fs captures node => do
    let (p, _) ← node.meaning (m.set fs)
    return (if captures then .group p else p, m)
  | .concat _ nodes => Node.meanings .seq m nodes
  | .alternation _ nodes => Node.meanings .alt m nodes

/-- What parts match that are joined in some way. The flags that one sets hold for the next. -/
def Node.meanings (join : Pattern → Pattern → Pattern) (m : Mode) :
    List Node → Except Fault (Pattern × Mode)
  | [] => .ok (.empty, m)
  | [n] => n.meaning m
  | n :: rest => do
    let (p, m) ← n.meaning m
    let (q, m) ← Node.meanings join m rest
    return (join p q, m)

end

end Chip8.Regex
