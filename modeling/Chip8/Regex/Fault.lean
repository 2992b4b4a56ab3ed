import Chip8.Regex.Span

/-!
# Faults of a pattern

What is wrong with a pattern, and where. Some faults also point to an earlier part of the
pattern that they clash with.
-/

namespace Chip8.Regex

/-- How deeply groups, sets and operators may be nested. -/
def nestingLimit : Nat := 250

inductive Complaint where
  -- Escapes and numbers.
  | escapeIncomplete
  | escapeUnknown
  | backreference
  | hexEmpty
  | hexDigit
  | hexNoCharacter
  | numberTooLarge
  -- Sets of characters.
  | setUnclosed
  | setEscape
  | rangeReversed
  | rangeBoundary
  | propertyName
  -- Groups and flags.
  | groupUnclosed
  | groupUnopened
  | lookAround
  | nameEmpty
  | nameCharacter
  | nameUnclosed
  | nameTaken
  | flagUnknown
  | flagMissing
  | flagTaken
  | negationDangling
  | negationTaken
  | nestedTooDeeply
  -- Repetition and word boundaries.
  | nothingToRepeat
  | countMissing
  | countReversed
  | countUnclosed
  | boundaryUnclosed
  | boundaryUnknown
  | braceUnclosed
  -- Meaning.
  | unicodeHere
  | invalidText
  | propertyUnknown
  | propertyValueUnknown
  | perlClassUnknown
  | caseUnknown
  deriving DecidableEq, Repr

def Complaint.message : Complaint → String
  | escapeIncomplete => "incomplete escape sequence, reached end of pattern prematurely"
  | escapeUnknown => "unrecognized escape sequence"
  | backreference => "backreferences are not supported"
  | hexEmpty => "hexadecimal literal empty"
  | hexDigit => "invalid hexadecimal digit"
  | hexNoCharacter => "hexadecimal literal is not a Unicode scalar value"
  | numberTooLarge => "decimal literal invalid"
  | setUnclosed => "unclosed character class"
  | setEscape => "invalid escape sequence found in character class"
  | rangeReversed => "invalid character class range, the start must be <= the end"
  | rangeBoundary => "invalid range boundary, must be a literal"
  | propertyName => "invalid Unicode character class"
  | groupUnclosed => "unclosed group"
  | groupUnopened => "unopened group"
  | lookAround => "look-around, including look-ahead and look-behind, is not supported"
  | nameEmpty => "empty capture group name"
  | nameCharacter => "invalid capture group character"
  | nameUnclosed => "unclosed capture group name"
  | nameTaken => "duplicate capture group name"
  | flagUnknown => "unrecognized flag"
  | flagMissing => "expected flag but got end of regex"
  | flagTaken => "duplicate flag"
  | negationDangling => "dangling flag negation operator"
  | negationTaken => "flag negation operator repeated"
  | nestedTooDeeply =>
    "exceed the maximum number of nested parentheses/brackets (" ++ toString nestingLimit ++ ")"
  | nothingToRepeat => "repetition operator missing expression"
  | countMissing => "repetition quantifier expects a valid decimal"
  | countReversed => "invalid repetition count range, the start must be <= the end"
  | countUnclosed => "unclosed counted repetition"
  | boundaryUnclosed =>
    "special word boundary assertion is either unclosed or contains an invalid character"
  | boundaryUnknown =>
    "unrecognized special word boundary assertion, valid choices are: " ++
      "start, end, start-half or end-half"
  | braceUnclosed =>
    "found either the beginning of a special word boundary or a bounded repetition on a \\b " ++
      "with an opening brace, but no closing brace"
  | unicodeHere => "Unicode not allowed here"
  | invalidText => "pattern can match invalid UTF-8"
  | propertyUnknown => "Unicode property not found"
  | propertyValueUnknown => "Unicode property value not found"
  | perlClassUnknown =>
    "Unicode-aware Perl class not found (make sure the unicode-perl feature is enabled)"
  | caseUnknown =>
    "Unicode-aware case insensitivity matching is not available " ++
      "(make sure the unicode-case feature is enabled)"

structure Fault where
  complaint : Complaint
  span : Span
  /-- What the span clashes with. -/
  earlier : Option Span := none
  deriving DecidableEq, Repr

namespace Fault

/-- The lines of a pattern. A carriage return belongs to the line end that it stands before. -/
def linesOf (pattern : List Char) : List (List Char) :=
  let parts := pattern.splitOn '\n'
  let ended := parts.dropLast.map fun l => if l.getLast? = some '\r' then l.dropLast else l
  ended ++ parts.getLast?.toList.filter (· ≠ [])

/-- The faulty places in the order of the text. -/
def spans (f : Fault) : List Span :=
  match f.earlier with
  | some e => if f.span.before e then [f.span, e] else [e, f.span]
  | none => [f.span]

/-- Carets from column `column` on under the spans, which lie on one line. -/
def carets (column : Nat) : List Span → List Char
  | [] => []
  | s :: rest =>
    let width := max 1 (s.stop.column - s.start.column)
    List.replicate (s.start.column - column) ' ' ++ List.replicate width '^' ++
      carets (max column s.start.column + width) rest

/-- A line of the pattern after its label, and carets under what is faulty in it. -/
def notedLine (spans : List Span) (label : String) (number : Nat) (line : List Char) : String :=
  let here := spans.filter fun s => s.isOneLine && s.start.line = number
  let text := label ++ String.ofList line ++ "\n"
  if here.isEmpty then text
  else
    text ++ String.ofList (List.replicate label.length ' ') ++ String.ofList (carets 1 here) ++ "\n"

/-- The number of a line with a colon, filled up on the left. -/
def lineLabel (width number : Nat) : String :=
  String.ofList ((toString number).toList.leftpad width ' ') ++ ": "

/-- Where a span begins and ends that covers several lines. -/
def placeText (s : Span) : String :=
  "on line " ++ toString s.start.line ++ " (column " ++ toString s.start.column ++
    ") through line " ++ toString s.stop.line ++ " (column " ++ toString (s.stop.column - 1) ++
    ")\n"

/-- The pattern with its faulty places marked. The lines of a pattern that has several are
numbered and stand between rules. -/
def marked (f : Fault) (pattern : List Char) : String :=
  let lines := linesOf pattern
  if pattern.contains '\n' then
    let count := lines.length + if pattern.getLast? = some '\n' then 1 else 0
    let width := (toString count).length
    let rule := String.ofList (List.replicate 79 '~') ++ "\n"
    let noted := (lines.zipIdx 1).map fun (line, number) =>
      notedLine f.spans (lineLabel width number) number line
    rule ++ String.join noted ++ rule ++
      String.join ((f.spans.filter (!·.isOneLine)).map placeText)
  else String.join (lines.map (notedLine f.spans "    " 1))

def message (f : Fault) (pattern : List Char) : String :=
  "regex parse error:\n" ++ f.marked pattern ++ "error: " ++ f.complaint.message

end Fault

end Chip8.Regex
