import Chip8.Regex.Span

/-!
# Patterns as they are written

The structure of a pattern with the place of every part. What the parts match depends on the
flags in force and is not decided here.
-/

namespace Chip8.Regex

/-- A character that stands for itself. -/
structure Literal where
  span : Span
  char : Char
  /-- Whether it is written as the number of a byte. -/
  asByte : Bool := false
  deriving DecidableEq, Repr

/-- The classes of digits, of white space and of the characters of words. -/
inductive PerlClass where
  | digit
  | space
  | word
  deriving DecidableEq, Repr

/-- Flags that groups turn on and off. -/
inductive Flag where
  | ignoreCase
  | multiLine
  | dotMatchesNewLine
  | swapGreed
  | unicode
  | crlf
  | ignoreBlanks
  deriving DecidableEq, Repr

/-- Flags in the order they are written; `none` is the sign that turns off all after it. -/
abbrev FlagList := List (Option Flag)

/-- Whether the list turns a flag on or off. -/
def FlagList.setting? (flags : FlagList) (flag : Flag) : Option Bool :=
  if flags.contains (some flag) then some (!(flags.takeWhile (· ≠ some flag)).contains none)
  else none

inductive WordEdge where
  /-- Where a word begins or ends. -/
  | boundary
  | noBoundary
  | start
  | stop
  /-- Where no word goes on from the left. -/
  | startHalf
  /-- Where no word goes on to the right. -/
  | stopHalf
  deriving DecidableEq, Repr

inductive Assertion where
  | lineStart
  | lineEnd
  | textStart
  | textEnd
  | word (edge : WordEdge)
  deriving DecidableEq, Repr

/-- A property of characters: its name, unless a value is asked for too. -/
structure Property where
  span : Span
  name : Option (List Char)
  deriving DecidableEq, Repr

inductive SetOperation where
  | intersection
  | difference
  | symmetricDifference
  deriving DecidableEq, Repr

/-- What stands in a set of characters. -/
inductive SetNode where
  | empty (span : Span)
  | literal (l : Literal)
  | range (first last : Literal)
  /-- A class by name, such as `[:alpha:]`, with its ranges. -/
  | named (span : Span) (negated : Bool) (ranges : List (Char × Char))
  | property (p : Property)
  | perl (span : Span) (negated : Bool) (perlClass : PerlClass)
  | bracketed (span : Span) (negated : Bool) (content : SetNode)
  | union (span : Span) (items : List SetNode)
  | operation (operation : SetOperation) (left right : SetNode)
  deriving Repr

/-- A part of a pattern. -/
inductive Node where
  | empty (span : Span)
  | flags (span : Span) (flags : FlagList)
  | literal (l : Literal)
  | dot (span : Span)
  | assertion (span : Span) (assertion : Assertion)
  | property (p : Property)
  | perl (span : Span) (negated : Bool) (perlClass : PerlClass)
  | set (span : Span) (negated : Bool) (content : SetNode)
  | repetition (span : Span) (min : Nat) (max : Option Nat) (node : Node)
  /-- A group with the flags that hold in it, and whether it is counted. -/
  | group (span : Span) (flags : FlagList) (captures : Bool) (node : Node)
  | concat (span : Span) (nodes : List Node)
  | alternation (span : Span) (nodes : List Node)
  deriving Repr

def SetNode.span : SetNode → Span
  | empty span => span
  | literal l => l.span
  | range first last => first.span.upTo last.span
  | named span _ _ => span
  | property p => p.span
  | perl span _ _ => span
  | bracketed span _ _ => span
  | union span _ => span
  | operation _ left right => left.span.upTo right.span

def Node.span : Node → Span
  | empty span => span
  | flags span _ => span
  | literal l => l.span
  | dot span => span
  | assertion span _ => span
  | property p => p.span
  | perl span _ _ => span
  | set span _ _ => span
  | repetition span _ _ _ => span
  | group span _ _ _ => span
  | concat span _ => span
  | alternation span _ => span

end Chip8.Regex
