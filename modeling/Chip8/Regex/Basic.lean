import Chip8.Regex.Groups
import Chip8.Regex.Match
import Chip8.Regex.Meaning
import Chip8.Regex.Nesting

/-!
# Regular expressions

A regular expression is read from its text, unless it is malformed, asks for the edges of words
in all scripts, or would be too large. `Regex.occursIn` tells whether it matches somewhere.
-/

namespace Chip8

open Regex

/-- A pattern to search texts for. -/
structure Regex where
  pattern : Pattern
  deriving DecidableEq, Repr

namespace Regex

inductive PatternError where
  | malformed (pattern : List Char) (fault : Fault)
  | tooLarge
  | wordsUnknown
  deriving DecidableEq, Repr

/-- The most bytes that a pattern may take. -/
def sizeLimit : Nat := 10485760

def PatternError.message : PatternError → String
  | malformed pattern fault => fault.message pattern
  | tooLarge => "Compiled regex exceeds size limit of " ++ toString sizeLimit ++ " bytes."
  | wordsUnknown => "error building NFA"

/-- Reads a regular expression. -/
def ofText (text : String) : Except PatternError Regex := do
  let meaning : Except Fault Pattern := do
    let node ← Node.ofPattern text.toList
    node.checkNesting 0
    return (← node.meaning {}).1
  let pattern ← meaning.mapError (PatternError.malformed text.toList)
  if sizeLimit < pattern.size then throw .tooLarge
  if pattern.asksForWords then throw .wordsUnknown
  return ⟨pattern⟩

def occursIn (r : Regex) (text : String) : Bool := r.pattern.occursIn text.toList

end Regex

end Chip8
