import Chip8.Regex.CharSet
import Chip8.Regex.Syntax

/-!
# Patterns by what they match

A pattern free of flags and places. It matches a piece of a text, and conditions on what is
around a place match the empty piece there. Which groups there are is kept, as every group adds
to the size.
-/

namespace Chip8.Regex

/-- A condition on what stands before and after a place. -/
inductive Look where
  | textStart
  | textEnd
  /-- The start of a line, where a carriage return may end lines too. -/
  | lineStart (crlf : Bool)
  | lineEnd (crlf : Bool)
  /-- The edge of a word. Words of all scripts are known by name only. -/
  | word (unicode : Bool) (edge : WordEdge)
  deriving DecidableEq, Repr

inductive Pattern where
  | empty
  | chars (s : CharSet)
  | look (l : Look)
  | seq (a b : Pattern)
  | alt (a b : Pattern)
  | repetition (min : Nat) (max : Option Nat) (a : Pattern)
  | group (a : Pattern)
  deriving DecidableEq, Repr

namespace Pattern

/-- Whether all matches are empty. -/
def isZeroWidth : Pattern → Bool
  | empty | look _ => true
  | chars _ => false
  | seq a b => a.isZeroWidth && b.isZeroWidth
  | alt a b => a.isZeroWidth && b.isZeroWidth
  | repetition _ max a => max = some 0 || a.isZeroWidth
  | group a => a.isZeroWidth

/-- Whether the pattern asks for the edges of words of all scripts. -/
def asksForWords : Pattern → Bool
  | empty | chars _ => false
  | look (.word true _) => true
  | look _ => false
  | seq a b => a.asksForWords || b.asksForWords
  | alt a b => a.asksForWords || b.asksForWords
  | repetition _ max a => max ≠ some 0 && a.asksForWords
  | group a => a.asksForWords

/-- Bytes for a state of a machine that matches the pattern, and for a transition. -/
def stateSize : Nat := 32

def transitionSize : Nat := 8

/-- The size of a machine for one character of a set. Characters of several bytes share the
states for their last bytes. -/
def setSize : CharSet → Nat
  | .range first last =>
    if first = last then first.utf8Size * stateSize else setSizeOf (.range first last)
  | s => setSizeOf s
where
  setSizeOf (s : CharSet) : Nat :=
    if s.isAscii then 2 * stateSize + s.bounds.length / 2 * transitionSize
    else 9 * stateSize + (16 + s.bounds.length / 2) * transitionSize

/-- The size of a machine that matches the pattern. Repetition copies what is repeated, once if
that is empty. -/
def size : Pattern → Nat
  | empty | look _ => stateSize
  | chars s => setSize s
  | seq a b => a.size + b.size
  | alt a b => a.size + b.size + stateSize
  | repetition min max a =>
    let one := a.size
    let choice := one + stateSize + transitionSize
    let atMost (n : Nat) : Nat := if a.isZeroWidth then Nat.min n 1 else n
    match max with
    | some max =>
      if max = 0 then stateSize
      else atMost min * one + (atMost max - atMost min) * choice + stateSize
    | none => (atMost min - 1) * one + choice
  | group a => a.size + 2 * stateSize

end Pattern

end Chip8.Regex
