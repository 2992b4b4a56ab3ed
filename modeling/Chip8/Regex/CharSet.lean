/-!
# Sets of characters

A set is written as an expression over ranges; membership is decided by going through it. As
members only change at the ends of ranges, finitely many characters tell what a set holds
outside of ASCII.
-/

namespace Chip8.Regex

inductive CharSet where
  | empty
  /-- The characters from one to another, both included. -/
  | range (first last : Char)
  | union (a b : CharSet)
  | inter (a b : CharSet)
  | compl (a : CharSet)
  /-- Every ASCII letter in either case, if the set has it in one. -/
  | bothCases (a : CharSet)
  deriving DecidableEq, Repr

namespace CharSet

/-- An ASCII letter in the other case. -/
def otherCase (c : Char) : Char := if c.isUpper then c.toLower else c.toUpper

def has : CharSet → Char → Bool
  | empty, _ => false
  | range first last, c => first ≤ c && c ≤ last
  | union a b, c => a.has c || b.has c
  | inter a b, c => a.has c && b.has c
  | compl a, c => !a.has c
  | bothCases a, c => a.has c || a.has (otherCase c)

def single (c : Char) : CharSet := range c c

def ofRanges (ranges : List (Char × Char)) : CharSet :=
  (ranges.map fun (first, last) => range first last).foldr union empty

def diff (a b : CharSet) : CharSet := a.inter b.compl

def symmDiff (a b : CharSet) : CharSet := (a.diff b).union (b.diff a)

/-- The character after another one, which skips the surrogates. -/
def succ? (c : Char) : Option Char :=
  if c.toNat = 0xD7FF then some '\ue000'
  else if c.toNat = 0x10FFFF then none
  else some (Char.ofNat (c.toNat + 1))

/-- Characters among which every change of membership happens. -/
def bounds : CharSet → List Char
  | empty => []
  | range first last => first :: (succ? last).toList
  | union a b => a.bounds ++ b.bounds
  | inter a b => a.bounds ++ b.bounds
  | compl a => a.bounds
  | bothCases a => a.bounds

/-- Whether the set holds only ASCII characters. -/
def isAscii (s : CharSet) : Bool :=
  ('\x80' :: s.bounds).all fun c => c.toNat < 0x80 || !s.has c

end CharSet

end Chip8.Regex
