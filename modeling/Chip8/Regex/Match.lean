import Chip8.Regex.Pattern

/-!
# Matching

A place of a text lies before, between or behind its characters. Sets of places are lists of
marks, one for each place from the left. A pattern takes the places where it begins to match to
those where a match ends.
-/

namespace Chip8.Regex

abbrev Marks := List Bool

/-- The characters before and after each place of a text. -/
def surroundings (before : Option Char) : List Char → List (Option Char × Option Char)
  | [] => [(before, none)]
  | c :: rest => (before, some c) :: surroundings (some c) rest

/-- Whether a character belongs to words. -/
def isWordChar (c : Char) : Bool := c.isAlphanum || c = '_'

def WordEdge.holds (edge : WordEdge) (before after : Bool) : Bool :=
  match edge with
  | boundary => before != after
  | noBoundary => before == after
  | start => !before && after
  | stop => before && !after
  | startHalf => !before
  | stopHalf => !after

def Look.holds (l : Look) (before after : Option Char) : Bool :=
  match l with
  | textStart => before.isNone
  | textEnd => after.isNone
  | lineStart false => before.all (· = '\n')
  | lineStart true => before.all fun c => c = '\n' || (c = '\r' && after ≠ some '\n')
  | lineEnd false => after.all (· = '\n')
  | lineEnd true => after.all fun c => c = '\r' || (c = '\n' && before ≠ some '\r')
  | word _ edge => edge.holds (before.any isWordChar) (after.any isWordChar)

/-- Applies a function up to so many times, as long as that changes anything. -/
def settle {α : Type} [DecidableEq α] (f : α → α) : Nat → α → α
  | 0, a => a
  | n + 1, a =>
    let b := f a
    if b = a then a else settle f n b

namespace Marks

def both (a b : Marks) : Marks := List.zipWith (· || ·) a b

end Marks

namespace Pattern

/-- The places where matches end that begin at marked ones. A text with `n` places has the same
ends after `n` repetitions as after any more. -/
def ends (text : List Char) : Pattern → Marks → Marks
  | empty, marks => marks
  | chars s, marks => false :: List.zipWith (fun mark c => mark && s.has c) marks text
  | look l, marks =>
    List.zipWith (fun mark (before, after) => mark && l.holds before after) marks
      (surroundings none text)
  | seq a b, marks => b.ends text (a.ends text marks)
  | alt a b, marks => (a.ends text marks).both (b.ends text marks)
  | repetition min max a, marks =>
    let places := text.length + 1
    let least := settle (a.ends text) (Nat.min min places) marks
    let more := max.elim places fun max => Nat.min (max - min) places
    settle (fun marks => marks.both (a.ends text marks)) more least
  | group a, marks => a.ends text marks

/-- Whether the pattern matches anywhere in the text. -/
def occursIn (p : Pattern) (text : List Char) : Bool :=
  (p.ends text (List.replicate (text.length + 1) true)).contains true

end Pattern

end Chip8.Regex
