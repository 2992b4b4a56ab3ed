import Chip8.Regex.Fault
import Chip8.Text.Basic

/-!
# Reading a pattern

What is left of a pattern, and the small steps in which it is read. Where blanks are ignored,
white space is skipped, and comments from `#` to the end of the line.
-/

namespace Chip8.Regex

structure Cursor where
  rest : List Char
  position : Position := {}
  ignoresBlanks : Bool := false
  deriving DecidableEq, Repr

/-- What is left behind blanks and comments, from inside of a comment or not. -/
def skipBlanks (inComment : Bool) (p : Position) : List Char → List Char × Position
  | [] => ([], p)
  | c :: rest =>
    if inComment then skipBlanks (c ≠ '\n') (p.after c) rest
    else if Text.isBlank c then skipBlanks false (p.after c) rest
    else if c = '#' then skipBlanks true (p.after c) rest
    else (c :: rest, p)

namespace Cursor

/-- Past one character. -/
def step (k : Cursor) : Cursor :=
  match k.rest with
  | [] => k
  | c :: rest => { k with rest, position := k.position.after c }

/-- Past blanks, where they are ignored. -/
def skip (k : Cursor) : Cursor :=
  if k.ignoresBlanks then
    let (rest, position) := skipBlanks false k.position k.rest
    { k with rest, position }
  else k

/-- Past one character and blanks behind it. -/
def next (k : Cursor) : Cursor := k.step.skip

/-- Past a number of characters. -/
def steps (k : Cursor) : Nat → Cursor
  | 0 => k
  | n + 1 => k.step.steps n

def char? (k : Cursor) : Option Char := k.rest.head?

def atEnd (k : Cursor) : Bool := k.rest.isEmpty

/-- The span of the next character. -/
def charSpan (k : Cursor) : Span := ⟨k.position, k.step.position⟩

/-- The empty span here. -/
def here (k : Cursor) : Span := .point k.position

def since (k : Cursor) (start : Position) : Span := ⟨start, k.position⟩

/-- The first character of a text that is no blank, where the character after `#` counts. -/
def pastBlanks (inComment : Bool) : List Char → Option Char
  | [] => none
  | c :: rest =>
    if Text.isBlank c then pastBlanks inComment rest
    else if c = '#' ∧ !inComment then pastBlanks true rest
    else some c

/-- The character after the next one, blanks skipped where they are ignored. -/
def peek? (k : Cursor) : Option Char :=
  let rest := k.rest.drop 1
  if k.ignoresBlanks then (pastBlanks false rest).or rest.head? else rest.head?

end Cursor

/-- Reads a part of a pattern. -/
abbrev Reader := StateT Cursor (Except Fault)

namespace Reader

def fail {α : Type} (complaint : Complaint) (span : Span) : Reader α :=
  throw ⟨complaint, span, none⟩

def step : Reader Unit := modify Cursor.step

def next : Reader Unit := modify Cursor.next

/-- Takes a text if it comes next. -/
def take? (text : String) : Reader Bool := do
  let k ← get
  if text.toList.isPrefixOf k.rest then
    set (k.steps text.length)
    return true
  else return false

/-- Takes characters of a kind. -/
def takeWhile (p : Char → Bool) : Nat → List Char → Reader (List Char)
  | 0, taken => return taken.reverse
  | n + 1, taken => do
    match (← get).char? with
    | some c =>
      if p c then
        next
        takeWhile p n (c :: taken)
      else return taken.reverse
    | none => return taken.reverse

/-- Takes all the characters of a kind that come next, blanks skipped where they are ignored. -/
def takeAll (p : Char → Bool) : Reader (List Char) := do
  takeWhile p (← get).rest.length []

end Reader

end Chip8.Regex
