import Chip8.Font.Basic
import Chip8.Text.Quoted

/-!
# Font tables in text form

A font table has one byte a line, in hexadecimal, binary, octal or decimal. What follows a
`#` is a comment, and lines that hold nothing else are skipped. A table that is refused is
refused for its first offending line, or else for the number of its bytes.
-/

namespace Chip8.Font

/-- Why a font table is refused. -/
inductive SourceError where
  /-- The token on a line, counted from one, is no byte. -/
  | invalidByte (line : Nat) (token : List Char)
  | tooManyBytes
  | wrongCount (found : Nat)
  deriving DecidableEq, Repr

def SourceError.message (e : SourceError) : String :=
  "font table could not be loaded: " ++
    match e with
    | invalidByte line token => "line " ++ toString line ++ ": invalid byte " ++ Text.quoted token
    | tooManyBytes => "more than 80 bytes of sprite data"
    | wrongCount found => "expected 80 bytes of sprite data, found " ++ toString found

/-- The value of a digit in the given radix. Digits above nine are lower-case letters. -/
def digit? (radix : Nat) (c : Char) : Option Nat :=
  let value? :=
    if '0' ≤ c ∧ c ≤ '9' then some (c.toNat - '0'.toNat)
    else if 'a' ≤ c ∧ c ≤ 'z' then some (c.toNat - 'a'.toNat + 10)
    else none
  value?.filter (· < radix)

/-- The value of a run of digits; an empty run has none. -/
def digitsValue? (radix : Nat) (digits : List Char) : Option Nat :=
  match digits with
  | [] => none
  | _ => digits.foldlM (fun n c => (digit? radix c).map (n * radix + ·)) 0

/-- A number may carry one plus sign. -/
def dropPlus : List Char → List Char
  | '+' :: digits => digits
  | digits => digits

/-- The radix that a lower-case token's mark announces, and what follows the mark. -/
def splitRadix : List Char → Nat × List Char
  | '0' :: 'x' :: digits => (16, digits)
  | '0' :: 'b' :: digits => (2, digits)
  | '0' :: 'o' :: digits => (8, digits)
  | digits => (10, digits)

/-- The byte that a token stands for. Letters count in either case. -/
def byteOfToken? (token : List Char) : Option Byte :=
  let (radix, digits) := splitRadix (token.map Char.toLower)
  match digitsValue? radix (dropPlus digits) with
  | some n => if n < 256 then some (BitVec.ofNat 8 n) else none
  | none => none

/-- What a line holds besides its comment and white space. -/
def token (line : List Char) : List Char :=
  Text.trim (line.takeWhile (· != '#'))

/-- The tokens of the lines that hold data, with their line numbers. -/
def dataLines (source : String) : List (Nat × List Char) :=
  ((source.toList.splitOn '\n').zipIdx 1).filterMap fun (line, number) =>
    match token line with
    | [] => none
    | t => some (number, t)

/-- The bytes of the data lines, of which at most `room` are accepted. -/
def readBytes (room : Nat) : List (Nat × List Char) → Except SourceError (List Byte)
  | [] => .ok []
  | (number, t) :: rest =>
    match byteOfToken? t, room with
    | none, _ => .error (.invalidByte number t)
    | some _, 0 => .error .tooManyBytes
    | some b, room + 1 => (readBytes room rest).map (b :: ·)

/-- Reads a font table. -/
def ofSource (source : String) : Except SourceError Font :=
  match readBytes 80 (dataLines source) with
  | .error e => .error e
  | .ok bytes =>
    if h : bytes.length = 80 then .ok ⟨⟨bytes.toArray, by simpa using h⟩⟩
    else .error (.wrongCount bytes.length)

end Chip8.Font
