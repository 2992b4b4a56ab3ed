import Chip8.Keyboard.Key
import Chip8.Text.Basic

/-!
# Typed bytes

A terminal sends a key as the bytes of one character or as a sequence that begins with Escape. A
lone Escape is the Escape key, unless more bytes follow at once. Sequences that stand for no key
are swallowed as a whole.
-/

namespace Chip8

namespace Key

/-- The key that sends a single character. Control characters are letters and digits with
the control key. -/
def ofChar (c : Char) : Key :=
  let n := c.toNat
  if c = '\r' then { code := .enter }
  else if c = '\t' then { code := .tab }
  else if n = 0x7F then { code := .backspace }
  else if n = 0x1B then { code := .escape }
  else if n = 0 then { code := .char ' ', control := true }
  else if n ≤ 0x1A then { code := .char (Char.ofNat (n - 1 + 'a'.toNat)), control := true }
  else if n ≤ 0x1F then { code := .char (Char.ofNat (n - 0x1C + '4'.toNat)), control := true }
  else { code := .char c, shift := c.isUpper }

/-- The keys of the cursor block, by the letter that ends their sequences. -/
def ofLetter? (c : Char) : Option KeyCode :=
  [('A', KeyCode.up), ('B', .down), ('C', .right), ('D', .left), ('F', .endKey),
    ('H', .home)].lookup c

/-- The first function keys, by the letter that ends their sequences. -/
def functionOfLetter? (first : Char) (count : Nat) (c : Char) : Option KeyCode :=
  if first ≤ c ∧ c.toNat < first.toNat + count then some (.function (c.toNat - first.toNat + 1))
  else none

/-- The keys whose sequences hold a number. -/
def ofNumber? (n : Nat) : Option KeyCode :=
  match n with
  | 1 | 7 => some .home
  | 2 => some .insert
  | 3 => some .delete
  | 4 | 8 => some .endKey
  | 5 => some .pageUp
  | 6 => some .pageDown
  | n =>
    if 11 ≤ n ∧ n ≤ 15 then some (.function (n - 10))
    else if 17 ≤ n ∧ n ≤ 21 then some (.function (n - 11))
    else if 23 ≤ n ∧ n ≤ 26 then some (.function (n - 12))
    else if 28 ≤ n ∧ n ≤ 29 then some (.function (n - 15))
    else if 31 ≤ n ∧ n ≤ 34 then some (.function (n - 17))
    else none

end Key

/-- What the bytes read so far amount to. -/
inductive Sequence where
  /-- More bytes belong to it. -/
  | incomplete
  /-- It stands for nothing. -/
  | nothing
  | poll (p : Poll)
  deriving DecidableEq, Repr

namespace Sequence

def ofCode? : Option KeyCode → Sequence
  | some code => .poll (.key { code })
  | none => .nothing

/-- The number in front of the first character that is no digit. -/
def leadingNumber (text : List Char) : Nat :=
  (text.takeWhile Char.isDigit).foldl (fun n c => n * 10 + (c.toNat - '0'.toNat)) 0

/-- The modifiers in the digit in front of the last letter, which is one more than their sum
as bits. -/
def modified (text : List Char) (code : KeyCode) : Key :=
  let bits := leadingNumber (text.reverse.take 1) - 1
  { code, shift := bits % 2 = 1, alt := bits / 2 % 2 = 1, control := bits / 4 % 2 = 1 }

/-- A sequence with parameters, which are complete, and the character that ends it. -/
def ofParameters (parameters : List Char) (last : Char) : Sequence :=
  match last with
  | 'M' => .poll .other
  | 'R' => .nothing
  | '~' => ofCode? (Key.ofNumber? (leadingNumber parameters))
  | letter =>
    match (Key.ofLetter? letter).or (Key.functionOfLetter? 'P' 4 letter) with
    | some code => .poll (.key (modified parameters code))
    | none => .nothing

/-- Whether a character ends a sequence with parameters. -/
def isFinal (c : Char) : Bool := 64 ≤ c.toNat && c.toNat ≤ 126

/-- What follows Escape and a bracket. -/
def ofBracket : List Char → Sequence
  | [] => .incomplete
  | ['['] => .incomplete
  | '[' :: c :: _ => ofCode? (Key.functionOfLetter? 'A' 5 c)
  | 'Z' :: _ => .poll (.key { code := .backTab, shift := true })
  | 'M' :: report => if report.length < 3 then .incomplete else .poll .other
  | '<' :: report =>
    match report.getLast? with
    | some 'm' | some 'M' => .poll .other
    | _ => .incomplete
  | c :: rest =>
    if c.isDigit then
      match rest.getLast? with
      | some last => if isFinal last then ofParameters (c :: rest.dropLast) last else .incomplete
      | none => .incomplete
    else ofCode? (Key.ofLetter? c)

/-- What the bytes of a single character amount to. -/
def ofCharacter (alt : Bool) (bytes : List Byte) : Sequence :=
  match bytes with
  | [] => .incomplete
  | first :: rest =>
    match Text.charSize? first with
    | none => .nothing
    | some size =>
      if !rest.all Text.isContinuation then .nothing
      else if bytes.length < size then .incomplete
      else
        match (Text.decoded? bytes).map String.toList with
        | some [c] => .poll (.key { Key.ofChar c with alt })
        | _ => .nothing

/-- What bytes amount to, where `more` says whether another one is there already. In a sequence
every byte counts as a character. -/
def ofBytes (more : Bool) (bytes : List Byte) : Sequence :=
  match bytes.map fun b => Char.ofNat b.toNat with
  | ['\x1b'] => if more then .incomplete else .poll (.key { code := .escape })
  | '\x1b' :: '[' :: rest => ofBracket rest
  | ['\x1b', 'O'] => .incomplete
  | '\x1b' :: 'O' :: c :: _ => ofCode? ((Key.ofLetter? c).or (Key.functionOfLetter? 'P' 4 c))
  | '\x1b' :: '\x1b' :: _ => .poll (.key { code := .escape })
  | '\x1b' :: _ => ofCharacter true (bytes.drop 1)
  | _ => ofCharacter false bytes

end Sequence

/-- Bytes that have been typed and are not used up. -/
structure Typing where
  unread : List Byte := []
  deriving DecidableEq, Repr

namespace Typing

/-- Takes in one byte and gives what it completes. -/
def push (t : Typing) (b : Byte) (more : Bool) : Typing × Option Poll :=
  let read := t.unread ++ [b]
  match Sequence.ofBytes more read with
  | .incomplete => (⟨read⟩, none)
  | .nothing => (⟨[]⟩, none)
  | .poll p => (⟨[]⟩, some p)

/-- Takes in bytes that arrive together. -/
def pushAll (t : Typing) : List Byte → Typing × List Poll
  | [] => (t, [])
  | b :: rest =>
    let (t, poll) := t.push b (!rest.isEmpty)
    let (t, polls) := t.pushAll rest
    (t, poll.toList ++ polls)

end Typing

end Chip8
