import Chip8.Word

/-!
# Texts

Numbers as hexadecimal text, the classes that characters fall into, and texts as bytes. Addresses,
words and bytes are shown in lower-case hexadecimal with a least number of digits; a value that
needs more digits gets them. Register and key names use one upper-case digit. White space is what
has the `White_Space` property.
-/

namespace Chip8

/-- The digits of `n`, at least `width` of them. -/
def hex (width n : Nat) : String :=
  String.ofList ((Nat.toDigits 16 n).leftpad width '0')

/-- The digits of `n` behind the mark `0x`. -/
def hexMarked (width n : Nat) : String := "0x" ++ hex width n

/-- The digits of `n` in upper case, without padding. -/
def hexUpper (n : Nat) : String :=
  String.ofList ((Nat.toDigits 16 n).map Char.toUpper)

theorem toList_hex (width n : Nat) :
    (hex width n).toList = (Nat.toDigits 16 n).leftpad width '0' := by
  simp [hex]

namespace Text

/-! ## Characters -/

def isLetter (c : Char) : Bool := c.isAlpha
def isNumeral (c : Char) : Bool := c.isDigit

def isBlank (c : Char) : Bool :=
  let n := c.toNat
  (0x9 ≤ n && n ≤ 0xD) || n == 0x20 || n == 0x85 || n == 0xA0 || n == 0x1680 ||
    (0x2000 ≤ n && n ≤ 0x200A) || n == 0x2028 || n == 0x2029 || n == 0x202F || n == 0x205F ||
    n == 0x3000

/-! ## Parts of a text -/

/-- The text without the white space at its ends. -/
def trim (s : List Char) : List Char :=
  ((s.dropWhile isBlank).reverse.dropWhile isBlank).reverse

/-- Whether the text is a part of the other one, in one piece. -/
def occursIn (text : List Char) : List Char → Bool
  | [] => text.isEmpty
  | c :: rest => text.isPrefixOf (c :: rest) || occursIn text rest

/-! ## Texts in UTF-8 -/

def encoded (text : String) : List Byte := text.toUTF8.toList.map (·.toBitVec)

/-- The text that bytes encode. -/
def decoded? (bytes : List Byte) : Option String :=
  String.fromUTF8? ⟨(bytes.map fun b => UInt8.ofBitVec b).toArray⟩

/-- The number of bytes of a character, as its first byte tells. -/
def charSize? (first : Byte) : Option Nat :=
  let n := first.toNat
  if n < 0x80 then some 1
  else if n < 0xC0 then none
  else if n < 0xE0 then some 2
  else if n < 0xF0 then some 3
  else if n < 0xF8 then some 4
  else none

/-- Whether a byte continues a character. -/
def isContinuation (b : Byte) : Bool := 0x80 ≤ b.toNat && b.toNat < 0xC0

end Text

end Chip8
