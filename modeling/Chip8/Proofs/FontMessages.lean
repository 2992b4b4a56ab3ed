import Chip8.Font.Source
import Chip8.Proofs.HexText

/-!
# What a refusal says

No two reasons for which a font table is refused have the same message
(`Font.SourceError.message_inj`): the first letters tell the kind of the reason, the digits a
number, and the quotation the token. A quotation can be read back from its front, one character
after another (`Text.readChar?_quotedChar`), so it is the quotation of one text only
(`Text.quoted_inj`).
-/

namespace Chip8

namespace Text

/-- What a character stands for behind a backslash. -/
def unescaped : Char → Char
  | 'n' => '\n'
  | 'r' => '\r'
  | 't' => '\t'
  | '0' => '\x00'
  | c => c

/-- The first character that a quotation shows from here on, and what stands behind it. -/
def readChar? : List Char → Option (Char × List Char)
  | '\\' :: 'u' :: '\x7b' :: rest =>
    some (Char.ofNat (hexValue (rest.takeWhile (·.isAlphanum))),
      (rest.dropWhile (·.isAlphanum)).tail)
  | '\\' :: c :: rest => some (unescaped c, rest)
  | c :: rest => some (c, rest)
  | [] => none

theorem readChar?_codePoint (n : Nat) (rest : List Char) :
    readChar? (("\\u\x7b" ++ hex 0 n ++ "\x7d").toList ++ rest) = some (Char.ofNat n, rest) := by
  have shape : ("\\u\x7b" ++ hex 0 n ++ "\x7d").toList ++ rest =
      '\\' :: 'u' :: '\x7b' :: ((hex 0 n).toList ++ '\x7d' :: rest) := by
    simp
  have digits : ∀ c ∈ (hex 0 n).toList, c.isAlphanum = true := fun _ => isAlphanum_of_mem_hex
  have ends : ('\x7d' :: rest).takeWhile Char.isAlphanum = [] := rfl
  have stays : ('\x7d' :: rest).dropWhile Char.isAlphanum = '\x7d' :: rest := rfl
  rw [shape, readChar?, List.takeWhile_append_of_pos digits, List.dropWhile_append_of_pos digits,
    ends, stays, List.append_nil, hexValue_hex, List.tail_cons]

theorem readChar?_quotedChar (c : Char) (rest : List Char) :
    readChar? ((quotedChar c).toList ++ rest) = some (c, rest) := by
  unfold quotedChar
  split
  · next quote => rw [quote]; rfl
  split
  · next backslash => rw [backslash]; rfl
  split
  · next feed => rw [feed]; rfl
  split
  · next ret => rw [ret]; rfl
  split
  · next tab => rw [tab]; rfl
  split
  · next zero =>
    obtain rfl : c = '\x00' := Char.toNat_inj.1 zero
    rfl
  split
  · rw [readChar?_codePoint, Char.ofNat_toNat]
  · next backslash _ _ _ _ _ =>
    have shape : (String.singleton c).toList ++ rest = c :: rest := by simp
    rw [shape, readChar?]
    · exact fun _ escape => absurd escape backslash
    · exact fun _ _ escape => absurd escape backslash

/-- Two quotations that begin alike begin with the same character. -/
theorem quotedChar_append_inj {c d : Char} {rest rest' : List Char}
    (same : (quotedChar c).toList ++ rest = (quotedChar d).toList ++ rest') :
    c = d ∧ rest = rest' := by
  have read := congrArg readChar? same
  rwa [readChar?_quotedChar, readChar?_quotedChar, Option.some.injEq, Prod.mk.injEq] at read

theorem quotedChar_append_ne_nil (c : Char) (rest : List Char) :
    (quotedChar c).toList ++ rest ≠ [] := by
  intro empty
  have read := readChar?_quotedChar c rest
  rw [empty] at read
  cases read

theorem flatMap_quotedChar_inj {s t : List Char} :
    s.flatMap (fun c => (quotedChar c).toList) = t.flatMap (fun c => (quotedChar c).toList) ↔
      s = t := by
  constructor
  · intro same
    induction s generalizing t with
    | nil =>
      cases t with
      | nil => rfl
      | cons d t => exact absurd same.symm (quotedChar_append_ne_nil d _)
    | cons c s ih =>
      cases t with
      | nil => exact absurd same (quotedChar_append_ne_nil c _)
      | cons d t =>
        obtain ⟨rfl, others⟩ := quotedChar_append_inj same
        rw [ih others]
  · rintro rfl
    rfl

theorem quoted_inj {s t : List Char} : quoted s = quoted t ↔ s = t := by
  have inside (s : List Char) :
      (String.join (s.map quotedChar)).toList = s.flatMap fun c => (quotedChar c).toList := by
    rw [String.toList_join, List.flatMap_map]
  rw [quoted, quoted, String.append_left_inj, String.append_right_inj, ← String.toList_inj,
    inside, inside, flatMap_quotedChar_inj]

end Text

namespace Font.SourceError

theorem toString_inj {n k : Nat} : toString n = toString k ↔ n = k := by
  constructor
  · intro same
    have digits := congrArg String.toList same
    rw [Nat.toString_eq_repr, Nat.toString_eq_repr, Nat.toList_repr, Nat.toList_repr] at digits
    rw [← Nat.ofDigitChars_ten_toDigits (n := n), digits, Nat.ofDigitChars_ten_toDigits]
  · rintro rfl
    rfl

/-- The number of a line ends where its digits end. -/
theorem takeWhile_invalidByte (line : Nat) (token : List Char) :
    (toString line ++ (": invalid byte " ++ Text.quoted token)).toList.takeWhile Char.isDigit =
      (toString line).toList := by
  have digits : ∀ c ∈ (toString line).toList, c.isDigit = true := by
    intro c mem
    rw [Nat.toString_eq_repr, Nat.toList_repr] at mem
    exact Nat.isDigit_of_mem_toDigits (by decide) (by decide) mem
  rw [String.toList_append, List.takeWhile_append_of_pos digits, String.toList_append]
  exact List.append_nil _

theorem invalidByte_inj {line line' : Nat} {token token' : List Char}
    (same : toString line ++ (": invalid byte " ++ Text.quoted token) =
      toString line' ++ (": invalid byte " ++ Text.quoted token')) :
    invalidByte line token = invalidByte line' token' := by
  have digits : (toString line).toList = (toString line').toList := by
    rw [← takeWhile_invalidByte line token, same, takeWhile_invalidByte]
  obtain rfl : line = line' := toString_inj.1 (String.toList_inj.1 digits)
  rw [String.append_right_inj, String.append_right_inj, Text.quoted_inj] at same
  rw [same]

/-- The letter that the words for the reason begin with. -/
def letter : SourceError → Char
  | invalidByte _ _ => 'l'
  | tooManyBytes => 'm'
  | wrongCount _ => 'e'

theorem getElem?_message (e : SourceError) : e.message.toList[32]? = some e.letter := by
  have opening : "font table could not be loaded: ".toList.length = 32 := by decide
  unfold message
  rw [String.toList_append, List.getElem?_append_right (Nat.le_of_eq opening), opening,
    Nat.sub_self]
  cases e with
  | invalidByte line token =>
    dsimp only
    rw [String.append_assoc, String.append_assoc, String.toList_append]
    rfl
  | tooManyBytes => rfl
  | wrongCount found =>
    dsimp only
    rw [String.toList_append]
    rfl

/-- A message tells the reason from any other. -/
theorem message_inj {e e' : SourceError} : e.message = e'.message ↔ e = e' := by
  constructor
  · intro same
    have letters : e.letter = e'.letter := by
      rw [← Option.some.injEq, ← getElem?_message, same, getElem?_message]
    unfold message at same
    rw [String.append_right_inj] at same
    cases e with
    | invalidByte line token =>
      cases e' with
      | invalidByte line' token' =>
        dsimp only at same
        rw [String.append_assoc, String.append_assoc, String.append_assoc, String.append_assoc,
          String.append_right_inj] at same
        exact invalidByte_inj same
      | tooManyBytes | wrongCount => cases letters
    | tooManyBytes =>
      cases e' with
      | tooManyBytes => rfl
      | invalidByte | wrongCount => cases letters
    | wrongCount found =>
      cases e' with
      | wrongCount found' =>
        dsimp only at same
        rw [String.append_right_inj, toString_inj] at same
        rw [same]
      | invalidByte | tooManyBytes => cases letters
  · rintro rfl
    rfl

end Font.SourceError

end Chip8
