import Chip8.Proofs.Disassembly

/-!
# Reading a disassembly back

The three columns of a line (`Instruction.columns_disassemblyLine`) are the address, the word and
the mnemonic, so the words can be read from the second column and the image from the words. Only a
last byte without a partner is lost (`imageOf_disassemble`). The address is of no use for that:
beyond 64 KiB it wraps (`disassembly_loses_nothing`).
-/

namespace Chip8

namespace Word

def high (w : Word) : Byte := BitVec.ofNat 8 (w.toNat / 256)

/-- The bytes of a word in the order they have in memory. -/
def bytes (w : Word) : List Byte := [w.high, w.low]

theorem bytes_ofBytes (high low : Byte) : (ofBytes high low).bytes = [high, low] := by
  have value := toNat_ofBytes high low
  have first := high.isLt
  have second := low.isLt
  have high_eq : (ofBytes high low).high = high := by
    apply BitVec.eq_of_toNat_eq
    rw [Word.high, value, BitVec.toNat_ofNat]
    omega
  have low_eq : (ofBytes high low).low = low := by
    apply BitVec.eq_of_toNat_eq
    rw [Word.low, BitVec.toNat_setWidth, value]
    omega
  rw [bytes, high_eq, low_eq]

end Word

/-- The word in the second column of a line. -/
def wordOfLine? (line : String) : Option Word :=
  match columns line with
  | [_, '0' :: 'x' :: digits, _] => some (BitVec.ofNat 16 (hexValue digits))
  | _ => none

/-- The image that a disassembly shows: the bytes of the words in the second column, in order. -/
def imageOf (lines : List String) : List Byte := (lines.filterMap wordOfLine?).flatMap Word.bytes

theorem wordOfLine?_disassemblyLine (i : Instruction) :
    wordOfLine? i.disassemblyLine = some i.word := by
  simp only [wordOfLine?, i.columns_disassemblyLine, hexValue_hex, BitVec.ofNat_toNat,
    BitVec.setWidth_eq]

theorem flatMap_bytes_ofImage (address : Word) (image : List Byte) :
    (Instruction.ofImage address image).flatMap (·.word.bytes) =
      image.take (2 * (image.length / 2)) := by
  fun_induction Instruction.ofImage address image with
  | case1 address high low rest ih =>
    have count : 2 * ((high :: low :: rest).length / 2) = 2 * (rest.length / 2) + 2 := by
      simp only [List.length_cons]
      omega
    rw [List.flatMap_cons, ih, count, Word.bytes_ofBytes]
    rfl
  | case2 image address short =>
    -- Two bytes or more would have been a pair.
    obtain _ | ⟨b, _ | ⟨b', rest⟩⟩ := image
    · rfl
    · simp
    · exact absurd rfl (short _ _ _)

theorem filterMap_wordOfLine? (instructions : List Instruction) :
    (instructions.map (·.disassemblyLine)).filterMap wordOfLine? = instructions.map (·.word) := by
  induction instructions with
  | nil => rfl
  | cons i rest ih =>
    rw [List.map_cons, List.filterMap_cons_some (wordOfLine?_disassemblyLine i), ih, List.map_cons]

/-- What is read back is the image without an odd last byte. -/
theorem imageOf_disassemble (image : List Byte) :
    imageOf (disassemble image) = image.take (2 * (image.length / 2)) := by
  rw [imageOf, disassemble, filterMap_wordOfLine?, List.flatMap_map, flatMap_bytes_ofImage]

theorem disassemble_inj {image other : List Byte} (even : image.length % 2 = 0)
    (even' : other.length % 2 = 0) : disassemble image = disassemble other ↔ image = other := by
  constructor
  · intro same
    have read := congrArg imageOf same
    have all : 2 * (image.length / 2) = image.length := by omega
    have all' : 2 * (other.length / 2) = other.length := by omega
    rwa [imageOf_disassemble, imageOf_disassemble, all, all', List.take_length,
      List.take_length] at read
  · rintro rfl
    rfl

/-- A disassembly has a line for each two bytes of the image. Its columns are the address of the
bytes, which wraps at sixteen bits, the word they make and the mnemonic of the word. The second
column gives the image back, but for an odd last byte; so two images of even length have the same
disassembly only if they are the same. -/
theorem disassembly_loses_nothing (image : List Byte) :
    (disassemble image).length = image.length / 2 ∧
      (∀ i, i < image.length / 2 → ∃ high low, image[2 * i]? = some high ∧
        image[2 * i + 1]? = some low ∧
          let entry : Instruction := ⟨.ofBytes high low, BitVec.ofNat 16 (programStart + 2 * i)⟩
          ∃ line address word, (disassemble image)[i]? = some line ∧
            columns line =
              ['0' :: 'x' :: address ++ [':'], '0' :: 'x' :: word, entry.text.toList] ∧
            FourDigits address ((programStart + 2 * i) % 65536) ∧
            FourDigits word (high.toNat * 256 + low.toNat)) ∧
      imageOf (disassemble image) = image.take (2 * (image.length / 2)) ∧
      ∀ other : List Byte, image.length % 2 = 0 → other.length % 2 = 0 →
        (disassemble image = disassemble other ↔ image = other) := by
  refine ⟨?_, ?_, imageOf_disassemble image, fun _ even even' => disassemble_inj even even'⟩
  · rw [disassemble, List.length_map, Instruction.length_ofImage]
  · intro i inside
    have first : image[2 * i]? = some image[2 * i] := List.getElem?_eq_getElem (by omega)
    have second : image[2 * i + 1]? = some image[2 * i + 1] :=
      List.getElem?_eq_getElem (by omega)
    refine ⟨_, _, first, second, ?_⟩
    intro entry
    have listed := Instruction.getElem?_ofImage (BitVec.ofNat 16 programStart) image inside
    rw [← BitVec.ofNat_add, first, second] at listed
    refine ⟨entry.disassemblyLine, _, _, ?_, entry.columns_disassemblyLine,
      fourDigits_hex (BitVec.toNat_ofNat ..), fourDigits_hex (Word.toNat_ofBytes ..)⟩
    rw [disassemble, List.getElem?_map, listed]
    rfl

/-- An image of 64 KiB, whose addresses wrap, and one that is a word longer. -/
theorem disassembly_loses_nothing_of_wrap :
    let image : List Byte := List.replicate 65536 0x12
    (∃ line address word, (disassemble image)[32512]? = some line ∧
      columns line =
        ['0' :: 'x' :: address ++ [':'], '0' :: 'x' :: word, "JP 0x212".toList] ∧
      FourDigits address 0 ∧ FourDigits word 0x1212) ∧
    disassemble image ≠ disassemble (List.replicate 65538 0x12) := by
  intro image
  have size : image.length = 65536 := List.length_replicate
  have every {k : Nat} {b : Byte} (here : image[k]? = some b) : b = 0x12 :=
    List.eq_of_mem_replicate (List.mem_of_getElem? here)
  obtain ⟨-, lines, -, same⟩ := disassembly_loses_nothing image
  obtain ⟨high, low, first, second, line, address, word, listed, shown, wrapped, digits⟩ :=
    lines 32512 (by omega)
  obtain rfl := every first
  obtain rfl := every second
  refine ⟨⟨line, address, word, listed, ?_, wrapped, digits⟩, ?_⟩
  · have text : Instruction.text ⟨.ofBytes 0x12 0x12, BitVec.ofNat 16 (programStart + 2 * 32512)⟩ =
        "JP 0x212" := by decide
    rw [← text]
    exact shown
  · intro equal
    have lengths := congrArg List.length
      ((same (List.replicate 65538 0x12) (by omega) (by rw [List.length_replicate])).1 equal)
    rw [size, List.length_replicate] at lengths
    cases lengths

end Chip8
