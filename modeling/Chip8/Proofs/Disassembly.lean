import Chip8.Proofs.Mnemonics
import Chip8.Proofs.ProgramListing

/-!
# The listing and the disassembly

A program is cut into instructions in three places: the disassembler pairs the bytes of the image,
the listing reads pairs of memory cells from `programStart` on, and `fetch` reads the pair at the
program counter. They agree on every program that fits (`Machine.listing_disassembled`), whatever
was in memory before: the lines of the disassembly are the entries of the listing, but for an odd
last byte, which the listing pairs with a zero and the disassembler drops.

A line of a disassembly has three columns between tabs: the address with a colon behind it, the
word and its mnemonic. None of them holds a tab (`Instruction.columns_disassemblyLine`), and both
numbers have exactly four digits (`fourDigits_hex`), so a line shows which entry it is.
-/

namespace Chip8

/-- The parts of a line between its tabs. -/
def columns (line : String) : List (List Char) := line.toList.splitOn '\t'

namespace Instruction

theorem columns_disassemblyLine (i : Instruction) :
    columns i.disassemblyLine =
      ['0' :: 'x' :: (hex 4 i.address.toNat).toList ++ [':'],
        '0' :: 'x' :: (hex 4 i.word.toNat).toList, i.text.toList] := by
  have joined : i.disassemblyLine.toList = ['\t'].intercalate
      ['0' :: 'x' :: (hex 4 i.address.toNat).toList ++ [':'],
        '0' :: 'x' :: (hex 4 i.word.toNat).toList, i.text.toList] := by
    simp [disassemblyLine, hexMarked]
  have digits (n : Nat) : '\t' ∉ (hex 4 n).toList := fun mem =>
    absurd (isAlphanum_of_mem_hex mem) (by decide)
  have text : '\t' ∉ i.text.toList := fun mem =>
    absurd (isMnemonicChar_of_mem_text mem) (by decide)
  have whole : ∀ column ∈ ['0' :: 'x' :: (hex 4 i.address.toNat).toList ++ [':'],
      '0' :: 'x' :: (hex 4 i.word.toNat).toList, i.text.toList], '\t' ∉ column := by
    simp [digits, text]
  rw [columns, joined, List.splitOn_intercalate _ whole (List.cons_ne_nil _ _)]

theorem length_ofImage (address : Word) (image : List Byte) :
    (ofImage address image).length = image.length / 2 := by
  fun_induction ofImage address image with
  | case1 address high low rest ih =>
    simp only [List.length_cons, ih]
    omega
  | case2 image address short =>
    match image with
    | [] | [_] => simp
    | _ :: _ :: _ => exact absurd rfl (short _ _ _)

/-- The `k`-th instruction of an image is made of its `k`-th pair of bytes. -/
theorem getElem?_ofImage (address : Word) (image : List Byte) {k : Nat}
    (inside : k < image.length / 2) :
    (ofImage address image)[k]? =
      some ⟨.ofBytes (image[2 * k]?.getD 0) (image[2 * k + 1]?.getD 0),
        address + BitVec.ofNat 16 (2 * k)⟩ := by
  fun_induction ofImage address image generalizing k with
  | case1 address high low rest ih =>
    cases k with
    | zero => simp
    | succ k =>
      have behind : k < rest.length / 2 := by
        simp only [List.length_cons] at inside
        omega
      have next : address + 2 + BitVec.ofNat 16 (2 * k) =
          address + BitVec.ofNat 16 (2 * (k + 1)) := by
        rw [BitVec.add_assoc, Nat.mul_succ, Nat.add_comm, BitVec.ofNat_add]
        rfl
      rw [List.getElem?_cons_succ, ih behind, next]
      rfl
  | case2 image address short =>
    match image with
    | [] | [_] => simp at inside
    | _ :: _ :: _ => exact absurd rfl (short _ _ _)

end Instruction

namespace Machine

variable {m loaded : Machine} {program : List Byte}

/-- The `k`-th entry of the listing of a program that was just loaded. -/
theorem getElem?_listing_of_load (load : m.load program = .ok loaded) {k : Nat}
    (inside : k < (program.length + 1) / 2) :
    loaded.listing[k]? =
      some ⟨.ofBytes (program[2 * k]?.getD 0) (program[2 * k + 1]?.getD 0),
        BitVec.ofNat 16 (programStart + 2 * k)⟩ := by
  obtain ⟨fits, rfl⟩ := load_eq_ok_iff.1 load
  -- The last entry may reach the top of memory but does not wrap.
  have below : programStart + 2 * k + 1 < 4096 := by
    simp only [programStart, maxProgramSize] at fits ⊢
    omega
  rw [getElem?_listing fits inside, Memory.word_withProgram _ _ below]

theorem length_listing_of_load (load : m.load program = .ok loaded) :
    loaded.listing.length = (program.length + 1) / 2 := by
  obtain ⟨-, rfl⟩ := load_eq_ok_iff.1 load
  exact length_listing _

/-- With the program counter at an entry of the listing, the entry is what is fetched. -/
theorem fetch_of_mem_listing {entry : Instruction} (mem : entry ∈ m.listing) :
    { m with pc := entry.address }.fetch = entry := by
  have word := (word_of_mem_listing mem).1
  exact congrArg (Instruction.mk · entry.address) word.symm

/-- A program that fits can be loaded into any machine. Each line of its disassembly is the line of
the entry of the listing with the same number, which is the word at that place of the program: its
columns are the address of the entry, its word and its mnemonic. An odd last byte is in the listing
only, with a zero as its low byte. What is fetched at an entry is the entry. -/
theorem listing_disassembled (m : Machine) {program : List Byte}
    (fits : program.length ≤ maxProgramSize) :
    ∃ loaded, m.load program = .ok loaded ∧
      loaded.listing.length = (program.length + 1) / 2 ∧
      (disassemble program).length = program.length / 2 ∧
      (∀ k (_ : k < program.length / 2),
        ∃ entry line address word, loaded.listing[k]? = some entry ∧
          entry.address.toNat = programStart + 2 * k ∧
          entry.word = .ofBytes program[2 * k] program[2 * k + 1] ∧
          (disassemble program)[k]? = some line ∧ line = entry.disassemblyLine ∧
          columns line =
            ['0' :: 'x' :: address ++ [':'], '0' :: 'x' :: word, entry.text.toList] ∧
          FourDigits address (programStart + 2 * k) ∧
          FourDigits word (program[2 * k].toNat * 256 + program[2 * k + 1].toNat)) ∧
      (∀ _ : program.length % 2 = 1,
        loaded.listing[program.length / 2]? =
          some ⟨.ofBytes program[program.length - 1] 0,
            BitVec.ofNat 16 (programStart + program.length - 1)⟩) ∧
      ∀ entry ∈ loaded.listing, { loaded with pc := entry.address }.fetch = entry := by
  obtain ⟨loaded, load⟩ : ∃ loaded, m.load program = .ok loaded :=
    ⟨_, if_neg (Nat.not_lt.2 fits)⟩
  refine ⟨loaded, load, length_listing_of_load load, ?_, ?_, ?_, fun _ => fetch_of_mem_listing⟩
  · rw [disassemble, List.length_map, Instruction.length_ofImage]
  · intro k inside
    have first : 2 * k < program.length := by omega
    have second : 2 * k + 1 < program.length := by omega
    have listed := getElem?_listing_of_load load (show k < (program.length + 1) / 2 by omega)
    have shown := Instruction.getElem?_ofImage (BitVec.ofNat 16 programStart) program inside
    rw [← BitVec.ofNat_add] at shown
    rw [List.getElem?_eq_getElem first, List.getElem?_eq_getElem second, Option.getD_some,
      Option.getD_some] at listed shown
    have address : (BitVec.ofNat 16 (programStart + 2 * k)).toNat = programStart + 2 * k := by
      simp only [programStart, maxProgramSize, BitVec.toNat_ofNat] at fits ⊢
      omega
    refine ⟨_, _, _, _, listed, address, rfl, ?_, rfl,
      Instruction.columns_disassemblyLine _, fourDigits_hex address,
      fourDigits_hex (Word.toNat_ofBytes ..)⟩
    rw [disassemble, List.getElem?_map, shown, Option.map_some]
  · intro odd
    have listed := getElem?_listing_of_load load
      (show program.length / 2 < (program.length + 1) / 2 by omega)
    have last : 2 * (program.length / 2) = program.length - 1 := by omega
    have inside : program.length - 1 < program.length := by omega
    have beyond : program.length ≤ program.length - 1 + 1 := by omega
    rw [last, List.getElem?_eq_getElem inside, List.getElem?_eq_none beyond,
      ← Nat.add_sub_assoc (by omega)] at listed
    exact listed

/-- Three bytes over a longer program. -/
theorem listing_disassembled_of_reload :
    let old := { ofFont .standard with
      memory := (Memory.ofFont .standard).withProgram [0x11, 0x11, 0x11, 0x11]
      programSize := 4 }
    ∃ loaded, old.load [0x00, 0xE0, 0x12] = .ok loaded ∧
      loaded.listing[1]? = some ⟨0x1200, 0x202⟩ ∧
      ∃ line address word, (disassemble [0x00, 0xE0, 0x12])[0]? = some line ∧
        columns line = ['0' :: 'x' :: address ++ [':'], '0' :: 'x' :: word, "CLS".toList] ∧
        FourDigits address 0x200 ∧ FourDigits word 0x00E0 := by
  intro old
  obtain ⟨loaded, load, -, -, lines, last, -⟩ :=
    listing_disassembled old (show [0x00, 0xE0, 0x12].length ≤ maxProgramSize by decide)
  obtain ⟨entry, line, address, digits, -, -, word, shown, -, columns, first, second⟩ :=
    lines 0 (by decide)
  have odd : loaded.listing[1]? = some ⟨.ofBytes 0x12 0x00, BitVec.ofNat 16 0x202⟩ := last rfl
  have clear : entry.text = "CLS" := by
    rw [Instruction.text, Instruction.operation?, word]
    decide
  rw [clear] at columns
  exact ⟨loaded, load, odd, line, address, digits, shown, columns, first, second⟩

end Machine

end Chip8
