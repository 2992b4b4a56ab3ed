import Mathlib.Data.List.Infix
import Chip8.Panels
import Chip8.Proofs.Mnemonics
import Chip8.Proofs.ProgramListing

/-!
# The pages of the listing

The program panel shows one page of the listing, the one that the program counter is on. The pages
follow each other without a gap (`ProgramPanel.flatten_pages`), and with the program counter at an
entry it is the page of the entry (`ProgramPanel.pageStart_of_entry`). A line shows the address, the
word and the mnemonic of its entry (`ProgramPanel.shows_line`). It carries the marker if and only if
its address is the program counter, since nothing else in a line is written with the arrow of the
marker (`ProgramPanel.marker_infix_line_iff`). With the program counter elsewhere, the bounds of the
page may be no range of the listing at all; then nothing is shown, and in any case nothing is marked
(`ProgramPanel.page_shown`).
-/

namespace Chip8

namespace ProgramPanel

/-! ## Lines -/

/-- A line without its marker. -/
def caption (i : Instruction) : String :=
  hexMarked 3 i.address.toNat ++ ": " ++ hex 4 i.word.toNat ++ " " ++ i.text

variable {pc : Word} {listing : List Instruction} {i : Instruction}

theorem line_of_here (here : i.address = pc) : line pc i = caption i ++ marker := by
  simp [line, caption, here]

theorem line_of_elsewhere (elsewhere : i.address ≠ pc) : line pc i = caption i := by
  simp [line, caption, elsewhere]

theorem arrow_notMem_caption (i : Instruction) : '<' ∉ (caption i).toList := by
  have address : '<' ∉ (hexMarked 3 i.address.toNat).toList := fun mem =>
    absurd (isAlphanum_of_mem_hexMarked mem) (by decide)
  have word : '<' ∉ (hex 4 i.word.toNat).toList := fun mem =>
    absurd (isAlphanum_of_mem_hex mem) (by decide)
  have text : '<' ∉ i.text.toList := fun mem =>
    absurd (Instruction.isMnemonicChar_of_mem_text mem) (by decide)
  simp [caption, address, word, text]

theorem marker_suffix_line (here : i.address = pc) :
    marker.toList <:+ (line pc i).toList := by
  rw [line_of_here here, String.toList_append]
  exact List.suffix_append _ _

theorem marker_infix_line_iff : marker.toList <:+: (line pc i).toList ↔ i.address = pc := by
  constructor
  · intro marked
    by_contra elsewhere
    rw [line_of_elsewhere elsewhere] at marked
    exact arrow_notMem_caption i (marked.subset (by decide))
  · intro here
    exact (marker_suffix_line here).isInfix

theorem marker_suffix_line_iff : marker.toList <:+ (line pc i).toList ↔ i.address = pc :=
  ⟨fun marked => marker_infix_line_iff.1 marked.isInfix, marker_suffix_line⟩

/-- The text shows the entry: its address in three hexadecimal digits, its word in four and its
mnemonic, with the marker behind them if it is the one at the program counter. -/
def Shows (pc : Word) (text : String) (entry : Instruction) : Prop :=
  ∃ address word, HexDigits 3 address entry.address.toNat ∧ FourDigits word entry.word.toNat ∧
    text.toList = '0' :: 'x' :: address ++ ':' :: ' ' :: word ++ ' ' :: entry.text.toList ++
      if entry.address = pc then marker.toList else []

theorem shows_line (inMemory : i.address.toNat < 4096) : Shows pc (line pc i) i := by
  have few : (Nat.toDigits 16 i.address.toNat).length ≤ 3 :=
    (Nat.length_toDigits_le_iff (by decide) (by decide)).2 inMemory
  refine ⟨_, _, hexDigits_hex few, fourDigits_hex rfl, ?_⟩
  by_cases here : i.address = pc
  · simp [line_of_here here, caption, hexMarked, here]
  · simp [line_of_elsewhere here, caption, hexMarked, here]

/-! ## Pages -/

/-- The entries of the page that holds the program counter. -/
def page (pc : Word) (listing : List Instruction) : List Instruction :=
  (listing.drop (pageStart pc)).take pageSize

/-- The entries from `start` up to `stop`, if these are the bounds of a range of the listing. -/
def range? (listing : List Instruction) (start stop : Nat) : Option (List Instruction) :=
  if start ≤ stop ∧ stop ≤ listing.length then some (listing.extract start stop) else none

def nthPage (listing : List Instruction) (n : Nat) : List Instruction :=
  (listing.drop (pageSize * n)).take pageSize

/-- The pages of a listing in order. -/
def pages (listing : List Instruction) : List (List Instruction) :=
  (List.range ((listing.length + pageSize - 1) / pageSize)).map (nthPage listing)

theorem page_infix (pc : Word) (listing : List Instruction) : page pc listing <:+: listing :=
  (List.take_prefix _ _).isInfix.trans (List.drop_suffix _ _).isInfix

theorem length_page_le (pc : Word) (listing : List Instruction) :
    (page pc listing).length ≤ pageSize :=
  List.length_take_le _ _

theorem take_drop_eq_extract (listing : List Instruction) (start : Nat) :
    (listing.drop start).take pageSize =
      listing.extract start (min (start + pageSize) listing.length) := by
  rw [List.extract_eq_take_drop, List.take_eq_take_iff, List.length_drop]
  omega

/-- Where the bounds of the page are no range of the listing, the page is empty. -/
theorem page_eq_range (pc : Word) (listing : List Instruction) :
    page pc listing = (range? listing (pageStart pc)
      (min (pageStart pc + pageSize) listing.length)).getD [] := by
  unfold page range?
  split
  · rw [Option.getD_some, take_drop_eq_extract]
  · next inverted =>
    have beyond : listing.length ≤ pageStart pc := by omega
    rw [List.drop_eq_nil_of_le beyond]
    rfl

theorem exists_of_getElem?_lines {k : Nat} {text : String}
    (shown : (lines pc listing)[k]? = some text) :
    ∃ i, k < pageSize ∧ listing[pageStart pc + k]? = some i ∧ text = line pc i := by
  have inside : k < pageSize := by
    have short := length_page_le pc listing
    have lt : k < (lines pc listing).length := (List.getElem?_eq_some_iff.1 shown).1
    rw [lines, List.length_map] at lt
    exact Nat.lt_of_lt_of_le lt short
  rw [lines, List.getElem?_map, List.getElem?_take, if_pos inside, List.getElem?_drop] at shown
  obtain ⟨i, listed, rfl⟩ := Option.map_eq_some_iff.1 shown
  exact ⟨i, inside, listed, rfl⟩

theorem pageStart_of_entry {j : Nat} (here : pc.toNat = programStart + 2 * j) :
    pageStart pc = pageSize * (j / pageSize) := by
  rw [pageStart, here, Nat.add_sub_cancel_left, Nat.mul_div_cancel_left _ (by decide), Nat.mul_comm]

theorem page_of_entry (listing : List Instruction) {j : Nat}
    (here : pc.toNat = programStart + 2 * j) :
    page pc listing = nthPage listing (j / pageSize) := by
  rw [page, pageStart_of_entry here, nthPage]

/-- With the program counter at an entry, its line is the one of the page with its number. -/
theorem getElem?_lines_of_entry {j : Nat} (here : pc.toNat = programStart + 2 * j)
    (listed : listing[j]? = some i) : (lines pc listing)[j % pageSize]? = some (line pc i) := by
  have place : pageStart pc + j % pageSize = j := by
    rw [pageStart_of_entry here]
    exact Nat.div_add_mod j pageSize
  rw [lines, List.getElem?_map, List.getElem?_take, if_pos (Nat.mod_lt _ (by decide)),
    List.getElem?_drop, place, listed, Option.map_some]

/-- The first pages together are the first entries. -/
theorem flatten_map_nthPage (listing : List Instruction) (n : Nat) :
    ((List.range n).map (nthPage listing)).flatten = listing.take (pageSize * n) := by
  induction n with
  | zero => rfl
  | succ n ih =>
    rw [List.range_succ, List.map_append, List.flatten_append, ih, Nat.mul_succ, List.take_add]
    simp [nthPage]

theorem flatten_pages (listing : List Instruction) : (pages listing).flatten = listing := by
  rw [pages, flatten_map_nthPage]
  apply List.take_of_length_le
  simp only [pageSize]
  omega

theorem mem_nthPage_iff {n : Nat} :
    i ∈ nthPage listing n ↔ ∃ j, listing[j]? = some i ∧ j / pageSize = n := by
  simp only [nthPage, List.mem_iff_getElem?, List.getElem?_take, List.getElem?_drop, pageSize]
  constructor
  · rintro ⟨k, at_⟩
    split at at_
    · next inside => exact ⟨_, at_, by omega⟩
    · cases at_
  · rintro ⟨j, listed, rfl⟩
    refine ⟨j % 40, ?_⟩
    rw [if_pos (Nat.mod_lt _ (by decide)), Nat.div_add_mod, listed]

/-! ## The listing of a program -/

section Program

variable {m : Machine} (fits : m.programSize ≤ maxProgramSize)
include fits

/-- The address of an entry is a word. -/
theorem toNat_entryAddress {j : Nat} (inside : j < m.listing.length) :
    (BitVec.ofNat 16 (programStart + 2 * j)).toNat = programStart + 2 * j := by
  rw [Machine.length_listing] at inside
  rw [BitVec.toNat_ofNat]
  simp only [programStart, maxProgramSize] at fits ⊢
  omega

/-- No two entries have the same address. -/
theorem eq_of_getElem?_listing {j k : Nat} (listed : m.listing[j]? = some i)
    (listed' : m.listing[k]? = some i) : j = k := by
  have address := Machine.toNat_address_of_getElem?_listing fits listed
  have address' := Machine.toNat_address_of_getElem?_listing fits listed'
  omega

/-- The line `k` of the page is marked if and only if it is the one at the program counter. -/
theorem marked_iff {k : Nat} {text : String} (shown : (lines pc m.listing)[k]? = some text) :
    (marker.toList <:+ text.toList ↔ pc.toNat = programStart + 2 * (pageStart pc + k)) ∧
      (marker.toList <:+: text.toList ↔ pc.toNat = programStart + 2 * (pageStart pc + k)) := by
  obtain ⟨i, -, listed, rfl⟩ := exists_of_getElem?_lines shown
  have address := Machine.toNat_address_of_getElem?_listing fits listed
  have here : i.address = pc ↔ pc.toNat = programStart + 2 * (pageStart pc + k) := by
    rw [← address, ← BitVec.toNat_inj, eq_comm]
  exact ⟨marker_suffix_line_iff.trans here, marker_infix_line_iff.trans here⟩

/-- Each line shows the entry with its number, counted from the first one of the page. -/
theorem shows_of_getElem?_lines {k : Nat} {text : String}
    (shown : (lines pc m.listing)[k]? = some text) :
    ∃ entry, m.listing[pageStart pc + k]? = some entry ∧ Shows pc text entry := by
  obtain ⟨i, -, listed, rfl⟩ := exists_of_getElem?_lines shown
  have address := Machine.toNat_address_of_getElem?_listing fits listed
  have inside : pageStart pc + k < m.listing.length := (List.getElem?_eq_some_iff.1 listed).1
  rw [Machine.length_listing] at inside
  refine ⟨i, listed, shows_line ?_⟩
  rw [address]
  simp only [programStart, maxProgramSize] at fits ⊢
  omega

/-- The pages are those that the entries of the listing are on. -/
theorem mem_pages_iff {p : List Instruction} :
    p ∈ pages m.listing ↔
      ∃ j < m.listing.length, p = page (BitVec.ofNat 16 (programStart + 2 * j)) m.listing := by
  have onPage {j : Nat} (inside : j < m.listing.length) :
      page (BitVec.ofNat 16 (programStart + 2 * j)) m.listing =
        nthPage m.listing (j / pageSize) :=
    page_of_entry _ (toNat_entryAddress fits inside)
  rw [pages, List.mem_map]
  constructor
  · rintro ⟨n, lt, rfl⟩
    have inside : pageSize * n < m.listing.length := by
      rw [List.mem_range] at lt
      simp only [pageSize] at lt ⊢
      omega
    refine ⟨pageSize * n, inside, ?_⟩
    rw [onPage inside, Nat.mul_div_cancel_left _ (by decide)]
  · rintro ⟨j, inside, rfl⟩
    refine ⟨j / pageSize, ?_, (onPage inside).symm⟩
    rw [List.mem_range]
    simp only [pageSize]
    omega

theorem existsUnique_page (listed : i ∈ m.listing) :
    ∃! p, p ∈ pages m.listing ∧ i ∈ p := by
  obtain ⟨j, at_⟩ := List.mem_iff_getElem?.1 listed
  refine ⟨nthPage m.listing (j / pageSize), ⟨?_, mem_nthPage_iff.2 ⟨j, at_, rfl⟩⟩, ?_⟩
  · have inside : j < m.listing.length := (List.getElem?_eq_some_iff.1 at_).1
    refine (mem_pages_iff fits).2 ⟨j, inside, ?_⟩
    exact (page_of_entry _ (toNat_entryAddress fits inside)).symm
  · rintro p ⟨mem, on⟩
    obtain ⟨n, -, rfl⟩ := List.mem_map.1 mem
    obtain ⟨k, at', rfl⟩ := mem_nthPage_iff.1 on
    rw [eq_of_getElem?_listing fits at' at_]

end Program

/-- What is shown of a program that fits, as every loaded one does, wherever the program counter is:
a run of entries, at most a page, cut out by bounds that may be no range of the listing, each with
its address, its word and its mnemonic. With the program counter at an entry it is the page of that
entry, and its line alone is marked; with the program counter elsewhere no line is. The pages that
the entries are on make up the listing. -/
theorem page_shown {m : Machine} (fits : m.programSize ≤ maxProgramSize) (pc : Word) :
    let listing := m.listing
    let shown := lines pc listing
    let start := pageStart pc
    let stop := min (start + pageSize) listing.length
    shown = ((range? listing start stop).getD []).map (line pc) ∧
      (∃ entries, entries <:+: listing ∧ entries.length ≤ pageSize ∧
        shown = entries.map (line pc)) ∧
      (∀ k text, shown[k]? = some text →
        ∃ entry, listing[start + k]? = some entry ∧ Shows pc text entry) ∧
      (∀ j < listing.length, pc.toNat = programStart + 2 * j →
        let first := pageSize * (j / pageSize)
        shown = (listing.extract first (min (first + pageSize) listing.length)).map (line pc) ∧
          (∃ entry, listing[j]? = some entry ∧ shown[j % pageSize]? = some (line pc entry)) ∧
          ∀ k text, shown[k]? = some text →
            (marker.toList <:+ text.toList ↔ k = j % pageSize) ∧
              (marker.toList <:+: text.toList ↔ k = j % pageSize)) ∧
      ((∀ j < listing.length, pc.toNat ≠ programStart + 2 * j) →
        ∀ text ∈ shown, ¬ marker.toList <:+: text.toList) ∧
      (pages listing).flatten = listing ∧
      (∀ p, p ∈ pages listing ↔
        ∃ j < listing.length, p = page (BitVec.ofNat 16 (programStart + 2 * j)) listing) ∧
      ∀ entry ∈ listing, ∃! p, p ∈ pages listing ∧ entry ∈ p := by
  intro listing shown start stop
  refine ⟨congrArg (List.map (line pc)) (page_eq_range pc listing),
    ⟨page pc listing, page_infix pc listing, length_page_le pc listing, rfl⟩,
    fun k text => shows_of_getElem?_lines fits, ?_, ?_, flatten_pages listing,
    fun p => mem_pages_iff fits, fun entry => existsUnique_page fits⟩
  · intro j inside here first
    have begins : start = first := pageStart_of_entry here
    have place : first + j % pageSize = j := Nat.div_add_mod j pageSize
    have listed : listing[j]? = some listing[j] := List.getElem?_eq_getElem inside
    refine ⟨?_, ⟨_, listed, getElem?_lines_of_entry here listed⟩, ?_⟩
    · rw [← begins, ← take_drop_eq_extract]
      rfl
    · intro k text at_
      have marked : pc.toNat = programStart + 2 * (start + k) ↔ k = j % pageSize := by omega
      have iffs := marked_iff fits at_
      exact ⟨iffs.1.trans marked, iffs.2.trans marked⟩
  · intro elsewhere text mem marked
    obtain ⟨k, at_⟩ := List.mem_iff_getElem?.1 mem
    obtain ⟨i, -, listed, -⟩ := exists_of_getElem?_lines at_
    have inside : pageStart pc + k < listing.length := (List.getElem?_eq_some_iff.1 listed).1
    exact elsewhere _ inside ((marked_iff fits at_).2.1 marked)

/-- The second of three pages, and a counter past the top of memory. -/
theorem page_shown_of_loaded :
    ∃ loaded, (Machine.ofFont .standard).load (List.replicate 162 0x60) = .ok loaded ∧
      loaded.listing.length = 81 ∧
      (∃ entry, loaded.listing[41]? = some entry ∧
        (lines 0x252 loaded.listing)[1]? = some (line 0x252 entry)) ∧
      (loaded.listing.extract 40 80).map (line 0x252) = lines 0x252 loaded.listing ∧
      ∀ text ∈ lines 0x1252 loaded.listing, ¬ marker.toList <:+: text.toList := by
  have fits : (List.replicate 162 (0x60 : Byte)).length ≤ maxProgramSize := by
    rw [List.length_replicate]
    decide
  obtain ⟨loaded, load, -, size, -⟩ := Machine.exists_load_ofFont .standard _ fits
  rw [List.length_replicate] at size
  have words : loaded.listing.length = 81 := by rw [loaded.length_listing, size]
  have room : loaded.programSize ≤ maxProgramSize := by rw [size]; decide
  obtain ⟨-, -, -, atEntry, -⟩ := page_shown room 0x252
  obtain ⟨second, entry, -⟩ := atEntry 41 (by rw [words]; decide) (by decide)
  obtain ⟨-, -, -, -, elsewhere, -⟩ := page_shown room 0x1252
  have beyond : ∀ j < loaded.listing.length, (0x1252 : Word).toNat ≠ programStart + 2 * j := by
    intro j inside
    rw [show (0x1252 : Word).toNat = 0x1252 from rfl, programStart]
    omega
  rw [words] at second
  exact ⟨loaded, load, words, entry, second.symm, elsewhere beyond⟩

end ProgramPanel

end Chip8
