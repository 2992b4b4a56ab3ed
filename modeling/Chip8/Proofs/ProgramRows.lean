import Chip8.Proofs.PanelCells
import Chip8.Proofs.ProgramMarker

/-!
# The rows of the program panel

The program panel is as high as the screen, and its border takes two rows. What is left shows the
first lines of the page and no more. A screen may have as few as 34 rows, but a page has up to 40
lines. So the marked line can be cut off (`Terminal.current_cut_off`): it is on the screen if and
only if its number on the page is below the number of rows, and on every page only if the screen
has 42 rows (`Terminal.current_shown_iff`).
-/

namespace Chip8

namespace ProgramPanel

/-- The line `k` is there and carries the marker. -/
def MarkedAt (shown : List String) (k : Nat) : Prop :=
  ∃ text, shown[k]? = some text ∧ marker.toList <:+: text.toList

/-- With the program counter at an entry, the marked line is the one with the number of the entry on
its page. -/
theorem markedAt_lines_iff {m : Machine} (fits : m.programSize ≤ maxProgramSize) {j : Nat}
    {entry : Instruction} (listed : m.listing[j]? = some entry) (k : Nat) :
    MarkedAt (lines entry.address m.listing) k ↔ k = j % pageSize := by
  have here := Machine.toNat_address_of_getElem?_listing fits listed
  have place : pageSize * (j / pageSize) + j % pageSize = j := Nat.div_add_mod j pageSize
  constructor
  · rintro ⟨text, at_, marked⟩
    have there := (marked_iff fits at_).2.1 marked
    rw [pageStart_of_entry here] at there
    omega
  · rintro rfl
    exact ⟨_, getElem?_lines_of_entry here listed, (marker_suffix_line rfl).isInfix⟩

/-- A program of 40 words fills a page. -/
theorem exists_last_of_page :
    ∃ (m : Machine) (entry : Instruction),
      m.programSize ≤ maxProgramSize ∧ m.listing[39]? = some entry := by
  obtain ⟨loaded, -, -, size, -⟩ :=
    Machine.exists_load_ofFont .standard (List.replicate 80 0) (by decide)
  rw [List.length_replicate] at size
  have fits : loaded.programSize ≤ maxProgramSize := by rw [size]; decide
  exact ⟨loaded, _, fits, Machine.getElem?_listing fits (by rw [size]; decide)⟩

end ProgramPanel

end Chip8

namespace Chip8.Terminal

/-- In a window that can be used, the rows of the program panel are those of the screen without the
two of the border, and each shows the line with its number. With the program counter at an entry,
the marked line is the one with the number of the entry on its page. So it is shown if and only if
there are more rows than that, and it is always shown if and only if the screen has 42 rows. -/
theorem current_shown_iff {size : Size} {t : Terminal} (opened : open? size = .ok t) :
    let height := size.drawable.height
    let panel := (Layout.ofSize size.drawable).program
    let rows := Panel.bodyHeight panel.height
    34 ≤ height ∧ rows = height - 2 ∧
      (∀ (console : Console) (frame : Frame) (x y : Nat),
        x < Panel.bodyWidth panel.width → y < rows →
          (picture size.drawable console frame).cell (panel.x + (x + 1)) (panel.y + (y + 1)) =
            ((ProgramPanel.lines frame.machine.pc frame.listing)[y]?.getD "").toList[x]?.getD
              ' ') ∧
      (∀ m : Machine, m.programSize ≤ maxProgramSize → ∀ j entry, m.listing[j]? = some entry →
        let shown := ProgramPanel.lines entry.address m.listing
        (∀ k, ProgramPanel.MarkedAt shown k ↔ k = j % 40) ∧
          ((∃ k < rows, ProgramPanel.MarkedAt shown k) ↔ j % 40 < height - 2)) ∧
      ((∀ m : Machine, m.programSize ≤ maxProgramSize → ∀ entry ∈ m.listing,
        ∃ k < rows, ProgramPanel.MarkedAt (ProgramPanel.lines entry.address m.listing) k) ↔
          42 ≤ height) := by
  intro height panel rows
  have least : 34 ≤ height := height_of_open? opened
  have count : rows = height - 2 := rfl
  have place (m : Machine) (fits : m.programSize ≤ maxProgramSize) (j : Nat) (entry : Instruction)
      (listed : m.listing[j]? = some entry) :
      (∀ k, ProgramPanel.MarkedAt (ProgramPanel.lines entry.address m.listing) k ↔ k = j % 40) ∧
        ((∃ k < rows, ProgramPanel.MarkedAt (ProgramPanel.lines entry.address m.listing) k) ↔
          j % 40 < height - 2) := by
    have marked := ProgramPanel.markedAt_lines_iff fits listed
    refine ⟨marked, ?_⟩
    simp only [marked, count, exists_eq_right]
  have text (console : Console) (frame : Frame) : Panel.ofLines panel "PROGRAM"
      (ProgramPanel.lines frame.machine.pc frame.listing) ∈
        panels size.drawable console frame := by
    simp [panels, panel]
  refine ⟨least, count, fun console frame _ _ => cell_picture_ofLines (text console frame), place,
    ?_⟩
  constructor
  · intro always
    -- Entry 39 of a program of 40 words is the last one of a page.
    obtain ⟨m, entry, fits, last⟩ := ProgramPanel.exists_last_of_page
    have shown := (place m fits 39 entry last).2.1 (always m fits entry (List.mem_of_getElem? last))
    omega
  · intro tall m fits entry mem
    obtain ⟨j, listed⟩ := List.mem_iff_getElem?.1 mem
    refine (place m fits j entry listed).2.2 ?_
    have onPage : j % 40 < 40 := Nat.mod_lt _ (by decide)
    omega

/-- A screen of 42 rows shows every marked line. -/
theorem current_shown_iff_of_tall :
    ∃ t, open? ⟨140, 42⟩ = .ok t ∧
      ∀ m : Machine, m.programSize ≤ maxProgramSize → ∀ entry ∈ m.listing,
        ∃ k < 40, ProgramPanel.MarkedAt (ProgramPanel.lines entry.address m.listing) k := by
  obtain ⟨t, opened⟩ : ∃ t, open? ⟨140, 42⟩ = .ok t := ⟨_, rfl⟩
  obtain ⟨-, rows, -, -, always⟩ := current_shown_iff opened
  refine ⟨t, opened, ?_⟩
  rw [rows] at always
  exact always.2 (by decide)

/-- A screen may have 34 rows, of which 32 are left for the page. A program that jumps to its entry
32 has the instruction that runs next cut off. -/
theorem current_cut_off :
    ∃ t, open? ⟨140, 34⟩ = .ok t ∧
      let panel := (Layout.ofSize (Size.drawable ⟨140, 34⟩)).program
      let rows := Panel.bodyHeight panel.height
      Panel.bodyWidth panel.width = 38 ∧ rows = 32 ∧
        ∃ loaded,
          (Machine.ofFont .standard).load ([0x12, 0x40] ++ List.replicate 64 0) = .ok loaded ∧
          let now := ((Device.mk loaded .blank).cycle 0).machine
          let shown := ProgramPanel.lines now.pc loaded.listing
          (∃ entry ∈ loaded.listing, entry.address = now.pc) ∧
            ProgramPanel.MarkedAt shown 32 ∧ ∀ k < rows, ¬ ProgramPanel.MarkedAt shown k := by
  obtain ⟨t, opened⟩ : ∃ t, open? ⟨140, 34⟩ = .ok t := ⟨_, rfl⟩
  obtain ⟨loaded, load, stored, size, start⟩ :=
    Machine.exists_load_ofFont .standard ([0x12, 0x40] ++ List.replicate 64 0) (by decide)
  have fits : loaded.programSize ≤ maxProgramSize := by rw [size]; decide
  have word : loaded.memory.word programStart = 0x1240 := by
    rw [stored]
    exact Memory.word_withProgram (k := 0) (.ofFont .standard) _ (by decide)
  have jump : Operation.ofWord? (loaded.memory.word loaded.pc.toNat) = some (.jump 0x240) := by
    rw [start]
    exact (congrArg Operation.ofWord? word).trans (by decide)
  have now : ((Device.mk loaded .blank).cycle 0).machine.pc = 0x240 :=
    (Device.cycle_of_jump (d := ⟨loaded, .blank⟩) 0 jump).1
  let entry : Instruction := ⟨loaded.memory.word 0x240, 0x240⟩
  have listed : loaded.listing[32]? = some entry := by
    rw [Machine.getElem?_listing fits (by rw [size]; decide)]
    rfl
  have marked := ProgramPanel.markedAt_lines_iff fits listed
  refine ⟨t, opened, by decide, by decide, loaded, load, ?_⟩
  simp only [now]
  refine ⟨⟨entry, List.mem_of_getElem? listed, rfl⟩, (marked 32).2 rfl, ?_⟩
  intro k above here
  rw [(marked k).1 here] at above
  exact absurd above (by decide)

end Chip8.Terminal
