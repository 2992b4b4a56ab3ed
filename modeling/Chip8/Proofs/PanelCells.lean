import Mathlib.Data.List.Pairwise
import Chip8.Terminal.Basic

/-!
# The cells of the panels

The panels of a frame lie on the screen and apart from each other (`Terminal.inside_of_mem_panels`,
`Terminal.panels_apart`), so a cell of the picture is that of the panel it lies in
(`Terminal.cell_picture`). A panel of text shows its lines row by row inside the border, from the
first one on and as many as there are rows (`Terminal.cell_picture_ofLines`).
-/

namespace Chip8.Terminal

theorem Rect.contains_iff {r : Rect} {x y : Nat} :
    r.contains x y = true ↔ r.x ≤ x ∧ x < r.x + r.width ∧ r.y ≤ y ∧ y < r.y + r.height := by
  simp [Rect.contains, and_assoc]

/-- The body of a panel of text shows the characters of its lines, each line in its row. -/
theorem Panel.cell_ofLines (area : Rect) (title : String) (lines : List String) {x y : Nat}
    (left : x < bodyWidth area.width) (upper : y < bodyHeight area.height) :
    (ofLines area title lines).cell (x + 1) (y + 1) =
      (lines[y]?.getD "").toList[x]?.getD ' ' := by
  unfold bodyWidth at left
  unfold bodyHeight at upper
  have inner : 0 < x + 1 ∧ x + 1 + 1 < area.width := by omega
  have above : y + 1 + 1 < area.height := by omega
  simp only [cell, ofLines, if_pos inner, Nat.succ_ne_zero, if_false, if_pos above,
    Nat.add_sub_cancel, Array.getD_eq_getD_getElem?, List.getElem?_toArray, List.getElem?_map]
  cases lines[y]? with
  | none => rfl
  | some line => simp only [Option.map_some, Option.getD_some, List.getElem?_toArray]

/-- Not both panels cover the cell. -/
def Apart (x y : Nat) (p q : Panel) : Prop := ¬ (p.area.contains x y ∧ q.area.contains x y)

instance (x y : Nat) : Std.Symm (Apart x y) := ⟨fun _ _ apart both => apart both.symm⟩

theorem compose_eq_cell {panels : List Panel} {x y : Nat} (apart : panels.Pairwise (Apart x y))
    {p : Panel} (mem : p ∈ panels) (here : p.area.contains x y) :
    compose panels x y = p.cell (x - p.area.x) (y - p.area.y) := by
  let covers (q : Panel) : Bool := q.area.contains x y
  have covered : (panels.find? covers).isSome := List.find?_isSome.2 ⟨p, mem, here⟩
  obtain ⟨q, found⟩ := Option.isSome_iff_exists.1 covered
  have there : covers q = true := List.find?_some found
  have same : q = p := by
    by_contra other
    exact apart.forall (List.mem_of_find?_eq_some found) mem other ⟨there, here⟩
  have first : panels.find? (fun q => q.area.contains x y) = some p := same ▸ found
  simp only [compose, first]

section Frame

variable (area : Size) (console : Console) (frame : Frame)

theorem panels_apart (x y : Nat) : (panels area console frame).Pairwise (Apart x y) := by
  simp only [Apart, panels, Layout.ofSize, Panel.ofBitmap, Panel.ofLines, Rect.contains_iff,
    List.pairwise_cons, List.mem_cons, List.not_mem_nil, or_false, forall_eq_or_imp, forall_eq,
    List.Pairwise.nil, false_imp_iff, implies_true, and_true]
  generalize min displaySize.width area.width = left
  generalize min displaySize.height area.height = upper
  refine ⟨⟨?_, ?_, ?_⟩, ⟨?_, ?_⟩, ?_⟩ <;> omega

variable {area console frame} {x y : Nat}

theorem inside_of_mem_panels {p : Panel} (mem : p ∈ panels area console frame)
    (here : p.area.contains x y) : x < area.width ∧ y < area.height := by
  rw [Rect.contains_iff] at here
  simp only [panels, List.mem_cons, List.not_mem_nil, or_false] at mem
  obtain rfl | rfl | rfl | rfl := mem <;>
    simp only [Panel.ofBitmap, Panel.ofLines, Layout.ofSize] at here <;> omega

/-- A cell of a frame is that of the panel it lies in. -/
theorem cell_picture {p : Panel} (mem : p ∈ panels area console frame)
    (here : p.area.contains x y) :
    (picture area console frame).cell x y = p.cell (x - p.area.x) (y - p.area.y) := by
  obtain ⟨width, height⟩ := inside_of_mem_panels mem here
  rw [picture, Grid.cell_ofFn area _ width height]
  exact compose_eq_cell (panels_apart area console frame x y) mem here

/-- A panel of text shows its lines from the first one on, as many as it has rows. -/
theorem cell_picture_ofLines {r : Rect} {title : String} {lines : List String}
    (mem : Panel.ofLines r title lines ∈ panels area console frame)
    (left : x < Panel.bodyWidth r.width) (upper : y < Panel.bodyHeight r.height) :
    (picture area console frame).cell (r.x + (x + 1)) (r.y + (y + 1)) =
      (lines[y]?.getD "").toList[x]?.getD ' ' := by
  have here : r.contains (r.x + (x + 1)) (r.y + (y + 1)) := by
    unfold Panel.bodyWidth at left
    unfold Panel.bodyHeight at upper
    rw [Rect.contains_iff]
    omega
  calc (picture area console frame).cell (r.x + (x + 1)) (r.y + (y + 1))
    _ = (Panel.ofLines r title lines).cell (r.x + (x + 1) - r.x) (r.y + (y + 1) - r.y) :=
      cell_picture mem here
    _ = (Panel.ofLines r title lines).cell (x + 1) (y + 1) := by
      rw [Nat.add_sub_cancel_left, Nat.add_sub_cancel_left]
    _ = (lines[y]?.getD "").toList[x]?.getD ' ' := Panel.cell_ofLines r title lines left upper

end Frame

/-- A window that can be used is high enough for the display. -/
theorem height_of_open? {size : Size} {t : Terminal} (opened : open? size = .ok t) :
    34 ≤ size.drawable.height := by
  unfold open? at opened
  simp only at opened
  split at opened
  · cases opened
  · next large => exact Nat.le_of_not_lt (not_or.1 large).2

end Chip8.Terminal
