import Chip8.Proofs.SpriteBits

/-!
# Counting lit pixels

The lit pixels of a display are listed in reading order, each once (`mem_lit_iff`,
`pairwise_lit`), so the length of the list is their number. It is the list that a single scan over
all pixels gives, row after row (`lit_eq_scan`). Flipping a pixel changes that number
by one, up or down (`length_lit_flip`); a drawing, which flips a pixel for each set bit, raises it
by the number of set bits less two for each pixel that it switches off on the way
(`length_lit_foldl_flipNoting`). The flag tells whether there was one of these (`lit_after_draw`).
-/

namespace Chip8.Bitmap

/-- The coordinates of the display, row by row from the left. -/
def grid : List (Nat × Nat) :=
  (List.range 32).flatMap fun y => (List.range 64).map fun x => (x, y)

/-- The first pixel stands before the second in reading order. -/
def Precedes (p q : Nat × Nat) : Prop := p.2 < q.2 ∨ p.2 = q.2 ∧ p.1 < q.1

theorem mem_grid_iff {p : Nat × Nat} : p ∈ grid ↔ p.1 < 64 ∧ p.2 < 32 := by
  simp only [grid, List.mem_flatMap, List.mem_map, List.mem_range]
  constructor
  · rintro ⟨y, hy, x, hx, rfl⟩
    exact ⟨hx, hy⟩
  · rintro ⟨hx, hy⟩
    exact ⟨p.2, hy, p.1, hx, rfl⟩

/-- The first rows, counted through: pixel `i` is in column `i % 64` of row `i / 64`. -/
theorem rows_eq_scan (height : Nat) :
    ((List.range height).flatMap fun y => (List.range 64).map fun x => (x, y)) =
      (List.range (64 * height)).map fun i => (i % 64, i / 64) := by
  induction height with
  | zero => rfl
  | succ y ih =>
    have last : (List.range 64).map (fun x => (x, y)) =
        (List.range 64).map ((fun i => (i % 64, i / 64)) ∘ (64 * y + ·)) := by
      refine List.map_congr_left fun x mem => ?_
      have inside : x < 64 := List.mem_range.1 mem
      have column : (64 * y + x) % 64 = x := by omega
      have row : (64 * y + x) / 64 = y := by omega
      rw [Function.comp_apply, column, row]
    rw [List.range_succ (n := y), List.flatMap_append, ih, List.flatMap_singleton, Nat.mul_succ,
      List.range_add (n := 64 * y), List.map_append, List.map_map, last]

theorem grid_eq_scan : grid = (List.range (64 * 32)).map fun i => (i % 64, i / 64) :=
  rows_eq_scan 32

theorem pairwise_grid : grid.Pairwise Precedes := by
  rw [grid_eq_scan, List.pairwise_map]
  refine List.pairwise_lt_range.imp ?_
  intro i j before
  simp only [Precedes]
  omega

theorem ne_of_precedes {p q : Nat × Nat} (before : Precedes p q) : p ≠ q := by
  rintro rfl
  rcases before with above | ⟨-, left⟩ <;> omega

theorem lit_eq_filter (s : Bitmap) : s.lit = grid.filter fun p => s.pixel p.1 p.2 := by
  simp only [lit, grid, List.filter_flatMap, List.filter_map]
  rfl

theorem lit_eq_scan (s : Bitmap) :
    s.lit = ((List.range (64 * 32)).filter fun i => s.pixel (i % 64) (i / 64)).map
      fun i => (i % 64, i / 64) := by
  rw [lit_eq_filter, grid_eq_scan, List.filter_map]
  rfl

theorem mem_lit_iff {s : Bitmap} {p : Nat × Nat} :
    p ∈ s.lit ↔ p.1 < 64 ∧ p.2 < 32 ∧ s.pixel p.1 p.2 = true := by
  rw [lit_eq_filter, List.mem_filter, mem_grid_iff, and_assoc]

theorem pairwise_lit (s : Bitmap) : s.lit.Pairwise Precedes := by
  rw [lit_eq_filter]
  exact pairwise_grid.filter _

/-! ## Flipping pixels -/

/-- A test that turns out the other way on one member is passed by one member more or less. -/
theorem countP_of_turned {α : Type} [DecidableEq α] {l : List α} (nodup : l.Nodup) {a : α}
    (mem : a ∈ l) {P Q : α → Bool} (turned : Q a = !P a) (same : ∀ b ∈ l, b ≠ a → Q b = P b) :
    l.countP Q + 2 * (P a).toNat = l.countP P + 1 := by
  have first := List.perm_cons_erase mem
  have others : (l.erase a).countP Q = (l.erase a).countP P := by
    apply List.countP_congr
    intro b hb
    have other : b ≠ a := by
      rintro rfl
      exact nodup.not_mem_erase hb
    rw [same b (List.mem_of_mem_erase hb) other]
  rw [first.countP_eq Q, first.countP_eq P, List.countP_cons, List.countP_cons, others, turned]
  cases P a <;> simp

theorem length_lit_flip (s : Bitmap) (p : Nat × Nat) :
    (s.flip p.1 p.2).lit.length + 2 * (s.pixel p.1 p.2).toNat = s.lit.length + 1 := by
  have inside : wrap p ∈ grid :=
    mem_grid_iff.2 ⟨Nat.mod_lt _ (by decide), Nat.mod_lt _ (by decide)⟩
  have wrapped : wrap (wrap p) = wrap p := by
    simp [wrap]
  rw [lit_eq_filter, lit_eq_filter, ← List.countP_eq_length_filter, ← List.countP_eq_length_filter,
    ← pixel_congr s wrapped]
  apply countP_of_turned (P := fun q => s.pixel q.1 q.2) (pairwise_grid.imp ne_of_precedes) inside
  · rw [pixel_flip, wrapped, decide_eq_true rfl, Bool.xor_true]
  · intro q mem other
    have at_itself : wrap q = q :=
      Prod.ext (Nat.mod_eq_of_lt (mem_grid_iff.1 mem).1) (Nat.mod_eq_of_lt (mem_grid_iff.1 mem).2)
    have elsewhere : wrap p ≠ wrap q := by
      rw [at_itself]
      exact other.symm
    rw [pixel_flip, decide_eq_false elsewhere, Bool.xor_false]

/-- How many lit pixels are switched off when the given ones are flipped one after another. -/
def switchOffs (s : Bitmap) : List (Nat × Nat) → Nat
  | [] => 0
  | p :: rest => (s.pixel p.1 p.2).toNat + switchOffs (s.flip p.1 p.2) rest

theorem length_lit_foldl_flipNoting (s : Bitmap) (hit : Bool) (pixels : List (Nat × Nat)) :
    (pixels.foldl flipNoting (s, hit)).1.lit.length + 2 * s.switchOffs pixels =
      s.lit.length + pixels.length := by
  induction pixels generalizing s hit with
  | nil => rfl
  | cons p rest ih =>
    have others := ih (s.flip p.1 p.2) (hit || s.pixel p.1 p.2)
    have first := s.length_lit_flip p
    simp only [List.foldl_cons, flipNoting, switchOffs, List.length_cons]
    omega

theorem hit_foldl_flipNoting_eq (s : Bitmap) (hit : Bool) (pixels : List (Nat × Nat)) :
    (pixels.foldl flipNoting (s, hit)).2 = (hit || decide (0 < s.switchOffs pixels)) := by
  induction pixels generalizing s hit with
  | nil => simp [switchOffs]
  | cons p rest ih =>
    have either : ∀ n, decide (0 < (s.pixel p.1 p.2).toNat + n) =
        (s.pixel p.1 p.2 || decide (0 < n)) := by
      intro n
      cases s.pixel p.1 p.2 with
      | false => simp
      | true => exact decide_eq_true (by rw [Bool.toNat_true]; omega)
    rw [List.foldl_cons, flipNoting, ih, switchOffs, either, Bool.or_assoc]

/-! ## Drawing -/

/-- The lit pixels are listed in reading order, each once and no others. A drawing flips a pixel for
each set bit of the sprite: their number grows by that of the set bits, less two for each lit pixel
that is switched off on the way. So the flag is clear exactly if it grows by that of the set bits,
and set exactly if it grows by less. -/
theorem lit_after_draw (s : Bitmap) :
    (∀ p, p ∈ s.lit ↔ p.1 < 64 ∧ p.2 < 32 ∧ s.pixel p.1 p.2 = true) ∧
    s.lit.Nodup ∧ s.lit.Pairwise Precedes ∧
    ∀ (sprite : List Byte) (x y : Nat),
      let drawn := s.draw sprite x y
      let bits := (setBits sprite).length
      drawn.1.lit.length + 2 * s.switchOffs (spritePixels sprite x y) = s.lit.length + bits ∧
        (drawn.2 = false ↔ drawn.1.lit.length = s.lit.length + bits) ∧
        (drawn.2 = true ↔ drawn.1.lit.length < s.lit.length + bits) := by
  refine ⟨fun p => mem_lit_iff, s.pairwise_lit.imp ne_of_precedes, s.pairwise_lit, ?_⟩
  intro sprite x y drawn bits
  have number : (spritePixels sprite x y).length = bits := by
    rw [spritePixels_eq_map, List.length_map]
  have flips := foldl_flipNoting s false sprite x y
  have counted : drawn.1.lit.length + 2 * s.switchOffs (spritePixels sprite x y) =
      s.lit.length + bits := by
    rw [← number, ← s.length_lit_foldl_flipNoting false, flips]
  have flag : drawn.2 = decide (0 < s.switchOffs (spritePixels sprite x y)) := by
    have noted := s.hit_foldl_flipNoting_eq false (spritePixels sprite x y)
    rwa [flips, Bool.false_or, Bool.false_or] at noted
  refine ⟨counted, ?_, ?_⟩
  · rw [flag, decide_eq_false_iff_not]
    omega
  · rw [flag, decide_eq_true_iff]
    omega

end Chip8.Bitmap
