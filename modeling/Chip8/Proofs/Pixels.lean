import Chip8.Bitmap

/-!
# Drawing pixel by pixel

A sprite row is drawn by one exclusive or on a row of the display. Here the same is said of single
pixels: a sprite flips the pixels that its set bits stand for, one after another, and notes whether
a pixel was lit when its turn came (`foldl_flipNoting`). In one row the pixels are all different, so
the order in which they are flipped does not matter; rows of a tall sprite may coincide.
-/

namespace Chip8.Bitmap

/-- The pixels that a sprite flips, row by row from the left, its top left corner at `(x, y)`.
Coordinates beyond the edges stand for the pixels they wrap to. -/
def spritePixels : List Byte → Nat → Nat → List (Nat × Nat)
  | [], _, _ => []
  | b :: rest, x, y =>
    ((List.range 8).filter (b.getMsbD ·)).map (fun c => (x + c, y)) ++ spritePixels rest x (y + 1)

theorem row_lt (y : Nat) : y % 32 < 32 := Nat.mod_lt y (by decide)

def flip (s : Bitmap) (x y : Nat) : Bitmap :=
  let flipped := getElem s.rows (y % 32) (row_lt y) ^^^ BitVec.twoPow 64 (63 - x % 64)
  ⟨s.rows.set (y % 32) flipped (row_lt y)⟩

/-- Flips a pixel and notes whether it or one before it was lit. -/
def flipNoting (drawn : Bitmap × Bool) (p : Nat × Nat) : Bitmap × Bool :=
  (drawn.1.flip p.1 p.2, drawn.2 || drawn.1.pixel p.1 p.2)

/-! ## One row -/

/-- The byte with all but its `n` highest bits cleared. -/
def highest (b : Byte) (n : Nat) : Byte := b >>> (8 - n) <<< (8 - n)

theorem getMsbD_highest (b : Byte) {n : Nat} (hn : n ≤ 8) (c : Nat) :
    (highest b n).getMsbD c = (decide (c < n) && b.getMsbD c) := by
  rw [highest, BitVec.getMsbD_shiftLeft, BitVec.getMsbD_ushiftRight]
  by_cases h : c < n
  · have lt : c + (8 - n) < 8 := by omega
    have ge : ¬ c + (8 - n) < 8 - n := by omega
    simp [h, lt, ge]
  · have ge : ¬ c + (8 - n) < 8 := by omega
    simp [h, ge]

theorem getMsbD_spriteRow_highest (b : Byte) {n : Nat} (hn : n ≤ 8) (x : Nat) {c : Nat}
    (hc : c < 64) : (spriteRow (highest b n) x).getMsbD c =
      (decide ((c + (64 - x % 64)) % 64 < n) && b.getMsbD ((c + (64 - x % 64)) % 64)) := by
  rw [getMsbD_spriteRow _ _ _ hc, getMsbD_highest b hn]

/-- The next bit of the sprite row is a pixel of its own, or none. -/
theorem spriteRow_highest_succ (b : Byte) {n : Nat} (hn : n < 8) (x : Nat) :
    spriteRow (highest b (n + 1)) x = spriteRow (highest b n) x ^^^
      if b.getMsbD n then BitVec.twoPow 64 (63 - (x + n) % 64) else 0#64 := by
  apply BitVec.eq_of_getMsbD_eq
  intro c hc
  rw [BitVec.getMsbD_xor, getMsbD_spriteRow_highest b hn x hc,
    getMsbD_spriteRow_highest b (by omega) x hc]
  have next : (c + (64 - x % 64)) % 64 = n ↔ c = (x + n) % 64 := by omega
  generalize (c + (64 - x % 64)) % 64 = k at next ⊢
  rw [apply_ite (BitVec.getMsbD · c), BitVec.getMsbD_twoPow, BitVec.getMsbD_zero]
  by_cases here : k = n
  · have column : c = 64 - (63 - (x + n) % 64) - 1 := by have := next.1 here; omega
    have inside : 63 - (x + n) % 64 < 64 := by omega
    subst here
    simp [← column, inside]
  · have column : ¬ c = 64 - (63 - (x + n) % 64) - 1 := by
      have := mt next.2 here
      omega
    have below : k < n + 1 ↔ k < n := by omega
    simp [column, below]

theorem bne_zero_iff {w : Nat} {v : BitVec w} :
    (v != 0) = true ↔ ∃ c, c < w ∧ v.getMsbD c = true := by
  rw [bne_iff_ne]
  constructor
  · intro nonzero
    apply Classical.byContradiction
    intro none
    apply nonzero
    apply BitVec.eq_of_getMsbD_eq
    intro c hc
    simpa using fun lit => none ⟨c, hc, lit⟩
  · rintro ⟨c, -, lit⟩ rfl
    simp at lit

/-- A pixel added to a row is hit in addition to what the row hits. -/
theorem and_xor_twoPow_bne_zero (old row : BitVec 64) {p : Nat} (hp : p < 64)
    (unset : row.getMsbD p = false) :
    (old &&& (row ^^^ BitVec.twoPow 64 (63 - p)) != 0) = (old &&& row != 0 || old.getMsbD p) := by
  have bit : ∀ c, (BitVec.twoPow 64 (63 - p)).getMsbD c = decide (c = p) := by
    intro c
    have inside : 63 - p < 64 := by omega
    have column : 64 - (63 - p) - 1 = p := by omega
    rw [BitVec.getMsbD_twoPow, column]
    simp [inside]
  rw [Bool.eq_iff_iff, Bool.or_eq_true, bne_zero_iff, bne_zero_iff]
  simp only [BitVec.getMsbD_and, BitVec.getMsbD_xor, bit, Bool.and_eq_true]
  constructor
  · rintro ⟨c, hc, lit, set⟩
    by_cases here : c = p
    · exact .inr (here ▸ lit)
    · exact .inl ⟨c, hc, lit, by simpa [here] using set⟩
  · rintro (⟨c, hc, lit, set⟩ | lit)
    · have elsewhere : c ≠ p := by
        rintro rfl
        rw [unset] at set
        cases set
      exact ⟨c, hc, lit, by simp [elsewhere, set]⟩
    · exact ⟨p, hp, lit, by simp [unset]⟩

/-- The first `n` columns of a sprite row, pixel by pixel. -/
theorem foldl_flipNoting_row (s : Bitmap) (hit : Bool) (b : Byte) (x y : Nat) {n : Nat}
    (hn : n ≤ 8) :
    (((List.range n).filter (b.getMsbD ·)).map (fun c => (x + c, y))).foldl flipNoting (s, hit) =
      (⟨s.rows.set (y % 32) (s.rows[y % 32] ^^^ spriteRow (highest b n) x)⟩,
        hit || s.rows[y % 32] &&& spriteRow (highest b n) x != 0) := by
  induction n with
  | zero =>
    have empty : spriteRow (highest b 0) x = 0#64 := by
      apply BitVec.eq_of_getMsbD_eq
      intro c hc
      simp [getMsbD_spriteRow_highest b (Nat.zero_le 8) x hc]
    simp [empty]
  | succ n ih =>
    rw [List.range_succ, List.filter_append, List.map_append, List.foldl_append, ih (by omega),
      spriteRow_highest_succ b (by omega)]
    cases set : b.getMsbD n with
    | false => simp [set]
    | true =>
      have unset : (spriteRow (highest b n) x).getMsbD ((x + n) % 64) = false := by
        rw [getMsbD_spriteRow_highest b (by omega) x (by omega)]
        have here : ((x + n) % 64 + (64 - x % 64)) % 64 = n := by omega
        simp [here]
      simp only [set, List.filter_cons, List.filter_nil, if_true, List.map_cons, List.map_nil,
        List.foldl_cons, List.foldl_nil, flipNoting, flip, pixel, Vector.set_set,
        Vector.getElem_set_self, BitVec.getMsbD_xor, unset, Bool.xor_false, BitVec.xor_assoc,
        Bool.or_assoc, and_xor_twoPow_bne_zero _ _ (Nat.mod_lt _ (by decide)) unset]

theorem highest_eight (b : Byte) : highest b 8 = b := by
  simp [highest]

/-! ## Whole sprites -/

/-- Drawing a sprite is flipping its pixels one after another; a lit one among them is a hit. -/
theorem foldl_flipNoting (s : Bitmap) (hit : Bool) (sprite : List Byte) (x y : Nat) :
    (spritePixels sprite x y).foldl flipNoting (s, hit) =
      ((s.draw sprite x y).1, hit || (s.draw sprite x y).2) := by
  induction sprite generalizing s hit y with
  | nil => simp [spritePixels, draw]
  | cons b rest ih =>
    rw [spritePixels, List.foldl_append, foldl_flipNoting_row s hit b x y (Nat.le_refl 8), ih,
      highest_eight]
    simp only [draw, Bool.or_assoc]

end Chip8.Bitmap
