import Chip8.Proofs.SpriteHits

/-!
# The bits of a sprite

A sprite is drawn row by row, and a pixel of the display gets what falls on it. Here it is counted
the other way round: for each pixel, how many set bits of the sprite fall on it when both edges wrap
(`bitsOn`). That number tells all that a drawing does, to the pixels and to the flag
(`draw_by_bits`), for sprites taller than the display as well, where several rows fall on one.
-/

namespace Chip8.Bitmap

/-- The set bits of one row of a sprite, from the left, each as its column and its row. Column `c`
is bit `7 - c`. -/
def rowBits (b : Byte) (r : Nat) : List (Nat × Nat) :=
  ((List.range 8).filter fun c => b.getLsbD (7 - c)).map fun c => (c, r)

/-- The set bits of a sprite, row by row. -/
def setBits (sprite : List Byte) : List (Nat × Nat) :=
  sprite.zipIdx.flatMap fun (b, r) => rowBits b r

/-- How many set bits of a sprite fall on a pixel, its top left corner at `(x, y)`. -/
def bitsOn (sprite : List Byte) (x y : Nat) (p : Fin 64 × Fin 32) : Nat :=
  (setBits sprite).countP fun (c, r) => (x + c) % 64 = p.1 ∧ (y + r) % 32 = p.2

/-! ## Bits and the pixels they flip -/

theorem map_rowBits (b : Byte) (x y r : Nat) :
    (rowBits b r).map (fun (c, r) => (x + c, y + r)) =
      ((List.range 8).filter (b.getMsbD ·)).map fun c => (x + c, y + r) := by
  have same : (List.range 8).filter (fun c => b.getLsbD (7 - c)) =
      (List.range 8).filter (b.getMsbD ·) := by
    apply List.filter_congr
    intro c column
    simp [BitVec.getMsbD_eq_getLsbD, List.mem_range.1 column]
  rw [rowBits, List.map_map, same]
  rfl

theorem spritePixels_eq_map (sprite : List Byte) (x y : Nat) :
    spritePixels sprite x y = (setBits sprite).map fun (c, r) => (x + c, y + r) := by
  -- The rows of the rest of a sprite are numbered from one on.
  have rows : ∀ k, spritePixels sprite x (y + k) =
      ((sprite.zipIdx k).flatMap fun (b, r) => rowBits b r).map fun (c, r) => (x + c, y + r) := by
    induction sprite with
    | nil => simp [spritePixels]
    | cons b rest ih =>
      intro k
      rw [spritePixels, List.zipIdx_cons, List.flatMap_cons, List.map_append, map_rowBits, ← ih]
      rfl
  exact rows 0

theorem hits_spritePixels_eq (sprite : List Byte) (x y : Nat) (p : Fin 64 × Fin 32) :
    hits (spritePixels sprite x y) (p.1, p.2) = bitsOn sprite x y p := by
  have inside : wrap (p.1, p.2) = (p.1.val, p.2.val) := by
    simp [wrap]
  rw [hits, inside, spritePixels_eq_map, List.map_map, List.count_eq_countP, List.countP_map,
    bitsOn]
  apply List.countP_congr
  rintro ⟨c, r⟩ -
  simp [wrap]

/-- Where the corner of a sprite wraps to, its bits fall on the same pixels. -/
theorem bitsOn_mod (sprite : List Byte) (x y : Nat) (p : Fin 64 × Fin 32) :
    bitsOn sprite (x % 64) (y % 32) p = bitsOn sprite x y p := by
  simp only [bitsOn, Nat.mod_add_mod]

/-! ## All pixels of the display -/

/-- What holds of some pixel holds of one on the display. -/
theorem exists_pixel_iff {P : Nat × Nat → Prop} (congr : ∀ p q, wrap p = wrap q → P p → P q) :
    (∃ p, P p) ↔ ∃ p : Fin 64 × Fin 32, P (p.1, p.2) := by
  constructor
  · rintro ⟨p, holds⟩
    refine ⟨(Fin.ofNat 64 p.1, Fin.ofNat 32 p.2), congr p _ ?_ holds⟩
    simp [wrap]
  · rintro ⟨p, holds⟩
    exact ⟨_, holds⟩

/-- A sprite no taller than the display hits something if it covers a lit pixel. -/
theorem hit_draw_of_short_iff_on_display (s : Bitmap) {sprite : List Byte}
    (short : sprite.length ≤ 32) (x y : Nat) :
    (s.draw sprite x y).2 = true ↔ ∃ p : Fin 64 × Fin 32,
      wrap (p.1, p.2) ∈ (spritePixels sprite x y).map wrap ∧ s.pixel p.1 p.2 = true := by
  rw [hit_draw_of_short_iff s short, ← exists_pixel_iff
    (P := fun p => wrap p ∈ (spritePixels sprite x y).map wrap ∧ s.pixel p.1 p.2 = true)]
  · constructor
    · rintro ⟨p, mem, lit⟩
      exact ⟨p, List.mem_map_of_mem mem, lit⟩
    · rintro ⟨p, mem, lit⟩
      obtain ⟨q, hit, same⟩ := List.mem_map.1 mem
      exact ⟨q, hit, by rwa [pixel_congr s same]⟩
  · rintro p q same ⟨mem, lit⟩
    exact ⟨same ▸ mem, by rwa [← pixel_congr s same]⟩

/-- Displays that show the same pixels are equal. -/
theorem ext_pixel {s s' : Bitmap}
    (same : ∀ p : Fin 64 × Fin 32, s.pixel p.1 p.2 = s'.pixel p.1 p.2) : s = s' := by
  obtain ⟨rows⟩ := s
  obtain ⟨rows'⟩ := s'
  congr 1
  apply Vector.ext
  intro y hy
  apply BitVec.eq_of_getMsbD_eq
  intro x hx
  have at_pixel := same (⟨x, hx⟩, ⟨y, hy⟩)
  simpa [pixel, Nat.mod_eq_of_lt hx, Nat.mod_eq_of_lt hy] using at_pixel

/-! ## Drawing -/

theorem pixel_draw_bitsOn (s : Bitmap) (sprite : List Byte) (x y : Nat) (p : Fin 64 × Fin 32) :
    (s.draw sprite x y).1.pixel p.1 p.2 =
      (s.pixel p.1 p.2 ^^ decide (bitsOn sprite x y p % 2 = 1)) := by
  rw [← hits_spritePixels_eq]
  exact pixel_draw s sprite x y (p.1, p.2)

/-- A drawing switches each pixel as often as bits of the sprite fall on it: it ends as it was if
that number is even and the other way round if it is odd. The flag is set exactly if a bit falls on
a pixel that was lit, or two bits fall on one pixel. -/
theorem draw_by_bits (s : Bitmap) (sprite : List Byte) (x y : Nat) :
    (∀ p : Fin 64 × Fin 32, (s.draw sprite x y).1.pixel p.1 p.2 =
      (s.pixel p.1 p.2 ^^ decide (bitsOn sprite x y p % 2 = 1))) ∧
    ((s.draw sprite x y).2 = true ↔ ∃ p : Fin 64 × Fin 32,
      s.pixel p.1 p.2 = true ∧ 1 ≤ bitsOn sprite x y p ∨ 2 ≤ bitsOn sprite x y p) := by
  refine ⟨pixel_draw_bitsOn s sprite x y, ?_⟩
  rw [hit_draw_iff, exists_pixel_iff]
  · simp only [hits_spritePixels_eq]
    rfl
  · -- Neither the light of a pixel nor its hits tell its coordinates from those they wrap to.
    intro p q same holds
    rwa [hits, ← same, ← hits, ← pixel_congr s same]

/-- The thirty-third row falls on the first and takes its pixel back. -/
example : bitsOn (List.replicate 33 0x80) 0 0 (0, 0) = 2 := by decide

end Chip8.Bitmap
