import Chip8.Proofs.Pixels

/-!
# How often a sprite hits a pixel

Flipping pixels one after another leaves each as it was or the other way round, by the parity of how
often it was flipped (`pixel_foldl_flipNoting`), and switches one off if a flipped pixel was lit
or a pixel is flipped twice (`hit_foldl_flipNoting_iff`). So it is for a sprite, whose rows coincide
where it is taller than the display; one that is not hits each pixel once at most
(`pixel_draw_of_short`, `hit_draw_of_short_iff`).
-/

namespace Chip8.Bitmap

/-- The pixel that coordinates stand for. -/
def wrap (p : Nat × Nat) : Nat × Nat := (p.1 % 64, p.2 % 32)

/-- How often a pixel is among the given ones. -/
def hits (pixels : List (Nat × Nat)) (p : Nat × Nat) : Nat := (pixels.map wrap).count (wrap p)

theorem wrap_eq_iff {p q : Nat × Nat} :
    wrap p = wrap q ↔ p.1 % 64 = q.1 % 64 ∧ p.2 % 32 = q.2 % 32 := by
  simp [wrap]

theorem pixel_congr (s : Bitmap) {p q : Nat × Nat} (same : wrap p = wrap q) :
    s.pixel p.1 p.2 = s.pixel q.1 q.2 := by
  obtain ⟨column, row⟩ := wrap_eq_iff.1 same
  simp only [pixel, column, row]

@[simp] theorem pixel_blank (x y : Nat) : blank.pixel x y = false := by
  simp [pixel, blank]

theorem hits_cons (q : Nat × Nat) (pixels : List (Nat × Nat)) (p : Nat × Nat) :
    hits (q :: pixels) p = hits pixels p + if wrap q = wrap p then 1 else 0 := by
  simp [hits, List.count_cons]

theorem hits_pos_iff {pixels : List (Nat × Nat)} {p : Nat × Nat} :
    0 < hits pixels p ↔ ∃ q ∈ pixels, wrap q = wrap p := by
  rw [hits, List.count_pos_iff, List.mem_map]

/-! ## Flipping pixels -/

theorem pixel_flip (s : Bitmap) (q p : Nat × Nat) :
    (s.flip q.1 q.2).pixel p.1 p.2 = (s.pixel p.1 p.2 ^^ decide (wrap q = wrap p)) := by
  have inside : 63 - q.1 % 64 < 64 := by omega
  have column : p.1 % 64 = 64 - (63 - q.1 % 64) - 1 ↔ q.1 % 64 = p.1 % 64 := by omega
  simp only [flip, pixel, Vector.getElem_set, wrap_eq_iff]
  by_cases row : q.2 % 32 = p.2 % 32
  · simp [row, BitVec.getMsbD_twoPow, inside, column]
  · simp [row]

theorem pixel_foldl_flipNoting (s : Bitmap) (hit : Bool) (pixels : List (Nat × Nat))
    (p : Nat × Nat) :
    (pixels.foldl flipNoting (s, hit)).1.pixel p.1 p.2 =
      (s.pixel p.1 p.2 ^^ decide (hits pixels p % 2 = 1)) := by
  induction pixels generalizing s hit with
  | nil => simp [hits]
  | cons q rest ih =>
    rw [List.foldl_cons, flipNoting, ih, pixel_flip, hits_cons, Bool.xor_assoc]
    congr 1
    by_cases here : wrap q = wrap p
    · have parity : (hits rest p + 1) % 2 = 1 ↔ ¬ hits rest p % 2 = 1 := by omega
      rw [if_pos here, decide_eq_true here, Bool.true_xor, decide_eq_decide.2 parity, decide_not]
    · simp [here]

theorem hit_foldl_flipNoting_iff (s : Bitmap) (hit : Bool) (pixels : List (Nat × Nat)) :
    (pixels.foldl flipNoting (s, hit)).2 = true ↔ hit = true ∨
      ∃ p : Nat × Nat, s.pixel p.1 p.2 = true ∧ 0 < hits pixels p ∨ 1 < hits pixels p := by
  induction pixels generalizing s hit with
  | nil => simp [hits]
  | cons q rest ih =>
    rw [List.foldl_cons, flipNoting, ih, Bool.or_eq_true, or_assoc]
    apply or_congr_right
    constructor
    · rintro (lit | ⟨p, found⟩)
      · exact ⟨q, .inl ⟨lit, by rw [hits_cons, if_pos rfl]; omega⟩⟩
      · refine ⟨p, ?_⟩
        rw [pixel_flip] at found
        rw [hits_cons]
        by_cases here : wrap q = wrap p
        · simp only [here, if_true]
          omega
        · simpa [here] using found
    · rintro ⟨p, found⟩
      rw [hits_cons] at found
      by_cases here : wrap q = wrap p
      · rw [if_pos here] at found
        by_cases lit : s.pixel q.1 q.2 = true
        · exact .inl lit
        · -- Switched on by this flip, so the next one to hit it switches it off.
          rw [pixel_congr s here] at lit
          refine .inr ⟨p, .inl ⟨by simp [pixel_flip, here, lit], ?_⟩⟩
          obtain ⟨old, -⟩ | twice := found
          · exact absurd old lit
          · omega
      · rw [if_neg here] at found
        exact .inr ⟨p, by simpa [pixel_flip, here] using found⟩

/-! ## Whole sprites -/

theorem pixel_draw (s : Bitmap) (sprite : List Byte) (x y : Nat) (p : Nat × Nat) :
    (s.draw sprite x y).1.pixel p.1 p.2 =
      (s.pixel p.1 p.2 ^^ decide (hits (spritePixels sprite x y) p % 2 = 1)) := by
  have flipped := pixel_foldl_flipNoting s false (spritePixels sprite x y) p
  rwa [foldl_flipNoting] at flipped

theorem hit_draw_iff (s : Bitmap) (sprite : List Byte) (x y : Nat) :
    (s.draw sprite x y).2 = true ↔ ∃ p : Nat × Nat,
      s.pixel p.1 p.2 = true ∧ 0 < hits (spritePixels sprite x y) p ∨
        1 < hits (spritePixels sprite x y) p := by
  have flipped := hit_foldl_flipNoting_iff s false (spritePixels sprite x y)
  rw [foldl_flipNoting, Bool.false_or] at flipped
  rw [flipped]
  simp

theorem mem_spritePixels_iff {sprite : List Byte} {x y : Nat} {p : Nat × Nat} :
    p ∈ spritePixels sprite x y ↔ ∃ r c, (∃ b, sprite[r]? = some b ∧ b.getMsbD c = true) ∧
      p = (x + c, y + r) := by
  induction sprite generalizing y with
  | nil => simp [spritePixels]
  | cons b rest ih =>
    rw [spritePixels, List.mem_append, ih]
    constructor
    · rintro (here | ⟨r, c, ⟨b', row, set⟩, rfl⟩)
      · obtain ⟨c, mem, rfl⟩ := List.mem_map.1 here
        exact ⟨0, c, ⟨b, rfl, (List.mem_filter.1 mem).2⟩, rfl⟩
      · exact ⟨r + 1, c, ⟨b', row, set⟩, by rw [Nat.add_assoc, Nat.add_comm 1]⟩
    · rintro ⟨r, c, ⟨b', row, set⟩, rfl⟩
      have column : c < 8 := BitVec.lt_of_getMsbD set
      cases r with
      | zero =>
        obtain rfl := Option.some.inj row
        exact .inl (List.mem_map.2 ⟨c, by simp [column, set], rfl⟩)
      | succ r => exact .inr ⟨r, c, ⟨b', row, set⟩, by rw [Nat.add_assoc, Nat.add_comm 1]⟩

theorem nodup_spritePixels {sprite : List Byte} (short : sprite.length ≤ 32) (x y : Nat) :
    ((spritePixels sprite x y).map wrap).Nodup := by
  induction sprite generalizing y with
  | nil => exact List.nodup_nil
  | cons b rest ih =>
    rw [List.length_cons] at short
    rw [spritePixels, List.map_append, List.nodup_append]
    refine ⟨?_, ih (by omega) (y + 1), ?_⟩
    · -- Eight columns in a row of sixty-four do not meet.
      rw [List.map_map, List.Nodup, List.pairwise_map]
      refine (List.nodup_range.filter _).imp_of_mem ?_
      intro c c' mem mem' different same
      have column := List.mem_range.1 (List.mem_filter.1 mem).1
      have column' := List.mem_range.1 (List.mem_filter.1 mem').1
      have meet : (x + c) % 64 = (x + c') % 64 := (wrap_eq_iff.1 same).1
      omega
    · -- Nor do the rows of a sprite that is no taller than the display.
      rintro _ here _ below rfl
      obtain ⟨p, mem, same⟩ := List.mem_map.1 here
      obtain ⟨q, mem', same'⟩ := List.mem_map.1 below
      obtain ⟨c, -, rfl⟩ := List.mem_map.1 mem
      obtain ⟨r, c', ⟨b', row, -⟩, rfl⟩ := mem_spritePixels_iff.1 mem'
      have inside : r < rest.length := (List.getElem?_eq_some_iff.1 row).1
      have meet : y % 32 = (y + 1 + r) % 32 := (wrap_eq_iff.1 (same.trans same'.symm)).2
      omega

/-- A sprite no taller than the display hits each of its pixels once. -/
theorem hits_spritePixels {sprite : List Byte} (short : sprite.length ≤ 32) (x y : Nat)
    (p : Nat × Nat) :
    hits (spritePixels sprite x y) p =
      if wrap p ∈ (spritePixels sprite x y).map wrap then 1 else 0 :=
  (nodup_spritePixels short x y).count

theorem pixel_draw_of_short (s : Bitmap) {sprite : List Byte} (short : sprite.length ≤ 32)
    (x y : Nat) (p : Nat × Nat) :
    (s.draw sprite x y).1.pixel p.1 p.2 =
      (s.pixel p.1 p.2 ^^ decide (wrap p ∈ (spritePixels sprite x y).map wrap)) := by
  rw [pixel_draw, hits_spritePixels short]
  split
  · next mem => simp [mem]
  · next other => simp [other]

theorem hit_draw_of_short_iff (s : Bitmap) {sprite : List Byte} (short : sprite.length ≤ 32)
    (x y : Nat) :
    (s.draw sprite x y).2 = true ↔ ∃ p ∈ spritePixels sprite x y, s.pixel p.1 p.2 = true := by
  rw [hit_draw_iff]
  constructor
  · rintro ⟨p, ⟨lit, hit⟩ | twice⟩
    · obtain ⟨q, mem, same⟩ := hits_pos_iff.1 hit
      exact ⟨q, mem, by rw [pixel_congr s same, lit]⟩
    · rw [hits_spritePixels short] at twice
      split at twice <;> omega
  · rintro ⟨p, mem, lit⟩
    exact ⟨p, .inl ⟨lit, hits_pos_iff.2 ⟨p, mem, rfl⟩⟩⟩

end Chip8.Bitmap
