import Chip8.Word

/-!
# The display bitmap

64 by 32 monochrome pixels. A row is a 64-bit word whose highest bit is the leftmost pixel,
so a row of a sprite is a byte rotated into place and drawing it is an exclusive or. Rows
and columns wrap around the edges.
-/

namespace Chip8

structure Bitmap where
  rows : Vector (BitVec 64) 32
  deriving DecidableEq

namespace Bitmap

def blank : Bitmap := ⟨Vector.replicate 32 0⟩

/-- Whether the pixel is lit. Coordinates beyond the edges wrap. -/
def pixel (s : Bitmap) (x y : Nat) : Bool := s.rows[y % 32].getMsbD (x % 64)

/-- The pixels of one sprite row, its leftmost pixel in column `x`. -/
def spriteRow (b : Byte) (x : Nat) : BitVec 64 := (b ++ 0#56).rotateRight x

/-- Flips the pixels of a sprite given as one byte a row, its top left corner at `(x, y)`.
The flag tells whether a lit pixel was switched off. -/
def draw (s : Bitmap) (sprite : List Byte) (x y : Nat) : Bitmap × Bool :=
  match sprite with
  | [] => (s, false)
  | b :: rest =>
    let old := s.rows[y % 32]
    let row := spriteRow b x
    let (drawn, hit) := draw ⟨s.rows.set (y % 32) (old ^^^ row)⟩ rest x (y + 1)
    (drawn, old &&& row != 0 || hit)

/-- The coordinates of the lit pixels, row by row from the left. -/
def lit (s : Bitmap) : List (Nat × Nat) :=
  (List.range 32).flatMap fun y =>
    ((List.range 64).filter fun x => s.pixel x y).map fun x => (x, y)

def isBlank (s : Bitmap) : Bool := s.rows.all (· == 0)

theorem getMsbD_spriteRow (b : Byte) (x c : Nat) (hc : c < 64) :
    (spriteRow b x).getMsbD c = b.getMsbD ((c + (64 - x % 64)) % 64) := by
  have hx : x % 64 < 64 := Nat.mod_lt _ (by decide)
  rw [spriteRow, BitVec.getMsbD_rotateRight]
  simp only [BitVec.getMsbD_append, BitVec.getMsbD_zero, hc, decide_true, Bool.true_and]
  split
  · rw [show (8 + 56 + c - x % (8 + 56)) % (8 + 56) = (c + (64 - x % 64)) % 64 by omega]
    split
    · rw [BitVec.getMsbD_of_ge _ _ (by omega)]
    · rfl
  · rw [show (c + (64 - x % 64)) % 64 = c - x % (8 + 56) by omega]
    split
    · rw [BitVec.getMsbD_of_ge _ _ (by omega)]
    · rfl

end Bitmap

end Chip8
