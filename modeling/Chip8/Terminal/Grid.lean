/-!
# Character grids

A rectangle of character cells. Cells outside it read as blank, so a grid can be looked at
in any size.
-/

namespace Chip8.Terminal

structure Size where
  width : Nat
  height : Nat
  deriving DecidableEq, Repr

structure Grid where
  size : Size
  /-- Row by row from the top left. -/
  cells : Array Char

namespace Grid

/-- The grid whose cell in column `x` and row `y` is `f x y`. -/
def ofFn (size : Size) (f : Nat → Nat → Char) : Grid where
  size
  cells := Array.ofFn fun i : Fin (size.width * size.height) =>
    f (i.val % size.width) (i.val / size.width)

def blank (size : Size) : Grid := ofFn size fun _ _ => ' '

def cell (g : Grid) (x y : Nat) : Char :=
  if x < g.size.width ∧ y < g.size.height then g.cells.getD (y * g.size.width + x) ' ' else ' '

/-- The same cells in another size: cut off, or filled up with blanks. -/
def resize (g : Grid) (size : Size) : Grid := ofFn size g.cell

/-- The text of a row without the blanks at its end. -/
def rowText (g : Grid) (y : Nat) : String :=
  let row := (List.range g.size.width).map fun x => g.cell x y
  String.ofList (row.reverse.dropWhile (· == ' ')).reverse

/-- The texts of all rows. -/
def rowTexts (g : Grid) : List String := (List.range g.size.height).map g.rowText

theorem cell_ofFn (size : Size) (f : Nat → Nat → Char) {x y : Nat}
    (hx : x < size.width) (hy : y < size.height) : (ofFn size f).cell x y = f x y := by
  have hw : 0 < size.width := by omega
  have hlt : y * size.width + x < size.width * size.height := by
    calc y * size.width + x < y * size.width + size.width := by omega
      _ = size.width * (y + 1) := by rw [Nat.mul_comm, Nat.mul_succ]
      _ ≤ size.width * size.height := Nat.mul_le_mul_left _ hy
  have hmod : (y * size.width + x) % size.width = x := by
    rw [Nat.mul_comm, Nat.mul_add_mod, Nat.mod_eq_of_lt hx]
  have hdiv : (y * size.width + x) / size.width = y := by
    rw [Nat.mul_comm, Nat.mul_add_div hw, Nat.div_eq_of_lt hx, Nat.add_zero]
  simp [cell, ofFn, hx, hy, Array.getD, hlt, hmod, hdiv]

end Grid

end Chip8.Terminal
