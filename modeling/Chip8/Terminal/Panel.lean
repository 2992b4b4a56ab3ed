import Chip8.Bitmap
import Chip8.Terminal.Layout

/-!
# Bordered panels

A panel is a border with a title over its upper edge and a body inside. Its cells are a
function of their position in the panel. Of a panel that is one cell high or wide only the
upper and the left part of the border are left.
-/

namespace Chip8.Terminal

structure Panel where
  area : Rect
  title : Array Char
  /-- The cell of the body in a column and row inside the border. -/
  body : Nat → Nat → Char

namespace Panel

/-- The cell of a border in a panel of the given size. -/
def borderCell (width height x y : Nat) : Char :=
  if x = 0 ∧ y = 0 then '┌'
  else if x = 0 ∧ y + 1 = height then '└'
  else if x + 1 = width ∧ y = 0 then '┐'
  else if x + 1 = width ∧ y + 1 = height then '┘'
  else if y = 0 ∨ y + 1 = height then '─'
  else '│'

/-- The cell in column `x` and row `y` of the panel. -/
def cell (p : Panel) (x y : Nat) : Char :=
  let edge := borderCell p.area.width p.area.height x y
  if 0 < x ∧ x + 1 < p.area.width then
    if y = 0 then p.title.getD (x - 1) edge
    else if y + 1 < p.area.height then p.body (x - 1) (y - 1)
    else edge
  else edge

/-- The number of body rows that a panel of the given height shows. -/
def bodyHeight (height : Nat) : Nat := height - 2

def bodyWidth (width : Nat) : Nat := width - 2

/-- A panel of text lines, which are cut at its edges. -/
def ofLines (area : Rect) (title : String) (lines : List String) : Panel :=
  let rows := (lines.map fun line => line.toList.toArray).toArray
  { area
    title := title.toList.toArray
    body := fun x y => (rows.getD y #[]).getD x ' ' }

/-- Where a pixel comes to lie in a display of the given size. -/
def pixelCell (size : Size) (pixel : Nat × Nat) : Nat × Nat :=
  (pixel.1 * (size.width - 1) / 63, pixel.2 * (size.height - 1) / 31)

/-- A panel that shows a bitmap, scaled down if the panel is smaller. -/
def ofBitmap (area : Rect) (title : String) (screen : Bitmap) : Panel :=
  let size : Size := ⟨bodyWidth area.width, bodyHeight area.height⟩
  let index (cell : Nat × Nat) : Nat := cell.2 * size.width + cell.1
  let dots := screen.lit.foldl (fun dots pixel =>
    dots.setIfInBounds (index (pixelCell size pixel)) true)
    (Array.replicate (size.width * size.height) false)
  { area
    title := title.toList.toArray
    body := fun x y => if dots.getD (index (x, y)) false then '▄' else ' ' }

end Panel

/-- The cells of a screen covered by panels that do not overlap. -/
def compose (panels : List Panel) (x y : Nat) : Char :=
  match panels.find? fun p => p.area.contains x y with
  | some p => p.cell (x - p.area.x) (y - p.area.y)
  | none => ' '

end Chip8.Terminal
