import Chip8.Terminal.Grid

/-!
# Layout of the screen

The left column holds the display with its border and the console under it. The program and
hardware panels share the rest, 55 hundredths to the program. Each panel keeps its size
only as far as the screen allows.
-/

namespace Chip8.Terminal

/-- A part of the screen. -/
structure Rect where
  x : Nat
  y : Nat
  width : Nat
  height : Nat
  deriving DecidableEq, Repr

def Rect.contains (r : Rect) (x y : Nat) : Bool :=
  r.x ≤ x && x < r.x + r.width && r.y ≤ y && y < r.y + r.height

/-- The size of the display panel with its border. -/
def displaySize : Size := ⟨66, 34⟩

structure Layout where
  display : Rect
  console : Rect
  program : Rect
  hardware : Rect
  deriving DecidableEq, Repr

def Layout.ofSize (size : Size) : Layout :=
  let left := min displaySize.width size.width
  let right := size.width - left
  let upper := min displaySize.height size.height
  let programWidth := right * 55 / 100
  { display := ⟨0, 0, left, upper⟩
    console := ⟨0, upper, left, size.height - upper⟩
    program := ⟨left, 0, programWidth, size.height⟩
    hardware := ⟨left + programWidth, 0, right - programWidth, size.height⟩ }

/-- The largest number whose square is at most `n`, for `n` below `2 ^ 32`. -/
private def root (n : Nat) : Nat :=
  (List.range 16).foldr (fun k r =>
    let larger := r + 1 <<< k
    if larger * larger ≤ n then larger else r) 0

/-- The part of a window that is drawn on. A window of more than 65535 cells is cut down to
about as many, in its own proportions. -/
def Size.drawable (size : Size) : Size :=
  let limit := 65535
  if size.width * size.height ≤ limit then size
  else ⟨root (limit * size.width / size.height), root (limit * size.height / size.width)⟩

end Chip8.Terminal
