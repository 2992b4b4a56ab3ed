import Chip8.Emulator.Basic
import Chip8.Panels
import Chip8.Terminal.Panel

/-!
# The terminal

What a terminal window shows of the emulator. A frame changes only the cells in which it
differs from the frame before. When the window has another size than at the last frame, it
is cleared and drawn as a whole; a window that was cut and has got its size back keeps the
blanks until the cells below them change.
-/

namespace Chip8

structure Terminal where
  /-- The size of the window. -/
  size : Terminal.Size
  /-- What the window shows. -/
  shown : Terminal.Grid
  /-- The last frame drawn. -/
  drawn : Terminal.Grid
  console : Console

namespace Terminal

/-- A window too small for the display. -/
structure TooSmall where
  size : Size
  deriving DecidableEq, Repr

def Size.text (s : Size) : String := toString s.width ++ "x" ++ toString s.height

def TooSmall.message (e : TooSmall) : String :=
  "insufficient resolution to initialize the display: need " ++ displaySize.text ++ ", have " ++
    e.size.text

/-- Takes over a window, which is cleared. -/
def open? (size : Size) : Except TooSmall Terminal :=
  let area := size.drawable
  if area.width < displaySize.width ∨ area.height < displaySize.height then .error ⟨area⟩
  else .ok { size, shown := .blank size, drawn := .blank area, console := .empty }

/-- The window gets another size. What it shows is cut off or filled up with blanks. -/
def resize (t : Terminal) (size : Size) : Terminal :=
  { t with size, shown := t.shown.resize size }

/-- The number of messages that a console panel of the given height shows. -/
def visibleMessages (height : Nat) : Nat := height - 4

/-- The panels of a frame. -/
def panels (area : Size) (console : Console) (frame : Frame) : List Panel :=
  let layout := Layout.ofSize area
  let messages := console.lines (visibleMessages layout.console.height)
  let program := ProgramPanel.lines frame.machine.pc frame.listing
  [ .ofBitmap layout.display "DISPLAY" frame.screen,
    .ofLines layout.console "CONSOLE" messages,
    .ofLines layout.program "PROGRAM" program,
    .ofLines layout.hardware "HARDWARE" (HardwarePanel.lines frame.machine) ]

/-- The frame as characters. -/
def picture (area : Size) (console : Console) (frame : Frame) : Grid :=
  .ofFn area (compose (panels area console frame))

/-- Draws a frame. -/
def draw (t : Terminal) (frame : Frame) : Terminal :=
  let area := t.size.drawable
  let next := picture area t.console frame
  let cell (x y : Nat) : Char :=
    if t.drawn.size = area ∧ next.cell x y = t.drawn.cell x y then t.shown.cell x y
    else next.cell x y
  { t with shown := .ofFn t.size cell, drawn := next }

/-- Carries out what the emulator asks for. The bitmap comes with each frame, so drawing and
clearing change nothing here. -/
def apply (t : Terminal) : FrontendCall → Terminal
  | .screen (.message text) => { t with console := t.console.push text }
  | .screen _ => t
  | .frame view => t.draw view

end Terminal

end Chip8
