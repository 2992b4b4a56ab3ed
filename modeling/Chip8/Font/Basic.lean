import Chip8.Memory

/-!
# The hexadecimal font

Sprites of the sixteen digits, five bytes each. The font lies at the bottom of memory, so
the sprite of a digit `d` starts at address `5 * d`.
-/

namespace Chip8

structure Font where
  glyphs : Vector Byte 80
  deriving DecidableEq

namespace Font

/-- Bytes of one digit's sprite. -/
abbrev glyphSize : Nat := 5

/-- The font a machine starts with unless another one is given. -/
def standard : Font where
  glyphs := #v[
    0xF0, 0x90, 0x90, 0x90, 0xF0,
    0x20, 0x60, 0x20, 0x20, 0x70,
    0xF0, 0x10, 0xF0, 0x80, 0xF0,
    0xF0, 0x10, 0xF0, 0x10, 0xF0,
    0x90, 0x90, 0xF0, 0x10, 0x10,
    0xF0, 0x80, 0xF0, 0x10, 0xF0,
    0xF0, 0x80, 0xF0, 0x90, 0xF0,
    0xF0, 0x10, 0x20, 0x40, 0x40,
    0xF0, 0x90, 0xF0, 0x90, 0xF0,
    0xF0, 0x90, 0xF0, 0x10, 0xF0,
    0xF0, 0x90, 0xF0, 0x90, 0x90,
    0xE0, 0x90, 0xE0, 0x90, 0xE0,
    0xF0, 0x80, 0x80, 0x80, 0xF0,
    0xE0, 0x90, 0x90, 0x90, 0xE0,
    0xF0, 0x80, 0xF0, 0x80, 0xF0,
    0xF0, 0x80, 0xF0, 0x80, 0x80]

end Font

/-- Memory that holds a font and nothing else. -/
def Memory.ofFont (font : Font) : Memory :=
  ⟨Vector.ofFn fun a => font.glyphs[a.val]?.getD 0⟩

theorem Memory.read_ofFont (font : Font) (a : Nat) (ha : a < 4096) :
    (Memory.ofFont font).read a = font.glyphs[a]?.getD 0 := by
  simp [Memory.read, Memory.ofFont, Nat.mod_eq_of_lt ha]

end Chip8
