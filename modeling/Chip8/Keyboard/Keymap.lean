import Chip8.Emulator.Event
import Chip8.Keyboard.Key

/-!
# Keymaps

The sixteen keys of the keypad on a keyboard: by their hexadecimal digits, or by the left
block of a qwerty keyboard laid out like the keypad. Letters count in either case.
-/

namespace Chip8

inductive Keymap where
  /-- Hexadecimal digits map to themselves. -/
  | literal
  /-- The block from `1` to `v`. -/
  | qwerty
  deriving DecidableEq, Repr

namespace Keymap

/-- The characters of the keys `0` to `F`. -/
def layout : Keymap → List Char
  | literal => "0123456789abcdef".toList
  | qwerty => "x123qweasdzc4rfv".toList

/-- The keypad key that a character stands for. -/
def key? (keymap : Keymap) (c : Char) : Option Byte :=
  (keymap.layout.idxOf? c.toLower).map (BitVec.ofNat 8)

/-- The event that a key press stands for: Escape and Control-C quit, Enter steps in debug
mode, and the characters of the keymap press keypad keys. -/
def event? (keymap : Keymap) (debug : Bool) (k : Key) : Option Event :=
  match k.code with
  | .escape => some .quit
  | .enter => if debug then some .step else none
  | .char c =>
    if c = 'c' ∧ k.control then some .quit else (keymap.key? c).map .keyDown
  | _ => none

end Keymap

end Chip8
