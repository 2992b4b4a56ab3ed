import Chip8.Word

/-!
# Operations

The 35 operations of the instruction set with the operands they use, and the words that
stand for them. In the patterns `x` and `y` are registers, `kk` is a byte, `nnn` an address
and `n` a nibble.
-/

namespace Chip8

inductive Operation where
  /-- Blank the display (`00E0`). -/
  | clear
  /-- Return from a subroutine (`00EE`). -/
  | ret
  /-- A native routine of the historic hardware, skipped with a message (`0nnn`). -/
  | sys (addr : Address)
  /-- Jump to `nnn` (`1nnn`). -/
  | jump (addr : Address)
  /-- Call the subroutine at `nnn` (`2nnn`). -/
  | call (addr : Address)
  /-- Skip the next instruction if `Vx = kk` (`3xkk`). -/
  | skipEqByte (x : Reg) (kk : Byte)
  /-- Skip the next instruction if `Vx ≠ kk` (`4xkk`). -/
  | skipNeByte (x : Reg) (kk : Byte)
  /-- Skip the next instruction if `Vx = Vy` (`5xy0`). -/
  | skipEqReg (x y : Reg)
  /-- Set `Vx` to `kk` (`6xkk`). -/
  | setByte (x : Reg) (kk : Byte)
  /-- Add `kk` to `Vx` without touching the flag (`7xkk`). -/
  | addByte (x : Reg) (kk : Byte)
  /-- Copy `Vy` to `Vx` (`8xy0`). -/
  | copy (x y : Reg)
  /-- Bitwise or of `Vx` and `Vy` into `Vx` (`8xy1`). -/
  | or (x y : Reg)
  /-- Bitwise and of `Vx` and `Vy` into `Vx` (`8xy2`). -/
  | and (x y : Reg)
  /-- Exclusive or of `Vx` and `Vy` into `Vx` (`8xy3`). -/
  | xor (x y : Reg)
  /-- Put `Vx + Vy` into `Vx`, then the carry into `VF` (`8xy4`). -/
  | add (x y : Reg)
  /-- Put `Vx - Vy` into `Vx`, then whether `Vx > Vy` held into `VF` (`8xy5`). -/
  | sub (x y : Reg)
  /-- Put the low bit of `Vx` into `VF`, then halve `Vx` (`8xy6`). -/
  | shiftRight (x : Reg)
  /-- Put `Vy - Vx` into `Vy`, then whether `Vy > Vx` held into `VF` (`8xy7`). -/
  | subReversed (x y : Reg)
  /-- Put the high bit of `Vx` into `VF`, then double `Vx` (`8xyE`). -/
  | shiftLeft (x : Reg)
  /-- Skip the next instruction if `Vx ≠ Vy` (`9xy0`). -/
  | skipNeReg (x y : Reg)
  /-- Set `I` to `nnn` (`Annn`). -/
  | setIndex (addr : Address)
  /-- Jump to `nnn + V0` (`Bnnn`). -/
  | jumpOffset (addr : Address)
  /-- Put a random byte masked with `kk` into `Vx` (`Cxkk`). -/
  | random (x : Reg) (kk : Byte)
  /-- Draw the `n` bytes at `I` with their top left corner at `(Vx, Vy)` (`Dxyn`). -/
  | draw (x y : Reg) (n : Fin 16)
  /-- Skip the next instruction if the key `Vx` is down (`Ex9E`). -/
  | skipKey (x : Reg)
  /-- Skip the next instruction if the key `Vx` is not down (`ExA1`). -/
  | skipNoKey (x : Reg)
  /-- Copy the delay timer to `Vx` (`Fx07`). -/
  | getDelay (x : Reg)
  /-- Wait for a key and store it in `Vx` (`Fx0A`). -/
  | awaitKey (x : Reg)
  /-- Copy `Vx` to the delay timer (`Fx15`). -/
  | setDelay (x : Reg)
  /-- Copy `Vx` to the sound timer (`Fx18`). -/
  | setSound (x : Reg)
  /-- Add `Vx` to `I` (`Fx1E`). -/
  | addIndex (x : Reg)
  /-- Point `I` at the sprite of the digit `Vx` (`Fx29`). -/
  | glyph (x : Reg)
  /-- Write the three decimal digits of `Vx` to memory at `I` (`Fx33`). -/
  | decimal (x : Reg)
  /-- Write `V0` to `Vx` to memory at `I` (`Fx55`). -/
  | store (x : Reg)
  /-- Read `V0` to `Vx` from memory at `I` (`Fx65`). -/
  | load (x : Reg)
  deriving DecidableEq, Repr

namespace Operation

/-- The operation that a word stands for. Two words of family 0 are matched whole; families
8, E and F are divided by their low nibble or low byte, and 5 and 9 need a low nibble of
zero. The words left over stand for nothing. -/
def ofWord? (w : Word) : Option Operation :=
  if w = 0x00E0 then some .clear
  else if w = 0x00EE then some .ret
  else match w.family with
    | 0x0 => some (.sys w.addr)
    | 0x1 => some (.jump w.addr)
    | 0x2 => some (.call w.addr)
    | 0x3 => some (.skipEqByte w.x w.low)
    | 0x4 => some (.skipNeByte w.x w.low)
    | 0x5 => if w.nibble.val = 0 then some (.skipEqReg w.x w.y) else none
    | 0x6 => some (.setByte w.x w.low)
    | 0x7 => some (.addByte w.x w.low)
    | 0x8 => arithmetic? w.x w.y w.nibble
    | 0x9 => if w.nibble.val = 0 then some (.skipNeReg w.x w.y) else none
    | 0xA => some (.setIndex w.addr)
    | 0xB => some (.jumpOffset w.addr)
    | 0xC => some (.random w.x w.low)
    | 0xD => some (.draw w.x w.y w.nibble)
    | 0xE => key? w.x w.low
    | 0xF => peripheral? w.x w.low
    | _ => none
where
  /-- Family 8, by its low nibble. -/
  arithmetic? (x y : Reg) (nibble : Fin 16) : Option Operation :=
    match nibble.val with
    | 0x0 => some (.copy x y)
    | 0x1 => some (.or x y)
    | 0x2 => some (.and x y)
    | 0x3 => some (.xor x y)
    | 0x4 => some (.add x y)
    | 0x5 => some (.sub x y)
    | 0x6 => some (.shiftRight x)
    | 0x7 => some (.subReversed x y)
    | 0xE => some (.shiftLeft x)
    | _ => none
  /-- Family E, by its low byte. -/
  key? (x : Reg) (low : Byte) : Option Operation :=
    match low.toNat with
    | 0x9E => some (.skipKey x)
    | 0xA1 => some (.skipNoKey x)
    | _ => none
  /-- Family F, by its low byte. -/
  peripheral? (x : Reg) (low : Byte) : Option Operation :=
    match low.toNat with
    | 0x07 => some (.getDelay x)
    | 0x0A => some (.awaitKey x)
    | 0x15 => some (.setDelay x)
    | 0x18 => some (.setSound x)
    | 0x1E => some (.addIndex x)
    | 0x29 => some (.glyph x)
    | 0x33 => some (.decimal x)
    | 0x55 => some (.store x)
    | 0x65 => some (.load x)
    | _ => none

end Operation

end Chip8
