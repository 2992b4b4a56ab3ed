import Chip8.Bitmap
import Chip8.Machine.Basic

/-!
# One instruction

`Machine.step` runs one instruction. The program counter moves on first, so that jumps and
calls overwrite it; then the operation runs; then both timers drop, whatever the instruction
was and even if it failed. What the instruction asks of the screen and what came of it are
part of the result (`Effect`). A random byte is an argument, used by `Cxkk` only.
-/

namespace Chip8

/-- What an instruction asks of the screen. -/
inductive ScreenCall where
  | clear
  | draw (sprite : List Byte) (x y : Byte)
  | message (text : String)
  deriving DecidableEq, Repr

/-- What came of an instruction, beyond the change of state. -/
inductive Outcome where
  | continued
  /-- A sprite was drawn; the flag is the one written to `VF`. -/
  | drew (collision : Bool)
  /-- Nothing more may run until a key has been stored in the register. -/
  | awaitKey (register : Reg)
  /-- The word stands for no operation. -/
  | unrecognized
  deriving DecidableEq, Repr

/-- What an instruction leaves behind. -/
structure Effect where
  machine : Machine
  screen : Bitmap
  call : Option ScreenCall := none
  result : Except StackFault Outcome := .ok .continued

/-- The notice shown for a word that stands for no operation. -/
def Instruction.unrecognizedText (i : Instruction) : String :=
  "unrecognized instruction " ++ hexMarked 4 i.word.toNat ++ " at " ++
    hexMarked 3 i.address.toNat

namespace Machine

/-- Runs an operation on a machine whose program counter has moved on. -/
def execute (m : Machine) (screen : Bitmap) (random : Byte) (op : Operation) : Effect :=
  match op with
  | .clear => { machine := m, screen := .blank, call := some .clear }
  | .ret =>
    match m.pop? with
    | some (address, m) => { machine := { m with pc := address }, screen }
    | none => { machine := m, screen, result := .error (.underflow (m.pc - 2)) }
  | .sys _ =>
    { machine := m, screen, call := some (.message ("skip instruction " ++ op.mnemonic)) }
  | .jump addr => { machine := { m with pc := addr.setWidth 16 }, screen }
  | .call addr =>
    match m.push? m.pc with
    | some m => { machine := { m with pc := addr.setWidth 16 }, screen }
    | none => { machine := m, screen, result := .error (.overflow (m.pc - 2)) }
  | .skipEqByte x kk => { machine := m.skipIf (m.reg x == kk), screen }
  | .skipNeByte x kk => { machine := m.skipIf (m.reg x != kk), screen }
  | .skipEqReg x y => { machine := m.skipIf (m.reg x == m.reg y), screen }
  | .setByte x kk => { machine := m.setReg x kk, screen }
  | .addByte x kk => { machine := m.setReg x (m.reg x + kk), screen }
  | .copy x y => { machine := m.setReg x (m.reg y), screen }
  | .or x y => { machine := m.setReg x (m.reg x ||| m.reg y), screen }
  | .and x y => { machine := m.setReg x (m.reg x &&& m.reg y), screen }
  | .xor x y => { machine := m.setReg x (m.reg x ^^^ m.reg y), screen }
  | .add x y =>
    let carry := 255 < (m.reg x).toNat + (m.reg y).toNat
    { machine := (m.setReg x (m.reg x + m.reg y)).setFlag carry, screen }
  | .sub x y =>
    let greater := (m.reg y).toNat < (m.reg x).toNat
    { machine := (m.setReg x (m.reg x - m.reg y)).setFlag greater, screen }
  | .shiftRight x =>
    let flagged := m.setFlag ((m.reg x).getLsbD 0)
    { machine := flagged.setReg x (flagged.reg x >>> 1), screen }
  | .subReversed x y =>
    let greater := (m.reg x).toNat < (m.reg y).toNat
    { machine := (m.setReg y (m.reg y - m.reg x)).setFlag greater, screen }
  | .shiftLeft x =>
    let flagged := m.setFlag ((m.reg x).getMsbD 0)
    { machine := flagged.setReg x (flagged.reg x <<< 1), screen }
  | .skipNeReg x y => { machine := m.skipIf (m.reg x != m.reg y), screen }
  | .setIndex addr => { machine := { m with index := addr.setWidth 16 }, screen }
  | .jumpOffset addr =>
    let target := (addr.toNat + (m.reg .zero).toNat) % 4096
    { machine := { m with pc := BitVec.ofNat 16 target }, screen }
  | .random x kk => { machine := m.setReg x (random &&& kk), screen }
  | .draw x y n =>
    let sprite := m.memory.readBlock m.index.toNat n.val
    let drawn := screen.draw sprite (m.reg x).toNat (m.reg y).toNat
    { machine := m.setFlag drawn.2
      screen := drawn.1
      call := some (.draw sprite (m.reg x) (m.reg y))
      result := .ok (.drew drawn.2) }
  | .skipKey x => { machine := m.skipIf (m.key == some (m.reg x)), screen }
  | .skipNoKey x => { machine := m.skipIf (m.key != some (m.reg x)), screen }
  | .getDelay x => { machine := m.setReg x m.delay, screen }
  | .awaitKey x => { machine := m, screen, result := .ok (.awaitKey x) }
  | .setDelay x => { machine := { m with delay := m.reg x }, screen }
  | .setSound x => { machine := { m with sound := m.reg x }, screen }
  | .addIndex x =>
    let sum := (m.index.toNat + (m.reg x).toNat) % 4096
    { machine := { m with index := BitVec.ofNat 16 sum }, screen }
  | .glyph x =>
    let start := (m.reg x).toNat * Font.glyphSize
    { machine := { m with index := BitVec.ofNat 16 start }, screen }
  | .decimal x =>
    let value := (m.reg x).toNat
    let digits := [value / 100, value / 10 % 10, value % 10].map (BitVec.ofNat 8)
    { machine := { m with memory := m.memory.writeBlock m.index.toNat digits }, screen }
  | .store x =>
    let bytes := m.v.toList.take (x.val + 1)
    { machine := { m with memory := m.memory.writeBlock m.index.toNat bytes }, screen }
  | .load x =>
    let v := Vector.ofFn fun r : Reg =>
      if r ≤ x then m.memory.read (m.index.toNat + r.val) else m.reg r
    { machine := { m with v }, screen }

/-- Runs one instruction. -/
def step (m : Machine) (screen : Bitmap) (random : Byte) (i : Instruction) : Effect :=
  let m := { m with pc := m.pc + 2 }
  let effect := match i.operation? with
    | some op => m.execute screen random op
    | none =>
      { machine := m, screen, call := some (.message i.unrecognizedText)
        result := .ok .unrecognized }
  { effect with machine := effect.machine.tickTimers }

end Machine

end Chip8
