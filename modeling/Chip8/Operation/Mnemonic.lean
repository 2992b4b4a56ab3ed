import Chip8.Text.Basic
import Chip8.Operation.Basic

/-!
# Mnemonics

The text of an operation: its name and its operands. Registers are named by one upper-case
digit, addresses have at least three hexadecimal digits and bytes two; the height of a
sprite is decimal.
-/

namespace Chip8

def Reg.text (r : Reg) : String := "V" ++ hexUpper r.val

namespace Operation

private def onReg (name : String) (x : Reg) : String := name ++ " " ++ x.text

private def onRegs (name : String) (x y : Reg) : String :=
  name ++ " " ++ x.text ++ ", " ++ y.text

private def onByte (name : String) (x : Reg) (kk : Byte) : String :=
  name ++ " " ++ x.text ++ ", " ++ hexMarked 2 kk.toNat

private def onAddr (name : String) (addr : Address) : String :=
  name ++ " " ++ hexMarked 3 addr.toNat

@[simp] theorem toList_onReg (name : String) (x : Reg) :
    (onReg name x).toList = name.toList ++ ' ' :: x.text.toList := by simp [onReg]

@[simp] theorem toList_onRegs (name : String) (x y : Reg) :
    (onRegs name x y).toList =
      name.toList ++ ' ' :: x.text.toList ++ ',' :: ' ' :: y.text.toList := by simp [onRegs]

@[simp] theorem toList_onByte (name : String) (x : Reg) (kk : Byte) :
    (onByte name x kk).toList =
      name.toList ++ ' ' :: x.text.toList ++ ',' :: ' ' :: (hexMarked 2 kk.toNat).toList := by
  simp [onByte]

@[simp] theorem toList_onAddr (name : String) (addr : Address) :
    (onAddr name addr).toList = name.toList ++ ' ' :: (hexMarked 3 addr.toNat).toList := by
  simp [onAddr]

def mnemonic : Operation → String
  | clear => "CLS"
  | ret => "RET"
  | sys addr => onAddr "SYS" addr
  | jump addr => onAddr "JP" addr
  | call addr => onAddr "CALL" addr
  | skipEqByte x kk => onByte "SE" x kk
  | skipNeByte x kk => onByte "SNE" x kk
  | skipEqReg x y => onRegs "SE" x y
  | setByte x kk => onByte "LD" x kk
  | addByte x kk => onByte "ADD" x kk
  | copy x y => onRegs "LD" x y
  | or x y => onRegs "OR" x y
  | and x y => onRegs "AND" x y
  | xor x y => onRegs "XOR" x y
  | add x y => onRegs "ADD" x y
  | sub x y => onRegs "SUB" x y
  | shiftRight x => onReg "SHR" x
  | subReversed x y => onRegs "SUBN" x y
  | shiftLeft x => onReg "SHL" x
  | skipNeReg x y => onRegs "SNE" x y
  | setIndex addr => onAddr "LD I," addr
  | jumpOffset addr => onAddr "JP V0," addr
  | random x kk => onByte "RND" x kk
  | draw x y n => onRegs "DRW" x y ++ ", " ++ toString n.val
  | skipKey x => onReg "SKP" x
  | skipNoKey x => onReg "SKNP" x
  | getDelay x => onReg "LD" x ++ ", DT"
  | awaitKey x => onReg "LD" x ++ ", K"
  | setDelay x => onReg "LD DT," x
  | setSound x => onReg "LD ST," x
  | addIndex x => onReg "ADD I," x
  | glyph x => onReg "LD F," x
  | decimal x => onReg "LD B," x
  | store x => onReg "LD [I]," x
  | load x => onReg "LD" x ++ ", [I]"

end Operation

end Chip8
