/-!
# Bytes, words and their fields

The machine computes on bytes and reads instructions as 16-bit words. A word is cut into
the fields that instructions use: the family (top four bits), the register numbers `x` and
`y`, a twelve-bit address, a low byte and a low nibble. The fields overlap; which of them an
instruction reads is decided by `Operation.ofWord?`.
-/

namespace Chip8

abbrev Byte := BitVec 8

abbrev Word := BitVec 16

/-- An address operand. Twelve bits reach all of memory. -/
abbrev Address := BitVec 12

/-- The number of one of the registers `V0` to `VF`. -/
abbrev Reg := Fin 16

/-- The register `VF`, which receives carries, borrows and collisions. -/
def Reg.flag : Reg := ⟨15, by decide⟩

/-- The register `V0`, whose value a jump can add. -/
def Reg.zero : Reg := ⟨0, by decide⟩

/-- Programs are loaded here, and execution starts here. -/
abbrev programStart : Nat := 0x200

/-- The longest program: what fits between `programStart` and the end of memory. -/
abbrev maxProgramSize : Nat := 3584

namespace Word

/-- The word with the given high and low bytes. -/
def ofBytes (high low : Byte) : Word := high ++ low

/-- The word with the given nibbles, the highest first. -/
def ofNibbles (family x y n : Fin 16) : Word :=
  BitVec.ofNat 16 (family.val * 0x1000 + x.val * 0x100 + y.val * 0x10 + n.val)

def family (w : Word) : Nat := w.toNat / 0x1000

def addr (w : Word) : Address := w.setWidth 12

def x (w : Word) : Reg := ⟨w.toNat / 0x100 % 16, Nat.mod_lt _ (by decide)⟩

def y (w : Word) : Reg := ⟨w.toNat / 0x10 % 16, Nat.mod_lt _ (by decide)⟩

def low (w : Word) : Byte := w.setWidth 8

def nibble (w : Word) : Fin 16 := ⟨w.toNat % 16, Nat.mod_lt _ (by decide)⟩

theorem toNat_ofBytes (high low : Byte) :
    (ofBytes high low).toNat = high.toNat * 256 + low.toNat := by
  have := low.isLt
  simp only [ofBytes, BitVec.toNat_append, Nat.shiftLeft_eq]
  rw [← Nat.shiftLeft_eq, Nat.shiftLeft_add_eq_or_of_lt low.isLt, Nat.shiftLeft_eq]

theorem toNat_ofNibbles (family x y n : Fin 16) : (ofNibbles family x y n).toNat =
    family.val * 0x1000 + x.val * 0x100 + y.val * 0x10 + n.val := by
  rw [ofNibbles, BitVec.toNat_ofNat]
  omega

@[simp] theorem family_ofNibbles (family x y n : Fin 16) :
    (ofNibbles family x y n).family = family.val := by
  rw [Word.family, toNat_ofNibbles]
  omega

@[simp] theorem x_ofNibbles (family x y n : Fin 16) : (ofNibbles family x y n).x = x := by
  simp only [Word.x, toNat_ofNibbles, Fin.ext_iff]
  omega

@[simp] theorem y_ofNibbles (family x y n : Fin 16) : (ofNibbles family x y n).y = y := by
  simp only [Word.y, toNat_ofNibbles, Fin.ext_iff]
  omega

@[simp] theorem nibble_ofNibbles (family x y n : Fin 16) :
    (ofNibbles family x y n).nibble = n := by
  simp only [nibble, toNat_ofNibbles, Fin.ext_iff]
  omega

end Word

end Chip8
