import Chip8.Operation.Basic

/-!
# Words and the operations they stand for

`Operation.ofWord?` tries exact words first, then families, then the fields in which a family keeps
its operations apart. `Word.StandsFor` says for each operation by itself which words stand for it
and where they hold its operands. The two agree on all words (`Operation.ofWord?_eq_some_iff`), so
what is proved of an operation is proved of its words.
-/

namespace Chip8

namespace Word

/-- Whether the word stands for the operation and holds its operands. -/
def StandsFor (w : Word) : Operation → Prop
  | .clear => w = 0x00E0
  | .ret => w = 0x00EE
  | .sys addr => w.family = 0x0 ∧ w ≠ 0x00E0 ∧ w ≠ 0x00EE ∧ addr = w.addr
  | .jump addr => w.family = 0x1 ∧ addr = w.addr
  | .call addr => w.family = 0x2 ∧ addr = w.addr
  | .skipEqByte x kk => w.family = 0x3 ∧ x = w.x ∧ kk = w.low
  | .skipNeByte x kk => w.family = 0x4 ∧ x = w.x ∧ kk = w.low
  | .skipEqReg x y => w.family = 0x5 ∧ w.nibble.val = 0x0 ∧ x = w.x ∧ y = w.y
  | .setByte x kk => w.family = 0x6 ∧ x = w.x ∧ kk = w.low
  | .addByte x kk => w.family = 0x7 ∧ x = w.x ∧ kk = w.low
  | .copy x y => w.family = 0x8 ∧ w.nibble.val = 0x0 ∧ x = w.x ∧ y = w.y
  | .or x y => w.family = 0x8 ∧ w.nibble.val = 0x1 ∧ x = w.x ∧ y = w.y
  | .and x y => w.family = 0x8 ∧ w.nibble.val = 0x2 ∧ x = w.x ∧ y = w.y
  | .xor x y => w.family = 0x8 ∧ w.nibble.val = 0x3 ∧ x = w.x ∧ y = w.y
  | .add x y => w.family = 0x8 ∧ w.nibble.val = 0x4 ∧ x = w.x ∧ y = w.y
  | .sub x y => w.family = 0x8 ∧ w.nibble.val = 0x5 ∧ x = w.x ∧ y = w.y
  | .shiftRight x => w.family = 0x8 ∧ w.nibble.val = 0x6 ∧ x = w.x
  | .subReversed x y => w.family = 0x8 ∧ w.nibble.val = 0x7 ∧ x = w.x ∧ y = w.y
  | .shiftLeft x => w.family = 0x8 ∧ w.nibble.val = 0xE ∧ x = w.x
  | .skipNeReg x y => w.family = 0x9 ∧ w.nibble.val = 0x0 ∧ x = w.x ∧ y = w.y
  | .setIndex addr => w.family = 0xA ∧ addr = w.addr
  | .jumpOffset addr => w.family = 0xB ∧ addr = w.addr
  | .random x kk => w.family = 0xC ∧ x = w.x ∧ kk = w.low
  | .draw x y n => w.family = 0xD ∧ x = w.x ∧ y = w.y ∧ n = w.nibble
  | .skipKey x => w.family = 0xE ∧ w.low = 0x9E ∧ x = w.x
  | .skipNoKey x => w.family = 0xE ∧ w.low = 0xA1 ∧ x = w.x
  | .getDelay x => w.family = 0xF ∧ w.low = 0x07 ∧ x = w.x
  | .awaitKey x => w.family = 0xF ∧ w.low = 0x0A ∧ x = w.x
  | .setDelay x => w.family = 0xF ∧ w.low = 0x15 ∧ x = w.x
  | .setSound x => w.family = 0xF ∧ w.low = 0x18 ∧ x = w.x
  | .addIndex x => w.family = 0xF ∧ w.low = 0x1E ∧ x = w.x
  | .glyph x => w.family = 0xF ∧ w.low = 0x29 ∧ x = w.x
  | .decimal x => w.family = 0xF ∧ w.low = 0x33 ∧ x = w.x
  | .store x => w.family = 0xF ∧ w.low = 0x55 ∧ x = w.x
  | .load x => w.family = 0xF ∧ w.low = 0x65 ∧ x = w.x

theorem fields_ofNibbles (family x y n : Fin 16) :
    let w := ofNibbles family x y n
    w.family = family.val ∧ w.nibble.val = n.val ∧ x = w.x ∧ y = w.y := by
  simp

theorem low_ofNibbles (family x y n : Fin 16) :
    BitVec.ofNat 8 (16 * y.val + n.val) = (ofNibbles family x y n).low := by
  apply BitVec.eq_of_toNat_eq
  rw [low, BitVec.toNat_setWidth, toNat_ofNibbles, BitVec.toNat_ofNat]
  omega

end Word

namespace Operation

open ofWord?

variable {w : Word} {op : Operation}

theorem standsFor_of_arithmetic? (family : w.family = 0x8)
    (decodes : arithmetic? w.x w.y w.nibble = some op) : w.StandsFor op := by
  revert decodes
  fun_cases arithmetic? w.x w.y w.nibble <;> rintro ⟨⟩ <;> simp [Word.StandsFor, *]

theorem standsFor_of_key? (family : w.family = 0xE) (decodes : key? w.x w.low = some op) :
    w.StandsFor op := by
  revert decodes
  fun_cases key? w.x w.low <;> rintro ⟨⟩ <;> simp [Word.StandsFor, BitVec.toNat_eq, *]

theorem standsFor_of_peripheral? (family : w.family = 0xF)
    (decodes : peripheral? w.x w.low = some op) : w.StandsFor op := by
  revert decodes
  fun_cases peripheral? w.x w.low <;> rintro ⟨⟩ <;> simp [Word.StandsFor, BitVec.toNat_eq, *]

theorem standsFor_of_ofWord? (decodes : ofWord? w = some op) : w.StandsFor op := by
  revert decodes
  fun_cases ofWord? w
  case case3 notClear notRet family =>
    rintro ⟨⟩
    exact ⟨family, notClear, notRet, rfl⟩
  case case12 family => exact standsFor_of_arithmetic? family
  case case19 family => exact standsFor_of_key? family
  case case20 family => exact standsFor_of_peripheral? family
  all_goals rintro ⟨⟩ <;> simp [Word.StandsFor, *]

/-- The words that are matched whole are of family 0, so no other family loses words to them. -/
theorem ne_of_family_ne_zero (family : w.family ≠ 0) : w ≠ 0x00E0 ∧ w ≠ 0x00EE := by
  constructor <;> rintro rfl <;> exact family rfl

theorem ofWord?_of_standsFor (stands : w.StandsFor op) : ofWord? w = some op := by
  have apart := ne_of_family_ne_zero (w := w)
  cases op <;> simp only [Word.StandsFor] at stands
  case clear | ret => simp [ofWord?, stands]
  all_goals simp_all [ofWord?, arithmetic?, key?, peripheral?]

theorem ofWord?_eq_some_iff : ofWord? w = some op ↔ w.StandsFor op :=
  ⟨standsFor_of_ofWord?, ofWord?_of_standsFor⟩

theorem ofWord?_eq_none_iff : ofWord? w = none ↔ ∀ op, ¬ w.StandsFor op := by
  rw [Option.eq_none_iff_forall_ne_some]
  exact forall_congr' fun op => not_congr ofWord?_eq_some_iff

end Operation

end Chip8
