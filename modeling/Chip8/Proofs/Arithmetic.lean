import Mathlib.Logic.Function.Basic
import Chip8.Machine.Step
import Chip8.Proofs.Decoding

/-!
# Arithmetic in integers

The arithmetic instructions compute on bytes, and five of them write `VF` as well. Here the
registers are read as integers (`Machine.values`), and each instruction is a list of writes to them,
in the order in which they take effect (`Machine.step_arithmetic`). The order matters where `VF` is
also the destination: sums and differences write the flag last, so it covers the result, and shifts
write it first, so it is shifted itself.
-/

namespace Chip8

namespace Machine

/-- The registers as integers. -/
def values (m : Machine) (r : Reg) : Int := (m.reg r).toNat

/-- The effect gives the registers the listed values and moves on, and that is all. -/
structure Assigns (m : Machine) (screen : Bitmap) (effect : Effect) (values : Reg → Int) :
    Prop where
  values_eq : effect.machine.values = values
  effect_eq : effect =
    { machine := { m with v := effect.machine.v, pc := m.pc + 2 }.tickTimers, screen }

open Function (update)

theorem values_setReg (m : Machine) (r : Reg) (b : Byte) :
    (m.setReg r b).values = update m.values r b.toNat := by
  funext s
  simp only [values, reg_setReg, Function.update_apply]
  split <;> rfl

theorem values_setFlag (m : Machine) (flag : Bool) :
    (m.setFlag flag).values = update m.values .flag (if flag then 1 else 0) := by
  rw [setFlag, values_setReg]
  cases flag <;> rfl

/-! ## Bytes -/

theorem toNat_add_int (a b : Byte) : ((a + b).toNat : Int) = (a.toNat + b.toNat : Int) % 256 := by
  rw [BitVec.toNat_add]
  omega

theorem toNat_sub_int (a b : Byte) : ((a - b).toNat : Int) = (a.toNat - b.toNat : Int) % 256 := by
  have := b.isLt
  rw [BitVec.toNat_sub]
  omega

theorem toNat_half (a : Byte) : ((a >>> 1).toNat : Int) = (a.toNat : Int) / 2 := by
  rw [BitVec.toNat_ushiftRight, Nat.shiftRight_eq_div_pow]
  omega

theorem toNat_double (a : Byte) : ((a <<< 1).toNat : Int) = 2 * (a.toNat : Int) % 256 := by
  rw [BitVec.toNat_shiftLeft, Nat.shiftLeft_eq]
  omega

theorem lowBit_eq (a : Byte) : (if a.getLsbD 0 then 1 else 0 : Int) = (a.toNat : Int) % 2 := by
  have bit : a.getLsbD 0 = decide (a.toNat % 2 = 1) := Nat.testBit_zero _
  rw [bit]
  rcases Nat.mod_two_eq_zero_or_one a.toNat with even | odd
  · rw [if_neg (by simp [even])]
    omega
  · rw [if_pos (by simp [odd])]
    omega

theorem highBit_eq (a : Byte) : (if a.getMsbD 0 then 1 else 0 : Int) = (a.toNat : Int) / 128 := by
  have bound := a.isLt
  have bit : a.getMsbD 0 = decide (128 ≤ a.toNat) := by
    rw [BitVec.getMsbD_eq_getLsbD, BitVec.getLsbD, Nat.testBit_eq_decide_div_mod_eq]
    simp
    omega
  rw [bit]
  by_cases high : 128 ≤ a.toNat
  · rw [if_pos (by simpa using high)]
    omega
  · rw [if_neg (by simpa using high)]
    omega

/-! ## Operations -/

variable (m : Machine) (screen : Bitmap) (random : Byte) (x y : Reg)

theorem values_execute_addByte (kk : Byte) :
    (m.execute screen random (.addByte x kk)).machine.values =
      update m.values x ((m.values x + kk.toNat) % 256) := by
  rw [execute, values_setReg, toNat_add_int]
  rfl

theorem values_execute_add :
    (m.execute screen random (.add x y)).machine.values =
      update (update m.values x ((m.values x + m.values y) % 256)) .flag
        (if 255 < m.values x + m.values y then 1 else 0) := by
  have carry : 255 < (m.reg x).toNat + (m.reg y).toNat ↔ 255 < m.values x + m.values y := by
    simp only [values]
    omega
  simp only [execute, values_setFlag, values_setReg, toNat_add_int, decide_eq_true_eq, carry]
  rfl

theorem values_execute_sub :
    (m.execute screen random (.sub x y)).machine.values =
      update (update m.values x ((m.values x - m.values y) % 256)) .flag
        (if m.values y < m.values x then 1 else 0) := by
  have greater : (m.reg y).toNat < (m.reg x).toNat ↔ m.values y < m.values x := Int.ofNat_lt.symm
  simp only [execute, values_setFlag, values_setReg, toNat_sub_int, decide_eq_true_eq, greater]
  rfl

theorem execute_subReversed :
    m.execute screen random (.subReversed x y) = m.execute screen random (.sub y x) := rfl

/-- A register is shifted after the flag was written, so `VF` is shifted as the flag. -/
theorem values_shifted (bit : Bool) (shift : Byte → Byte) :
    let flagged := m.setFlag bit
    (flagged.setReg x (shift (flagged.reg x))).values =
      if x = .flag then update m.values .flag (shift (if bit then 1 else 0)).toNat
      else update (update m.values x (shift (m.reg x)).toNat) .flag (if bit then 1 else 0) := by
  intro flagged
  rw [values_setReg, values_setFlag]
  by_cases self : x = .flag
  · have shown : flagged.reg .flag = if bit then 1 else 0 := (m.reg_setReg ..).trans (if_pos rfl)
    rw [if_pos self, self, shown, Function.update_idem]
  · rw [if_neg self, m.reg_setFlag_of_ne bit self, Function.update_comm self]

theorem values_execute_shiftRight :
    (m.execute screen random (.shiftRight x)).machine.values =
      if x = .flag then update m.values .flag 0
      else update (update m.values x (m.values x / 2)) .flag (m.values x % 2) := by
  have shifted := m.values_shifted x ((m.reg x).getLsbD 0) (· >>> 1)
  have gone : ∀ bit : Bool, ((if bit then 1 else 0 : Byte) >>> 1).toNat = 0 := by decide
  simp only [toNat_half, lowBit_eq, gone] at shifted
  exact shifted

theorem values_execute_shiftLeft :
    (m.execute screen random (.shiftLeft x)).machine.values =
      if x = .flag then update m.values .flag (2 * (m.values x / 128))
      else update (update m.values x (2 * m.values x % 256)) .flag (m.values x / 128) := by
  have shifted := m.values_shifted x ((m.reg x).getMsbD 0) (· <<< 1)
  have doubled : ∀ bit : Bool, (((if bit then 1 else 0 : Byte) <<< 1).toNat : Int) =
      2 * if bit then 1 else 0 := by decide
  simp only [doubled, toNat_double, highBit_eq] at shifted
  exact shifted

/-! ## Instructions -/

variable {m screen random}

/-- An instruction whose operation only writes registers moves on besides. -/
theorem assigns_of_execute {i : Instruction} {op : Operation} {values : Reg → Int}
    (stands : i.word.StandsFor op)
    (assigned : ({ m with pc := m.pc + 2 }.execute screen random op).machine.values = values)
    (only : ∃ v, { m with pc := m.pc + 2 }.execute screen random op =
      { machine := { m with v, pc := m.pc + 2 }, screen }) :
    m.Assigns screen (m.step screen random i) values := by
  have decodes : i.operation? = some op := Operation.ofWord?_of_standsFor stands
  obtain ⟨v, effect⟩ := only
  simp only [step, decodes]
  rw [effect] at assigned ⊢
  exact ⟨assigned, rfl⟩

/-- The arithmetic instructions on any machine and with any registers, which may be `VF` or twice
the same. Of two writes to one register the later one, on the outside, wins. The byte of a word that
ends in the nibbles `k` and `l` is `16 * k + l`. -/
theorem step_arithmetic (m : Machine) (screen : Bitmap) (random : Byte) (address : Word)
    (x y k l : Reg) :
    let run (w : Word) := m.step screen random ⟨w, address⟩
    let v := m.values
    m.Assigns screen (run (.ofNibbles 0x8 x y 0x4))
        (update (update v x ((v x + v y) % 256)) .flag (if v x + v y > 255 then 1 else 0)) ∧
      m.Assigns screen (run (.ofNibbles 0x8 x y 0x5))
        (update (update v x ((v x - v y) % 256)) .flag (if v x > v y then 1 else 0)) ∧
      m.Assigns screen (run (.ofNibbles 0x8 x y 0x7))
        (update (update v y ((v y - v x) % 256)) .flag (if v y > v x then 1 else 0)) ∧
      run (.ofNibbles 0x8 x y 0x7) = run (.ofNibbles 0x8 y x 0x5) ∧
      m.Assigns screen (run (.ofNibbles 0x8 x y 0x6))
        (if x = .flag then update v .flag 0
          else update (update v x (v x / 2)) .flag (v x % 2)) ∧
      m.Assigns screen (run (.ofNibbles 0x8 x y 0xE))
        (if x = .flag then update v .flag (2 * (v x / 128))
          else update (update v x (2 * v x % 256)) .flag (v x / 128)) ∧
      m.Assigns screen (run (.ofNibbles 0x7 x k l))
        (update v x ((v x + (16 * k.val + l.val)) % 256)) := by
  intro run v
  have fields := Word.fields_ofNibbles
  have add : (Word.ofNibbles 0x8 x y 0x4).StandsFor (.add x y) := fields 0x8 x y 0x4
  have sub : ∀ x y, (Word.ofNibbles 0x8 x y 0x5).StandsFor (.sub x y) := (fields 0x8 · · 0x5)
  have subReversed : (Word.ofNibbles 0x8 x y 0x7).StandsFor (.subReversed x y) := fields 0x8 x y 0x7
  have shiftRight : (Word.ofNibbles 0x8 x y 0x6).StandsFor (.shiftRight x) := by
    obtain ⟨family, nibble, reg, -⟩ := fields 0x8 x y 0x6
    exact ⟨family, nibble, reg⟩
  have shiftLeft : (Word.ofNibbles 0x8 x y 0xE).StandsFor (.shiftLeft x) := by
    obtain ⟨family, nibble, reg, -⟩ := fields 0x8 x y 0xE
    exact ⟨family, nibble, reg⟩
  have addByte : (Word.ofNibbles 0x7 x k l).StandsFor
      (.addByte x (.ofNat 8 (16 * k.val + l.val))) := by
    obtain ⟨family, -, reg, -⟩ := fields 0x7 x k l
    exact ⟨family, reg, Word.low_ofNibbles ..⟩
  refine ⟨?_, ?_, ?_, ?_, ?_, ?_, ?_⟩
  · exact assigns_of_execute add (values_execute_add _ screen random x y) ⟨_, rfl⟩
  · exact assigns_of_execute (sub x y) (values_execute_sub _ screen random x y) ⟨_, rfl⟩
  · exact assigns_of_execute subReversed (values_execute_sub _ screen random y x) ⟨_, rfl⟩
  · have reversed : Instruction.operation? ⟨.ofNibbles 0x8 x y 0x7, address⟩ = _ :=
      Operation.ofWord?_of_standsFor subReversed
    have swapped : Instruction.operation? ⟨.ofNibbles 0x8 y x 0x5, address⟩ = _ :=
      Operation.ofWord?_of_standsFor (sub y x)
    simp only [run, step, reversed, swapped, execute_subReversed]
  · exact assigns_of_execute shiftRight (values_execute_shiftRight _ screen random x) ⟨_, rfl⟩
  · exact assigns_of_execute shiftLeft (values_execute_shiftLeft _ screen random x) ⟨_, rfl⟩
  · have byte : ((BitVec.ofNat 8 (16 * k.val + l.val)).toNat : Int) = 16 * k.val + l.val := by
      rw [BitVec.toNat_ofNat]
      omega
    rw [← byte]
    exact assigns_of_execute addByte (values_execute_addByte _ screen random x _) ⟨_, rfl⟩

/-- `VF` doubled is twice its high bit, whatever else was in it. -/
example :
    let m := { ofFont .standard with v := .replicate 16 0x81 }
    (m.step .blank 0 ⟨0x8F0E, 0x200⟩).machine.reg .flag = 2 := rfl

end Machine

end Chip8
