import Chip8.Proofs.Footprint

/-!
# Registers in memory

`Fx55` and `Fx33` write a block of bytes from `I` on and `Fx65` reads one back. The block is far
shorter than memory, so it does not run into itself even where it goes on at zero, and reading finds
byte for byte what was written (`Memory.read_writeBlock`). Nothing else writes memory, so the block
is still there after any instructions but those two, and a load with `I` where it was finds it
(`Device.reg_load`). Hence registers that are stored come back, and so do the decimal digits of a
register (`Device.registers_restored`).
-/

namespace Chip8

namespace Memory

variable (m : Memory) {start : Nat} {bs : List Byte}

/-- A block no longer than memory does not run into itself, so each of its bytes can be read. -/
theorem read_writeBlock {k : Nat} (fits : bs.length ≤ 4096) (inside : k < bs.length) :
    (m.writeBlock start bs).read (start + k) = bs[k] := by
  induction bs generalizing m start k with
  | nil => cases inside
  | cons b bs ih =>
    rw [List.length_cons] at fits
    cases k with
    | zero =>
      have behind : start % 4096 ∉ window (start + 1) bs.length := by
        intro mem
        obtain ⟨k, lt, cell⟩ := mem_window.1 mem
        omega
      have kept := read_writeBlock_of_notMem (m.write start b) behind
      rw [read_write, if_pos rfl] at kept
      exact kept
    | succ k =>
      rw [writeBlock, ← Nat.add_assoc, Nat.add_right_comm]
      exact ih (m.write start b) (by omega) (Nat.lt_of_succ_lt_succ inside)

/-- Writing what memory holds already changes nothing. -/
theorem writeBlock_of_read
    (holds : ∀ k (inside : k < bs.length), m.read (start + k) = bs[k]) :
    m.writeBlock start bs = m := by
  induction bs generalizing start with
  | nil => rfl
  | cons b bs ih =>
    have held : m.bytes[start % 4096] = b := holds 0 (Nat.succ_pos _)
    have same : m.write start b = m := by
      rw [← held]
      exact congrArg Memory.mk (Vector.set_getElem_self _)
    rw [writeBlock, same]
    apply ih
    intro k inside
    rw [Nat.add_assoc, Nat.add_comm 1]
    exact holds (k + 1) (Nat.succ_lt_succ inside)

end Memory

/-- Whether the instruction is one of the two that write memory, `Fx33` and `Fx55`. -/
def Instruction.WritesMemory (i : Instruction) : Prop :=
  ∃ x, i.word.StandsFor (.decimal x) ∨ i.word.StandsFor (.store x)

namespace Machine

variable (m : Machine) (screen : Bitmap) (random : Byte) {i : Instruction} {x : Reg}

/-- The bytes that `Fx55` writes. -/
def firstRegisters (x : Reg) : List Byte := m.v.toList.take (x.val + 1)

/-- The bytes that `Fx33` writes. -/
def decimalDigits (x : Reg) : List Byte :=
  let value := (m.reg x).toNat
  [value / 100, value / 10 % 10, value % 10].map (BitVec.ofNat 8)

theorem length_firstRegisters (x : Reg) : (m.firstRegisters x).length = x.val + 1 := by
  have few : x.val + 1 ≤ m.v.toList.length := by
    rw [Vector.length_toList]
    exact x.isLt
  exact List.length_take_of_le few

theorem getElem_firstRegisters {r : Reg} (inside : r.val < (m.firstRegisters x).length) :
    (m.firstRegisters x)[r.val] = m.reg r := by
  simp [firstRegisters, reg]

theorem length_decimalDigits (x : Reg) : (m.decimalDigits x).length = 3 := rfl

theorem map_toNat_decimalDigits (x : Reg) :
    (m.decimalDigits x).map BitVec.toNat =
      [(m.reg x).toNat / 100, (m.reg x).toNat / 10 % 10, (m.reg x).toNat % 10] := by
  have byte := (m.reg x).isLt
  have fits : ∀ n ≤ (m.reg x).toNat, n % 256 = n := fun n le =>
    Nat.mod_eq_of_lt (Nat.lt_of_le_of_lt le byte)
  simp only [decimalDigits, List.map_cons, List.map_nil, BitVec.toNat_ofNat]
  rw [fits _ (Nat.div_le_self _ 100), fits _ (by omega), fits _ (Nat.mod_le _ 10)]

theorem memory_step_store (stores : i.word.StandsFor (.store x)) :
    (m.step screen random i).machine.memory =
      m.memory.writeBlock m.index.toNat (m.firstRegisters x) := by
  have decodes : i.operation? = some (.store x) := Operation.ofWord?_of_standsFor stores
  simp only [step, decodes]
  rfl

theorem memory_step_decimal (stores : i.word.StandsFor (.decimal x)) :
    (m.step screen random i).machine.memory =
      m.memory.writeBlock m.index.toNat (m.decimalDigits x) := by
  have decodes : i.operation? = some (.decimal x) := Operation.ofWord?_of_standsFor stores
  simp only [step, decodes]
  rfl

theorem memory_step_of_not_writesMemory (spares : ¬ i.WritesMemory) :
    (m.step screen random i).machine.memory = m.memory := by
  unfold step
  split
  · next op decodes =>
    have stands := Operation.standsFor_of_ofWord? decodes
    refine (execute_keeps _ screen random op).memory ?_ ?_
    · rintro x rfl
      exact spares ⟨x, .inl stands⟩
    · rintro x rfl
      exact spares ⟨x, .inr stands⟩
  · rfl

/-- `Fx65` fills the registers up to `Vx` from memory and leaves the rest of the machine alone, but
for the program counter and the timers. -/
theorem step_load (loads : i.word.StandsFor (.load x)) :
    let after := (m.step screen random i).machine
    (∀ r, after.reg r = if r ≤ x then m.memory.read (m.index.toNat + r.val) else m.reg r) ∧
      after.memory = m.memory ∧ after.index = m.index := by
  have decodes : i.operation? = some (.load x) := Operation.ofWord?_of_standsFor loads
  simp only [step, decodes, execute, tickTimers, reg, Fin.getElem_fin, Vector.getElem_ofFn,
    Fin.eta, implies_true, and_self]

end Machine

namespace Device

variable {d : Device} {first load : Instruction × Byte} {between : List (Instruction × Byte)}

/-- The device after steps with checks. -/
def afterChecked (d : Device) (orders : List (Instruction × Byte)) : Checked Device :=
  orders.foldlM (fun d order => do
    return (← d.machine.stepChecked d.screen order.2 order.1).device) d

/-- Behind the first step nothing writes memory, and in the end `I` is where it was before it. -/
structure Resumes (d : Device) (first : Instruction × Byte)
    (between : List (Instruction × Byte)) : Prop where
  spared : ∀ order ∈ between, ¬ order.1.WritesMemory
  index : (d.after obey (first :: between)).machine.index = d.machine.index

theorem afterChecked_eq (inside : d.machine.InBounds) (orders : List (Instruction × Byte)) :
    d.afterChecked orders = .ok (d.after obey orders) := by
  induction orders generalizing d with
  | nil => rfl
  | cons order rest ih =>
    have step := Machine.stepChecked_eq inside d.screen order.2 order.1
    rw [afterChecked, List.foldlM_cons, step]
    exact ih (inBounds_obey inside order)

theorem memory_after (d : Device) (spared : ∀ order ∈ between, ¬ order.1.WritesMemory) :
    (d.after obey between).machine.memory = d.machine.memory :=
  d.after_kept (fun d => d.machine.memory) fun d order mem =>
    d.machine.memory_step_of_not_writesMemory d.screen order.2 (spared order mem)

/-- A load finds the block that the first step wrote. -/
theorem reg_load (h : d.Resumes first between) {bs : List Byte} (short : bs.length ≤ 16)
    (wrote : (d.obey first).machine.memory = d.machine.memory.writeBlock d.machine.index.toNat bs)
    {y r : Reg} (loads : load.1.word.StandsFor (.load y)) (loaded : r ≤ y)
    (written : r.val < bs.length) :
    ((d.after obey (first :: between)).obey load).machine.reg r = bs[r.val] := by
  let stored := d.after obey (first :: between)
  have memory : stored.machine.memory = d.machine.memory.writeBlock d.machine.index.toNat bs :=
    (memory_after (d.obey first).device h.spared).trans wrote
  calc (stored.obey load).machine.reg r
    _ = stored.machine.memory.read (stored.machine.index.toNat + r.val) := by
      rw [obey, (stored.machine.step_load stored.screen load.2 loads).1, if_pos loaded]
    _ = (d.machine.memory.writeBlock d.machine.index.toNat bs).read
        (d.machine.index.toNat + r.val) := by rw [memory, h.index]
    _ = bs[r.val] := d.machine.memory.read_writeBlock (by omega) written

/-- What `Fx65` has loaded `Fx55` writes back to where it came from. -/
theorem memory_load_store (d : Device) {store : Instruction × Byte} {x : Reg}
    (loads : load.1.word.StandsFor (.load x)) (stores : store.1.word.StandsFor (.store x)) :
    (d.after obey [load, store]).machine.memory = d.machine.memory := by
  let loaded := (d.obey load).device
  obtain ⟨regs, memory, index⟩ := d.machine.step_load d.screen load.2 loads
  have wrote : (d.after obey [load, store]).machine.memory =
      d.machine.memory.writeBlock d.machine.index.toNat (loaded.machine.firstRegisters x) := by
    rw [← memory, ← index]
    exact loaded.machine.memory_step_store loaded.screen store.2 stores
  rw [wrote]
  apply Memory.writeBlock_of_read
  intro k inside
  have few : k < x.val + 1 := by rwa [loaded.machine.length_firstRegisters] at inside
  have slot : k < 16 := by omega
  have below : (⟨k, slot⟩ : Reg) ≤ x := Nat.le_of_lt_succ few
  calc d.machine.memory.read (d.machine.index.toNat + k)
    _ = loaded.machine.reg ⟨k, slot⟩ := ((regs ⟨k, slot⟩).trans (if_pos below)).symm
    _ = (loaded.machine.firstRegisters x)[k] :=
      (loaded.machine.getElem_firstRegisters (r := ⟨k, slot⟩) inside).symm

/-- No step of any run breaks off, also where a block goes on at zero. Registers that are stored are
back once they are loaded from the same place, if nothing was stored in between, and the load
changes no others. What was loaded can be stored again without a trace. The decimal digits of a
register, loaded from where they were written, make up its value. -/
theorem registers_restored (d : Device) (inside : d.machine.InBounds) (x : Reg) :
    (∀ orders, d.afterChecked orders = .ok (d.after obey orders)) ∧
      (∀ store load between y, store.1.word.StandsFor (.store x) →
        load.1.word.StandsFor (.load y) → y ≤ x → d.Resumes store between →
        let stored := d.after obey (store :: between)
        let loaded := (stored.obey load).device
        (∀ r, r ≤ y → loaded.machine.reg r = d.machine.reg r) ∧
          (∀ r, y < r → loaded.machine.reg r = stored.machine.reg r) ∧
          loaded.machine.index = stored.machine.index) ∧
      (∀ load store, load.1.word.StandsFor (.load x) → store.1.word.StandsFor (.store x) →
        (d.after obey [load, store]).machine.memory = d.machine.memory) ∧
      ∀ decimal load between, decimal.1.word.StandsFor (.decimal x) →
        load.1.word.StandsFor (.load 2) → d.Resumes decimal between →
        let loaded := ((d.after obey (decimal :: between)).obey load).device
        let digit (r : Reg) := (loaded.machine.reg r).toNat
        (digit 0 ≤ 9 ∧ digit 1 ≤ 9 ∧ digit 2 ≤ 9) ∧
          100 * digit 0 + 10 * digit 1 + digit 2 = (d.machine.reg x).toNat := by
  refine ⟨afterChecked_eq inside, ?restored, fun load store => d.memory_load_store, ?digits⟩
  case restored =>
    intro store load between y stores loads below resumes stored loaded
    have wrote := d.machine.memory_step_store d.screen store.2 stores
    have length := d.machine.length_firstRegisters x
    obtain ⟨regs, -, index⟩ := stored.machine.step_load stored.screen load.2 loads
    refine ⟨?_, fun r above => (regs r).trans (if_neg (Nat.not_le.2 above)), index⟩
    intro r upTo
    have written : r.val < (d.machine.firstRegisters x).length := by
      rw [length]
      exact Nat.lt_succ_of_le (Nat.le_trans upTo below)
    calc loaded.machine.reg r
      _ = (d.machine.firstRegisters x)[r.val] :=
        reg_load resumes (by omega) wrote loads upTo written
      _ = d.machine.reg r := d.machine.getElem_firstRegisters written
  case digits =>
    intro decimal load between writes loads resumes loaded digit
    have wrote := d.machine.memory_step_decimal d.screen decimal.2 writes
    have place : ∀ r : Reg, r ≤ 2 →
        ((d.machine.decimalDigits x).map BitVec.toNat)[r.val]? = some (digit r) := by
      intro r low
      have written : r.val < (d.machine.decimalDigits x).length := Nat.lt_succ_of_le low
      have short : (d.machine.decimalDigits x).length ≤ 16 := by
        rw [Machine.length_decimalDigits]
        decide
      rw [List.getElem?_map, List.getElem?_eq_getElem written,
        ← reg_load resumes short wrote loads low written]
      rfl
    rw [d.machine.map_toNat_decimalDigits x] at place
    have byte := (d.machine.reg x).isLt
    have hundreds : (d.machine.reg x).toNat / 100 = digit 0 := Option.some.inj (place 0 (by decide))
    have tens : (d.machine.reg x).toNat / 10 % 10 = digit 1 := Option.some.inj (place 1 (by decide))
    have units : (d.machine.reg x).toNat % 10 = digit 2 := Option.some.inj (place 2 (by decide))
    omega

/-- Three registers stored around the top of memory, with `V0` and the index overwritten before two
are loaded; and the digits of 171. -/
theorem registers_restored_around_top :
    let m := { Machine.ofFont .standard with index := 0xFFE, v := .replicate 16 0xAB }
    let d : Device := ⟨m, .blank⟩
    let order (w : Word) : Instruction × Byte := (⟨w, 0x200⟩, 0)
    let between := [order 0x6000, order 0xA300, order 0xAFFE]
    let stored := d.after obey (order 0xF255 :: between)
    let digits := ((d.after obey [order 0xF233]).obey (order 0xF265)).machine
    m.InBounds ∧ d.Resumes (order 0xF255) between ∧ stored.machine.reg 0 = 0 ∧
      (stored.obey (order 0xF165)).machine.reg 0 = 0xAB ∧
      (d.after obey [order 0xF265, order 0xF255]).machine.memory = m.memory ∧
      100 * (digits.reg 0).toNat + 10 * (digits.reg 1).toNat + (digits.reg 2).toNat = 171 := by
  intro m d order between stored digits
  have inside : m.InBounds := ⟨by decide, Nat.zero_le _⟩
  have spared : ∀ order ∈ between, ¬ order.1.WritesMemory := by
    intro order mem
    have other : order.1.word.family ≠ 0xF := by
      revert order
      decide
    rintro ⟨x, ⟨family, -⟩ | ⟨family, -⟩⟩ <;> exact other family
  have resumes : d.Resumes (order 0xF255) between := ⟨spared, by decide⟩
  have atOnce : d.Resumes (order 0xF233) [] := ⟨nofun, by decide⟩
  obtain ⟨-, restored, rewritten, decimal⟩ := registers_restored d inside 2
  have store : (0xF255 : Word).StandsFor (.store 2) := ⟨rfl, rfl, rfl⟩
  have load : (0xF265 : Word).StandsFor (.load 2) := ⟨rfl, rfl, rfl⟩
  have loadTwo : (0xF165 : Word).StandsFor (.load 1) := ⟨rfl, rfl, rfl⟩
  have writeDigits : (0xF233 : Word).StandsFor (.decimal 2) := ⟨rfl, rfl, rfl⟩
  have kept := restored (order 0xF255) (order 0xF165) between 1 store loadTwo (by decide) resumes
  have value := decimal (order 0xF233) (order 0xF265) [] writeDigits load atOnce
  exact ⟨inside, resumes, by decide, kept.1 0 (by decide),
    rewritten (order 0xF265) (order 0xF255) load store, value.2⟩

end Device

end Chip8
