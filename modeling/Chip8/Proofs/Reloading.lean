import Chip8.Proofs.Disassembly
import Chip8.Proofs.StoredRegisters

/-!
# Loading over a machine in use

A program is put into memory in place: what was there is cleared, the bytes are copied and their
number is noted, each over what the step before has left. A program that is too long is refused
before anything is touched. So the machine is never seen half loaded, and what is left behind is
what `Machine.load` gives (`Machine.run_loadInPlace`). Nothing above the font depends on what was
there before: whatever a machine has been through, the next program that fits is found as on a
machine that has not run (`Machine.loading_starts_over`).
-/

namespace Chip8

namespace Memory

/-- Zeros from the start of the program to the end of memory. -/
def cleared (m : Memory) : Memory := m.writeBlock programStart (List.replicate maxProgramSize 0)

theorem mem_window_programStart {size a : Nat} (fits : size ≤ maxProgramSize) :
    a ∈ window programStart size ↔ programStart ≤ a ∧ a < programStart + size := by
  rw [mem_window]
  constructor
  · rintro ⟨k, inside, rfl⟩
    simp only [programStart, maxProgramSize] at fits ⊢
    omega
  · rintro ⟨low, high⟩
    refine ⟨a - programStart, by omega, ?_⟩
    simp only [programStart, maxProgramSize] at fits low high ⊢
    omega

/-- A block that is written where programs go and fits there. -/
theorem read_writeBlock_programStart (m : Memory) {bs : List Byte}
    (fits : bs.length ≤ maxProgramSize) {a : Nat} (inside : a < 4096) :
    (m.writeBlock programStart bs).read a =
      if programStart ≤ a then bs[a - programStart]?.getD (m.read a) else m.read a := by
  by_cases written : programStart ≤ a ∧ a < programStart + bs.length
  · obtain ⟨low, high⟩ := written
    have byte : a - programStart < bs.length := by omega
    have read : (m.writeBlock programStart bs).read (programStart + (a - programStart)) =
        bs[a - programStart] :=
      m.read_writeBlock (Nat.le_trans fits (by decide)) byte
    rw [Nat.add_sub_cancel' low] at read
    rw [if_pos low, List.getElem?_eq_getElem byte, Option.getD_some, read]
  · have kept : (m.writeBlock programStart bs).read a = m.read a := by
      apply read_writeBlock_of_notMem
      rwa [Nat.mod_eq_of_lt inside, mem_window_programStart fits]
    rw [kept]
    split
    · rw [List.getElem?_eq_none (by omega), Option.getD_none]
    · rfl

theorem read_cleared (m : Memory) {a : Nat} (inside : a < 4096) :
    m.cleared.read a = if programStart ≤ a then 0 else m.read a := by
  rw [cleared, read_writeBlock_programStart m (by simp) inside]
  split
  · have zero : a - programStart < maxProgramSize := by
      simp only [programStart, maxProgramSize]
      omega
    rw [List.getElem?_replicate, if_pos zero, Option.getD_some]
  · rfl

/-- Clearing and copying leave what the memory with the program is defined to be. -/
theorem writeBlock_cleared (m : Memory) {program : List Byte}
    (fits : program.length ≤ maxProgramSize) :
    m.cleared.writeBlock programStart program = m.withProgram program := by
  apply ext_read
  intro a inside
  rw [read_writeBlock_programStart _ fits inside, read_cleared m inside,
    read_withProgram m program a inside]
  by_cases low : a < programStart
  · rw [if_neg (Nat.not_le.2 low), if_neg (Nat.not_le.2 low), if_pos low]
  · rw [if_pos (Nat.le_of_not_lt low), if_pos (Nat.le_of_not_lt low), if_neg low]

/-- From the start of the program on, memory is the program and then zeros. -/
theorem readBlock_withProgram (m : Memory) {program : List Byte}
    (fits : program.length ≤ maxProgramSize) :
    (m.withProgram program).readBlock programStart maxProgramSize =
      program ++ List.replicate (maxProgramSize - program.length) 0 := by
  apply List.ext_getElem?
  intro k
  rw [getElem?_readBlock]
  split
  · next inside =>
    have below : programStart + k < 4096 := by
      simp only [programStart, maxProgramSize] at inside ⊢
      omega
    rw [read_withProgram m program _ below, if_neg (by omega), Nat.add_sub_cancel_left,
      List.getElem?_append]
    split
    · next byte => rw [List.getElem?_eq_getElem byte, Option.getD_some]
    · next beyond =>
      rw [List.getElem?_eq_none (Nat.le_of_not_lt beyond), List.getElem?_replicate,
        if_pos (by omega), Option.getD_none]
  · next outside =>
    have length : (program ++ List.replicate (maxProgramSize - program.length) 0).length =
        maxProgramSize := by
      rw [List.length_append, List.length_replicate, Nat.add_sub_cancel' fits]
    rw [List.getElem?_eq_none (by omega)]

end Memory

namespace Machine

/-- Loads a program step by step. A machine that refuses it is left as far as the steps before have
brought it. -/
def loadInPlace (program : List Byte) : EStateM ProgramTooLarge Machine Unit := do
  if maxProgramSize < program.length then
    throw ⟨program.length⟩
  modify fun m => { m with memory := m.memory.cleared }
  modify fun m => { m with memory := m.memory.writeBlock programStart program }
  modify fun m => { m with programSize := program.length }

/-- Loading in place leaves the loaded machine, or the machine as it was. -/
theorem run_loadInPlace (m : Machine) (program : List Byte) :
    (loadInPlace program).run m =
      match m.load program with
      | .ok loaded => .ok () loaded
      | .error e => .error e m := by
  by_cases large : maxProgramSize < program.length
  · rw [load_eq_error_iff.2 ⟨large, rfl⟩]
    simp [loadInPlace, large]
  · have fits := Nat.le_of_not_lt large
    rw [load_eq_ok_iff.2 ⟨fits, rfl⟩, ← m.memory.writeBlock_cleared fits]
    simp [loadInPlace, large]

end Machine

/-- What may be done with a machine. -/
inductive Use where
  /-- A program is loaded, or refused. -/
  | load (program : List Byte)
  /-- An instruction runs that was not fetched. -/
  | obey (order : Instruction × Byte)
  /-- The instruction at the program counter runs. -/
  | cycle (random : Byte)
  /-- An emulator of the machine handles events. -/
  | serve (config : Config) (random : RandomSource) (events : List Event)

namespace Device

/-- The device after a use of it. -/
def carryOut (d : Device) : Use → Device
  | .load program =>
    match (Machine.loadInPlace program).run d.machine with
    | .ok _ m | .error _ m => { d with machine := m }
  | .obey order => (d.obey order).device
  | .cycle random => (d.cycle random).device
  | .serve config random events =>
    let e := (Emulator.ofMachine d.machine config random).after events
    ⟨e.machine, e.screen⟩

/-- The device after some uses of it. -/
def afterUses (d : Device) (uses : List Use) : Device := uses.foldl carryOut d

theorem machine_carryOut_load (d : Device) {program : List Byte} {loaded : Machine}
    (load : d.machine.load program = .ok loaded) :
    (d.carryOut (.load program)).machine = loaded := by
  simp only [carryOut, Machine.run_loadInPlace, load]

theorem machine_afterUses_load (d : Device) (uses : List Use) {program : List Byte}
    {loaded : Machine} (load : (d.afterUses uses).machine.load program = .ok loaded) :
    (d.afterUses (uses ++ [.load program])).machine = loaded := by
  rw [afterUses, List.foldl_append]
  exact machine_carryOut_load _ load

end Device

namespace Machine

/-- The listing of a program does not depend on the machine that it was loaded into. -/
theorem listing_of_load {m m' loaded loaded' : Machine} {program : List Byte}
    (load : m.load program = .ok loaded) (load' : m'.load program = .ok loaded') :
    loaded.listing = loaded'.listing := by
  have length := length_listing_of_load load
  have length' := length_listing_of_load load'
  apply List.ext_getElem?
  intro k
  by_cases inside : k < (program.length + 1) / 2
  · rw [getElem?_listing_of_load load inside, getElem?_listing_of_load load' inside]
  · rw [List.getElem?_eq_none (by omega), List.getElem?_eq_none (by omega)]

/-- A program is refused if and only if it is too long, and then the machine is as it was. Otherwise
memory holds the program and zeros behind it, below it is as it was, and of the rest only the size
of the program changes. After any uses of a device, refused programs among them, a program that fits
is found as on a fresh machine, whatever its font. -/
theorem loading_starts_over (m : Machine) (program : List Byte) :
    let inPlace := (loadInPlace program).run m
    (∀ e, m.load program = .error e ↔ maxProgramSize < program.length ∧ e = ⟨program.length⟩) ∧
      (maxProgramSize < program.length → inPlace = .error ⟨program.length⟩ m) ∧
      (program.length ≤ maxProgramSize → ∃ loaded,
        m.load program = .ok loaded ∧ inPlace = .ok () loaded ∧
        loaded.memory.readBlock programStart maxProgramSize =
          program ++ List.replicate (maxProgramSize - program.length) 0 ∧
        (∀ a < programStart, loaded.memory.read a = m.memory.read a) ∧
        loaded = { m with memory := loaded.memory, programSize := program.length } ∧
        ∀ font, ∃ alone, (ofFont font).load program = .ok alone ∧
          ∀ (d : Device) (uses : List Use),
            let now := (d.afterUses (uses ++ [.load program])).machine
            now.memory.readBlock programStart maxProgramSize =
                alone.memory.readBlock programStart maxProgramSize ∧
              now.programSize = alone.programSize ∧ now.listing = alone.listing) := by
  intro inPlace
  refine ⟨fun e => load_eq_error_iff, ?_, ?_⟩
  · intro large
    simp only [inPlace, run_loadInPlace, load_eq_error_iff.2 ⟨large, rfl⟩]
  · intro fits
    have loads (m : Machine) := (load_eq_ok_iff (m := m)).2 ⟨fits, rfl⟩
    have block := m.memory.readBlock_withProgram fits
    refine ⟨_, loads m, ?_, block, ?_, rfl, ?_⟩
    · simp only [inPlace, run_loadInPlace, loads m]
    · intro a low
      rw [Memory.read_withProgram _ _ _ (Nat.lt_trans low (by decide)), if_pos low]
    · intro font
      refine ⟨_, loads (ofFont font), ?_⟩
      intro d uses now
      -- The uses before leave some machine, and what it is does not matter.
      have again := loads (d.afterUses uses).machine
      have last : now = _ := Device.machine_afterUses_load d uses again
      rw [last]
      refine ⟨?_, rfl, listing_of_load again (loads (ofFont font))⟩
      rw [Memory.readBlock_withProgram _ fits, Memory.readBlock_withProgram _ fits]

/-- A program that writes over itself, then one that is refused, then two bytes. -/
theorem loading_starts_over_of_overwritten :
    let d : Device := ⟨ofFont .standard, .blank⟩
    let uses : List Use := [.load [0xA2, 0x02, 0xF0, 0x55], .cycle 0, .cycle 0,
      .load (List.replicate 3585 0xAB)]
    let now := (d.afterUses (uses ++ [.load [0x22, 0x22]])).machine
    (loadInPlace (List.replicate 3585 0xAB)).run now = .error ⟨3585⟩ now ∧
      now.memory.readBlock programStart maxProgramSize =
        [0x22, 0x22] ++ List.replicate 3582 0 ∧
      now.programSize = 2 ∧ now.listing = [⟨0x2222, 0x200⟩] := by
  intro d uses now
  have large : maxProgramSize < (List.replicate 3585 (0xAB : Byte)).length := by
    rw [List.length_replicate]
    decide
  obtain ⟨-, refused, -⟩ := loading_starts_over now (List.replicate 3585 0xAB)
  obtain ⟨-, -, fits⟩ := loading_starts_over (ofFont .standard) [0x22, 0x22]
  obtain ⟨loaded, load, -, block, -, kept, others⟩ := fits (by decide)
  obtain ⟨alone, load', after⟩ := others .standard
  obtain rfl : alone = loaded := Except.ok.inj (load'.symm.trans load)
  obtain ⟨memory, size, listing⟩ := after d uses
  have one : alone.listing = [⟨0x2222, 0x200⟩] := by
    apply List.ext_getElem?
    intro k
    match k with
    | 0 => exact getElem?_listing_of_load load (by decide)
    | k + 1 =>
      have length := length_listing_of_load load
      rw [List.getElem?_eq_none (by rw [length]; simp)]
      rfl
  refine ⟨?_, memory.trans block, size.trans ?_, listing.trans one⟩
  · have left := refused large
    rwa [List.length_replicate] at left
  · rw [kept]
    rfl

end Machine

end Chip8
