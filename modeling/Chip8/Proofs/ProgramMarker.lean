import Chip8.Proofs.MachineRuns
import Chip8.Proofs.ProgramPages

/-!
# The marker and the instruction that runs

`fetch` finds the word at the program counter modulo the size of memory. The program panel looks for
the program counter itself among the addresses of the listing, which are all inside memory. So the
panel marks the instruction that is about to run for as long as the program counter is inside memory
(`ProgramPanel.current_marked_iff`). Nothing keeps it there: words that only move it on lead past
the top (`Device.after_of_zeros`), and from there back into a program that runs and is not marked
(`ProgramPanel.unmarked_past_top`).
-/

namespace Chip8

namespace Device

theorem cycle_of_jump {d : Device} {addr : Address} (random : Byte)
    (jump : Operation.ofWord? (d.machine.memory.word d.machine.pc.toNat) = some (.jump addr)) :
    let next := (d.cycle random).machine
    next.pc = addr.setWidth 16 ∧ next.memory = d.machine.memory := by
  have decodes : d.machine.fetch.operation? = some (.jump addr) := jump
  simp only [cycle, obey, Machine.step, decodes]
  exact ⟨rfl, rfl⟩

theorem cycle_of_zero {d : Device} (random : Byte)
    (zero : d.machine.memory.word d.machine.pc.toNat = 0) :
    let next := (d.cycle random).machine
    next.pc = d.machine.pc + 2 ∧ next.memory = d.machine.memory := by
  have decodes : d.machine.fetch.operation? = some (.sys 0) :=
    (congrArg Operation.ofWord? zero).trans (by decide)
  simp only [cycle, obey, Machine.step, decodes]
  exact ⟨rfl, rfl⟩

/-- Zeros are system calls, which do nothing: the program counter goes through them word by word,
past the top of memory too. -/
theorem after_of_zeros {d : Device} {randoms : List Byte}
    (zeros : ∀ k < randoms.length,
      d.machine.memory.word (d.machine.pc.toNat + 2 * k) = 0) :
    let now := (d.after cycle randoms).machine
    now.pc = d.machine.pc + BitVec.ofNat 16 (2 * randoms.length) ∧
      now.memory = d.machine.memory := by
  induction randoms generalizing d with
  | nil => exact ⟨(BitVec.add_zero _).symm, rfl⟩
  | cons random rest ih =>
    obtain ⟨pc, memory⟩ := cycle_of_zero random (zeros 0 (Nat.succ_pos _))
    have behind : ∀ k < rest.length, (d.cycle random).machine.memory.word
        ((d.cycle random).machine.pc.toNat + 2 * k) = 0 := by
      intro k lt
      rw [memory, pc, ← zeros (k + 1) (Nat.succ_lt_succ lt)]
      apply Memory.word_congr
      rw [BitVec.toNat_add, show (2 : Word).toNat = 2 from rfl]
      omega
    obtain ⟨pc', memory'⟩ := ih (d := (d.cycle random).device) behind
    refine ⟨?_, memory'.trans memory⟩
    calc ((d.cycle random).device.after cycle rest).machine.pc
      _ = d.machine.pc + 2 + BitVec.ofNat 16 (2 * rest.length) := pc'.trans (by rw [← pc]; rfl)
      _ = d.machine.pc + BitVec.ofNat 16 (2 * (random :: rest).length) := by
        rw [BitVec.add_assoc, List.length_cons, Nat.mul_succ, Nat.add_comm, BitVec.ofNat_add]
        rfl

theorem after_of_jump_of_zeros {d : Device} {addr : Address} (random : Byte) {randoms : List Byte}
    (jump : Operation.ofWord? (d.machine.memory.word d.machine.pc.toNat) = some (.jump addr))
    (zeros : ∀ k < randoms.length, d.machine.memory.word (addr.toNat + 2 * k) = 0) :
    let now := (d.after cycle (random :: randoms)).machine
    now.pc = addr.setWidth 16 + BitVec.ofNat 16 (2 * randoms.length) ∧
      now.memory = d.machine.memory := by
  obtain ⟨pc, memory⟩ := cycle_of_jump random jump
  have target : (d.cycle random).machine.pc.toNat = addr.toNat := by
    rw [pc]
    exact BitVec.toNat_setWidth_of_le (by decide)
  have ahead : ∀ k < randoms.length, (d.cycle random).machine.memory.word
      ((d.cycle random).machine.pc.toNat + 2 * k) = 0 := by
    rw [memory, target]
    exact zeros
  obtain ⟨pc', memory'⟩ := after_of_zeros (d := (d.cycle random).device) ahead
  exact ⟨pc'.trans (congrArg (· + _) pc), memory'.trans memory⟩

end Device

namespace ProgramPanel

/-- However far a loaded program has run, if the word that is fetched is read where an entry of the
listing is, then the line of the entry is shown with the marker if and only if the program counter
is inside memory. With the program counter past the top, no line is marked. -/
theorem current_marked_iff (font : Font) {program : List Byte} {loaded : Machine}
    (load : (Machine.ofFont font).load program = .ok loaded) (screen : Bitmap)
    (randoms : List Byte) :
    let now := ((Device.mk loaded screen).after Device.cycle randoms).machine
    let shown := lines now.pc loaded.listing
    ∀ entry ∈ loaded.listing, now.pc.toNat % 4096 = entry.address.toNat →
      now.fetch.word = now.memory.word entry.address.toNat ∧
        (line entry.address entry ∈ shown ↔ now.pc.toNat < 4096) ∧
        (4096 ≤ now.pc.toNat → ∀ text ∈ shown, ¬ marker.toList <:+: text.toList) := by
  intro now shown entry mem here
  have fits : loaded.programSize ≤ maxProgramSize := by
    obtain ⟨fits, rfl⟩ := Machine.load_eq_ok_iff.1 load
    exact fits
  have inside : ∀ text ∈ shown, marker.toList <:+: text.toList → now.pc.toNat < 4096 := by
    intro text shows marked
    obtain ⟨k, at_⟩ := List.mem_iff_getElem?.1 shows
    obtain ⟨i, -, listed, rfl⟩ := exists_of_getElem?_lines at_
    rw [← marker_infix_line_iff.1 marked]
    exact (Machine.word_of_mem_listing (List.mem_of_getElem? listed)).2
  refine ⟨?_, ⟨?_, ?_⟩, ?_⟩
  · apply Memory.word_congr
    rw [here, ← here, Nat.mod_mod]
  · intro shows
    exact inside _ shows (marker_suffix_line rfl).isInfix
  · intro low
    have same : now.pc = entry.address := by
      rw [← BitVec.toNat_inj, ← here, Nat.mod_eq_of_lt low]
    obtain ⟨j, listed⟩ := List.mem_iff_getElem?.1 mem
    have address := Machine.toNat_address_of_getElem?_listing fits listed
    rw [← same] at address ⊢
    exact List.mem_of_getElem? (getElem?_lines_of_entry address listed)
  · intro past text shows marked
    exact absurd (inside text shows marked) (Nat.not_lt.2 past)

/-- After a word that does nothing, the one behind it is marked. -/
theorem current_marked_iff_of_zero :
    ∃ loaded, (Machine.ofFont .standard).load [0, 0, 0, 0] = .ok loaded ∧
      let now := ((Device.mk loaded .blank).after Device.cycle [0]).machine
      ∃ entry ∈ loaded.listing, entry.address = 0x202 ∧ now.pc = 0x202 ∧
        line entry.address entry ∈ lines now.pc loaded.listing := by
  obtain ⟨loaded, load, stored, size, start⟩ :=
    Machine.exists_load_ofFont .standard [0, 0, 0, 0] (by decide)
  let entry : Instruction := ⟨loaded.memory.word 0x202, 0x202⟩
  have mem : entry ∈ loaded.listing := by
    have second : loaded.listing[1]? = some entry := by
      rw [Machine.getElem?_listing (by rw [size]; decide) (by rw [size]; decide)]
      rfl
    exact List.mem_of_getElem? second
  have zero : loaded.memory.word loaded.pc.toNat = 0 := by
    rw [stored, start]
    exact Memory.word_withProgram (k := 0) (.ofFont .standard) [0, 0, 0, 0] (by decide)
  have pc : ((Device.mk loaded .blank).after Device.cycle [0]).machine.pc = 0x202 := by
    have moved := (Device.cycle_of_zero (d := ⟨loaded, .blank⟩) 0 zero).1
    exact moved.trans (congrArg (· + 2) start)
  obtain ⟨-, marked, -⟩ := current_marked_iff .standard load .blank [0] entry mem
    (by rw [pc]; rfl)
  exact ⟨loaded, load, entry, mem, rfl, pc, marked.2 (by rw [pc]; decide)⟩

/-- With a blank font, all of memory outside the program is zero. -/
theorem read_eq_zero_of_outside {program : List Byte} {a : Nat}
    (outside : a % 4096 < programStart ∨ programStart + program.length ≤ a % 4096) :
    ((Memory.ofFont ⟨.replicate 80 0⟩).withProgram program).read a = 0 := by
  have inside : a % 4096 < 4096 := Nat.mod_lt _ (by decide)
  rw [← Memory.read_mod, Memory.read_withProgram _ _ _ inside]
  split
  · rw [Memory.read_ofFont _ _ inside]
    by_cases glyph : a % 4096 < 80 <;> simp [glyph]
  · rw [List.getElem?_eq_none (by omega), Option.getD_none]

/-- A program that jumps to the last word of memory runs on through the zeros at the bottom and into
itself again. Its one word is fetched once more, and the panel shows nothing. -/
theorem unmarked_past_top :
    let font : Font := ⟨.replicate 80 0⟩
    let entry : Instruction := ⟨0x1FFE, 0x200⟩
    ∃ loaded, (Machine.ofFont font).load [0x1F, 0xFE] = .ok loaded ∧
      let now := ((Device.mk loaded .blank).after Device.cycle (List.replicate 258 0)).machine
      entry ∈ loaded.listing ∧ now.pc = 0x1200 ∧ now.pc.toNat % 4096 = entry.address.toNat ∧
        now.fetch.word = entry.word ∧ lines now.pc loaded.listing = [] := by
  intro font entry
  obtain ⟨loaded, load, stored, size, start⟩ :=
    Machine.exists_load_ofFont font [0x1F, 0xFE] (by decide)
  have word : loaded.memory.word programStart = entry.word := by
    rw [stored]
    exact Memory.word_withProgram (k := 0) (.ofFont font) [0x1F, 0xFE] (by decide)
  have listed : loaded.listing = [entry] := by
    have only : loaded.listing = [⟨loaded.memory.word programStart, 0x200⟩] := by
      simp [Machine.listing, Instruction.listing, size, programStart]
    rw [only, word]
  have jump : Operation.ofWord? (loaded.memory.word loaded.pc.toNat) = some (.jump 0xFFE) := by
    rw [start]
    exact (congrArg Operation.ofWord? word).trans (by decide)
  have zeros : ∀ k < (List.replicate 257 (0 : Byte)).length,
      loaded.memory.word ((0xFFE : Address).toNat + 2 * k) = 0 := by
    intro k lt
    rw [List.length_replicate] at lt
    rw [stored, Memory.word, show (0xFFE : Address).toNat = 0xFFE from rfl,
      read_eq_zero_of_outside (by simp only [programStart, List.length]; omega),
      read_eq_zero_of_outside (by simp only [programStart, List.length]; omega)]
    rfl
  obtain ⟨pc, memory⟩ := Device.after_of_jump_of_zeros (d := ⟨loaded, .blank⟩) 0 jump zeros
  rw [List.length_replicate] at pc
  refine ⟨loaded, load, ?_⟩
  intro now
  have past : now.pc = 0x1200 := pc
  have fetched : now.fetch.word = entry.word := by
    calc now.memory.word now.pc.toNat
      _ = loaded.memory.word now.pc.toNat := congrArg (Memory.word · _) memory
      _ = loaded.memory.word programStart := Memory.word_congr _ (by rw [past]; rfl)
      _ = entry.word := word
  refine ⟨by simp [listed], past, by rw [past]; rfl, fetched, ?_⟩
  rw [past, listed]
  rfl

end ProgramPanel

end Chip8
