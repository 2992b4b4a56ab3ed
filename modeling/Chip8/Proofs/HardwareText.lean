import Chip8.Panels
import Chip8.Proofs.HexText

/-!
# What the hardware panel tells

Each line of the hardware panel shows one register, and its text tells the value of the register
from any other: a number too large for its field gets more digits and is not cut (`labelled_inj`),
and the marker of the next free stack slot is not taken for a part of the value before it
(`stackLine_inj`). The depth of the stack has no line of its own. It is the number of the slot with
the marker, and a full stack shows none (`exists_marked_iff`). So machines are shown alike if and
only if they agree on all that is shown (`lines_eq_iff_shown_eq`).
-/

namespace Chip8.HardwarePanel

/-! ## Lines -/

theorem labelled_inj {n : Nat} (label : String) {width : Nat} {a b : BitVec n} :
    label ++ hexMarked width a.toNat = label ++ hexMarked width b.toNat ↔ a = b := by
  rw [String.append_right_inj, hexMarked_inj, BitVec.toNat_inj]

variable {m m' : Machine}

theorem registerLine_inj {r : Reg} :
    registerLine m r = registerLine m' r ↔ m.reg r = m'.reg r :=
  labelled_inj (r.text ++ " = ")

/-- Digits end where a marker may begin. -/
theorem takeWhile_marked (n : Nat) (here : Prop) [Decidable here] :
    (hexMarked 3 n ++ if here then marker else "").toList.takeWhile (·.isAlphanum) =
      (hexMarked 3 n).toList := by
  have marks : (if here then marker else "").toList.takeWhile (·.isAlphanum) = [] := by
    split <;> rfl
  rw [String.toList_append,
    List.takeWhile_append_of_pos fun _ mem => isAlphanum_of_mem_hexMarked mem, marks,
    List.append_nil]

theorem marked_inj {n n' : Nat} {here there : Prop} [Decidable here] [Decidable there] :
    (hexMarked 3 n ++ if here then marker else "") =
      (hexMarked 3 n' ++ if there then marker else "") ↔ n = n' ∧ (here ↔ there) := by
  constructor
  · intro same
    have digits : (hexMarked 3 n).toList = (hexMarked 3 n').toList := by
      rw [← takeWhile_marked n here, same, takeWhile_marked]
    have value : n = n' := hexMarked_inj.1 (String.toList_inj.1 digits)
    refine ⟨value, ?_⟩
    rw [value, String.append_right_inj] at same
    by_cases h : here <;> by_cases h' : there <;> simp_all [marker]
  · rintro ⟨rfl, same⟩
    simp only [same]

theorem stackLine_eq (m : Machine) (slot : Fin 16) :
    stackLine m slot = "S" ++ hexUpper slot.val ++ " = " ++
      (hexMarked 3 (m.stack.get slot).toNat ++ if m.depth = slot.val then marker else "") :=
  String.append_assoc

theorem stackLine_inj {slot : Fin 16} : stackLine m slot = stackLine m' slot ↔
    m.stack.get slot = m'.stack.get slot ∧ (m.depth = slot.val ↔ m'.depth = slot.val) := by
  rw [stackLine_eq, stackLine_eq, String.append_right_inj, marked_inj, BitVec.toNat_inj]

/-- A key is never shown as no key. -/
theorem hexUpper_ne_dash (n : Nat) : hexUpper n ≠ "-" := by
  intro dash
  have mem : '-' ∈ (hexUpper n).toList := by rw [dash]; decide
  exact absurd (isAlphanum_of_mem_hexUpper mem) (by decide)

theorem keyLine_inj {key key' : Option Byte} : keyLine key = keyLine key' ↔ key = key' := by
  unfold keyLine
  rw [String.append_right_inj]
  cases key with
  | none =>
    cases key' with
    | none => simp only
    | some k' => exact ⟨fun same => absurd same.symm (hexUpper_ne_dash _), nofun⟩
  | some k =>
    cases key' with
    | none => exact ⟨fun same => absurd same (hexUpper_ne_dash _), nofun⟩
    | some k' => rw [hexUpper_inj, BitVec.toNat_inj, Option.some.injEq]

/-! ## Places -/

section

variable (m)

theorem getElem?_register (r : Reg) : (lines m)[r.val]? = some (registerLine m r) := by
  have inside : r.val < ((List.finRange 16).map (registerLine m)).length := by simp
  unfold lines
  rw [List.append_assoc, List.append_assoc, List.getElem?_append_left inside]
  simp

theorem getElem?_pc : (lines m)[17]? = some ("PC = " ++ hexMarked 3 m.pc.toNat) := rfl

theorem getElem?_index : (lines m)[18]? = some ("I  = " ++ hexMarked 3 m.index.toNat) := rfl

theorem getElem?_stack (slot : Fin 16) :
    (lines m)[20 + slot.val]? = some (stackLine m slot) := by
  have before : ((List.finRange 16).map (registerLine m) ++
      ["", "PC = " ++ hexMarked 3 m.pc.toNat, "I  = " ++ hexMarked 3 m.index.toNat, ""]).length =
        20 := rfl
  have inside : slot.val < ((List.finRange 16).map (stackLine m)).length := by simp
  unfold lines
  rw [List.append_assoc, ← before, List.getElem?_append_right (Nat.le_add_right _ _),
    Nat.add_sub_cancel_left, List.getElem?_append_left inside]
  simp

theorem getElem?_delay : (lines m)[37]? = some ("DT = " ++ hexMarked 2 m.delay.toNat) := rfl

theorem getElem?_sound : (lines m)[38]? = some ("ST = " ++ hexMarked 2 m.sound.toNat) := rfl

theorem getElem?_key : (lines m)[39]? = some (keyLine m.key) := rfl

end

/-! ## The marker -/

theorem arrow_notMem_labelled {label : String} (plain : '<' ∉ label.toList) (width n : Nat) :
    '<' ∉ (label ++ hexMarked width n).toList := by
  rw [String.toList_append, List.mem_append, not_or]
  exact ⟨plain, fun digit => absurd (isAlphanum_of_mem_hexMarked digit) (by decide)⟩

theorem arrow_notMem_keyLine (key : Option Byte) : '<' ∉ (keyLine key).toList := by
  unfold keyLine
  rw [String.toList_append, List.mem_append, not_or]
  refine ⟨by decide, ?_⟩
  cases key with
  | none => decide
  | some k => exact fun digit => absurd (isAlphanum_of_mem_hexUpper digit) (by decide)

theorem marker_suffix_stackLine_iff {slot : Fin 16} :
    marker.toList <:+ (stackLine m slot).toList ↔ m.depth = slot.val := by
  rw [stackLine_eq]
  constructor
  · intro marked
    refine Decidable.byContradiction fun elsewhere => ?_
    have label : ∀ slot : Fin 16, '<' ∉ ("S" ++ hexUpper slot.val ++ " = ").toList := by decide
    rw [if_neg elsewhere, String.append_empty] at marked
    exact arrow_notMem_labelled (label slot) _ _ (marked.subset (by decide))
  · intro here
    rw [if_pos here, ← String.append_assoc, String.toList_append]
    exact List.suffix_append _ _

/-- Some line carries the marker if and only if there is a free slot. -/
theorem exists_marked_iff :
    (∃ line ∈ lines m, marker.toList <:+ line.toList) ↔ m.depth < 16 := by
  constructor
  · rintro ⟨line, mem, marked⟩
    have arrow : '<' ∈ line.toList := marked.subset (by decide)
    simp only [lines, List.mem_append, List.mem_map, List.mem_cons, List.not_mem_nil,
      or_false] at mem
    obtain ((⟨r, -, rfl⟩ | rfl | rfl | rfl | rfl) | ⟨slot, -, rfl⟩) | rfl | rfl | rfl | rfl := mem
    · have label : ∀ r : Reg, '<' ∉ (r.text ++ " = ").toList := by decide
      exact absurd arrow (arrow_notMem_labelled (label r) _ _)
    · cases arrow
    · exact absurd arrow (arrow_notMem_labelled (by decide) _ _)
    · exact absurd arrow (arrow_notMem_labelled (by decide) _ _)
    · cases arrow
    · rw [marker_suffix_stackLine_iff.1 marked]
      exact slot.isLt
    · cases arrow
    · exact absurd arrow (arrow_notMem_labelled (by decide) _ _)
    · exact absurd arrow (arrow_notMem_labelled (by decide) _ _)
    · exact absurd arrow (arrow_notMem_keyLine m.key)
  · intro free
    exact ⟨_, List.mem_of_getElem? (getElem?_stack m ⟨m.depth, free⟩),
      marker_suffix_stackLine_iff.2 rfl⟩

/-! ## The panel -/

/-- Stacks that are marked alike are equally deep. -/
theorem depth_eq_of_marked (bounded : m.depth ≤ 16) (bounded' : m'.depth ≤ 16)
    (marked : ∀ slot : Fin 16, m.depth = slot.val ↔ m'.depth = slot.val) : m.depth = m'.depth := by
  by_cases free : m.depth < 16
  · exact ((marked ⟨m.depth, free⟩).1 rfl).symm
  · by_cases free' : m'.depth < 16
    · exact (marked ⟨m'.depth, free'⟩).2 rfl
    · omega

/-- The panel of a machine tells its registers, its program counter, all slots of its stack and how
many of them are in use, its timers and its key, and nothing else. The program counter and each slot
can be told from their own lines, whatever their values are, and a full stack from the absence of a
marker. -/
theorem lines_eq_iff_shown_eq (bounded : m.depth ≤ 16) (bounded' : m'.depth ≤ 16) :
    (lines m = lines m' ↔
      m.v = m'.v ∧ m.pc = m'.pc ∧ m.index = m'.index ∧ m.stack = m'.stack ∧
        m.depth = m'.depth ∧ m.delay = m'.delay ∧ m.sound = m'.sound ∧ m.key = m'.key) ∧
      ((lines m)[17]? = (lines m')[17]? ↔ m.pc = m'.pc) ∧
      (∀ slot : Fin 16, (lines m)[20 + slot.val]? = (lines m')[20 + slot.val]? ↔
        m.stack.get slot = m'.stack.get slot ∧ (m.depth = slot.val ↔ m'.depth = slot.val)) ∧
      ((∃ line ∈ lines m, marker.toList <:+ line.toList) ↔ m.depth ≠ 16) := by
  have pc : (lines m)[17]? = (lines m')[17]? ↔ m.pc = m'.pc := by
    rw [getElem?_pc, getElem?_pc, Option.some.injEq, labelled_inj]
  have slots (slot : Fin 16) : (lines m)[20 + slot.val]? = (lines m')[20 + slot.val]? ↔
      m.stack.get slot = m'.stack.get slot ∧ (m.depth = slot.val ↔ m'.depth = slot.val) := by
    rw [getElem?_stack, getElem?_stack, Option.some.injEq, stackLine_inj]
  refine ⟨⟨?_, ?_⟩, pc, slots, ?_⟩
  · intro same
    have place (k : Nat) : (lines m)[k]? = (lines m')[k]? := by rw [same]
    have registers (r : Reg) : m.reg r = m'.reg r := by
      have line := place r.val
      rwa [getElem?_register, getElem?_register, Option.some.injEq, registerLine_inj] at line
    have index := place 18
    have delay := place 37
    have sound := place 38
    have key := place 39
    rw [getElem?_index, getElem?_index, Option.some.injEq, labelled_inj] at index
    rw [getElem?_delay, getElem?_delay, Option.some.injEq, labelled_inj] at delay
    rw [getElem?_sound, getElem?_sound, Option.some.injEq, labelled_inj] at sound
    rw [getElem?_key, getElem?_key, Option.some.injEq, keyLine_inj] at key
    have stack (slot : Fin 16) := (slots slot).1 (place _)
    exact ⟨Vector.ext fun i inside => registers ⟨i, inside⟩, pc.1 (place 17), index,
      Vector.ext fun i inside => (stack ⟨i, inside⟩).1,
      depth_eq_of_marked bounded bounded' fun slot => (stack slot).2, delay, sound, key⟩
  · obtain ⟨memory, v, index, pc, stack, depth, delay, sound, key, size⟩ := m
    obtain ⟨memory', v', index', pc', stack', depth', delay', sound', key', size'⟩ := m'
    rintro ⟨rfl, rfl, rfl, rfl, rfl, rfl, rfl, rfl⟩
    rfl
  · rw [exists_marked_iff]
    omega

/-- A full stack, and a program counter above all of memory. -/
theorem lines_eq_iff_shown_eq_of_full :
    let m := { Machine.ofFont .standard with pc := 0x1200, depth := 16 }
    let m' := { Machine.ofFont .standard with pc := 0x0200, depth := 15 }
    lines m ≠ lines m' ∧ (lines m)[17]? ≠ (lines m')[17]? ∧
      ¬ ∃ line ∈ lines m, marker.toList <:+ line.toList := by
  intro m m'
  have bounded : m.depth ≤ 16 := by decide
  have bounded' : m'.depth ≤ 16 := by decide
  obtain ⟨all, pc, -, marked⟩ := lines_eq_iff_shown_eq bounded bounded'
  have other : m.pc ≠ m'.pc := by decide
  exact ⟨fun same => other (all.1 same).2.1, fun same => other (pc.1 same),
    fun some_ => marked.1 some_ rfl⟩

end Chip8.HardwarePanel
