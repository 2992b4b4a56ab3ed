import Chip8.Proofs.History

/-!
# Well-formed machines

The machine keeps more states than a run can reach: an index register past the top of memory, a
call stack deeper than its slots, a held key that is not on the keypad. `Machine.WellFormed` rules
these out. It holds of a freshly loaded machine, every operation keeps it (`WellFormed.execute`),
and so does every event (`WellFormed.handle`), a failing one included. What operations can endanger
is in `Machine.InBounds`: the key and the size of the program are none of their concern
(`execute_keeps`).
-/

namespace Chip8

namespace Machine

/-- The index points into memory, and no more slots of the stack are occupied than there are. -/
structure InBounds (m : Machine) : Prop where
  index_le : m.index.toNat ≤ 0xFFF
  depth_le : m.depth ≤ 16

structure WellFormed (m : Machine) : Prop where
  index_le : m.index.toNat ≤ 0xFFF
  depth_le : m.depth ≤ 16
  key_lt : ∀ key ∈ m.key, key.toNat < 16
  programSize_le : m.programSize ≤ maxProgramSize

/-! ## Updates as changes of fields -/

theorem skipIf_eq (m : Machine) (condition : Bool) :
    m.skipIf condition = { m with pc := if condition then m.pc + 2 else m.pc } := by
  cases condition <;> rfl

theorem push?_eq_some_iff {m m' : Machine} {address : Word} :
    m.push? address = some m' ↔ ∃ h : m.depth < 16,
      m' = { m with stack := m.stack.set m.depth address, depth := m.depth + 1 } := by
  unfold push?
  split
  · next h => simp [h, eq_comm]
  · next h => simp [h]

theorem pop?_eq_some_iff {m m' : Machine} {address : Word} :
    m.pop? = some (address, m') ↔ ∃ d, m.depth = d + 1 ∧
      address = m.stack[d]?.getD 0 ∧ m' = { m with depth := d } := by
  unfold pop?
  split
  · next h => simp [h]
  · next d h => simp [h, eq_comm]

/-- What an operation leaves alone: the key and the size of the program, and memory and the timers
unless it is one of the few that write them. -/
structure Keeps (op : Operation) (m m' : Machine) : Prop where
  key : m'.key = m.key
  programSize : m'.programSize = m.programSize
  memory : (∀ x, op ≠ .decimal x) → (∀ x, op ≠ .store x) → m'.memory = m.memory
  delay : (∀ x, op ≠ .setDelay x) → m'.delay = m.delay
  sound : (∀ x, op ≠ .setSound x) → m'.sound = m.sound

theorem Keeps.update (op : Operation) (m : Machine) (v : Vector Byte 16) (index pc : Word)
    (stack : Vector Word 16) (depth : Nat) : Keeps op m { m with v, index, pc, stack, depth } :=
  ⟨rfl, rfl, fun _ _ => rfl, fun _ => rfl, fun _ => rfl⟩

theorem execute_keeps (m : Machine) (screen : Bitmap) (random : Byte) (op : Operation) :
    Keeps op m (m.execute screen random op).machine := by
  cases op with
  | ret =>
    simp only [execute]
    split
    · next popped =>
      obtain ⟨d, -, -, rfl⟩ := pop?_eq_some_iff.1 popped
      exact .update ..
    · exact .update ..
  | call addr =>
    simp only [execute]
    split
    · next pushed =>
      obtain ⟨-, rfl⟩ := push?_eq_some_iff.1 pushed
      exact .update ..
    · exact .update ..
  | skipEqByte | skipNeByte | skipEqReg | skipNeReg | skipKey | skipNoKey =>
    simp only [execute, skipIf_eq]
    exact .update ..
  | decimal x => exact ⟨rfl, rfl, fun other _ => absurd rfl (other x), fun _ => rfl, fun _ => rfl⟩
  | store x => exact ⟨rfl, rfl, fun _ other => absurd rfl (other x), fun _ => rfl, fun _ => rfl⟩
  | setDelay x => exact ⟨rfl, rfl, fun _ _ => rfl, fun other => absurd rfl (other x), fun _ => rfl⟩
  | setSound x => exact ⟨rfl, rfl, fun _ _ => rfl, fun _ => rfl, fun other => absurd rfl (other x)⟩
  | _ => exact .update ..

/-! ## What keeps a machine in bounds -/

namespace InBounds

variable {m m' : Machine}

theorem congr (h : m.InBounds) (index : m'.index = m.index) (depth : m'.depth = m.depth) :
    m'.InBounds where
  index_le := index ▸ h.index_le
  depth_le := depth ▸ h.depth_le

theorem withIndex (h : m.InBounds) {index : Word} (le : index.toNat ≤ 0xFFF) :
    { m with index }.InBounds :=
  ⟨le, h.depth_le⟩

theorem skipIf (h : m.InBounds) (condition : Bool) : (m.skipIf condition).InBounds := by
  rw [skipIf_eq]
  exact h.congr rfl rfl

theorem push (h : m.InBounds) {address : Word} (pushed : m.push? address = some m') :
    m'.InBounds := by
  obtain ⟨room, rfl⟩ := push?_eq_some_iff.1 pushed
  exact ⟨h.index_le, room⟩

theorem pop (h : m.InBounds) {address : Word} (popped : m.pop? = some (address, m')) :
    m'.InBounds := by
  obtain ⟨d, depth, -, rfl⟩ := pop?_eq_some_iff.1 popped
  have bound := h.depth_le
  exact ⟨h.index_le, by dsimp only; omega⟩

/-- `Fx29` alone writes the index without a mask; five times a byte needs none. -/
theorem execute (h : m.InBounds) (screen : Bitmap) (random : Byte) (op : Operation) :
    (m.execute screen random op).machine.InBounds := by
  cases op with
  | ret =>
    simp only [Machine.execute]
    split
    · next popped => exact (h.pop popped).congr rfl rfl
    · exact h
  | call addr =>
    simp only [Machine.execute]
    split
    · next pushed => exact (h.push pushed).congr rfl rfl
    · exact h
  | setIndex addr =>
    apply h.withIndex
    have := addr.isLt
    rw [BitVec.toNat_setWidth]
    omega
  | addIndex x =>
    apply h.withIndex
    rw [BitVec.toNat_ofNat]
    omega
  | glyph x =>
    apply h.withIndex
    have byte : (m.reg x).toNat * Font.glyphSize ≤ 0xFFF := by
      have := (m.reg x).isLt
      simp only [Font.glyphSize]
      omega
    rw [BitVec.toNat_ofNat]
    exact Nat.le_trans (Nat.mod_le _ _) byte
  | skipEqByte | skipNeByte | skipEqReg | skipNeReg | skipKey | skipNoKey => exact h.skipIf _
  | _ =>
    simp only [Machine.execute]
    exact h.congr rfl rfl

theorem step (h : m.InBounds) (screen : Bitmap) (random : Byte) (i : Instruction) :
    (m.step screen random i).machine.InBounds := by
  have advanced : { m with pc := m.pc + 2 }.InBounds := h.congr rfl rfl
  unfold Machine.step
  split
  · exact (advanced.execute ..).congr rfl rfl
  · exact advanced.congr rfl rfl

theorem ofFont (font : Font) : (Machine.ofFont font).InBounds := ⟨Nat.zero_le _, Nat.zero_le _⟩

end InBounds

/-! ## What keeps a machine well formed -/

namespace WellFormed

variable {m m' : Machine}

theorem inBounds (h : m.WellFormed) : m.InBounds := ⟨h.index_le, h.depth_le⟩

theorem congr (h : m.WellFormed) (index : m'.index = m.index) (depth : m'.depth = m.depth)
    (key : m'.key = m.key) (programSize : m'.programSize = m.programSize) : m'.WellFormed where
  index_le := index ▸ h.index_le
  depth_le := depth ▸ h.depth_le
  key_lt := key ▸ h.key_lt
  programSize_le := programSize ▸ h.programSize_le

theorem withKey (h : m.WellFormed) {key : Option Byte} (lt : ∀ k ∈ key, k.toNat < 16) :
    { m with key }.WellFormed :=
  ⟨h.index_le, h.depth_le, lt, h.programSize_le⟩

theorem execute (h : m.WellFormed) (screen : Bitmap) (random : Byte) (op : Operation) :
    (m.execute screen random op).machine.WellFormed := by
  have bounds := h.inBounds.execute screen random op
  have kept := execute_keeps m screen random op
  exact ⟨bounds.index_le, bounds.depth_le, kept.key ▸ h.key_lt,
    kept.programSize ▸ h.programSize_le⟩

theorem step (h : m.WellFormed) (screen : Bitmap) (random : Byte) (i : Instruction) :
    (m.step screen random i).machine.WellFormed := by
  have advanced : { m with pc := m.pc + 2 }.WellFormed := h.congr rfl rfl rfl rfl
  unfold Machine.step
  split
  · exact (advanced.execute ..).congr rfl rfl rfl rfl
  · exact advanced.congr rfl rfl rfl rfl

theorem ofFont (font : Font) : (Machine.ofFont font).WellFormed where
  index_le := Nat.zero_le _
  depth_le := Nat.zero_le _
  key_lt := by intro key held; cases held
  programSize_le := Nat.zero_le _

theorem load (h : m.WellFormed) {program : List Byte} (loaded : m.load program = .ok m') :
    m'.WellFormed := by
  obtain ⟨fits, rfl⟩ := load_eq_ok_iff.1 loaded
  exact ⟨h.index_le, h.depth_le, h.key_lt, fits⟩

end WellFormed

end Machine

namespace Emulator

structure WellFormed (e : Emulator) : Prop where
  machine : e.machine.WellFormed
  register_lt : ∀ r, e.mode = .awaitingKey r → r.val < 16

namespace WellFormed

variable {e : Emulator}

/-- The awaited register is well formed by its type. -/
theorem of_machine (h : e.machine.WellFormed) : e.WellFormed := ⟨h, fun r _ => r.isLt⟩

theorem ofMachine {m : Machine} (h : m.WellFormed) (config : Config) (random : RandomSource) :
    (ofMachine m config random).WellFormed :=
  of_machine h

theorem cycle (h : e.WellFormed) : e.cycle.emulator.WellFormed := by
  apply of_machine
  rw [cycle_machine]
  exact h.machine.step ..

theorem press (h : e.WellFormed) {key : Byte} (keypad : onKeypad key) :
    (e.press key).emulator.WellFormed := by
  have pressed : { e.machine with key := some key }.WellFormed :=
    h.machine.withKey (by simpa [onKeypad] using keypad)
  unfold Emulator.press
  split
  · exact of_machine (pressed.congr rfl rfl rfl rfl)
  · exact of_machine pressed

theorem release (h : e.WellFormed) (key : Byte) : (e.release key).emulator.WellFormed := by
  unfold Emulator.release
  split
  · exact of_machine (h.machine.withKey (by simp))
  · exact h

theorem handle (h : e.WellFormed) (event : Event) : (e.handle event).emulator.WellFormed := by
  by_cases stopped : e.mode = .stopped
  · rwa [handle_of_stopped stopped]
  have reacts := handle_reacts stopped event
  generalize e.handle event = r at reacts ⊢
  cases reacts with
  | runs => exact h.cycle
  | press keypad => exact h.press keypad
  | release => exact h.release _
  | quit | frame => exact of_machine h.machine
  | rests | ignored => exact h

theorem after (h : e.WellFormed) (events : List Event) : (e.after events).WellFormed :=
  after_induction (P := WellFormed) (Q := fun _ => True) (fun _ event _ h => h.handle event)
    (fun _ _ => trivial) h

end WellFormed

end Emulator

end Chip8
