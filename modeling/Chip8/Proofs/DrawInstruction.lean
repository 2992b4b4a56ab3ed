import Chip8.Proofs.Checked
import Chip8.Proofs.Decoding
import Chip8.Proofs.GlyphPixels
import Chip8.Proofs.SpriteBits

/-!
# The drawing instruction

`Dxyn` fetches a sprite from memory, which goes on at zero behind its top, and draws it at
coordinates from two registers, which wrap at the edges of the display; then it writes the flag,
over one of these registers if that is `VF`. Seen from a pixel, what decides is one bit of one byte
of memory (`Machine.covers`). `Machine.step_draw_covers` says what the instruction does in these
terms, and that no sum formed on the way leaves the words as long as the index lies within memory.
-/

namespace Chip8

theorem Operation.ofWord?_draw (x y : Reg) (n : Fin 16) :
    ofWord? (.ofNibbles 0xD x y n) = some (.draw x y n) := by
  obtain ⟨family, -, column, row⟩ := Word.fields_ofNibbles 0xD x y n
  exact ofWord?_of_standsFor ⟨family, column, row, (Word.nibble_ofNibbles ..).symm⟩

/-! ## From pixels to bits -/

/-- How far a pixel lies behind another on an edge of the given length that wraps. -/
def offset (size p q : Nat) : Nat := (((p : Int) - q) % size).toNat

theorem offset_eq_iff {size p q k : Nat} (inside : p < size) (small : k < size) :
    offset size p q = k ↔ (q + k) % size = p := by
  have nonneg : 0 ≤ ((p : Int) - q) % size := Int.emod_nonneg _ (by omega)
  constructor
  · rintro rfl
    apply Int.ofNat_inj.1
    rw [offset, Int.natCast_emod, Int.natCast_add, Int.toNat_of_nonneg nonneg, Int.add_comm,
      Int.emod_add_emod, Int.sub_add_cancel, ← Int.natCast_emod, Nat.mod_eq_of_lt inside]
  · rintro rfl
    rw [offset, Int.natCast_emod, Int.natCast_add, Int.emod_sub_emod, Int.add_comm,
      Int.add_sub_cancel, ← Int.natCast_emod, Int.toNat_natCast, Nat.mod_eq_of_lt small]

namespace Machine

variable {m : Machine}

/-- Whether the drawing instruction switches a pixel: whether a set bit of the `n` bytes of memory
at the index falls on it when the top left one is at the coordinates in `Vx` and `Vy`. -/
def covers (m : Machine) (x y : Reg) (n : Fin 16) (p : Fin 64 × Fin 32) : Bool :=
  let dx := offset 64 p.1 (m.reg x).toNat
  let dy := offset 32 p.2 (m.reg y).toNat
  dx < 8 && dy < n.val && (m.memory.read ((m.index.toNat + dy) % 4096)).getLsbD (7 - dx)

theorem mem_map_wrap_iff_covers (m : Machine) (x y : Reg) (n : Fin 16) (p : Fin 64 × Fin 32) :
    Bitmap.wrap (p.1, p.2) ∈ (Bitmap.spritePixels (m.memory.readBlock m.index.toNat n.val)
        (m.reg x).toNat (m.reg y).toNat).map Bitmap.wrap ↔
      m.covers x y n p = true := by
  simp only [covers, Bool.and_eq_true, decide_eq_true_eq, List.mem_map]
  constructor
  · rintro ⟨q, mem, same⟩
    obtain ⟨r, c, ⟨b, fetched, set⟩, rfl⟩ := Bitmap.mem_spritePixels_iff.1 mem
    rw [Memory.getElem?_readBlock, Option.ite_none_right_eq_some, Option.some_inj,
      ← Memory.read_mod] at fetched
    obtain ⟨below, rfl⟩ := fetched
    have column : c < 8 := BitVec.lt_of_getMsbD set
    obtain ⟨across, down⟩ := Bitmap.wrap_eq_iff.1 same
    have dx : offset 64 p.1 (m.reg x).toNat = c :=
      (offset_eq_iff p.1.isLt (by omega)).2 (across.trans (Nat.mod_eq_of_lt p.1.isLt))
    have dy : offset 32 p.2 (m.reg y).toNat = r :=
      (offset_eq_iff p.2.isLt (by omega)).2 (down.trans (Nat.mod_eq_of_lt p.2.isLt))
    rw [dx, dy]
    refine ⟨⟨column, below⟩, ?_⟩
    simpa [BitVec.getMsbD_eq_getLsbD, column] using set
  · rintro ⟨⟨column, below⟩, bit⟩
    generalize across : offset 64 p.1 (m.reg x).toNat = c at column bit
    generalize down : offset 32 p.2 (m.reg y).toNat = r at below bit
    have dx := (offset_eq_iff p.1.isLt (by omega)).1 across
    have dy := (offset_eq_iff p.2.isLt (by omega)).1 down
    refine ⟨((m.reg x).toNat + c, (m.reg y).toNat + r), ?_, ?_⟩
    · have fetched : (m.memory.readBlock m.index.toNat n.val)[r]? =
          some (m.memory.read ((m.index.toNat + r) % 4096)) := by
        rw [Memory.getElem?_readBlock, if_pos below, Memory.read_mod]
      refine Bitmap.mem_spritePixels_iff.2 ⟨r, c, ⟨_, fetched, ?_⟩, rfl⟩
      simpa [BitVec.getMsbD_eq_getLsbD, column] using bit
    · exact Bitmap.wrap_eq_iff.2 ⟨dx.trans (Nat.mod_eq_of_lt p.1.isLt).symm,
        dy.trans (Nat.mod_eq_of_lt p.2.isLt).symm⟩

/-! ## The instruction -/

variable {i : Instruction} {x y : Reg} {n : Fin 16}

theorem stepChecked_draw (inside : m.index.toNat ≤ 0xFFF) (screen : Bitmap) (random : Byte)
    (draws : i.operation? = some (.draw x y n)) :
    m.stepChecked screen random i = .ok (m.step screen random i) := by
  apply stepChecked_eq_of_execute
  intro op decoded
  rw [draws] at decoded
  cases decoded
  exact executeChecked_draw_eq (m := { m with pc := m.pc + 2 }) inside screen random x y n

/-- Besides `VF` the instruction changes no register, and nothing that is stored. -/
theorem step_draw_keeps (m : Machine) (screen : Bitmap) (random : Byte)
    (draws : i.operation? = some (.draw x y n)) :
    let after := (m.step screen random i).machine
    (after.memory = m.memory ∧ after.index = m.index ∧ after.stack = m.stack ∧
        after.depth = m.depth) ∧
      ∀ r : Reg, r ≠ .flag → after.reg r = m.reg r := by
  simp only [step, draws, execute]
  refine ⟨⟨rfl, rfl, rfl, rfl⟩, ?_⟩
  intro r other
  exact reg_setFlag_of_ne { m with pc := m.pc + 2 } _ other

/-- Drawing what memory holds at the index switches the pixels that are covered, and hits if one of
them was lit. -/
theorem draw_readBlock (m : Machine) (screen : Bitmap) (x y : Reg) (n : Fin 16) :
    let drawn := screen.draw (m.memory.readBlock m.index.toNat n.val) (m.reg x).toNat
      (m.reg y).toNat
    (∀ p : Fin 64 × Fin 32,
        drawn.1.pixel p.1 p.2 = (screen.pixel p.1 p.2 ^^ m.covers x y n p)) ∧
      (drawn.2 = true ↔ ∃ p : Fin 64 × Fin 32,
        m.covers x y n p = true ∧ screen.pixel p.1 p.2 = true) := by
  intro drawn
  have short : (m.memory.readBlock m.index.toNat n.val).length ≤ 32 := by
    rw [Memory.length_readBlock]
    omega
  constructor
  · intro p
    rw [Bitmap.pixel_draw_of_short screen short _ _ (p.1, p.2)]
    simp only [mem_map_wrap_iff_covers, Bool.decide_eq_true]
  · rw [Bitmap.hit_draw_of_short_iff_on_display screen short]
    simp only [mem_map_wrap_iff_covers]

/-- `Dxyn` switches the pixels that a set bit of its sprite falls on. `VF` and the outcome tell
whether one of them was lit; memory, the index, the stack and the other registers stay. While the
index lies within memory, nothing overflows. -/
theorem step_draw_covers (m : Machine) (inside : m.index.toNat ≤ 0xFFF) (screen : Bitmap)
    (random : Byte) (x y : Reg) (n : Fin 16) (address : Word) :
    let i : Instruction := ⟨.ofNibbles 0xD x y n, address⟩
    let effect := m.step screen random i
    m.stepChecked screen random i = .ok effect ∧
      (∀ p : Fin 64 × Fin 32,
        effect.screen.pixel p.1 p.2 = (screen.pixel p.1 p.2 ^^ m.covers x y n p)) ∧
      (∃ hit : Bool,
        (hit = true ↔ ∃ p : Fin 64 × Fin 32,
          m.covers x y n p = true ∧ screen.pixel p.1 p.2 = true) ∧
        effect.machine.reg .flag = (if hit then 1 else 0) ∧ effect.result = .ok (.drew hit)) ∧
      (effect.machine.memory = m.memory ∧ effect.machine.index = m.index ∧
        effect.machine.stack = m.stack ∧ effect.machine.depth = m.depth) ∧
      ∀ r : Reg, r ≠ .flag → effect.machine.reg r = m.reg r := by
  intro i effect
  have draws : i.operation? = some (.draw x y n) := Operation.ofWord?_draw x y n
  obtain ⟨result, shown, flag⟩ := m.step_draw screen random draws
  obtain ⟨switched, hit⟩ := m.draw_readBlock screen x y n
  refine ⟨stepChecked_draw inside screen random draws, ?_, ⟨_, hit, flag, result⟩,
    m.step_draw_keeps screen random draws⟩
  intro p
  rw [shown, switched]

/-- A sprite around the top of memory is drawn around the lower right corner, at coordinates in
`VF`; its second row takes back a lit pixel. -/
theorem step_draw_covers_of_corner :
    let m := { ofFont .standard with
      memory := (Memory.blank.write 0xFFF 0x80).write 0 0x40
      index := 0xFFF
      v := Vector.replicate 16 63 }
    let screen := Bitmap.blank.flip 0 0
    let i : Instruction := ⟨0xDFF2, 0x200⟩
    let effect := m.step screen 0 i
    m.index.toNat ≤ 0xFFF ∧ m.stepChecked screen 0 i = .ok effect ∧
      effect.screen.pixel 63 31 = true ∧ effect.screen.pixel 0 0 = false ∧
      effect.machine.reg .flag = 1 ∧ effect.result = .ok (.drew true) ∧
      effect.machine.reg 0 = 63 := by
  intro m screen i effect
  have inside : m.index.toNat ≤ 0xFFF := by decide
  have first : m.covers .flag .flag 2 (63, 31) = true := by
    rw [covers, Memory.read_write, Memory.read_write]
    decide
  have second : m.covers .flag .flag 2 (0, 0) = true := by
    rw [covers, Memory.read_write, Memory.read_write]
    decide
  obtain ⟨checked, switched, ⟨hit, hits, flag, result⟩, -, others⟩ :=
    step_draw_covers m inside screen 0 .flag .flag 2 0x200
  obtain rfl : hit = true := hits.2 ⟨(0, 0), second, by decide⟩
  refine ⟨inside, checked, ?_, ?_, flag, result, others 0 (by decide)⟩
  · exact (switched (63, 31)).trans (by rw [first]; decide)
  · exact (switched (0, 0)).trans (by rw [second]; decide)

end Machine

end Chip8
