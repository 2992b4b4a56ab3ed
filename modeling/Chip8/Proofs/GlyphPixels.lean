import Chip8.Font.Source
import Chip8.Proofs.ProgramListing
import Chip8.Proofs.SpriteHits

/-!
# From a font table to pixels

The bytes of a font table come to the display by a long way: they are read line by line, put at the
bottom of memory, pointed at by `Fx29`, read back by `Dxyn` and drawn bit by bit. What is lit in the
end are the bits of the lines of the digit's sprite (`Machine.glyph_lit`), as long as nothing has
been written over the font (`Emulator.holdsFont_after`).
-/

namespace Chip8

namespace Font

/-- The bytes that are read are those of the data lines, in order. -/
theorem map_byteOfToken?_of_readBytes {room : Nat} {lines : List (Nat × List Char)}
    {bytes : List Byte} (read : readBytes room lines = .ok bytes) :
    lines.map (fun line => byteOfToken? line.2) = bytes.map some := by
  fun_induction readBytes room lines generalizing bytes with
  | case1 room =>
    obtain rfl := Except.ok.inj read
    rfl
  | case2 | case3 => cases read
  | case4 number token rest b room byte ih =>
    cases others : readBytes room rest with
    | error e => simp [others, Except.map] at read
    | ok bs =>
      rw [others] at read
      obtain rfl := Except.ok.inj read
      rw [List.map_cons, List.map_cons, byte, ih others]

theorem map_byteOfToken?_of_ofSource {source : String} {font : Font}
    (accepted : ofSource source = .ok font) :
    (dataLines source).map (fun line => byteOfToken? line.2) = font.glyphs.toList.map some := by
  unfold ofSource at accepted
  split at accepted
  · cases accepted
  next bytes read =>
    split at accepted
    · obtain rfl := Except.ok.inj accepted
      exact map_byteOfToken?_of_readBytes read
    · cases accepted

end Font

namespace Machine

/-- The bottom of memory still holds the font. -/
def HoldsFont (m : Machine) (font : Font) : Prop :=
  ∀ a, a < 80 → m.memory.read a = (ofFont font).memory.read a

variable {m : Machine} {font : Font}

/-- Loading a program leaves the font alone. -/
theorem HoldsFont.load (h : m.HoldsFont font) {program : List Byte} {loaded : Machine}
    (load : m.load program = .ok loaded) : loaded.HoldsFont font := by
  obtain ⟨-, rfl⟩ := load_eq_ok_iff.1 load
  intro a low
  have below : a < programStart := Nat.lt_trans low (by decide)
  rw [Memory.read_withProgram _ _ _ (Nat.lt_trans below (by decide)), if_pos below]
  exact h a low

/-- The sprite of a digit. -/
theorem HoldsFont.getElem?_readBlock (h : m.HoldsFont font) {digit r : Nat} (small : digit ≤ 15)
    (row : r < 5) : (m.memory.readBlock (5 * digit) 5)[r]? = font.glyphs[5 * digit + r]? := by
  have inside : 5 * digit + r < 80 := by omega
  have read : m.memory.read (5 * digit + r) = font.glyphs[5 * digit + r]?.getD 0 :=
    (h _ inside).trans (Memory.read_ofFont font _ (by omega))
  rw [Memory.getElem?_readBlock, if_pos row, read, Vector.getElem?_eq_getElem inside,
    Option.getD_some]

/-- `Fx29` changes the index and else nothing that a drawing looks at. -/
theorem step_glyph (m : Machine) (screen : Bitmap) (random : Byte) {i : Instruction} {x : Reg}
    (points : i.operation? = some (.glyph x)) :
    let effect := m.step screen random i
    effect.result = .ok .continued ∧ effect.screen = screen ∧
      effect.machine.memory = m.memory ∧ effect.machine.v = m.v ∧
      effect.machine.index.toNat = 5 * (m.reg x).toNat := by
  have byte := (m.reg x).isLt
  simp only [step, points, execute, tickTimers, true_and, BitVec.toNat_ofNat, Font.glyphSize]
  change (m.reg x).toNat * 5 % 65536 = 5 * (m.reg x).toNat
  omega

/-- `Dxyn` draws what memory holds at the index and notes in `VF` whether it hit something. -/
theorem step_draw (m : Machine) (screen : Bitmap) (random : Byte) {i : Instruction} {a b : Reg}
    {n : Fin 16} (draws : i.operation? = some (.draw a b n)) :
    let effect := m.step screen random i
    let drawn := screen.draw (m.memory.readBlock m.index.toNat n.val) (m.reg a).toNat
      (m.reg b).toNat
    effect.result = .ok (.drew drawn.2) ∧ effect.screen = drawn.1 ∧
      effect.machine.reg .flag = if drawn.2 then 1 else 0 := by
  simp only [step, draws, execute, tickTimers]
  refine ⟨rfl, rfl, ?_⟩
  simp only [setFlag, setReg, reg, Fin.getElem_fin, Vector.getElem_set_self]
  rfl

end Machine

namespace Bitmap

/-- Drawn on a blank display, the pixels of a sprite are lit and no others. -/
theorem draw_blank {sprite : List Byte} (short : sprite.length ≤ 32) (x y : Nat) :
    (blank.draw sprite x y).2 = false ∧
      ∀ px py, px < 64 → py < 32 →
        ((blank.draw sprite x y).1.pixel px py = true ↔ ∃ c r, c < 8 ∧ r < sprite.length ∧
          px = (x + c) % 64 ∧ py = (y + r) % 32 ∧
            ∃ b, sprite[r]? = some b ∧ b.getLsbD (7 - c) = true) := by
  constructor
  · rw [Bool.eq_false_iff, Ne, hit_draw_of_short_iff _ short]
    simp
  · intro px py hx hy
    rw [pixel_draw_of_short blank short x y (px, py), pixel_blank, Bool.false_xor,
      decide_eq_true_iff, List.mem_map]
    have inside : wrap (px, py) = (px, py) := by
      simp [wrap, Nat.mod_eq_of_lt hx, Nat.mod_eq_of_lt hy]
    rw [inside]
    constructor
    · rintro ⟨p, mem, same⟩
      obtain ⟨r, c, ⟨b, row, set⟩, rfl⟩ := mem_spritePixels_iff.1 mem
      obtain ⟨rfl, rfl⟩ := Prod.mk.inj same
      have column : c < 8 := BitVec.lt_of_getMsbD set
      have bit : b.getLsbD (7 - c) = true := by
        simpa [BitVec.getMsbD_eq_getLsbD, column] using set
      exact ⟨c, r, column, (List.getElem?_eq_some_iff.1 row).1, rfl, rfl, b, row, bit⟩
    · rintro ⟨c, r, column, -, rfl, rfl, b, row, bit⟩
      have set : b.getMsbD c = true := by
        simpa [BitVec.getMsbD_eq_getLsbD, column] using bit
      exact ⟨(x + c, y + r), mem_spritePixels_iff.2 ⟨r, c, ⟨b, row, set⟩, rfl⟩, rfl⟩

end Bitmap

namespace Emulator

/-- As long as no instruction writes below it, the font stays. -/
theorem holdsFont_after {e : Emulator} {font : Font} (h : e.machine.HoldsFont font)
    {events : List Event} (spared : ∀ turn ∈ e.turns events, ∀ a ∈ turn.written, 80 ≤ a) :
    (e.after events).machine.HoldsFont font := by
  intro a low
  have inside : a % 4096 = a := Nat.mod_eq_of_lt (Nat.lt_trans low (by decide))
  rw [read_after, h a low]
  intro turn mem written
  rw [inside] at written
  exact Nat.not_lt.2 (spared turn mem a written) low

end Emulator

namespace Machine

/-- The bytes of a font are those that stand in the data lines of its table. They are in the memory
of a machine made with it, and stay there whatever is loaded and runs, as long as no instruction
writes below address 80. Wherever they are, `Fx29` and then `Dab5` light the bits of the five bytes
of the digit on a blank display, and no others; nothing is hit. It does not matter which registers
are named, `VF` among them. -/
theorem glyph_lit {source : String} {font : Font} (accepted : Font.ofSource source = .ok font) :
    (Font.dataLines source).map (fun line => Font.byteOfToken? line.2) =
        font.glyphs.toList.map some ∧
      (∀ (program : List Byte) (loaded : Machine) (config : Config) (random : RandomSource)
        (events : List Event), (ofFont font).load program = .ok loaded →
          let e := Emulator.ofMachine loaded config random
          (∀ turn ∈ e.turns events, ∀ cell ∈ turn.written, 80 ≤ cell) →
            (e.after events).machine.HoldsFont font) ∧
      ∀ m : Machine, m.HoldsFont font →
        ∀ (x a b : Reg) (point draw : Instruction) (random random' : Byte),
          point.operation? = some (.glyph x) → draw.operation? = some (.draw a b 5) →
          (m.reg x).toNat ≤ 15 →
          let pointed := m.step .blank random point
          let drawn := pointed.machine.step pointed.screen random' draw
          pointed.result = .ok .continued ∧ drawn.result = .ok (.drew false) ∧
            drawn.machine.reg .flag = 0 ∧
            ∀ px py, px < 64 → py < 32 →
              (drawn.screen.pixel px py = true ↔ ∃ c r, c < 8 ∧ r < 5 ∧
                px = ((m.reg a).toNat + c) % 64 ∧ py = ((m.reg b).toNat + r) % 32 ∧
                  ∃ g, font.glyphs[5 * (m.reg x).toNat + r]? = some g ∧
                    g.getLsbD (7 - c) = true) := by
  have fresh : (ofFont font).HoldsFont font := fun _ _ => rfl
  refine ⟨Font.map_byteOfToken?_of_ofSource accepted, ?_, ?_⟩
  · intro program loaded config random events load e spared
    exact Emulator.holdsFont_after (fresh.load load) spared
  intro m holds x a b point draw random random' points draws digit pointed drawn
  obtain ⟨result, screen, memory, v, index⟩ := m.step_glyph .blank random points
  obtain ⟨result', screen', flag⟩ := pointed.machine.step_draw pointed.screen random' draws
  have sameReg : ∀ r, pointed.machine.reg r = m.reg r := by
    intro r
    rw [reg, reg, v]
  have same : pointed.screen.draw
      (pointed.machine.memory.readBlock pointed.machine.index.toNat (5 : Fin 16).val)
      (pointed.machine.reg a).toNat (pointed.machine.reg b).toNat =
        Bitmap.blank.draw (m.memory.readBlock (5 * (m.reg x).toNat) 5) (m.reg a).toNat
          (m.reg b).toNat := by
    rw [screen, sameReg, sameReg, memory, index]
    rfl
  have height := Memory.length_readBlock m.memory (5 * (m.reg x).toNat) 5
  obtain ⟨missed, lit⟩ := Bitmap.draw_blank (Nat.le_trans (Nat.le_of_eq height) (by decide))
    (m.reg a).toNat (m.reg b).toNat
  rw [same] at result' screen' flag
  rw [missed] at result' flag
  refine ⟨result, result', flag, ?_⟩
  intro px py hx hy
  rw [screen', lit px py hx hy, height]
  refine exists_congr fun c => exists_congr fun r => and_congr_right fun _ =>
    and_congr_right fun row => ?_
  rw [holds.getElem?_readBlock digit row]

/-- Drawn around the lower right corner of the display, at coordinates that stand in `VF`. -/
theorem glyph_lit_of_corner :
    let source := String.ofList (List.replicate 80 "0x81 # both edges\n".toList).flatten
    let font : Font := ⟨.replicate 80 0x81⟩
    let m := { ofFont font with v := (Vector.replicate 16 60).set 3 0xA }
    let pointed := m.step .blank 0 ⟨0xF329, 0x200⟩
    let drawn := pointed.machine.step pointed.screen 0 ⟨0xDFF5, 0x202⟩
    Font.ofSource source = .ok font ∧ m.HoldsFont font ∧ drawn.result = .ok (.drew false) ∧
      drawn.machine.reg .flag = 0 ∧ drawn.screen.pixel 60 28 = true ∧
      drawn.screen.pixel 3 0 = true := by
  intro source font m pointed drawn
  have lines : Font.dataLines source =
      (List.range 80).map fun k => (k + 1, ['0', 'x', '8', '1']) := by
    rw [Font.dataLines, String.toList_ofList]
    decide +kernel
  have accepted : Font.ofSource source = .ok font := by
    have read : Font.readBytes 80 (Font.dataLines source) = .ok (List.replicate 80 0x81) := by
      rw [lines]
      rfl
    rw [Font.ofSource, read]
    rfl
  have holds : m.HoldsFont font := fun _ _ => rfl
  obtain ⟨-, result, flag, lit⟩ := (glyph_lit accepted).2.2 m holds 3 .flag .flag
    ⟨0xF329, 0x200⟩ ⟨0xDFF5, 0x202⟩ 0 0 (by decide) (by decide) (by decide)
  refine ⟨accepted, holds, result, flag, ?_, ?_⟩
  · exact (lit 60 28 (by decide) (by decide)).2
      ⟨0, 0, by decide, by decide, by decide, by decide, 0x81, by decide, by decide⟩
  · exact (lit 3 0 (by decide) (by decide)).2
      ⟨7, 4, by decide, by decide, by decide, by decide, 0x81, by decide, by decide⟩

end Machine

end Chip8
