import Chip8.Proofs.Pixels
import Chip8.Proofs.WellFormed

/-!
# Execution with checks

The machine adds without a bound and finds its cells modulo the size of memory, so no operation of
it breaks off. Here the same operations are given in arithmetic that can: a sum of words has to be a
word, an index has to lie within the memory, the registers, the stack or the display it is used on,
and a key that is held has to be on the keypad. What an operand names needs no check: a register
number is below sixteen by its type. Instructions and frames are counted without a bound.

On a well-formed emulator no check fails, and what is computed with checks is what is computed
without them (`Emulator.handleChecked_eq`). So no history of a loaded machine breaks off
(`Emulator.unchecked_of_loaded`).
-/

namespace Chip8

/-- Why a checked operation breaks off. -/
inductive Panic where
  | sumTooLarge
  | indexOutOfBounds
  | keyOffKeypad
  deriving DecidableEq, Repr

abbrev Checked := Except Panic

namespace Checked

def sum (a b : Nat) : Checked Word :=
  if a + b < 0x10000 then return BitVec.ofNat 16 (a + b) else throw .sumTooLarge

variable {α : Type} {n : Nat}

def get (xs : Vector α n) (i : Nat) : Checked α :=
  if h : i < n then return xs[i] else throw .indexOutOfBounds

def set (xs : Vector α n) (i : Nat) (a : α) : Checked (Vector α n) :=
  if h : i < n then return xs.set i a else throw .indexOutOfBounds

theorem sum_eq {a b : Nat} (h : a + b < 0x10000) : sum a b = .ok (BitVec.ofNat 16 (a + b)) :=
  if_pos h

theorem get_eq (xs : Vector α n) {i : Nat} (h : i < n) : get xs i = .ok xs[i] := dif_pos h

theorem set_eq (xs : Vector α n) {i : Nat} (h : i < n) (a : α) : set xs i a = .ok (xs.set i a) :=
  dif_pos h

end Checked

/-! ## Memory and display -/

namespace Memory

def readChecked (m : Memory) (a : Word) : Checked Byte := Checked.get m.bytes (a.toNat % 4096)

def writeChecked (m : Memory) (a : Word) (b : Byte) : Checked Memory := do
  return ⟨← Checked.set m.bytes (a.toNat % 4096) b⟩

def wordChecked (m : Memory) (a : Nat) : Checked Word := do
  let high ← Checked.get m.bytes (a % 4096)
  let low ← Checked.get m.bytes ((a % 4096 + 1) % 4096)
  return .ofBytes high low

theorem readChecked_eq (m : Memory) (a : Word) : m.readChecked a = .ok (m.read a.toNat) :=
  Checked.get_eq _ (Nat.mod_lt _ (by decide))

theorem writeChecked_eq (m : Memory) (a : Word) (b : Byte) :
    m.writeChecked a b = .ok (m.write a.toNat b) := by
  rw [writeChecked, Checked.set_eq _ (Nat.mod_lt _ (by decide))]
  rfl

theorem wordChecked_eq (m : Memory) (a : Nat) : m.wordChecked a = .ok (m.word a) := by
  have high : Checked.get m.bytes (a % 4096) = .ok (m.read a) :=
    Checked.get_eq _ (Nat.mod_lt _ (by decide))
  have low : Checked.get m.bytes ((a % 4096 + 1) % 4096) = .ok (m.read (a + 1)) := by
    rw [Nat.mod_add_mod]
    exact Checked.get_eq _ (Nat.mod_lt _ (by decide))
  rw [wordChecked, high, low]
  rfl

theorem writeBlock_append (m : Memory) (a : Nat) (bs cs : List Byte) :
    m.writeBlock a (bs ++ cs) = (m.writeBlock a bs).writeBlock (a + bs.length) cs := by
  induction bs generalizing m a with
  | nil => rfl
  | cons b bs ih =>
    rw [List.cons_append, writeBlock, ih, writeBlock, List.length_cons, Nat.add_assoc a 1,
      Nat.add_comm 1]

end Memory

/-- Flips the pixels of a sprite one by one, each found by its number in the whole display. -/
def Bitmap.drawChecked (s : Bitmap) (sprite : List Byte) (x y : Nat) : Checked (Bitmap × Bool) :=
  (spritePixels sprite x y).foldlM (fun drawn p =>
    if p.1 % 64 + p.2 % 32 * 64 < 2048 then return flipNoting drawn p
    else throw .indexOutOfBounds) (s, false)

theorem Bitmap.drawChecked_eq (s : Bitmap) (sprite : List Byte) (x y : Nat) :
    s.drawChecked sprite x y = .ok (s.draw sprite x y) := by
  have inside : ∀ p : Nat × Nat, p.1 % 64 + p.2 % 32 * 64 < 2048 := by omega
  simp only [drawChecked, inside, if_true]
  rw [List.foldlM_pure, foldl_flipNoting, Bool.false_or]
  rfl

/-! ## The machine -/

namespace Machine

def fetchChecked (m : Machine) : Checked Instruction := do
  return ⟨← m.memory.wordChecked m.pc.toNat, m.pc⟩

def pushChecked (m : Machine) (address : Word) : Checked (Option Machine) :=
  if m.depth = 16 then return none
  else do
    let stack ← Checked.set m.stack m.depth address
    return some { m with stack, depth := m.depth + 1 }

def popChecked (m : Machine) : Checked (Option (Word × Machine)) :=
  match m.depth with
  | 0 => return none
  | d + 1 => do
    let address ← Checked.get m.stack d
    return some (address, { m with depth := d })

/-- The three decimal digits of a value, written from `I` on. -/
def writeDigits (m : Machine) (value : Nat) : Checked Memory := do
  let memory ← m.memory.writeChecked m.index (BitVec.ofNat 8 (value / 100))
  let next ← Checked.sum m.index.toNat 1
  let memory ← memory.writeChecked next (BitVec.ofNat 8 (value / 10 % 10))
  let next ← Checked.sum m.index.toNat 2
  memory.writeChecked next (BitVec.ofNat 8 (value % 10))

/-- Memory with the first `count` registers written from `I` on. -/
def storeFirst (m : Machine) (count : Nat) : Checked Memory :=
  (List.range count).foldlM (fun memory offset => do
    let a ← Checked.sum m.index.toNat offset
    let b ← Checked.get m.v offset
    memory.writeChecked a b) m.memory

/-- Registers with the first `count` of them read from `I` on. -/
def loadFirst (m : Machine) (count : Nat) : Checked (Vector Byte 16) :=
  (List.range count).foldlM (fun v offset => do
    let a ← Checked.sum m.index.toNat offset
    let b ← m.memory.readChecked a
    Checked.set v offset b) m.v

/-- The `count` bytes from `I` on. -/
def spriteAt (m : Machine) (count : Nat) : Checked (List Byte) :=
  (List.range count).mapM fun row => do
    let a ← Checked.sum m.index.toNat row
    m.memory.readChecked a

/-- Runs an operation with checks. Operations that add no words and touch nothing but registers
named by an operand have nothing to check. -/
def executeChecked (m : Machine) (screen : Bitmap) (random : Byte) (op : Operation) :
    Checked Effect :=
  match op with
  | .ret => do
    match ← m.popChecked with
    | some (address, m) => return { machine := { m with pc := address }, screen }
    | none => return { machine := m, screen, result := .error (.underflow (m.pc - 2)) }
  | .call addr => do
    match ← m.pushChecked m.pc with
    | some m => return { machine := { m with pc := addr.setWidth 16 }, screen }
    | none => return { machine := m, screen, result := .error (.overflow (m.pc - 2)) }
  | .jumpOffset addr => do
    let sum ← Checked.sum addr.toNat (m.reg .zero).toNat
    return { machine := { m with pc := sum &&& 0xFFF }, screen }
  | .draw x y n => do
    let sprite ← m.spriteAt n.val
    let drawn ← screen.drawChecked sprite (m.reg x).toNat (m.reg y).toNat
    return {
      machine := m.setFlag drawn.2
      screen := drawn.1
      call := some (.draw sprite (m.reg x) (m.reg y))
      result := .ok (.drew drawn.2) }
  | .addIndex x => do
    let sum ← Checked.sum m.index.toNat (m.reg x).toNat
    return { machine := { m with index := sum &&& 0xFFF }, screen }
  | .decimal x => do
    let memory ← m.writeDigits (m.reg x).toNat
    return { machine := { m with memory }, screen }
  | .store x => do
    let memory ← m.storeFirst (x.val + 1)
    return { machine := { m with memory }, screen }
  | .load x => do
    let v ← m.loadFirst (x.val + 1)
    return { machine := { m with v }, screen }
  | op => return m.execute screen random op

def stepChecked (m : Machine) (screen : Bitmap) (random : Byte) (i : Instruction) :
    Checked Effect :=
  match i.operation? with
  | some op => do
    let effect ← { m with pc := m.pc + 2 }.executeChecked screen random op
    return { effect with machine := effect.machine.tickTimers }
  | none => return m.step screen random i

variable {m : Machine}

theorem fetchChecked_eq (m : Machine) : m.fetchChecked = .ok m.fetch := by
  rw [fetchChecked, Memory.wordChecked_eq]
  rfl

theorem pushChecked_eq (h : m.InBounds) (address : Word) :
    m.pushChecked address = .ok (m.push? address) := by
  have bound := h.depth_le
  unfold pushChecked push?
  by_cases room : m.depth < 16
  · rw [if_neg (by omega), dif_pos room, Checked.set_eq _ room]
    rfl
  · rw [if_pos (by omega), dif_neg room]
    rfl

theorem popChecked_eq (h : m.InBounds) : m.popChecked = .ok m.pop? := by
  have bound := h.depth_le
  cases depth : m.depth with
  | zero =>
    simp only [popChecked, pop?, depth]
    rfl
  | succ d =>
    have slot : d < 16 := by omega
    simp only [popChecked, pop?, depth, Checked.get_eq _ slot, Vector.getElem?_eq_getElem slot]
    rfl

/-- Offsets from the index stay far below the largest word. -/
theorem sum_index_eq (h : m.index.toNat ≤ 0xFFF) {offset : Nat} (small : offset < 256) :
    Checked.sum m.index.toNat offset = .ok (BitVec.ofNat 16 (m.index.toNat + offset)) := by
  exact Checked.sum_eq (by omega)

theorem toNat_ofNat_index (h : m.index.toNat ≤ 0xFFF) {offset : Nat} (small : offset < 256) :
    (BitVec.ofNat 16 (m.index.toNat + offset)).toNat = m.index.toNat + offset := by
  rw [BitVec.toNat_ofNat]
  exact Nat.mod_eq_of_lt (by omega)

theorem writeDigits_eq (h : m.index.toNat ≤ 0xFFF) (value : Nat) :
    m.writeDigits value = .ok (m.memory.writeBlock m.index.toNat
      ([value / 100, value / 10 % 10, value % 10].map (BitVec.ofNat 8))) := by
  simp only [writeDigits, sum_index_eq h (show 1 < 256 by decide),
    sum_index_eq h (show 2 < 256 by decide), Memory.writeChecked_eq, bind, Except.bind,
    toNat_ofNat_index h (show 1 < 256 by decide), toNat_ofNat_index h (show 2 < 256 by decide)]
  rfl

theorem storeFirst_eq (h : m.index.toNat ≤ 0xFFF) {count : Nat} (few : count ≤ 16) :
    m.storeFirst count = .ok (m.memory.writeBlock m.index.toNat (m.v.toList.take count)) := by
  induction count with
  | zero => rfl
  | succ n ih =>
    have slot : n < 16 := few
    have small : n < 256 := by omega
    have size : n < m.v.toList.length := by rw [Vector.length_toList]; exact slot
    have before := ih (Nat.le_of_lt slot)
    unfold storeFirst at before ⊢
    rw [List.range_succ, List.foldlM_append, before, List.take_succ_eq_append_getElem size,
      Memory.writeBlock_append, List.length_take_of_le (Nat.le_of_lt size)]
    simp only [List.foldlM_cons, List.foldlM_nil, bind, Except.bind, sum_index_eq h small,
      toNat_ofNat_index h small, Checked.get_eq m.v slot, Memory.writeChecked_eq,
      Vector.getElem_toList]
    rfl

theorem loadFirst_eq (h : m.index.toNat ≤ 0xFFF) {count : Nat} (few : count ≤ 16) :
    m.loadFirst count = .ok (Vector.ofFn fun r : Reg =>
      if r.val < count then m.memory.read (m.index.toNat + r.val) else m.reg r) := by
  induction count with
  | zero =>
    have same : (Vector.ofFn fun r : Reg => m.reg r) = m.v := by
      apply Vector.ext
      intro r hr
      simp [reg]
    simp only [Nat.not_lt_zero, if_false, same]
    rfl
  | succ n ih =>
    have slot : n < 16 := few
    have small : n < 256 := by omega
    have before := ih (Nat.le_of_lt slot)
    unfold loadFirst at before ⊢
    rw [List.range_succ, List.foldlM_append, before]
    simp only [List.foldlM_cons, List.foldlM_nil, bind, Except.bind, sum_index_eq h small,
      toNat_ofNat_index h small, Checked.set_eq _ slot, Memory.readChecked_eq]
    apply congrArg Except.ok
    apply Vector.ext
    intro r hr
    rw [Vector.getElem_set, Vector.getElem_ofFn, Vector.getElem_ofFn]
    by_cases last : n = r
    · simp [last]
    · have below : r < n + 1 ↔ r < n := by omega
      simp [last, below]

theorem spriteAt_eq (h : m.index.toNat ≤ 0xFFF) {count : Nat} (few : count ≤ 16) :
    m.spriteAt count = .ok (m.memory.readBlock m.index.toNat count) := by
  induction count with
  | zero => rfl
  | succ n ih =>
    have small : n < 256 := by omega
    have before := ih (Nat.le_of_lt few)
    unfold spriteAt Memory.readBlock at before ⊢
    rw [List.range_succ, List.mapM_append, before]
    simp only [List.mapM_cons, List.mapM_nil, bind, Except.bind, sum_index_eq h small,
      toNat_ofNat_index h small, Memory.readChecked_eq, List.map_append]
    rfl

/-- Masking a sum to twelve bits takes it modulo the size of memory. -/
theorem ofNat_and_mask (n : Nat) : BitVec.ofNat 16 n &&& 0xFFF = BitVec.ofNat 16 (n % 4096) := by
  apply BitVec.eq_of_toNat_eq
  rw [BitVec.toNat_and, BitVec.toNat_ofNat, BitVec.toNat_ofNat,
    show (0xFFF : Word).toNat = 2 ^ 12 - 1 from rfl, Nat.and_two_pow_sub_one_eq_mod]
  omega

/-- A drawing needs a bound on the index only: its coordinates wrap. -/
theorem executeChecked_draw_eq (h : m.index.toNat ≤ 0xFFF) (screen : Bitmap) (random : Byte)
    (x y : Reg) (n : Fin 16) :
    m.executeChecked screen random (.draw x y n) = .ok (m.execute screen random (.draw x y n)) := by
  have few : n.val ≤ 16 := Nat.le_of_lt n.isLt
  simp only [executeChecked, execute, spriteAt_eq h few, Bitmap.drawChecked_eq, bind, Except.bind]
  rfl

theorem executeChecked_eq (h : m.InBounds) (screen : Bitmap) (random : Byte) (op : Operation) :
    m.executeChecked screen random op = .ok (m.execute screen random op) := by
  cases op with
  | ret =>
    simp only [executeChecked, execute, popChecked_eq h, bind, Except.bind]
    cases m.pop? <;> rfl
  | call addr =>
    simp only [executeChecked, execute, pushChecked_eq h, bind, Except.bind]
    cases m.push? m.pc <;> rfl
  | jumpOffset addr =>
    have small : addr.toNat + (m.reg .zero).toNat < 0x10000 := by
      have := addr.isLt
      have := (m.reg .zero).isLt
      omega
    simp only [executeChecked, execute, Checked.sum_eq small, ofNat_and_mask, bind, Except.bind]
    rfl
  | draw x y n => exact executeChecked_draw_eq h.index_le screen random x y n
  | addIndex x =>
    have small : (m.reg x).toNat < 256 := (m.reg x).isLt
    simp only [executeChecked, execute, sum_index_eq h.index_le small, ofNat_and_mask, bind,
      Except.bind]
    rfl
  | decimal x =>
    simp only [executeChecked, execute, writeDigits_eq h.index_le, bind, Except.bind]
    rfl
  | store x =>
    simp only [executeChecked, execute, storeFirst_eq h.index_le x.isLt, bind, Except.bind]
    rfl
  | load x =>
    simp only [executeChecked, execute, loadFirst_eq h.index_le x.isLt, Nat.lt_succ_iff,
      ← Fin.le_def, bind, Except.bind]
    rfl
  | _ => rfl

theorem stepChecked_eq_of_execute (screen : Bitmap) (random : Byte) {i : Instruction}
    (runs : ∀ op, i.operation? = some op →
      { m with pc := m.pc + 2 }.executeChecked screen random op =
        .ok ({ m with pc := m.pc + 2 }.execute screen random op)) :
    m.stepChecked screen random i = .ok (m.step screen random i) := by
  unfold stepChecked
  cases decoded : i.operation? with
  | none => rfl
  | some op =>
    simp only [runs op decoded, bind, Except.bind, step, decoded]
    rfl

theorem stepChecked_eq (h : m.InBounds) (screen : Bitmap) (random : Byte) (i : Instruction) :
    m.stepChecked screen random i = .ok (m.step screen random i) := by
  have advanced : { m with pc := m.pc + 2 }.InBounds := h.congr rfl rfl
  exact stepChecked_eq_of_execute screen random fun op _ =>
    executeChecked_eq advanced screen random op

/-- Without the bound on the index a sum can leave the words. -/
example : { ofFont .standard with index := 0xFFFF }.executeChecked .blank 0 (.decimal 0) =
    .error .sumTooLarge := rfl

def listingChecked (m : Machine) : Checked (List Instruction) :=
  (List.range ((m.programSize + 1) / 2)).mapM fun k => do
    let a := (programStart + 2 * k) % 4096
    return ⟨← m.memory.wordChecked a, BitVec.ofNat 16 a⟩

theorem listingChecked_eq (m : Machine) : m.listingChecked = .ok m.listing := by
  simp only [listingChecked, Memory.wordChecked_eq]
  exact List.mapM_pure

def holdChecked (m : Machine) (key : Option Byte) : Checked Machine :=
  if key.all Emulator.onKeypad then return { m with key } else throw .keyOffKeypad

theorem holdChecked_eq (m : Machine) {key : Option Byte} (keypad : key.all Emulator.onKeypad) :
    m.holdChecked key = .ok { m with key } :=
  if_pos keypad

end Machine

/-! ## The emulator -/

namespace Emulator

def ofMachineChecked (machine : Machine) (config : Config) (random : RandomSource) :
    Checked Emulator := do
  return { ofMachine machine config random with listing := ← machine.listingChecked }

def cycleChecked (e : Emulator) : Checked Reaction := do
  let i ← e.machine.fetchChecked
  let effect ← e.machine.stepChecked e.screen e.random.peek i
  return e.settle i effect

def pressChecked (e : Emulator) (key : Byte) : Checked Reaction := do
  let machine ← e.machine.holdChecked (some key)
  match e.mode with
  | .awaitingKey r =>
    let v ← Checked.set machine.v r.val key
    return {
      emulator := { e with machine := { machine with v }, mode := e.config.activeMode }
      notes := [.keyStored key r] }
  | _ => return { emulator := { e with machine } }

def releaseChecked (e : Emulator) (key : Byte) : Checked Reaction := do
  if e.machine.key = some key then
    return { emulator := { e with machine := ← e.machine.holdChecked none } }
  else return { emulator := e }

/-- Applies one event with checks. The other events touch neither memory nor registers. -/
def handleChecked (e : Emulator) (event : Event) : Checked Reaction :=
  match event, e.mode with
  | _, .stopped => return e.handle event
  | .keyDown key, _ => if onKeypad key then e.pressChecked key else return e.handle event
  | .keyUp key, _ => if onKeypad key then e.releaseChecked key else return e.handle event
  | .tick, .running | .step, .stepping => e.cycleChecked
  | _, _ => return e.handle event

variable {e : Emulator}

theorem ofMachineChecked_eq (machine : Machine) (config : Config) (random : RandomSource) :
    ofMachineChecked machine config random = .ok (ofMachine machine config random) := by
  rw [ofMachineChecked, Machine.listingChecked_eq]
  rfl

theorem cycleChecked_eq (h : e.WellFormed) : e.cycleChecked = .ok e.cycle := by
  simp only [cycleChecked, Machine.fetchChecked_eq, Machine.stepChecked_eq h.machine.inBounds,
    bind, Except.bind]
  rfl

theorem pressChecked_eq (e : Emulator) {key : Byte} (keypad : onKeypad key) :
    e.pressChecked key = .ok (e.press key) := by
  have held : (some key).all onKeypad := keypad
  simp only [pressChecked, press, withKey, Machine.holdChecked_eq _ held, bind, Except.bind]
  cases e.mode with
  | awaitingKey r =>
    simp only [Checked.set_eq _ r.isLt]
    rfl
  | _ => rfl

theorem releaseChecked_eq (e : Emulator) (key : Byte) :
    e.releaseChecked key = .ok (e.release key) := by
  unfold releaseChecked release
  rw [Machine.holdChecked_eq _ rfl]
  split <;> rfl

theorem handleChecked_eq (h : e.WellFormed) (event : Event) :
    e.handleChecked event = .ok (e.handle event) := by
  unfold handleChecked
  split
  · rfl
  · next key running =>
    split
    · next keypad => rw [pressChecked_eq e keypad, handle_keyDown running keypad]
    · rfl
  · next key running =>
    split
    · next keypad => rw [releaseChecked_eq, handle_keyUp running keypad]
    · rfl
  · next mode => rw [cycleChecked_eq h, handle_of_runs (.inl ⟨rfl, mode⟩)]
  · next mode => rw [cycleChecked_eq h, handle_of_runs (.inr ⟨rfl, mode⟩)]
  · rfl

/-- Whatever program is loaded and whatever events come, a well-formed state is reached in which
no event breaks off; nor does the start. -/
theorem unchecked_of_loaded (font : Font) (program : List Byte) (config : Config)
    (random : RandomSource) {m : Machine} (loaded : (Machine.ofFont font).load program = .ok m)
    (events : List Event) :
    let e := ofMachine m config random
    ofMachineChecked m config random = .ok e ∧ (e.after events).WellFormed ∧
      ∀ event, (e.after events).handleChecked event = .ok ((e.after events).handle event) := by
  intro e
  have start : e.WellFormed := .ofMachine ((Machine.WellFormed.ofFont font).load loaded) _ _
  refine ⟨ofMachineChecked_eq m config random, start.after events, ?_⟩
  intro event
  exact handleChecked_eq (start.after events) event

/-- The program points `I` at the top of memory and writes decimal digits around it. -/
theorem unchecked_of_loaded_at_top :
    ∃ m, (Machine.ofFont .standard).load [0xAF, 0xFF, 0xF0, 0x33] = .ok m ∧
      let e := ofMachine m {} (.ofSeed 0)
      ofMachineChecked m {} (.ofSeed 0) = .ok e ∧
        (e.after [.tick, .keyDown 0x5]).WellFormed ∧
        ∀ event, (e.after [.tick, .keyDown 0x5]).handleChecked event =
          .ok ((e.after [.tick, .keyDown 0x5]).handle event) :=
  ⟨_, rfl, unchecked_of_loaded .standard [0xAF, 0xFF, 0xF0, 0x33] {} (.ofSeed 0) rfl
    [.tick, .keyDown 0x5]⟩

end Emulator

end Chip8
