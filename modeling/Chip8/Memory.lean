import Chip8.Word

/-!
# Memory

The 4096 bytes that a program can address. Every address is taken modulo 4096, so reads and
writes past the top continue at zero. `read_write` is the one fact about a write; the block
operations are made of single reads and writes.
-/

namespace Chip8

structure Memory where
  bytes : Vector Byte 4096
  deriving DecidableEq

namespace Memory

def blank : Memory := ⟨Vector.replicate 4096 0⟩

def read (m : Memory) (a : Nat) : Byte := m.bytes[a % 4096]

def write (m : Memory) (a : Nat) (b : Byte) : Memory := ⟨m.bytes.set (a % 4096) b⟩

/-- The `n` bytes from `a` on. -/
def readBlock (m : Memory) (a n : Nat) : List Byte :=
  (List.range n).map fun k => m.read (a + k)

/-- Writes the bytes in order from `a` on. -/
def writeBlock (m : Memory) (a : Nat) : List Byte → Memory
  | [] => m
  | b :: bs => (m.write a b).writeBlock (a + 1) bs

/-- The big-endian word at `a`. -/
def word (m : Memory) (a : Nat) : Word := .ofBytes (m.read a) (m.read (a + 1))

/-- Memory below the program as in `m`, the program from `programStart` on, zeros above it. -/
def withProgram (m : Memory) (program : List Byte) : Memory :=
  let image := program.toArray
  ⟨Vector.ofFn fun a =>
    if a.val < programStart then m.bytes[a] else image.getD (a.val - programStart) 0⟩

theorem read_mod (m : Memory) (a : Nat) : m.read (a % 4096) = m.read a := by
  simp [read]

theorem word_congr (m : Memory) {a b : Nat} (h : a % 4096 = b % 4096) : m.word a = m.word b := by
  have next : (a + 1) % 4096 = (b + 1) % 4096 := by omega
  rw [word, word, ← read_mod m a, h, read_mod, ← read_mod m (a + 1), next, read_mod]

@[simp] theorem read_blank (a : Nat) : blank.read a = 0 := by
  simp [read, blank]

theorem read_write (m : Memory) (a c : Nat) (b : Byte) :
    (m.write a b).read c = if c % 4096 = a % 4096 then b else m.read c := by
  simp only [read, write, Vector.getElem_set]
  by_cases h : c % 4096 = a % 4096
  · simp [h]
  · simp [h, Ne.symm h]

@[simp] theorem length_readBlock (m : Memory) (a n : Nat) : (m.readBlock a n).length = n := by
  simp [readBlock]

theorem getElem?_readBlock (m : Memory) (a n k : Nat) :
    (m.readBlock a n)[k]? = if k < n then some (m.read (a + k)) else none := by
  rw [readBlock, List.getElem?_map]
  by_cases inside : k < n <;> simp [inside]

theorem read_withProgram (m : Memory) (program : List Byte) (a : Nat) (ha : a < 4096) :
    (m.withProgram program).read a =
      if a < programStart then m.read a else program[a - programStart]?.getD 0 := by
  simp [read, withProgram, Nat.mod_eq_of_lt ha, Array.getD_eq_getD_getElem?]

/-- A word of the program, which is followed by zeros. -/
theorem word_withProgram (m : Memory) (program : List Byte) {k : Nat}
    (inside : programStart + k + 1 < 4096) :
    (m.withProgram program).word (programStart + k) =
      .ofBytes (program[k]?.getD 0) (program[k + 1]?.getD 0) := by
  have high : ¬ programStart + k < programStart := by omega
  have low : ¬ programStart + k + 1 < programStart := by omega
  rw [word, read_withProgram _ _ _ (by omega), read_withProgram _ _ _ inside, if_neg high,
    if_neg low, Nat.add_assoc, Nat.add_sub_cancel_left, Nat.add_sub_cancel_left]

/-- Memories that read alike are equal. -/
theorem ext_read {m m' : Memory} (h : ∀ a, a < 4096 → m.read a = m'.read a) : m = m' := by
  obtain ⟨v⟩ := m
  obtain ⟨v'⟩ := m'
  congr 1
  apply Vector.ext
  intro a ha
  have := h a ha
  simpa [read, Nat.mod_eq_of_lt ha] using this

end Memory

end Chip8
