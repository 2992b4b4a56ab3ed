import Chip8.Proofs.Turns

/-!
# The listing of a program

The listing is made once, before a program runs, and shown with every frame. Memory changes behind
it: `Fx33` and `Fx55` write a few cells from `I` on, around the top of memory if need be
(`Turn.written`). Nothing else writes memory, no other instruction and no event
(`Emulator.read_after`). So an entry of the listing is what runs at its address for as long as
neither of its two cells was written (`Emulator.listing_holds`).
-/

namespace Chip8

namespace Memory

/-- The cells from `start` on. -/
def window (start size : Nat) : List Nat := (List.range size).map fun k => (start + k) % 4096

theorem mem_window {start size c : Nat} :
    c ∈ window start size ↔ ∃ k, k < size ∧ (start + k) % 4096 = c := by
  simp [window]

theorem read_writeBlock_of_notMem (m : Memory) {start c : Nat} {bs : List Byte}
    (outside : c % 4096 ∉ window start bs.length) : (m.writeBlock start bs).read c = m.read c := by
  induction bs generalizing m start with
  | nil => rfl
  | cons b bs ih =>
    have here : c % 4096 ≠ start % 4096 := by
      intro same
      exact outside (mem_window.2 ⟨0, Nat.succ_pos _, same.symm⟩)
    have behind : c % 4096 ∉ window (start + 1) bs.length := by
      intro mem
      obtain ⟨k, lt, cell⟩ := mem_window.1 mem
      refine outside (mem_window.2 ⟨k + 1, Nat.succ_lt_succ lt, ?_⟩)
      rw [← cell, Nat.add_assoc, Nat.add_comm 1 k]
    rw [writeBlock, ih _ behind, read_write, if_neg here]

end Memory

namespace Turn

/-- The cells of memory that the instruction writes. -/
def written (t : Turn) : List Nat :=
  match t.operation? with
  | some (.decimal _) => Memory.window t.machine.index.toNat 3
  | some (.store x) => Memory.window t.machine.index.toNat (x.val + 1)
  | _ => []

end Turn

namespace Machine

theorem read_execute (m : Machine) (screen : Bitmap) (random : Byte) (i : Instruction)
    {op : Operation} (decodes : i.operation? = some op) {c : Nat}
    (spared : c % 4096 ∉ Turn.written ⟨m, i⟩) :
    (m.execute screen random op).machine.memory.read c = m.memory.read c := by
  simp only [Turn.written, Turn.operation?, decodes] at spared
  cases op with
  | decimal x => exact m.memory.read_writeBlock_of_notMem spared
  | store x =>
    have few : x.val + 1 ≤ m.v.toList.length := by
      rw [Vector.length_toList]
      exact x.isLt
    have bytes : (m.v.toList.take (x.val + 1)).length = x.val + 1 := List.length_take_of_le few
    exact m.memory.read_writeBlock_of_notMem (bytes.symm ▸ spared)
  | _ => rw [(m.execute_keeps screen random _).memory (by simp) (by simp)]

theorem read_step (m : Machine) (screen : Bitmap) (random : Byte) (i : Instruction) {c : Nat}
    (spared : c % 4096 ∉ Turn.written ⟨m, i⟩) :
    (m.step screen random i).machine.memory.read c = m.memory.read c := by
  unfold step
  split
  · next decodes => exact read_execute { m with pc := m.pc + 2 } screen random i decodes spared
  · rfl

end Machine

namespace Emulator

variable {e : Emulator} {events : List Event}

theorem read_handle (e : Emulator) (event : Event) {c : Nat}
    (spared : ∀ turn ∈ e.turn? event, c % 4096 ∉ turn.written) :
    (e.handle event).emulator.machine.memory.read c = e.machine.memory.read c := by
  by_cases runs : e.Runs event
  · rw [machine_of_runs runs]
    exact Machine.read_step _ _ _ _ (spared _ (turn?_of_runs runs))
  · obtain ⟨key, v, idle⟩ := machine_of_not_runs runs
    rw [idle]

/-- A cell that no instruction writes keeps its byte. -/
theorem read_after {c : Nat} (spared : ∀ turn ∈ e.turns events, c % 4096 ∉ turn.written) :
    (e.after events).machine.memory.read c = e.machine.memory.read c := by
  induction events generalizing e with
  | nil => rfl
  | cons event rest ih =>
    simp only [turns, List.mem_append, Option.mem_toList] at spared
    rw [after_cons, ih fun turn mem => spared turn (.inr mem)]
    exact read_handle e event fun turn mem => spared turn (.inl mem)

/-- The word at an address stays as long as nothing writes either of its cells. -/
theorem word_after {c : Nat} (spared : ∀ turn ∈ e.turns events,
      c % 4096 ∉ turn.written ∧ (c + 1) % 4096 ∉ turn.written) :
    (e.after events).machine.memory.word c = e.machine.memory.word c := by
  have high := read_after fun turn mem => (spared turn mem).1
  have low := read_after fun turn mem => (spared turn mem).2
  rw [Memory.word, Memory.word, high, low]

end Emulator

namespace Machine

variable {m : Machine} {k : Nat} {i : Instruction}

theorem length_listing (m : Machine) : m.listing.length = (m.programSize + 1) / 2 := by
  simp [listing, Instruction.listing]

/-- The listing of a program that fits goes through memory word by word and does not wrap. -/
theorem getElem?_listing (fits : m.programSize ≤ maxProgramSize)
    (inside : k < (m.programSize + 1) / 2) :
    m.listing[k]? = some ⟨m.memory.word (programStart + 2 * k),
      BitVec.ofNat 16 (programStart + 2 * k)⟩ := by
  have below : (programStart + 2 * k) % 4096 = programStart + 2 * k := by
    simp only [programStart, maxProgramSize] at fits ⊢
    omega
  simp only [listing, Instruction.listing, List.getElem?_map, List.getElem?_range inside,
    Option.map_some, below]

theorem toNat_address_of_getElem?_listing (fits : m.programSize ≤ maxProgramSize)
    (listed : m.listing[k]? = some i) : i.address.toNat = programStart + 2 * k := by
  have inside : k < (m.programSize + 1) / 2 := by
    rw [← length_listing]
    exact (List.getElem?_eq_some_iff.1 listed).1
  rw [getElem?_listing fits inside] at listed
  obtain rfl := Option.some.inj listed
  rw [BitVec.toNat_ofNat]
  simp only [programStart, maxProgramSize] at fits ⊢
  omega

end Machine

/-- An entry of the listing is the word that memory holds at its address, inside memory. -/
theorem Machine.word_of_mem_listing {m : Machine} {i : Instruction} (mem : i ∈ m.listing) :
    i.word = m.memory.word i.address.toNat ∧ i.address.toNat < 4096 := by
  obtain ⟨k, -, rfl⟩ := List.mem_map.1 mem
  have inside : (programStart + 2 * k) % 4096 < 4096 := Nat.mod_lt _ (by decide)
  have address : (BitVec.ofNat 16 ((programStart + 2 * k) % 4096)).toNat =
      (programStart + 2 * k) % 4096 := by
    rw [BitVec.toNat_ofNat]
    omega
  exact ⟨by rw [address], by rw [address]; exact inside⟩

namespace Emulator

/-- Where the program counter is at an entry of the listing that is shown, and no store has written
either of its cells, the entry is what is fetched there. It is also what the next tick or step runs
that runs anything, whatever keys and frames come before it. -/
theorem listing_holds (m : Machine) (screen : Bitmap) (config : Config) (random : RandomSource)
    (events : List Event) :
    let e := { ofMachine m config random with screen }
    let now := e.after events
    ∀ i ∈ now.frame.listing, now.machine.pc.toNat % 4096 = i.address.toNat →
      (∀ turn ∈ e.turns events, i.address.toNat ∉ turn.written ∧
        (i.address.toNat + 1) % 4096 ∉ turn.written) →
      let found := now.machine.fetch
      (found.word = i.word ∧ found.operation? = i.operation? ∧ found.text = i.text) ∧
        ∀ quiet event, now.turns quiet = [] → (now.after quiet).Runs event →
          let later := now.after quiet
          later.handle event =
            later.settle found (later.machine.step later.screen later.random.peek found) := by
  intro e now i mem here spared found
  have listed : i ∈ m.listing := by
    rwa [show now.frame.listing = m.listing from after_listing e events] at mem
  obtain ⟨word, inside⟩ := Machine.word_of_mem_listing listed
  have kept : now.machine.memory.word i.address.toNat = m.memory.word i.address.toNat :=
    word_after (by rwa [Nat.mod_eq_of_lt inside])
  have same : found.word = i.word := by
    calc found.word
      _ = now.machine.memory.word i.address.toNat :=
          now.machine.memory.word_congr (by rw [here, Nat.mod_eq_of_lt inside])
      _ = m.memory.word i.address.toNat := kept
      _ = i.word := word.symm
  have operation : found.operation? = i.operation? := congrArg Operation.ofWord? same
  have text : found.text = i.text := by rw [Instruction.text, Instruction.text, operation]
  refine ⟨⟨same, operation, text⟩, ?_⟩
  intro quiet event idle runs later
  obtain ⟨key, v, waited⟩ := machine_of_turns_nil idle
  have fetched : later.machine.fetch = found := by rw [waited]; rfl
  rw [handle_of_runs runs, cycle, fetched]

/-- Behind a store that writes elsewhere stands the last byte of a program of odd length. -/
theorem listing_holds_of_store :
    let m := { Machine.ofFont .standard with
      memory := (Memory.ofFont .standard).withProgram [0xF0, 0x33, 0x60]
      programSize := 3
      index := 0x300 }
    let e := ofMachine m {} (.ofSeed 0)
    let i : Instruction := ⟨0x6000, 0x202⟩
    i ∈ (e.after [.tick]).frame.listing ∧
      (e.after [.tick]).machine.pc.toNat % 4096 = i.address.toNat ∧
      (∀ turn ∈ e.turns [.tick], turn.written = [0x300, 0x301, 0x302]) ∧
      (e.after [.tick]).machine.fetch.operation? = some (.setByte 0 0x00) := by
  intro m e i
  have store : m.memory.word (programStart + 0) = 0xF033 :=
    Memory.word_withProgram (.ofFont .standard) [0xF0, 0x33, 0x60] (by decide)
  have last : m.memory.word (programStart + 2) = 0x6000 :=
    Memory.word_withProgram (.ofFont .standard) [0xF0, 0x33, 0x60] (by decide)
  have fetch : e.machine.fetch = ⟨0xF033, 0x200⟩ := congrArg (Instruction.mk · 0x200) store
  have runs : e.Runs .tick := .inl ⟨rfl, rfl⟩
  have pc : (e.after [.tick]).machine.pc.toNat % 4096 = i.address.toNat := by
    rw [after_cons, after_nil, machine_of_runs runs, fetch]
    rfl
  have listed : i ∈ (e.after [.tick]).frame.listing := by
    have second : 1 ∈ List.range ((3 + 1) / 2) := by decide
    rw [frame, after_listing]
    exact List.mem_map.2 ⟨1, second, congrArg (Instruction.mk · 0x202) last⟩
  have written : ∀ turn ∈ e.turns [.tick], turn.written = [0x300, 0x301, 0x302] := by
    have turns : e.turns [.tick] = [⟨m, ⟨0xF033, 0x200⟩⟩] := by
      rw [Emulator.turns, turn?_of_runs runs, fetch]
      rfl
    rw [turns, List.forall_mem_singleton]
    decide
  have spared : ∀ turn ∈ e.turns [.tick], i.address.toNat ∉ turn.written ∧
      (i.address.toNat + 1) % 4096 ∉ turn.written := by
    intro turn mem
    rw [written turn mem]
    decide
  have operation := (listing_holds m .blank {} (.ofSeed 0) [.tick] i listed pc spared).1.2.1
  exact ⟨listed, pc, written, operation.trans (by decide)⟩

end Emulator

end Chip8
