import Chip8.Keyboard.Tracker
import Chip8.Proofs.HeldKey

/-!
# The keyboard and the emulator

The tracker and the emulator run side by side. Each has its own idea of the key that is down, and
what the tracker sends is handled later, between events of the clocks. `KeyLink` is the two with the
events on their way, and `KeyLink.move` is what either of them does next. The events on their way
make the emulator's key the tracker's (`KeyLink.InStep`), so when none is left the two are the same
(`KeyLink.key_eq_held`).
-/

namespace Chip8

open Emulator (onKeypad keyAfter)

theorem Keymap.onKeypad_of_key? {keymap : Keymap} {c : Char} {key : Byte}
    (h : keymap.key? c = some key) : onKeypad key := by
  obtain ⟨i, found, rfl⟩ := Option.map_eq_some_iff.1 h
  have size : keymap.layout.length = 16 := by cases keymap <;> rfl
  obtain ⟨bound, -⟩ := List.findIdx?_eq_some_iff_getElem.1 found
  simp only [onKeypad, BitVec.toNat_ofNat, decide_eq_true_eq]
  omega

/-- A key press goes down on the keypad, quits or steps. -/
theorem Keymap.event?_cases {keymap : Keymap} {debug : Bool} {k : Key} {event : Event}
    (h : keymap.event? debug k = some event) :
    (∃ key, onKeypad key ∧ event = .keyDown key) ∨ event = .quit ∨ event = .step := by
  unfold event? at h
  split at h
  · exact .inr (.inl (Option.some.inj h).symm)
  · split at h
    · exact .inr (.inr (Option.some.inj h).symm)
    · cases h
  · split at h
    · exact .inr (.inl (Option.some.inj h).symm)
    · obtain ⟨key, found, rfl⟩ := Option.map_eq_some_iff.1 h
      exact .inl ⟨key, onKeypad_of_key? found, rfl⟩
  · cases h

namespace Tracker

variable {t : Tracker}

/-- A look releases the held key, presses one, or leaves the held key alone. -/
theorem observe_cases (t : Tracker) (poll : Poll) :
    t.observe poll = ({ t with held := none }, (t.held.map Event.keyUp).toList) ∨
      (∃ key, onKeypad key ∧
        t.observe poll = ({ t with held := some key }, replaced t.held key ++ [.keyDown key])) ∨
      ∃ sent, (sent = [] ∨ sent = [.quit] ∨ sent = [.step]) ∧ t.observe poll = (t, sent) := by
  cases poll with
  | timeout => exact .inl rfl
  | other => exact .inr (.inr ⟨[], .inl rfl, rfl⟩)
  | key k =>
    cases pressed : t.keymap.event? t.debug k with
    | none => exact .inr (.inr ⟨[], .inl rfl, by simp only [observe, pressed]⟩)
    | some event =>
      obtain ⟨key, keypad, rfl⟩ | rfl | rfl := Keymap.event?_cases pressed
      · exact .inr (.inl ⟨key, keypad, by simp only [observe, pressed]⟩)
      · exact .inr (.inr ⟨[.quit], .inr (.inl rfl), by simp only [observe, pressed]⟩)
      · exact .inr (.inr ⟨[.step], .inr (.inr rfl), by simp only [observe, pressed]⟩)

theorem onKeypad_observe (h : ∀ key ∈ t.held, onKeypad key) (poll : Poll) :
    ∀ key ∈ (t.observe poll).1.held, onKeypad key := by
  obtain released | ⟨key, keypad, pressed⟩ | ⟨sent, -, same⟩ := t.observe_cases poll
  · rw [released]
    exact fun _ held => nomatch held
  · rw [pressed]
    intro held eq
    rwa [← Option.some.inj eq]
  · rwa [same]

/-- What the tracker sends makes the key it held before into the one it holds now. -/
theorem foldl_keyAfter_observe (h : ∀ key ∈ t.held, onKeypad key) (poll : Poll) :
    (t.observe poll).2.foldl keyAfter t.held = (t.observe poll).1.held := by
  obtain released | ⟨key, keypad, pressed⟩ | ⟨sent, keyless, same⟩ := t.observe_cases poll
  · rw [released]
    cases held : t.held with
    | none => rfl
    | some key => exact if_pos ⟨h key held, rfl⟩
  · -- The press decides, whether a release goes before it or not.
    rw [pressed, List.foldl_append]
    exact if_pos keypad
  · rw [same]
    rcases keyless with rfl | rfl | rfl <;> rfl

end Tracker

/-- A tracker and an emulator with what is on its way between them. -/
structure KeyLink where
  tracker : Tracker
  /-- What the tracker has sent and the emulator has not handled yet. -/
  inFlight : List Event := []
  emulator : Emulator
  /-- All that the emulator has handled. -/
  handled : List Event := []

namespace KeyLink

inductive Move where
  /-- The tracker takes in one look at the terminal and sends what comes of it. -/
  | look (poll : Poll)
  /-- The emulator handles the first event on its way. -/
  | deliver
  | tick
  | frame
  | step
  deriving DecidableEq, Repr

/-- The emulator handles an event. -/
def handling (l : KeyLink) (event : Event) : KeyLink :=
  { l with emulator := (l.emulator.handle event).emulator, handled := l.handled ++ [event] }

/-- One move. Between the tracker's events come any of the other producers'. -/
def move (l : KeyLink) : Move → KeyLink
  | .look poll =>
    let (tracker, sent) := l.tracker.observe poll
    { l with tracker, inFlight := l.inFlight ++ sent }
  | .deliver =>
    match l.inFlight with
    | [] => l
    | event :: rest => { l with inFlight := rest }.handling event
  | .tick => l.handling .tick
  | .frame => l.handling .frame
  | .step => l.handling .step

def run (l : KeyLink) (moves : List Move) : KeyLink := moves.foldl move l

/-- Nothing is held and nothing is on its way. -/
def ofEmulator (keymap : Keymap) (debug : Bool) (emulator : Emulator) : KeyLink :=
  { tracker := { keymap, debug }, emulator }

/-- Tracker and emulator agree on the key but for what is on its way. -/
structure InStep (start : Emulator) (l : KeyLink) : Prop where
  replays : l.emulator = start.after l.handled
  keypad : ∀ key ∈ l.tracker.held, onKeypad key
  settles : l.emulator.mode ≠ .stopped →
    l.inFlight.foldl keyAfter l.emulator.machine.key = l.tracker.held

namespace InStep

variable {start : Emulator} {l : KeyLink}

theorem ofEmulator (fresh : start.machine.key = none) (keymap : Keymap) (debug : Bool) :
    InStep start (ofEmulator keymap debug start) where
  replays := rfl
  keypad := fun _ held => nomatch held
  settles := fun _ => fresh

theorem look (h : InStep start l) (poll : Poll) : InStep start (l.move (.look poll)) where
  replays := h.replays
  keypad := Tracker.onKeypad_observe h.keypad poll
  settles := by
    intro live
    have sent := Tracker.foldl_keyAfter_observe h.keypad poll
    show (l.inFlight ++ (l.tracker.observe poll).2).foldl keyAfter l.emulator.machine.key = _
    rw [List.foldl_append, h.settles live]
    exact sent

/-- The emulator handles an event that leaves `rest` on its way. -/
theorem handling (h : InStep start l) {event : Event} {rest : List Event}
    (settles : l.emulator.mode ≠ .stopped →
      rest.foldl keyAfter (keyAfter l.emulator.machine.key event) = l.tracker.held) :
    InStep start ({ l with inFlight := rest }.handling event) where
  replays := by
    show (l.emulator.handle event).emulator = start.after (l.handled ++ [event])
    rw [Emulator.after_append, ← h.replays]
    rfl
  keypad := h.keypad
  settles := by
    intro live
    have before := Emulator.ne_stopped_of_handle live
    show rest.foldl keyAfter (l.emulator.handle event).emulator.machine.key = _
    rw [Emulator.handle_key before]
    exact settles before

theorem move (h : InStep start l) (move : Move) : InStep start (l.move move) := by
  cases move with
  | look poll => exact h.look poll
  | deliver =>
    unfold KeyLink.move
    cases inFlight : l.inFlight with
    | nil => exact h
    | cons event rest =>
      apply h.handling
      intro live
      have settles := h.settles live
      rwa [inFlight] at settles
  | tick => exact h.handling h.settles
  | frame => exact h.handling h.settles
  | step => exact h.handling h.settles

theorem run (h : InStep start l) (moves : List Move) : InStep start (l.run moves) := by
  induction moves generalizing l with
  | nil => exact h
  | cons next rest ih => exact ih (h.move next)

end InStep

/-- However the moves are mixed: while no quit has been handled, the key that the machine sees is
the key that the tracker holds whenever nothing is on its way. -/
theorem key_eq_held {m : Machine} (fresh : m.key = none) (config : Config) (random : RandomSource)
    (keymap : Keymap) (debug : Bool) (moves : List Move) :
    let start := Emulator.ofMachine m config random
    let l := (ofEmulator keymap debug start).run moves
    l.emulator = start.after l.handled ∧
      (.quit ∉ l.handled → l.inFlight = [] → l.emulator.machine.key = l.tracker.held) := by
  intro start l
  have inStep : InStep start l := (InStep.ofEmulator fresh keymap debug).run moves
  refine ⟨inStep.replays, ?_⟩
  intro others settled
  have live : l.emulator.mode ≠ .stopped := by
    rw [inStep.replays]
    exact Emulator.after_ne_stopped (Emulator.activeMode_ne_stopped config) others
  have key := inStep.settles live
  rwa [settled] at key

/-- The press of the key `A` ends a key wait. -/
theorem key_eq_held_of_wait :
    let memory := (Memory.ofFont .standard).withProgram [0xF0, 0x0A]
    let m := { Machine.ofFont .standard with memory }
    let l := (ofEmulator .literal false (.ofMachine m {} (.ofSeed 0))).run
      [.tick, .look (.key { code := .char 'A' }), .frame, .deliver]
    m.key = none ∧ .quit ∉ l.handled ∧ l.inFlight = [] ∧
      l.emulator.machine.key = l.tracker.held ∧ l.tracker.held = some 0xA := by
  intro memory m l
  have fresh : m.key = none := rfl
  have others : .quit ∉ l.handled := by decide
  have settled : l.inFlight = [] := rfl
  have agree := (key_eq_held fresh {} (.ofSeed 0) .literal false
    [.tick, .look (.key { code := .char 'A' }), .frame, .deliver]).2 others settled
  exact ⟨fresh, others, settled, agree, rfl⟩

end KeyLink

end Chip8
