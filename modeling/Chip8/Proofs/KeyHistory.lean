import Chip8.Proofs.KeyWait

/-!
# The key and the history

Which key is down can be told from the key events alone: it is the one that went down last, unless
it has been released since (`Emulator.LeavesDown`). Keys that are not on the keypad do not count,
nor does the release of a key that is not down, nor the press of one that is
(`Emulator.press_press`). The instructions and waits in between make no difference
(`Emulator.key_of_history`).
-/

namespace Chip8

/-- Nothing is changed, shown or at fault. -/
structure Reaction.Leaves (r : Reaction) (e : Emulator) : Prop where
  emulator : r.emulator = e
  calls : r.calls = []
  fault : r.fault = none

namespace Emulator

variable {e : Emulator} {events : List Event} {k : Byte}

/-- No key of the keypad goes down. -/
def Unpressed (events : List Event) : Prop := ∀ k, .keyDown k ∈ events → ¬ onKeypad k

/-- The key is the last one of the keypad that goes down, and it does not go up again. -/
def LeavesDown (events : List Event) (k : Byte) : Prop :=
  ∃ before rest, events = before ++ .keyDown k :: rest ∧ onKeypad k ∧ Unpressed rest ∧
    .keyUp k ∉ rest

/-- A list in which some key of the keypad goes down has a last one. -/
theorem unpressed_or_lastPress (events : List Event) : Unpressed events ∨
    ∃ before k rest, events = before ++ .keyDown k :: rest ∧ onKeypad k ∧ Unpressed rest := by
  induction events with
  | nil => exact .inl fun _ mem => nomatch mem
  | cons event rest ih =>
    obtain unpressed | ⟨before, k, rest, rfl, keypad, last⟩ := ih
    · by_cases press : ∃ k, event = .keyDown k ∧ onKeypad k
      · obtain ⟨k, rfl, keypad⟩ := press
        exact .inr ⟨[], k, rest, rfl, keypad, unpressed⟩
      · refine .inl fun k mem keypad => ?_
        obtain here | behind := List.mem_cons.1 mem
        · exact press ⟨k, here.symm, keypad⟩
        · exact unpressed k behind keypad
    · exact .inr ⟨event :: before, k, rest, rfl, keypad, last⟩

theorem foldl_keyAfter_none_iff : events.foldl keyAfter none = some k ↔ LeavesDown events k := by
  constructor
  · intro down
    obtain unpressed | ⟨before, pressed, rest, rfl, keypad, last⟩ := unpressed_or_lastPress events
    · rw [foldl_keyAfter_of_no_press unpressed] at down
      cases down
    · have press : keyAfter (before.foldl keyAfter none) (.keyDown pressed) = some pressed :=
        if_pos keypad
      rw [List.foldl_append, List.foldl_cons, press, foldl_keyAfter_of_no_press last,
        Option.filter_eq_some_iff] at down
      obtain ⟨same, unreleased⟩ := down
      obtain rfl := Option.some.inj same
      exact ⟨before, rest, rfl, keypad, last, fun up => by simp [keypad, up] at unreleased⟩
  · rintro ⟨before, rest, rfl, keypad, last, unreleased⟩
    have press : keyAfter (before.foldl keyAfter none) (.keyDown k) = some k := if_pos keypad
    rw [List.foldl_append, List.foldl_cons, press, foldl_keyAfter_of_no_press last]
    simp [unreleased]

/-- A press ends a wait, so the same one again finds nothing to do. -/
theorem press_press (e : Emulator) (k : Byte) :
    (e.press k).emulator.press k = { emulator := (e.press k).emulator } := by
  have unawaited : ∀ r, (e.press k).emulator.mode ≠ .awaitingKey r := by
    intro r
    unfold press
    split
    · show e.config.activeMode ≠ .awaitingKey r
      unfold Config.activeMode
      split <;> exact Mode.noConfusion
    · next unawaited => exact unawaited r
  have down := press_key e k
  generalize (e.press k).emulator = pressed at unawaited down ⊢
  unfold press
  split
  · next r waits => exact absurd waits (unawaited r)
  · rw [withKey, ← down]

theorem handle_release_other (live : e.mode ≠ .stopped) (other : e.machine.key ≠ some k) :
    (e.handle (.keyUp k)).Leaves e := by
  by_cases keypad : onKeypad k
  · rw [handle_keyUp live keypad, release, if_neg other]
    exact ⟨rfl, rfl, rfl⟩
  · rw [handle_offKeypad live keypad (.inr rfl)]
    exact ⟨rfl, rfl, rfl⟩

theorem handle_press_again (live : e.mode ≠ .stopped) (k : Byte) :
    let pressed := (e.handle (.keyDown k)).emulator
    (pressed.handle (.keyDown k)).Leaves pressed := by
  intro pressed
  have stillLive : pressed.mode ≠ .stopped := handle_ne_stopped live Event.noConfusion
  by_cases keypad : onKeypad k
  · have press : pressed = (e.press k).emulator :=
      congrArg Reaction.emulator (handle_keyDown live keypad)
    rw [handle_keyDown stillLive keypad, press, press_press]
    exact ⟨rfl, rfl, rfl⟩
  · rw [handle_offKeypad stillLive keypad (.inl rfl)]
    exact ⟨rfl, rfl, rfl⟩

/-- Before a quit the key that is down is told by the key events, whatever instructions run, wait or
fail in between. Keys that are not on the keypad, the release of another key and a press made twice
leave the emulator alone, whether a key is awaited or was until the first press. -/
theorem key_of_history {m : Machine} (fresh : m.key = none) (screen : Bitmap) (config : Config)
    (random : RandomSource) (events : List Event) (others : .quit ∉ events) :
    let e := { ofMachine m config random with screen }
    let now := e.after events
    (∀ k, now.machine.key = some k ↔ LeavesDown events k) ∧
      (∀ event k, event = .keyDown k ∨ event = .keyUp k → ¬ onKeypad k →
        (now.handle event).Leaves now) ∧
      (∀ k, now.machine.key ≠ some k → (now.handle (.keyUp k)).Leaves now) ∧
      ∀ k, let pressed := (now.handle (.keyDown k)).emulator
        (pressed.handle (.keyDown k)).Leaves pressed := by
  intro e now
  have start : e.mode ≠ .stopped := activeMode_ne_stopped config
  have live : now.mode ≠ .stopped := after_ne_stopped start others
  refine ⟨?_, ?_, fun _ => handle_release_other live, handle_press_again live⟩
  · intro k
    rw [after_key start others, ← foldl_keyAfter_none_iff, ← fresh]
    rfl
  · intro event k of_key keypad
    rw [handle_offKeypad live keypad of_key]
    exact ⟨rfl, rfl, rfl⟩

/-- The key `7` ends a wait and is pressed again; `3` goes up and a key off the keypad down. -/
theorem key_of_history_of_wait :
    let m := { Machine.ofFont .standard with
      memory := (Memory.ofFont .standard).withProgram [0xF5, 0x0A] }
    let e := { ofMachine m {} (.ofSeed 0) with screen := .blank }
    let events := [Event.tick, .keyDown 0x7, .keyDown 0x7, .keyUp 0x3, .keyDown 0x20]
    m.key = none ∧ .quit ∉ events ∧ (e.after events).machine.key = some 0x7 ∧
      ((e.after events).handle (.keyUp 0x3)).Leaves (e.after events) ∧
      ((e.after events).handle (.keyDown 0x20)).Leaves (e.after events) := by
  intro m e events
  have fresh : m.key = none := rfl
  have others : .quit ∉ events := by decide
  obtain ⟨key, offKeypad, released, -⟩ :=
    key_of_history fresh .blank {} (.ofSeed 0) events others
  have left : LeavesDown events 0x7 := by
    refine ⟨[.tick, .keyDown 0x7], [.keyUp 0x3, .keyDown 0x20], rfl, rfl, ?_, by decide⟩
    intro k mem
    obtain rfl : k = 0x20 := by simpa using mem
    decide
  have down := (key 0x7).2 left
  have other : (e.after events).machine.key ≠ some 0x3 := by
    rw [down]
    decide
  exact ⟨fresh, others, down, released 0x3 other,
    offKeypad (.keyDown 0x20) 0x20 (.inl rfl) (by decide)⟩

end Emulator

end Chip8
