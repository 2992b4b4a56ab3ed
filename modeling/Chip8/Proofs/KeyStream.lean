import Mathlib.Data.List.Induction
import Chip8.Proofs.EventStream
import Chip8.Proofs.KeyDelivery

/-!
# The stream of key events

The tracker sends key events for one finger: a key goes up only while it is down, and another one
goes down only after it. `Event.OneAtATime` says so of a list of events between two keys that are
held, so what one look at the terminal brings (`Tracker.oneAtATime_observe`) adds up to what all
looks bring. The keys that are really down are counted apart from that, one by one
(`Event.keysDown`): they are never two, and before a quit they are the one that the tracker holds
(`Tracker.sent_in_order`).
-/

namespace Chip8

namespace Event

/-- The keys that are down after an event. Nothing here keeps two from being down at once. -/
def downAfter (down : List Byte) : Event → List Byte
  | .keyDown k => down.insert k
  | .keyUp k => down.erase k
  | _ => down

/-- The keys that are down after a list of events, none being down before it. -/
def keysDown (events : List Event) : List Byte := events.foldl downAfter []

/-- From one key that is held, if any, to another: the held key alone goes up, and a key goes down
only where none or the same one is held. -/
inductive OneAtATime : Option Byte → List Event → Option Byte → Prop
  | nil (held : Option Byte) : OneAtATime held [] held
  | release {k : Byte} {rest : List Event} {last : Option Byte} :
      OneAtATime none rest last → OneAtATime (some k) (.keyUp k :: rest) last
  | press {held last : Option Byte} {k : Byte} {rest : List Event} :
      Emulator.onKeypad k → held = none ∨ held = some k → OneAtATime (some k) rest last →
      OneAtATime held (.keyDown k :: rest) last
  | other {held last : Option Byte} {event : Event} {rest : List Event} :
      (∀ k, event ≠ .keyDown k ∧ event ≠ .keyUp k) → OneAtATime held rest last →
      OneAtATime held (event :: rest) last

namespace OneAtATime

variable {held middle last : Option Byte} {before rest events : List Event} {event : Event}

theorem append (first : OneAtATime held before middle) (second : OneAtATime middle rest last) :
    OneAtATime held (before ++ rest) last := by
  induction first with
  | nil => exact second
  | release _ ih => exact .release (ih second)
  | press keypad free _ ih => exact .press keypad free (ih second)
  | other keyless _ ih => exact .other keyless (ih second)

theorem split (h : OneAtATime held (before ++ rest) last) :
    ∃ middle, OneAtATime held before middle ∧ OneAtATime middle rest last := by
  induction before generalizing held with
  | nil => exact ⟨held, .nil held, h⟩
  | cons event before ih =>
    cases h with
    | release h =>
      obtain ⟨middle, first, second⟩ := ih h
      exact ⟨middle, .release first, second⟩
    | press keypad free h =>
      obtain ⟨middle, first, second⟩ := ih h
      exact ⟨middle, .press keypad free first, second⟩
    | other keyless h =>
      obtain ⟨middle, first, second⟩ := ih h
      exact ⟨middle, .other keyless first, second⟩

theorem foldl_downAfter (h : OneAtATime held events last) :
    events.foldl downAfter held.toList = last.toList := by
  induction h with
  | nil => rfl
  | @release k rest last _ ih =>
    have up : downAfter (some k).toList (.keyUp k) = none.toList := by simp [downAfter]
    rw [List.foldl_cons, up, ih]
  | @press held last k rest _ free _ ih =>
    have down : downAfter held.toList (.keyDown k) = (some k).toList := by
      obtain rfl | rfl := free <;> simp [downAfter]
    rw [List.foldl_cons, down, ih]
  | @other held last event rest keyless _ ih =>
    have same : downAfter held.toList event = held.toList := by
      cases event with
      | keyDown k => exact absurd rfl (keyless k).1
      | keyUp k => exact absurd rfl (keyless k).2
      | _ => rfl
    rw [List.foldl_cons, same, ih]

theorem keysDown_eq (h : OneAtATime none events last) : keysDown events = last.toList :=
  h.foldl_downAfter

end OneAtATime

theorem exists_upToQuit_append (events : List Event) :
    ∃ dropped, events = upToQuit events ++ dropped := by
  induction events with
  | nil => exact ⟨[], rfl⟩
  | cons event rest ih =>
    obtain ⟨dropped, split⟩ := ih
    cases event with
    | quit => exact ⟨rest, rfl⟩
    | _ => exact ⟨dropped, congrArg (List.cons _) split⟩

theorem upToQuit_of_quit_notMem {events : List Event} (others : .quit ∉ events) :
    upToQuit events = events := by
  induction events with
  | nil => rfl
  | cons event rest ih =>
    rw [List.mem_cons, not_or] at others
    cases event with
    | quit => exact absurd rfl others.1
    | _ => exact congrArg (List.cons _) (ih others.2)

end Event

namespace Tracker

open Event (OneAtATime)

variable (t : Tracker)

/-! ## One look -/

theorem oneAtATime_observe (poll : Poll) :
    OneAtATime t.held (t.observe poll).2 (t.observe poll).1.held := by
  obtain released | ⟨key, keypad, pressed⟩ | ⟨sent, keyless, same⟩ := t.observe_cases poll
  · rw [released]
    cases t.held with
    | none => exact .nil none
    | some key => exact .release (.nil none)
  · rw [pressed]
    cases held : t.held with
    | none => exact .press keypad (.inl rfl) (.nil _)
    | some previous =>
      by_cases again : previous = key
      · rw [replaced, if_pos again, again]
        exact .press keypad (.inr rfl) (.nil _)
      · rw [replaced, if_neg again]
        exact .release (.press keypad (.inl rfl) (.nil _))
  · rw [same]
    rcases keyless with rfl | rfl | rfl
    · exact .nil _
    · exact .other (fun _ => ⟨nofun, nofun⟩) (.nil _)
    · exact .other (fun _ => ⟨nofun, nofun⟩) (.nil _)

/-! ## All looks -/

theorem observeAll_concat (polls : List Poll) (poll : Poll) :
    let before := t.observeAll polls
    t.observeAll (polls ++ [poll]) =
      ((before.1.observe poll).1, before.2 ++ (before.1.observe poll).2) :=
  List.foldl_append

theorem oneAtATime_observeAll (polls : List Poll) :
    OneAtATime t.held (t.observeAll polls).2 (t.observeAll polls).1.held := by
  induction polls using List.reverseRecOn with
  | nil => exact .nil t.held
  | append_singleton polls poll ih =>
    rw [observeAll_concat]
    exact ih.append ((t.observeAll polls).1.oneAtATime_observe poll)

/-- The first of any number of timeouts releases the held key, and the others find none. -/
theorem observeAll_timeouts (polls : List Poll) (n : Nat) :
    let before := t.observeAll polls
    t.observeAll (polls ++ .replicate (n + 1) .timeout) =
      ({ before.1 with held := none }, before.2 ++ (before.1.held.map Event.keyUp).toList) := by
  intro before
  induction n with
  | zero => exact t.observeAll_concat polls .timeout
  | succ n ih =>
    rw [List.replicate_succ', ← List.append_assoc, observeAll_concat, ih]
    exact Prod.ext rfl (List.append_nil _)

/-- What the tracker sends, up to the first quit, behind which nothing is sent: a key goes up only
while it is the one that is down, and one of the keypad goes down while none or only itself is, so
no two are ever down at once. Before a quit, what is down after each look is the key that is held.
If the terminal is silent, the held key is released once, however long it stays so. -/
theorem sent_in_order (keymap : Keymap) (debug : Bool) (polls : List Poll) :
    let start : Tracker := { keymap, debug }
    let now := (start.observeAll polls).1
    let events := (start.observeAll polls).2
    let sent := Event.upToQuit events
    (∀ before event rest, sent = before ++ event :: rest →
        (∀ k, event = .keyUp k → Event.keysDown before = [k]) ∧
        ∀ k, event = .keyDown k → Emulator.onKeypad k ∧
          (Event.keysDown before = [] ∨ Event.keysDown before = [k])) ∧
      (∀ before, before <+: sent → (Event.keysDown before).length ≤ 1) ∧
      (.quit ∉ events → sent = events ∧ Event.keysDown sent = now.held.toList) ∧
      ∀ n, start.observeAll (polls ++ .replicate (n + 1) .timeout) =
        ({ now with held := none }, events ++ (now.held.map Event.keyUp).toList) := by
  intro start now events sent
  have whole : OneAtATime none events now.held := start.oneAtATime_observeAll polls
  obtain ⟨last, orderly⟩ : ∃ last, OneAtATime none sent last := by
    obtain ⟨dropped, split⟩ := Event.exists_upToQuit_append events
    rw [split] at whole
    obtain ⟨last, first, -⟩ := whole.split
    exact ⟨last, first⟩
  refine ⟨?_, ?_, ?_, start.observeAll_timeouts polls⟩
  · intro before event rest split
    rw [split] at orderly
    obtain ⟨held, first, second⟩ := orderly.split
    rw [first.keysDown_eq]
    constructor
    · rintro k rfl
      cases second with
      | release => rfl
      | other keyless => exact absurd rfl (keyless k).2
    · rintro k rfl
      cases second with
      | press keypad free =>
        refine ⟨keypad, ?_⟩
        obtain rfl | rfl := free
        · exact .inl rfl
        · exact .inr rfl
      | other keyless => exact absurd rfl (keyless k).1
  · rintro before ⟨rest, split⟩
    rw [← split] at orderly
    obtain ⟨held, first, -⟩ := orderly.split
    rw [first.keysDown_eq]
    exact Option.length_toList_le
  · intro others
    have all : sent = events := Event.upToQuit_of_quit_notMem others
    exact ⟨all, by rw [all, whole.keysDown_eq]⟩

end Tracker

end Chip8
