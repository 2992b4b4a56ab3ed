import Chip8.Emulator.Basic

/-!
# Histories

What a list of events makes of an emulator: the state it ends in and the reactions on the way.
A fault does not end a history; the events behind it are handled like any others. `Reacts` says
once what a single event can come to, and `after_induction` carries what every event keeps over to
whole histories.
-/

namespace Chip8.Emulator

variable {e : Emulator} {event : Event}

/-- The emulator after a list of events. -/
def after (e : Emulator) (events : List Event) : Emulator :=
  events.foldl (fun e event => (e.handle event).emulator) e

/-- The reactions to a list of events, one for each. -/
def reactions (e : Emulator) : List Event → List Reaction
  | [] => []
  | event :: rest => e.handle event :: (e.handle event).emulator.reactions rest

/-- The event makes the emulator run an instruction. -/
def Runs (e : Emulator) (event : Event) : Prop :=
  event = .tick ∧ e.mode = .running ∨ event = .step ∧ e.mode = .stepping

instance : Decidable (e.Runs event) := inferInstanceAs (Decidable (_ ∨ _))

@[simp] theorem after_nil (e : Emulator) : e.after [] = e := rfl

@[simp] theorem after_cons (e : Emulator) (event : Event) (rest : List Event) :
    e.after (event :: rest) = (e.handle event).emulator.after rest := rfl

theorem after_append (e : Emulator) (before rest : List Event) :
    e.after (before ++ rest) = (e.after before).after rest :=
  List.foldl_append

theorem reactions_append (e : Emulator) (before rest : List Event) :
    e.reactions (before ++ rest) = e.reactions before ++ (e.after before).reactions rest := by
  induction before generalizing e with
  | nil => rfl
  | cons event before ih => rw [List.cons_append, reactions, reactions, ih, List.cons_append]; rfl

/-- What every event of a kind keeps, every list of such events keeps. -/
theorem after_induction {P : Emulator → Prop} {Q : Event → Prop}
    (keep : ∀ e event, Q event → P e → P (e.handle event).emulator) {events : List Event}
    (all : ∀ event ∈ events, Q event) (start : P e) : P (e.after events) := by
  induction events generalizing e with
  | nil => exact start
  | cons event rest ih =>
    rw [List.forall_mem_cons] at all
    exact ih all.2 (keep e event all.1 start)

/-- A reaction is the handling of one event in the state that the events before it left. -/
theorem mem_reactions_iff {events : List Event} {r : Reaction} :
    r ∈ e.reactions events ↔ ∃ before event rest,
      events = before ++ event :: rest ∧ r = (e.after before).handle event := by
  induction events generalizing e with
  | nil => simp [reactions]
  | cons first rest ih =>
    rw [reactions, List.mem_cons, ih]
    constructor
    · rintro (rfl | ⟨before, event, tail, rfl, rfl⟩)
      · exact ⟨[], first, rest, rfl, rfl⟩
      · exact ⟨first :: before, event, tail, rfl, rfl⟩
    · rintro ⟨before, event, tail, split, rfl⟩
      cases before with
      | nil =>
        rw [List.nil_append, List.cons.injEq] at split
        exact .inl (by rw [split.1, after_nil])
      | cons head before =>
        rw [List.cons_append, List.cons.injEq] at split
        exact .inr ⟨before, event, tail, split.2, by rw [split.1, after_cons]⟩

/-! ## Single events -/

section SingleEvents

attribute [local simp] handle

theorem handle_of_stopped (h : e.mode = .stopped) (event : Event) :
    e.handle event = { emulator := e } := by
  cases event <;> simp [h]

theorem after_of_stopped (h : e.mode = .stopped) (events : List Event) : e.after events = e := by
  induction events with
  | nil => rfl
  | cons event rest ih => rw [after_cons, handle_of_stopped h, ih]

theorem handle_quit (h : e.mode ≠ .stopped) :
    e.handle .quit = { emulator := { e with mode := .stopped }, notes := [.quitRequested] } := by
  cases mode : e.mode <;> simp_all

theorem handle_frame (h : e.mode ≠ .stopped) :
    e.handle .frame =
      { emulator := { e with frames := e.frames + 1 }, calls := [.frame e.frame] } := by
  cases mode : e.mode <;> simp_all

theorem handle_keyDown (h : e.mode ≠ .stopped) {key : Byte} (keypad : onKeypad key) :
    e.handle (.keyDown key) = e.press key := by
  cases mode : e.mode <;> simp_all

theorem handle_keyUp (h : e.mode ≠ .stopped) {key : Byte} (keypad : onKeypad key) :
    e.handle (.keyUp key) = e.release key := by
  cases mode : e.mode <;> simp_all

/-- A key that is not on the keypad is only reported. -/
theorem handle_offKeypad (h : e.mode ≠ .stopped) {key : Byte} (keypad : ¬ onKeypad key)
    (of_key : event = .keyDown key ∨ event = .keyUp key) :
    e.handle event = { emulator := e, notes := [.keyIgnored key] } := by
  rcases of_key with rfl | rfl <;> cases mode : e.mode <;> simp_all

theorem handle_of_runs (h : e.Runs event) : e.handle event = e.cycle := by
  rcases h with ⟨rfl, mode⟩ | ⟨rfl, mode⟩ <;> simp [mode]

/-- A tick or a step for which nothing runs is lost. -/
theorem handle_of_not_runs (h : ¬ e.Runs event) (pulse : event = .tick ∨ event = .step) :
    e.handle event = { emulator := e } := by
  rcases pulse with rfl | rfl <;> cases mode : e.mode <;> simp_all [Runs]

end SingleEvents

/-- What an event can come to before a quit. -/
inductive Reacts (e : Emulator) : Event → Reaction → Prop
  | runs {event : Event} : e.Runs event → e.Reacts event e.cycle
  | rests {event : Event} : ¬ e.Runs event → event = .tick ∨ event = .step →
      e.Reacts event { emulator := e }
  | quit : e.Reacts .quit { emulator := { e with mode := .stopped }, notes := [.quitRequested] }
  | frame : e.Reacts .frame
      { emulator := { e with frames := e.frames + 1 }, calls := [.frame e.frame] }
  | press {key : Byte} : onKeypad key → e.Reacts (.keyDown key) (e.press key)
  | release {key : Byte} : onKeypad key → e.Reacts (.keyUp key) (e.release key)
  | ignored {event : Event} {key : Byte} : ¬ onKeypad key →
      event = .keyDown key ∨ event = .keyUp key →
      e.Reacts event { emulator := e, notes := [.keyIgnored key] }

theorem reacts_iff (h : e.mode ≠ .stopped) {r : Reaction} :
    e.Reacts event r ↔ e.handle event = r := by
  constructor
  · intro reacts
    cases reacts with
    | runs runs => exact handle_of_runs runs
    | rests rests pulse => exact handle_of_not_runs rests pulse
    | quit => exact handle_quit h
    | frame => exact handle_frame h
    | press keypad => exact handle_keyDown h keypad
    | release keypad => exact handle_keyUp h keypad
    | ignored keypad of_key => exact handle_offKeypad h keypad of_key
  · rintro rfl
    by_cases runs : e.Runs event
    · rw [handle_of_runs runs]
      exact .runs runs
    cases event with
    | tick =>
      rw [handle_of_not_runs runs (.inl rfl)]
      exact .rests runs (.inl rfl)
    | step =>
      rw [handle_of_not_runs runs (.inr rfl)]
      exact .rests runs (.inr rfl)
    | frame =>
      rw [handle_frame h]
      exact .frame
    | quit =>
      rw [handle_quit h]
      exact .quit
    | keyDown key =>
      by_cases keypad : onKeypad key
      · rw [handle_keyDown h keypad]
        exact .press keypad
      · rw [handle_offKeypad h keypad (.inl rfl)]
        exact .ignored keypad (.inl rfl)
    | keyUp key =>
      by_cases keypad : onKeypad key
      · rw [handle_keyUp h keypad]
        exact .release keypad
      · rw [handle_offKeypad h keypad (.inr rfl)]
        exact .ignored keypad (.inr rfl)

theorem handle_reacts (h : e.mode ≠ .stopped) (event : Event) : e.Reacts event (e.handle event) :=
  (reacts_iff h).2 rfl

/-! ## One instruction -/

theorem settle_machine (e : Emulator) (i : Instruction) (effect : Effect) :
    (e.settle i effect).emulator.machine = effect.machine := by
  obtain ⟨machine, screen, call, fault | outcome⟩ := effect
  · rfl
  · cases outcome <;> rfl

theorem settle_ne_stopped (h : e.mode ≠ .stopped) (i : Instruction) (effect : Effect) :
    (e.settle i effect).emulator.mode ≠ .stopped := by
  obtain ⟨machine, screen, call, fault | outcome⟩ := effect
  · exact h
  · cases outcome with
    | awaitKey r => exact Mode.noConfusion
    | _ => exact h

theorem cycle_machine (e : Emulator) :
    e.cycle.emulator.machine = (e.machine.step e.screen e.random.peek e.machine.fetch).machine :=
  settle_machine ..

/-! ## What no event changes -/

theorem settle_kept (e : Emulator) (i : Instruction) (effect : Effect) :
    (e.settle i effect).emulator.config = e.config ∧
      (e.settle i effect).emulator.listing = e.listing := by
  obtain ⟨machine, screen, call, fault | outcome⟩ := effect
  · exact ⟨rfl, rfl⟩
  · cases outcome <;> exact ⟨rfl, rfl⟩

theorem handle_kept (e : Emulator) (event : Event) :
    (e.handle event).emulator.config = e.config ∧
      (e.handle event).emulator.listing = e.listing := by
  by_cases stopped : e.mode = .stopped
  · rw [handle_of_stopped stopped]
    exact ⟨rfl, rfl⟩
  have reacts := handle_reacts stopped event
  generalize e.handle event = reaction at reacts ⊢
  cases reacts with
  | runs => exact settle_kept ..
  | press =>
    unfold press
    split <;> exact ⟨rfl, rfl⟩
  | release =>
    unfold release
    split <;> exact ⟨rfl, rfl⟩
  | rests | quit | frame | ignored => exact ⟨rfl, rfl⟩

theorem handle_config (e : Emulator) (event : Event) :
    (e.handle event).emulator.config = e.config :=
  (handle_kept e event).1

theorem after_config (e : Emulator) (events : List Event) : (e.after events).config = e.config :=
  after_induction (P := fun e' => e'.config = e.config) (Q := fun _ => True)
    (fun e' event _ same => (handle_config e' event).trans same) (fun _ _ => trivial) rfl

theorem after_listing (e : Emulator) (events : List Event) :
    (e.after events).listing = e.listing :=
  after_induction (P := fun e' => e'.listing = e.listing) (Q := fun _ => True)
    (fun e' event _ same => (handle_kept e' event).2.trans same) (fun _ _ => trivial) rfl

/-! ## What only a quit does -/

theorem activeMode_ne_stopped (config : Config) : config.activeMode ≠ .stopped := by
  unfold Config.activeMode
  split <;> exact Mode.noConfusion

theorem handle_ne_stopped (h : e.mode ≠ .stopped) (other : event ≠ .quit) :
    (e.handle event).emulator.mode ≠ .stopped := by
  have reacts := handle_reacts h event
  generalize e.handle event = r at reacts ⊢
  cases reacts with
  | runs => exact settle_ne_stopped h _ _
  | quit => contradiction
  | press =>
    unfold press
    split
    · exact activeMode_ne_stopped _
    · exact h
  | release =>
    unfold release
    split <;> exact h
  | rests | frame | ignored => exact h

theorem ne_stopped_of_handle (h : (e.handle event).emulator.mode ≠ .stopped) :
    e.mode ≠ .stopped := by
  intro stopped
  rw [handle_of_stopped stopped] at h
  exact h stopped

theorem after_ne_stopped (h : e.mode ≠ .stopped) {events : List Event} (others : .quit ∉ events) :
    (e.after events).mode ≠ .stopped := by
  refine after_induction (P := fun e => e.mode ≠ .stopped) (Q := fun event => event ≠ .quit)
    (fun _ _ other live => handle_ne_stopped live other) ?_ h
  rintro event mem rfl
  exact others mem

end Chip8.Emulator
