import Chip8.Proofs.SpareEvents
import Chip8.Proofs.Turns

/-!
# Programs that do not ask for keys

Three instructions ask for a key: `Ex9E`, `ExA1` and `Fx0A`. Every other one does the same whichever
key is down (`Machine.step_withKey`), and so does an event that is not of the keyboard
(`Emulator.handle_withKey`), while an event of the keyboard changes nothing but the key as long as
none is awaited. So as long as no instruction asks for a key, the events of the keyboard can be
struck out of a history (`Emulator.thinsOut_of_blind`), and two histories that differ in them only
come to the same (`Emulator.keys_unseen`).
-/

namespace Chip8

/-- Whether the event is of the keyboard. -/
def Event.ofKey : Event → Bool
  | .keyDown _ | .keyUp _ => true
  | _ => false

def Event.keyless (events : List Event) : List Event := events.filter fun event => !event.ofKey

/-- Whether what the operation does depends on the keyboard. -/
def Operation.asksKey : Operation → Bool
  | .skipKey _ | .skipNoKey _ | .awaitKey _ => true
  | _ => false

def Turn.AsksKey (t : Turn) : Prop := ∃ op, t.operation? = some op ∧ op.asksKey

/-! ## The same with another key down -/

def Machine.withKey (m : Machine) (key : Option Byte) : Machine := { m with key }

def Turn.withKey (t : Turn) (key : Option Byte) : Turn := ⟨t.machine.withKey key, t.instruction⟩

def Effect.withKey (effect : Effect) (key : Option Byte) : Effect :=
  { effect with machine := effect.machine.withKey key }

def FrontendCall.withKey (call : FrontendCall) (key : Option Byte) : FrontendCall :=
  match call with
  | .screen call => .screen call
  | .frame view => .frame { view with machine := view.machine.withKey key }

def Reaction.withKey (r : Reaction) (key : Option Byte) : Reaction :=
  { r with emulator := r.emulator.withKey key, calls := r.calls.map (·.withKey key) }

theorem Turn.asksKey_withKey_iff (t : Turn) (key : Option Byte) :
    (t.withKey key).AsksKey ↔ t.AsksKey := Iff.rfl

namespace Machine

theorem push?_withKey (m : Machine) (key : Option Byte) (address : Word) :
    (m.withKey key).push? address = (m.push? address).map (·.withKey key) := by
  unfold push? withKey
  split <;> rfl

theorem pop?_withKey (m : Machine) (key : Option Byte) :
    (m.withKey key).pop? = m.pop?.map fun popped => (popped.1, popped.2.withKey key) := by
  unfold pop? withKey
  cases m.depth <;> rfl

theorem execute_withKey (m : Machine) (key : Option Byte) (screen : Bitmap) (random : Byte)
    {op : Operation} (blind : ¬ op.asksKey) :
    (m.withKey key).execute screen random op = (m.execute screen random op).withKey key := by
  cases op with
  | skipKey | skipNoKey | awaitKey => exact absurd rfl blind
  | ret =>
    simp only [execute, pop?_withKey]
    cases m.pop? <;> rfl
  | call addr =>
    have pushes := m.push?_withKey key m.pc
    simp only [execute]
    rw [show (m.withKey key).pc = m.pc from rfl, pushes]
    cases m.push? m.pc <;> rfl
  | skipEqByte | skipNeByte | skipEqReg | skipNeReg =>
    simp only [execute, skipIf_eq]
    rfl
  | _ => rfl

theorem step_withKey (m : Machine) (key : Option Byte) (screen : Bitmap) (random : Byte)
    {i : Instruction} (blind : ¬ Turn.AsksKey ⟨m, i⟩) :
    (m.withKey key).step screen random i = (m.step screen random i).withKey key := by
  unfold step
  cases operation : i.operation? with
  | none => rfl
  | some op =>
    have unasked : ¬ op.asksKey := fun asks => blind ⟨op, operation, asks⟩
    have executed := execute_withKey { m with pc := m.pc + 2 } key screen random unasked
    exact congrArg (fun effect => { effect with machine := effect.machine.tickTimers }) executed

end Machine

namespace Emulator

variable {e : Emulator} {event : Event} {events : List Event}

theorem settle_withKey (e : Emulator) (key : Option Byte) (i : Instruction) (effect : Effect) :
    (e.withKey key).settle i (effect.withKey key) = (e.settle i effect).withKey key := by
  obtain ⟨machine, screen, _ | call, fault | outcome⟩ := effect
  · rfl
  · cases outcome <;> rfl
  · rfl
  · cases outcome <;> rfl

theorem turn?_withKey (e : Emulator) (key : Option Byte) (event : Event) :
    (e.withKey key).turn? event = (e.turn? event).map (·.withKey key) := by
  have runs_iff : (e.withKey key).Runs event ↔ e.Runs event := Iff.rfl
  by_cases runs : e.Runs event
  · rw [turn?_of_runs runs, turn?_of_runs (runs_iff.2 runs)]
    rfl
  · rw [turn?_of_not_runs runs, turn?_of_not_runs (mt runs_iff.1 runs)]
    rfl

/-- No instruction asks for a key on the way. -/
def Blind (e : Emulator) (events : List Event) : Prop := ∀ turn ∈ e.turns events, ¬ turn.AsksKey

theorem blind_cons_iff : e.Blind (event :: events) ↔
    (∀ turn ∈ e.turn? event, ¬ turn.AsksKey) ∧ (e.handle event).emulator.Blind events := by
  simp [Blind, turns, or_imp, forall_and]

/-! ## One event -/

theorem handle_withKey (e : Emulator) (key : Option Byte) (other : ¬ event.ofKey)
    (blind : ∀ turn ∈ e.turn? event, ¬ turn.AsksKey) :
    (e.withKey key).handle event = (e.handle event).withKey key := by
  by_cases stopped : e.mode = .stopped
  · rw [handle_of_stopped stopped, handle_of_stopped (e := e.withKey key) stopped]
    rfl
  have live : (e.withKey key).mode ≠ .stopped := stopped
  have reacts := handle_reacts stopped event
  generalize e.handle event = reaction at reacts ⊢
  apply (reacts_iff live).1
  cases reacts with
  | runs runs =>
    have unasked := blind _ (turn?_of_runs runs)
    have same : (e.withKey key).cycle = e.cycle.withKey key := by
      have step := e.machine.step_withKey key e.screen e.random.peek unasked
      rw [cycle, cycle, ← settle_withKey, ← step]
      rfl
    rw [← same]
    exact .runs runs
  | rests rests pulse => exact .rests rests pulse
  | quit => exact .quit
  | frame => exact .frame
  | press | release => exact absurd rfl other
  | ignored _ of_key => rcases of_key with rfl | rfl <;> exact absurd rfl other

/-- An event of the keyboard asks nothing of the screen, and where no key is awaited it changes
nothing but the key. -/
theorem handle_ofKey (e : Emulator) (ofKey : event.ofKey) :
    (e.handle event).calls = [] ∧
      ((∀ r, e.mode ≠ .awaitingKey r) → ∃ key, (e.handle event).emulator = e.withKey key) := by
  by_cases stopped : e.mode = .stopped
  · rw [handle_of_stopped stopped]
    exact ⟨rfl, fun _ => ⟨_, rfl⟩⟩
  have reacts := handle_reacts stopped event
  generalize e.handle event = reaction at reacts ⊢
  cases reacts with
  | runs runs => rcases runs with ⟨rfl, -⟩ | ⟨rfl, -⟩ <;> cases ofKey
  | rests _ pulse => rcases pulse with rfl | rfl <;> cases ofKey
  | quit | frame => cases ofKey
  | press =>
    unfold press
    split
    · next r waits => exact ⟨rfl, fun unawaited => absurd waits (unawaited r)⟩
    · exact ⟨rfl, fun _ => ⟨_, rfl⟩⟩
  | release =>
    unfold release
    split <;> exact ⟨rfl, fun _ => ⟨_, rfl⟩⟩
  | ignored => exact ⟨rfl, fun _ => ⟨_, rfl⟩⟩

/-- A wait begins only with an instruction that asks for a key. -/
theorem unawaited_handle (unawaited : ∀ r, e.mode ≠ .awaitingKey r)
    (blind : ∀ turn ∈ e.turn? event, ¬ turn.AsksKey) (r : Reg) :
    (e.handle event).emulator.mode ≠ .awaitingKey r := by
  intro waits
  by_cases stopped : e.mode = .stopped
  · rw [handle_of_stopped stopped] at waits
    exact unawaited r waits
  obtain ⟨executes, awaits⟩ | ⟨already, -⟩ := (handle_awaitingKey_iff stopped).1 waits
  · exact blind _ (turn?_of_runs executes.1) ⟨_, awaits, rfl⟩
  · exact unawaited r already

/-! ## Whole histories -/

/-- The reactions to the events that are not of the keyboard. -/
def otherReactions (e : Emulator) (events : List Event) : List Reaction :=
  ((events.zip (e.reactions events)).filter fun handled => !handled.1.ofKey).map (·.2)

theorem otherReactions_cons (e : Emulator) (event : Event) (rest : List Event) :
    e.otherReactions (event :: rest) =
      if event.ofKey then (e.handle event).emulator.otherReactions rest
      else e.handle event :: (e.handle event).emulator.otherReactions rest := by
  cases ofKey : event.ofKey <;> simp [otherReactions, reactions, ofKey]

theorem turn?_of_ofKey (ofKey : event.ofKey) : e.turn? event = none := by
  apply turn?_of_not_runs
  rintro (⟨rfl, -⟩ | ⟨rfl, -⟩) <;> cases ofKey

theorem keyless_cons (event : Event) (rest : List Event) :
    Event.keyless (event :: rest) =
      if event.ofKey then Event.keyless rest else event :: Event.keyless rest := by
  cases ofKey : event.ofKey <;> simp [Event.keyless, ofKey]

/-- Without the events of the keyboard the same happens with no key down. -/
structure ThinsOut (e : Emulator) (events : List Event) : Prop where
  after : (e.withKey none).after (Event.keyless events) = (e.after events).withKey none
  turns : (e.withKey none).turns (Event.keyless events) = (e.turns events).map (·.withKey none)
  reactions : (e.withKey none).reactions (Event.keyless events) =
    (e.otherReactions events).map (·.withKey none)

namespace ThinsOut

theorem strike (h : (e.handle event).emulator.ThinsOut events) (ofKey : event.ofKey)
    (same : (e.handle event).emulator.withKey none = e.withKey none) :
    e.ThinsOut (event :: events) where
  after := by
    rw [keyless_cons, if_pos ofKey, ← same]
    exact h.after
  turns := by
    rw [keyless_cons, if_pos ofKey, ← same, Emulator.turns, turn?_of_ofKey ofKey]
    exact h.turns
  reactions := by
    rw [keyless_cons, if_pos ofKey, ← same, otherReactions_cons, if_pos ofKey]
    exact h.reactions

theorem keep (h : (e.handle event).emulator.ThinsOut events) (other : ¬ event.ofKey)
    (step : (e.withKey none).handle event = (e.handle event).withKey none) :
    e.ThinsOut (event :: events) := by
  have next : ((e.withKey none).handle event).emulator =
      (e.handle event).emulator.withKey none := congrArg Reaction.emulator step
  refine ⟨?_, ?_, ?_⟩ <;> rw [keyless_cons, if_neg other]
  · rw [after_cons, next]
    exact h.after
  · rw [Emulator.turns, Emulator.turns, next, h.turns, turn?_withKey]
    cases e.turn? event <;> rfl
  · rw [Emulator.reactions, next, h.reactions, step, otherReactions_cons, if_neg other]
    rfl

end ThinsOut

/-- That no instruction asks for a key may be known of the history or of what is left of it. -/
theorem thinsOut_of_blind (unawaited : ∀ r, e.mode ≠ .awaitingKey r)
    (blind : e.Blind events ∨ (e.withKey none).Blind (Event.keyless events)) :
    e.ThinsOut events := by
  induction events generalizing e with
  | nil => exact ⟨rfl, rfl, rfl⟩
  | cons event rest ih =>
    rw [keyless_cons, blind_cons_iff] at blind
    by_cases ofKey : event.ofKey
    · obtain ⟨key, held⟩ := (e.handle_ofKey ofKey).2 unawaited
      have same : (e.handle event).emulator.withKey none = e.withKey none := by rw [held]; rfl
      have idle : ∀ turn ∈ e.turn? event, ¬ turn.AsksKey := by simp [turn?_of_ofKey ofKey]
      rw [if_pos ofKey, ← same] at blind
      have rest_thins := ih (unawaited_handle unawaited idle) (blind.imp_left And.right)
      exact rest_thins.strike ofKey same
    · rw [if_neg ofKey, blind_cons_iff] at blind
      -- The instruction that the event runs is the same in both histories.
      have unasked : ∀ turn ∈ e.turn? event, ¬ turn.AsksKey := by
        obtain ⟨first, -⟩ | ⟨first, -⟩ := blind
        · exact first
        · intro turn mem
          have found : turn.withKey none ∈ (e.withKey none).turn? event := by
            rw [turn?_withKey]
            exact Option.mem_map_of_mem _ mem
          rw [← turn.asksKey_withKey_iff none]
          exact first _ found
      have step := handle_withKey e none ofKey unasked
      rw [step] at blind
      have rest_thins := ih (unawaited_handle unawaited unasked) (blind.imp And.right And.right)
      exact rest_thins.keep ofKey step

theorem screenCalls_withKey (r : Reaction) (key : Option Byte) :
    (r.withKey key).screenCalls = r.screenCalls := by
  simp only [Reaction.screenCalls, Reaction.withKey, List.filterMap_map]
  congr 1
  funext call
  cases call <;> rfl

theorem screenCalls_otherReactions (e : Emulator) (events : List Event) :
    ((e.otherReactions events).map (·.withKey none)).flatMap Reaction.screenCalls =
      (e.reactions events).flatMap Reaction.screenCalls := by
  simp only [List.flatMap_map, screenCalls_withKey]
  induction events generalizing e with
  | nil => rfl
  | cons event rest ih =>
    rw [otherReactions_cons, reactions, List.flatMap_cons, ← ih]
    split
    · next ofKey =>
      rw [Reaction.screenCalls, (e.handle_ofKey ofKey).1, List.filterMap_nil, List.nil_append]
    · rw [List.flatMap_cons]

/-- Two histories that differ in events of the keyboard only come to the same but for the key that
is down, if no instruction asks for a key in the first of them. The same instructions run on the
same machines, the screen is asked for the same, and each event that is not of the keyboard comes to
the same. -/
theorem keys_unseen (m : Machine) (screen : Bitmap) (config : Config) (random : RandomSource)
    {first second : List Event} (same : Event.keyless first = Event.keyless second)
    (blind : { ofMachine m config random with screen }.Blind first) :
    let e := { ofMachine m config random with screen }
    (∃ key, e.after second = (e.after first).withKey key) ∧
      (e.turns second).map (·.withKey none) = (e.turns first).map (·.withKey none) ∧
      (e.otherReactions second).map (·.withKey none) =
        (e.otherReactions first).map (·.withKey none) ∧
      (e.reactions second).flatMap Reaction.screenCalls =
        (e.reactions first).flatMap Reaction.screenCalls := by
  intro e
  have unawaited : ∀ r, e.mode ≠ .awaitingKey r := by
    intro r
    show config.activeMode ≠ .awaitingKey r
    unfold Config.activeMode
    split <;> exact Mode.noConfusion
  obtain ⟨after, turns, reactions⟩ := thinsOut_of_blind unawaited (.inl blind)
  have blind' : (e.withKey none).Blind (Event.keyless second) := by
    rw [← same, Blind, turns, List.forall_mem_map]
    exact blind
  obtain ⟨after', turns', reactions'⟩ := thinsOut_of_blind unawaited (.inr blind')
  rw [same] at after turns reactions
  have agree : (e.otherReactions second).map (·.withKey none) =
      (e.otherReactions first).map (·.withKey none) := reactions'.symm.trans reactions
  refine ⟨⟨(e.after second).machine.key, ?_⟩, turns'.symm.trans turns, agree, ?_⟩
  · have states : (e.after second).withKey none = (e.after first).withKey none :=
      after'.symm.trans after
    exact congrArg (·.withKey (e.after second).machine.key) states
  · rw [← screenCalls_otherReactions, ← screenCalls_otherReactions, agree]

/-- Keys go down and up around an instruction that loads a register. -/
theorem keys_unseen_of_load :
    let m := { Machine.ofFont .standard with
      memory := (Memory.ofFont .standard).withProgram [0x60, 0x05] }
    let e := ofMachine m {} (.ofSeed 0)
    let first := [.keyDown 0x3, .tick, .keyUp 0x3]
    let second := [.tick, .keyUp 0x3, .keyDown 0x7]
    Event.keyless first = Event.keyless second ∧ e.Blind first ∧
      e.after second = (e.after first).withKey (some 0x7) := by
  intro m e first second
  have word : m.memory.word (programStart + 0) = 0x6005 :=
    Memory.word_withProgram (.ofFont .standard) [0x60, 0x05] (by decide)
  have same : Event.keyless first = Event.keyless second := by decide
  have blind : e.Blind first := by
    have loads : m.fetch.operation? = some (.setByte 0 0x05) := congrArg Operation.ofWord? word
    have turns : e.turns first = [⟨m.withKey (some 0x3), m.fetch⟩] := rfl
    rw [Blind, turns, List.forall_mem_singleton]
    rintro ⟨op, operation, asks⟩
    obtain rfl := Option.some.inj (loads.symm.trans operation)
    cases asks
  have unseen : ∃ key, e.after second = (e.after first).withKey key :=
    (keys_unseen m .blank {} (.ofSeed 0) same blind).1
  obtain ⟨key, agree⟩ := unseen
  have live : e.mode ≠ .stopped := Mode.noConfusion
  have held : (e.after second).machine.key = some 0x7 := after_key live (by decide)
  obtain rfl : key = some 0x7 := by rw [← held, agree]; rfl
  exact ⟨same, blind, agree⟩

end Emulator

end Chip8
