import Chip8.Proofs.HeldKey

/-!
# Waiting for a key

`Fx0A` is split between the machine and the emulator: the machine only reports that a key is
awaited, and the emulator holds every instruction back until a key of the keypad goes down. Up to
then events are idle (`Emulator.Idle`): they count frames and release the held key, and nothing else
changes, however many there are (`Emulator.after_of_idle`). The same holds between the press that
ends the wait and the next instruction, so that instruction finds what the press left
(`Emulator.keyWait`).
-/

namespace Chip8.Emulator

variable {e : Emulator} {event : Event} {events : List Event}

/-! ## Idle events -/

/-- Nothing runs, no awaited key comes and the emulator does not stop. -/
structure Idle (e : Emulator) (event : Event) : Prop where
  live : e.mode ≠ .stopped
  other : event ≠ .quit
  rests : ¬ e.Runs event
  unawaited : ∀ k r, event = .keyDown k → onKeypad k → e.mode ≠ .awaitingKey r

/-- The emulator after idle events: frames are counted, and keys go down and up. -/
def idled (e : Emulator) (events : List Event) : Emulator :=
  { e with
    machine := { e.machine with key := events.foldl keyAfter e.machine.key }
    frames := e.frames + events.count .frame }

theorem idled_append (e : Emulator) (before rest : List Event) :
    (e.idled before).idled rest = e.idled (before ++ rest) := by
  simp only [idled, List.foldl_append, List.count_append, Nat.add_assoc]

/-- What is idle depends on the mode alone, which idle events keep. -/
theorem Idle.idled (h : e.Idle event) (before : List Event) : (e.idled before).Idle event :=
  ⟨h.live, h.other, h.rests, h.unawaited⟩

theorem handle_of_idle (h : e.Idle event) :
    (e.handle event).emulator = e.idled [event] ∧ (e.handle event).fault = none := by
  have reacts := handle_reacts h.live event
  generalize e.handle event = r at reacts ⊢
  cases reacts with
  | runs runs => exact absurd runs h.rests
  | quit => exact absurd rfl h.other
  | rests _ pulse => rcases pulse with rfl | rfl <;> exact ⟨rfl, rfl⟩
  | frame => exact ⟨rfl, rfl⟩
  | @press k keypad =>
    have unawaited := fun r => h.unawaited k r rfl keypad
    unfold press
    split
    · next r mode => exact absurd mode (unawaited r)
    · simp [Emulator.idled, keyAfter, keypad, withKey]
  | @release k keypad =>
    by_cases held : e.machine.key = some k
    · simp [release, Emulator.idled, keyAfter, keypad, held, withKey]
    · simp [release, Emulator.idled, keyAfter, keypad, held]
  | ignored keypad of_key =>
    rcases of_key with rfl | rfl <;> simp [Emulator.idled, keyAfter, keypad]

theorem after_of_idle (h : ∀ event ∈ events, e.Idle event) : e.after events = e.idled events := by
  induction events generalizing e with
  | nil => rfl
  | cons event rest ih =>
    rw [List.forall_mem_cons] at h
    have first := (handle_of_idle h.1).1
    have others : ∀ other ∈ rest, (e.idled [event]).Idle other :=
      fun other mem => (h.2 other mem).idled [event]
    rw [after_cons, first, ih others, idled_append]
    rfl

theorem fault_of_idle (h : ∀ event ∈ events, e.Idle event) :
    ∀ r ∈ e.reactions events, r.fault = none := by
  intro r mem
  obtain ⟨before, event, rest, rfl, rfl⟩ := mem_reactions_iff.1 mem
  have idle : ∀ earlier ∈ before, e.Idle earlier :=
    fun earlier mem => h earlier (List.mem_append_left _ mem)
  have next : e.Idle event := h event (by simp)
  rw [after_of_idle idle]
  exact (handle_of_idle (next.idled before)).2

/-! ## The wait -/

theorem keyAfter_of_no_press (h : ∀ k, event = .keyDown k → ¬ onKeypad k) (key : Option Byte) :
    keyAfter key event = key.filter fun k => ¬ (onKeypad k ∧ event = .keyUp k) := by
  cases event with
  | keyDown pressed =>
    have same : keyAfter key (.keyDown pressed) = key := if_neg (h pressed rfl)
    cases key <;> simp [same, Option.filter_some]
  | keyUp released =>
    cases key with
    | none => simp [keyAfter]
    | some k =>
      by_cases same : k = released
      · subst same
        cases keypad : onKeypad k <;> simp [keyAfter, keypad, Option.filter_some]
      · simp [keyAfter, same, Ne.symm same, Option.filter_some]
  | _ => cases key <;> simp [keyAfter, Option.filter_some]

/-- Without a press the key that is down stays down until it is released. -/
theorem foldl_keyAfter_of_no_press (h : ∀ k, .keyDown k ∈ events → ¬ onKeypad k)
    (key : Option Byte) :
    events.foldl keyAfter key = key.filter fun k => ¬ (onKeypad k ∧ .keyUp k ∈ events) := by
  induction events generalizing key with
  | nil => cases key <;> simp [Option.filter_some]
  | cons event rest ih =>
    have first : ∀ k, event = .keyDown k → ¬ onKeypad k := by
      rintro k rfl
      exact h k (List.mem_cons_self ..)
    have others : ∀ k, .keyDown k ∈ rest → ¬ onKeypad k :=
      fun k mem => h k (List.mem_cons_of_mem _ mem)
    have either : ∀ k, ¬ (onKeypad k ∧ .keyUp k ∈ event :: rest) ↔
        ¬ (onKeypad k ∧ event = .keyUp k) ∧ ¬ (onKeypad k ∧ .keyUp k ∈ rest) := by
      intro k
      rw [List.mem_cons, @eq_comm _ event, and_or_left, not_or]
    rw [List.foldl_cons, keyAfter_of_no_press first, ih others, Option.filter_filter]
    simp only [either, Bool.decide_and]

/-- The awaiting instruction moves on and lets the timers run, and then nothing runs. -/
theorem handle_of_awaitKey {x : Reg} (runs : e.Runs event)
    (awaits : e.machine.fetch.operation? = some (.awaitKey x)) :
    e.handle event = {
      emulator := { e with
        machine := { e.machine with pc := e.machine.pc + 2 }.tickTimers
        mode := .awaitingKey x
        executed := e.executed + 1 }
      notes := [.executing e.machine.pc (.awaitKey x), .keyAwaited x] } := by
  rw [handle_of_runs runs]
  simp [cycle, settle, Machine.step, Machine.execute, Instruction.usesRandom, Machine.note, awaits]

theorem idle_of_awaitingKey {x : Reg} (h : e.mode = .awaitingKey x) (others : .quit ∉ events)
    (unpressed : ∀ k, .keyDown k ∈ events → ¬ onKeypad k) : ∀ event ∈ events, e.Idle event := by
  intro event mem
  refine ⟨by simp [h], ?_, by simp [Runs, h], ?_⟩
  · rintro rfl
    exact others mem
  · rintro k r rfl keypad
    exact absurd keypad (unpressed k mem)

theorem handle_press_of_awaitingKey {x : Reg} (h : e.mode = .awaitingKey x) {k : Byte}
    (keypad : onKeypad k) :
    e.handle (.keyDown k) = {
      emulator := { e with
        machine := { e.machine with key := some k }.setReg x k
        mode := e.config.activeMode }
      notes := [.keyStored k x] } := by
  rw [handle_keyDown (by simp [h]) keypad]
  simp [press, h]

/-- In the mode in which instructions run, all is idle that neither runs one nor quits. -/
theorem idle_of_activeMode (h : e.mode = e.config.activeMode) (others : .quit ∉ events)
    (rests : ∀ event ∈ events, ¬ e.Runs event) : ∀ event ∈ events, e.Idle event := by
  intro event mem
  have live : e.mode ≠ .stopped := by
    rw [h]
    exact activeMode_ne_stopped e.config
  refine ⟨live, ?_, rests event mem, ?_⟩
  · rintro rfl
    exact others mem
  · intro k r _ _
    rw [h, Config.activeMode]
    split <;> exact Mode.noConfusion

theorem after_quit (h : e.mode ≠ .stopped) (later : List Event) :
    e.after (.quit :: later) = { e with mode := .stopped } := by
  rw [after_cons, handle_quit h]
  exact after_of_stopped rfl later

/-- A key wait from the event that begins it: what it leaves alone, how a press ends it and what the
next instruction then finds, and how a quit ends it. -/
theorem keyWait {go : Event} {x : Reg} (runs : e.Runs go)
    (awaits : e.machine.fetch.operation? = some (.awaitKey x)) {waiting : List Event}
    (others : .quit ∉ waiting) (unpressed : ∀ k, .keyDown k ∈ waiting → ¬ onKeypad k) :
    let began := (e.handle go).emulator
    let waited := began.after waiting
    began = { e with
      machine := { e.machine with pc := e.machine.pc + 2 }.tickTimers
      mode := .awaitingKey x
      executed := e.executed + 1 } ∧
    waited = { began with
      machine := { began.machine with
        key := began.machine.key.filter fun k => ¬ (onKeypad k ∧ .keyUp k ∈ waiting) }
      frames := began.frames + waiting.count .frame } ∧
    (∀ r ∈ e.reactions (go :: waiting), r.fault = none) ∧
    (∀ k, onKeypad k →
      let pressed := (waited.handle (.keyDown k)).emulator
      pressed = { waited with
        machine := { waited.machine with key := some k }.setReg x k
        mode := e.config.activeMode } ∧
      (waited.handle (.keyDown k)).fault = none ∧
      ∀ idle next, .quit ∉ idle → (∀ event ∈ idle, ¬ pressed.Runs event) → pressed.Runs next →
        let resumed := pressed.after idle
        resumed.machine = { pressed.machine with key := resumed.machine.key } ∧
        resumed.handle next = resumed.cycle ∧
        resumed.machine.fetch = .fetch e.machine.memory (e.machine.pc + 2) ∧
        resumed.machine.reg x = k) ∧
    ∀ later, waited.after (.quit :: later) = { waited with mode := .stopped } := by
  intro began waited
  have begins := handle_of_awaitKey runs awaits
  have start : began = _ := congrArg Reaction.emulator begins
  have idle := idle_of_awaitingKey (show began.mode = .awaitingKey x by rw [start]) others unpressed
  have wait : waited = began.idled waiting := after_of_idle idle
  have mode : waited.mode = .awaitingKey x := by rw [wait, start]; rfl
  have config : waited.config = e.config := by rw [wait, start]; rfl
  refine ⟨start, ?_, ?_, ?_, after_quit (by simp [mode])⟩
  · rw [wait, idled, foldl_keyAfter_of_no_press unpressed]
  · intro r mem
    rw [reactions, List.mem_cons] at mem
    obtain rfl | mem := mem
    · rw [begins]
    · exact fault_of_idle idle r mem
  · intro k keypad pressed
    have ends := handle_press_of_awaitingKey mode keypad
    have left : pressed = _ := congrArg Reaction.emulator ends
    have active : pressed.mode = pressed.config.activeMode := by rw [left]
    refine ⟨by rw [← config]; exact left, congrArg Reaction.fault ends, ?_⟩
    intro quiet next noQuit rests runs resumed
    have resume : resumed = pressed.idled quiet :=
      after_of_idle (idle_of_activeMode active noQuit rests)
    rw [resume]
    refine ⟨rfl, handle_of_runs runs, ?_, ?_⟩
    · rw [left, wait, start]
      rfl
    · rw [left]
      exact Vector.getElem_set_self ..

/-- A wait in debug mode with events of every producer. -/
theorem keyWait_of_step :
    let memory := (Memory.ofFont .standard).withProgram [0xF5, 0x0A]
    let e := ofMachine { Machine.ofFont .standard with memory } { debug := true } (.ofSeed 0)
    let waiting := [.step, .tick, .frame, .keyUp 0x3, .keyDown 0x20]
    e.Runs .step ∧ e.machine.fetch.operation? = some (.awaitKey 5) ∧ .quit ∉ waiting ∧
      (∀ k, .keyDown k ∈ waiting → ¬ onKeypad k) ∧
      let pressed := ((e.handle .step).emulator.after waiting).handle (.keyDown 0x7)
      pressed.emulator.mode = .stepping ∧ pressed.emulator.machine.reg 5 = 0x7 := by
  intro memory e waiting
  have word : memory.word 0x200 = 0xF50A := by
    rw [Memory.word, Memory.read_withProgram _ _ _ (by decide),
      Memory.read_withProgram _ _ _ (by decide)]
    rfl
  have awaits : e.machine.fetch.operation? = some (.awaitKey 5) := by
    show Operation.ofWord? (memory.word 0x200) = _
    rw [word]
    rfl
  have runs : e.Runs .step := .inr ⟨rfl, rfl⟩
  have others : .quit ∉ waiting := by decide
  have unpressed : ∀ k, .keyDown k ∈ waiting → ¬ onKeypad k := by
    intro k mem
    obtain rfl : k = 0x20 := by simpa [waiting] using mem
    decide
  obtain ⟨-, -, -, press, -⟩ := keyWait runs awaits others unpressed
  have left := (press 0x7 rfl).1
  refine ⟨runs, awaits, others, unpressed, congrArg Emulator.mode left, ?_⟩
  rw [left]
  exact Vector.getElem_set_self ..

end Chip8.Emulator
