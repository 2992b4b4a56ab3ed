import Chip8.Emulator.Run
import Chip8.Proofs.History

/-!
# Runs over a stream of events

A run hands the events of its stream to the emulator one by one, until a quit has been handled or a
fault has come; what is left of the stream is dropped. While no fault has come a run is where its
events lead (`Run.Tracks`), so the whole of it is told by handling the events up to the first quit
(`Emulator.run_agrees`). A run clears the display before anything else, and collisions tell a
program what is lit: where something is, handling the same events without clearing it first may
come to something else (`Emulator.run_on_lit_display`).
-/

namespace Chip8

/-- The events up to the first quit, which is one of them. -/
def Event.upToQuit : List Event → List Event
  | [] => []
  | .quit :: _ => [.quit]
  | event :: rest => event :: upToQuit rest

namespace Run

variable {r : Run} {event : Event}

theorem feed_of_isOver (ended : r.isOver) (event : Event) : r.feed event = r := if_pos ended

theorem foldl_feed_of_isOver (ended : r.isOver) (events : List Event) :
    events.foldl feed r = r := by
  induction events with
  | nil => rfl
  | cons event rest ih => rw [List.foldl_cons, feed_of_isOver ended, ih]

/-- Without a fault a run takes in whatever the emulator makes of the event, a stopped one
included: it makes nothing of it. -/
theorem feed_of_sound (sound : r.fault = none) (event : Event) :
    let reaction := r.emulator.handle event
    (r.feed event).emulator = reaction.emulator ∧
      (r.feed event).calls.toList = r.calls.toList ++ reaction.calls ∧
      (r.feed event).fault = reaction.fault := by
  by_cases stopped : r.emulator.mode = .stopped
  · have ended : r.isOver := by simp [isOver, stopped]
    rw [feed_of_isOver ended, Emulator.handle_of_stopped stopped]
    exact ⟨rfl, (List.append_nil _).symm, sound⟩
  · have goesOn : ¬ r.isOver := by simp [isOver, sound, stopped]
    rw [feed, if_neg goesOn]
    exact ⟨rfl, by simp, rfl⟩

theorem isOver_feed_quit (r : Run) : (r.feed .quit).isOver := by
  by_cases ended : r.isOver
  · rwa [feed_of_isOver ended]
  · have live : r.emulator.mode ≠ .stopped := by
      intro stopped
      exact ended (by simp [isOver, stopped])
    rw [feed, if_neg ended, Emulator.handle_quit live]
    simp [isOver]

/-- What stands behind a quit is dropped. -/
theorem foldl_feed_upToQuit (r : Run) (events : List Event) :
    events.foldl feed r = (Event.upToQuit events).foldl feed r := by
  induction events generalizing r with
  | nil => rfl
  | cons event rest ih =>
    cases event with
    | quit => exact foldl_feed_of_isOver (isOver_feed_quit r) rest
    | _ => exact ih _

theorem finish_of_sound (sound : r.fault = none) :
    r.finish.result = .ok r.emulator.machine ∧
      r.finish.emulator = { r.emulator with mode := .stopped } ∧ r.finish.calls = r.calls := by
  simp [finish, result, sound]

theorem finish_of_fault {fault : StackFault} (failed : r.fault = some fault) :
    r.finish.result = .error fault ∧ r.finish.emulator = r.emulator ∧
      r.finish.calls = r.calls := by
  simp [finish, result, failed]

/-- The run is where the events lead from `e` on, and no fault has come on the way. -/
structure Tracks (r : Run) (opening : List FrontendCall) (e : Emulator) (events : List Event) :
    Prop where
  sound : r.fault = none
  emulator : r.emulator = e.after events
  calls : r.calls.toList = opening ++ (e.reactions events).flatMap (·.calls)

namespace Tracks

variable {opening : List FrontendCall} {e : Emulator} {events : List Event}

/-- The next event comes to the same in the run, with or without a fault. -/
theorem feed (h : r.Tracks opening e events) (event : Event) :
    (r.feed event).emulator = ((e.after events).handle event).emulator ∧
      (r.feed event).calls.toList =
        opening ++ (e.reactions (events ++ [event])).flatMap (·.calls) ∧
      (r.feed event).fault = ((e.after events).handle event).fault := by
  obtain ⟨emulator, calls, fault⟩ := feed_of_sound h.sound event
  rw [h.emulator] at emulator calls fault
  refine ⟨emulator, ?_, fault⟩
  rw [calls, h.calls, Emulator.reactions_append, List.flatMap_append, List.append_assoc]
  simp [Emulator.reactions]

theorem foldl (h : r.Tracks opening e events) {more : List Event}
    (sound : ∀ reaction ∈ (e.after events).reactions more, reaction.fault = none) :
    (more.foldl Run.feed r).Tracks opening e (events ++ more) := by
  induction more generalizing r events with
  | nil => simpa using h
  | cons event rest ih =>
    rw [Emulator.reactions, List.forall_mem_cons] at sound
    obtain ⟨emulator, calls, fault⟩ := h.feed event
    have step : (r.feed event).Tracks opening e (events ++ [event]) :=
      ⟨fault.trans sound.1, by rw [emulator, Emulator.after_append]; rfl, calls⟩
    have others : ∀ reaction ∈ (e.after (events ++ [event])).reactions rest,
        reaction.fault = none := by
      rw [Emulator.after_append]
      exact sound.2
    simpa using ih step others

end Tracks

end Run

namespace Emulator

/-- A run is told by handling the events up to the first quit on a display that is cleared first,
as one is on which nothing is lit. If none of them fails, it gives the machine that they lead to;
else it gives the first fault, and what stands behind the event that failed reaches neither the
machine nor the one who shows it. The display is asked for what handling asks for, after it is
cleared and, in debug mode, a hint is shown. -/
theorem run_agrees (e : Emulator) (events : List Event) :
    let cleared := { e with screen := .blank }
    let p := Event.upToQuit events
    let run := e.run events
    let hint := "DEBUG mode: press ENTER to cycle CPU instructions"
    let opening : List FrontendCall :=
      .screen .clear :: if e.config.debug then [.screen (.message hint)] else []
    (e.screen = .blank → cleared = e) ∧
    ((∀ reaction ∈ cleared.reactions p, reaction.fault = none) →
      run.result = .ok (cleared.after p).machine ∧
      run.emulator = { cleared.after p with mode := .stopped } ∧
      run.calls.toList = opening ++ (cleared.reactions p).flatMap (·.calls)) ∧
    ∀ before event rest fault, p = before ++ event :: rest →
      (∀ reaction ∈ cleared.reactions before, reaction.fault = none) →
      ((cleared.after before).handle event).fault = some fault →
      run.result = .error fault ∧
      run.emulator = ((cleared.after before).handle event).emulator ∧
      run.calls.toList = opening ++ (cleared.reactions (before ++ [event])).flatMap (·.calls) := by
  intro cleared p run hint opening
  have start : (Run.start e).Tracks opening cleared [] := by
    refine ⟨rfl, rfl, ?_⟩
    cases debug : e.config.debug <;> simp [Run.start, opening, hint, debug, reactions]
  have whole : run = (p.foldl Run.feed (Run.start e)).finish :=
    congrArg Run.finish (Run.foldl_feed_upToQuit _ events)
  refine ⟨?_, ?_, ?_⟩
  · intro blank
    simp only [cleared, ← blank]
  · intro sound
    have ends := start.foldl sound
    obtain ⟨result, emulator, calls⟩ := Run.finish_of_sound ends.sound
    rw [ends.emulator] at result emulator
    rw [whole, calls]
    exact ⟨result, emulator, ends.calls⟩
  · intro before event rest fault split sound fails
    have reached := start.foldl sound
    obtain ⟨emulator, calls, failed⟩ := reached.feed event
    rw [List.nil_append, fails] at failed
    have ended : ((before.foldl Run.feed (Run.start e)).feed event).isOver := by
      simp [Run.isOver, failed]
    have dropped : p.foldl Run.feed (Run.start e) =
        (before.foldl Run.feed (Run.start e)).feed event := by
      rw [split, List.foldl_append, List.foldl_cons, Run.foldl_feed_of_isOver ended]
    obtain ⟨result, last, asked⟩ := Run.finish_of_fault failed
    rw [whole, dropped, last, asked]
    exact ⟨result, emulator, calls⟩

/-- On a lit display a run is not told by handling its events. The display shows the sprite that is
drawn again: handling the events notes the collision, and the program goes on to a return that
fails; the run has cleared the display, and the program skips the return. -/
theorem run_on_lit_display :
    let m := { Machine.ofFont .standard with
      memory := (Memory.blank.writeBlock 0 [0xF0]).writeBlock programStart
        [0xD0, 0x01, 0xD0, 0x01, 0x3F, 0x00, 0x00, 0xEE, 0x12, 0x08] }
    let e := (Emulator.ofMachine m {} (.ofSeed 0)).after [.tick]
    let p : List Event := [.tick, .tick, .tick]
    Event.upToQuit p = p ∧
      (e.reactions p).map (·.fault) = [none, none, some (.underflow 0x206)] ∧
      ∃ final, (e.run p).result = .ok final ∧ final.pc = 0x208 ∧ final.reg .flag = 0 := by
  intro m e p
  have faults : (e.reactions p).map (·.fault) = [none, none, some (.underflow 0x206)] := by
    decide +kernel
  have sound : (e.run p).fault = none := by decide +kernel
  have pc : (e.run p).emulator.machine.pc = 0x208 := by decide +kernel
  have flag : (e.run p).emulator.machine.reg .flag = 0 := by decide +kernel
  exact ⟨rfl, faults, _, by rw [Run.result, sound], pc, flag⟩

end Emulator

end Chip8
