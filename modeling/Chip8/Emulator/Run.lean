import Chip8.Emulator.Basic

/-!
# A whole run

`Emulator.run` feeds a stream of events to an emulator until it is asked to quit, a fault
halts the machine, or the stream ends. Whatever comes after the end of a run is dropped.
-/

namespace Chip8

/-- A run as far as it has got. -/
structure Run where
  emulator : Emulator
  calls : Array FrontendCall
  notes : Array Note
  fault : Option StackFault := none

namespace Run

/-- The display is cleared, and in debug mode the user is told how to go on. -/
def start (e : Emulator) : Run where
  emulator := { e with screen := .blank }
  calls :=
    let clear := .screen .clear
    let hint := .screen (.message "DEBUG mode: press ENTER to cycle CPU instructions")
    if e.config.debug then #[clear, hint] else #[clear]
  notes := #[.started e.config]

def isOver (r : Run) : Bool := r.fault.isSome || r.emulator.mode = .stopped

/-- Handles one event, unless the run is over. -/
def feed (r : Run) (event : Event) : Run :=
  if r.isOver then r
  else
    let reaction := r.emulator.handle event
    { emulator := reaction.emulator
      calls := r.calls ++ reaction.calls
      notes := r.notes ++ reaction.notes
      fault := reaction.fault }

/-- Ends the run: with the fault if there is one, else because a quit was handled or because
no more events come. -/
def finish (r : Run) : Run :=
  match r.fault with
  | some fault => { r with notes := r.notes.push (.halted r.emulator.machine.pc fault) }
  | none =>
    let closed := if r.emulator.mode = .stopped then #[] else #[.sourcesClosed]
    let summary := .stopped r.emulator.executed r.emulator.frames
    { r with
      emulator := { r.emulator with mode := .stopped }
      notes := (r.notes ++ closed).push summary }

/-- The final machine, or the fault that halted it. -/
def result (r : Run) : Except StackFault Machine :=
  match r.fault with
  | some fault => .error fault
  | none => .ok r.emulator.machine

end Run

/-- Runs the emulator on a stream of events that ends. -/
def Emulator.run (e : Emulator) (events : List Event) : Run :=
  (events.foldl Run.feed (Run.start e)).finish

end Chip8
