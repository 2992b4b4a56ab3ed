import Chip8.Emulator.Clock
import Chip8.Emulator.Run
import Chip8.Keyboard.Tracker
import Chip8.Keyboard.Typed
import Chip8.Session.Load
import Chip8.Terminal.Basic

/-!
# Sessions

A session is an emulator that runs in a terminal: what it asks for is drawn, and what is
typed becomes its events. `Session.open?` starts one if the terminal is large enough and the
clocks can run; `feed`, `type` and `silence` drive it; `outcome` says how it went.
-/

namespace Chip8

open CommandLine (Options)

/-- Why there is no session, or how it came to a bad end. -/
inductive SessionError where
  | load (e : LoadError)
  | terminal (e : Terminal.TooSmall)
  | clocks (e : ZeroRate)
  | fault (e : StackFault)
  deriving DecidableEq, Repr

def SessionError.message : SessionError → String
  | load e => e.message
  | terminal e => e.message
  | clocks e => "failed to start clock threads: " ++ e.message
  | fault e => e.message

structure Session where
  run : Run
  terminal : Terminal
  tracker : Tracker
  typing : Typing := {}

namespace Session

/-- Carries out what the emulator asked for since the last time. -/
def present (s : Session) : Session :=
  { s with
    run := { s.run with calls := #[] }
    terminal := s.run.calls.foldl Terminal.apply s.terminal }

/-- Starts a machine in a window of the given size. -/
def open? (o : Options) (machine : Machine) (size : Terminal.Size) (random : RandomSource) :
    Except SessionError Session :=
  match Terminal.open? size, o.config.clocks with
  | .error e, _ => .error (.terminal e)
  | .ok _, .error e => .error (.clocks e)
  | .ok terminal, .ok _ =>
    let run := Run.start (.ofMachine machine o.config random)
    let tracker := { keymap := o.keymap, debug := o.debug }
    .ok { run, terminal, tracker : Session }.present

def isOver (s : Session) : Bool := s.run.isOver

def feed (s : Session) (event : Event) : Session :=
  { s with run := s.run.feed event }.present

/-- Feeds an event a number of times. -/
def feedTimes (s : Session) (event : Event) : Nat → Session
  | 0 => s
  | n + 1 => (s.feed event).feedTimes event n

/-- Takes in what a look at the terminal brought. -/
def observe (s : Session) (poll : Poll) : Session :=
  let (tracker, events) := s.tracker.observe poll
  events.foldl feed { s with tracker }

/-- Nothing was typed for as long as a held key takes to be released. -/
def silence (s : Session) : Session := s.observe .timeout

/-- Takes in bytes that were typed at once. -/
def type (s : Session) (bytes : List Byte) : Session :=
  let (typing, polls) := s.typing.pushAll bytes
  polls.foldl observe { s with typing }

/-- The final machine of a session that is over, or why it ended badly. -/
def outcome (s : Session) : Except SessionError Machine :=
  s.run.finish.result.mapError .fault

end Session

end Chip8
