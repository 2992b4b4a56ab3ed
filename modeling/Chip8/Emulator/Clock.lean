import Chip8.Emulator.Event

/-!
# Clocks

The frame clock always runs; the instruction clock runs outside debug mode. A clock needs a
rate above zero.
-/

namespace Chip8

inductive Clock where
  | frame
  | cpu
  deriving DecidableEq, Repr

/-- A clock was asked to run at no rate. -/
structure ZeroRate where
  clock : Clock
  deriving DecidableEq, Repr

namespace Clock

def name : Clock → String
  | frame => "chipterm_frame_clock"
  | cpu => "chipterm_cpu_clock"

def event : Clock → Event
  | frame => .frame
  | cpu => .tick

def rate (config : Config) : Clock → Nat
  | frame => config.framesPerSecond
  | cpu => config.instructionsPerSecond

end Clock

def ZeroRate.message (e : ZeroRate) : String := e.clock.name ++ " needs a rate above 0 Hz"

/-- The clocks that a configuration asks for, in the order in which they start. -/
def Config.clocks (config : Config) : Except ZeroRate (List Clock) :=
  let wanted := if config.debug then [Clock.frame] else [Clock.frame, Clock.cpu]
  match wanted.find? fun clock => clock.rate config = 0 with
  | some clock => .error ⟨clock⟩
  | none => .ok wanted

end Chip8
