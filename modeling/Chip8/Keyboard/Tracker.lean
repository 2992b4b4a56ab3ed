import Chip8.Keyboard.Keymap

/-!
# The held key

A terminal reports key presses only. The tracker remembers which keypad key is held and
releases it when another key is pressed or when the terminal has been silent for a while.
At most one key is down at a time.
-/

namespace Chip8

structure Tracker where
  keymap : Keymap
  debug : Bool
  held : Option Byte := none
  deriving DecidableEq, Repr

namespace Tracker

/-- The release of a held key that a press of `key` replaces. -/
def replaced (held : Option Byte) (key : Byte) : List Event :=
  match held with
  | some previous => if previous = key then [] else [.keyUp previous]
  | none => []

/-- Takes in what one look at the terminal brought and gives the events to send, in order. -/
def observe (t : Tracker) : Poll → Tracker × List Event
  | .timeout => ({ t with held := none }, (t.held.map Event.keyUp).toList)
  | .other => (t, [])
  | .key k =>
    match t.keymap.event? t.debug k with
    | none => (t, [])
    | some (.keyDown key) =>
      ({ t with held := some key }, replaced t.held key ++ [.keyDown key])
    | some event => (t, [event])

/-- Takes in a series of looks at the terminal. -/
def observeAll (t : Tracker) (polls : List Poll) : Tracker × List Event :=
  polls.foldl (fun (t, events) poll =>
    let (t, more) := t.observe poll
    (t, events ++ more)) (t, [])

end Tracker

end Chip8
