import Chip8.Session.Basic
import Chip8.Text.Basic

/-!
# Scripted sessions

A script says what a user types and what he waits to see. It is played on clocks that run in
rounds: a round is a number of ticks in proportion to the two rates and then a frame, and
after some rounds without typing a held key is released. What is typed at once is handled
before the next round. So what a user sees who waits for a state that lasts does not depend
on how the rounds are cut.
-/

namespace Chip8

/-- One act of a user. -/
inductive Act where
  | type (text : String)
  /-- Wait for a frame that holds each of the texts within some row. -/
  | await (texts : List String)
  deriving DecidableEq, Repr

/-- How far apart the events of the clocks and of the keyboard are. -/
structure Pace where
  ticksPerRound : Nat
  /-- Rounds without typing until a held key is released. -/
  patience : Nat
  deriving DecidableEq, Repr

/-- In debug mode there are no ticks. A key is released after 150 milliseconds. -/
def Config.pace (c : Config) : Pace where
  ticksPerRound :=
    if c.debug then 0 else min 64 (max 1 (c.instructionsPerSecond / c.framesPerSecond))
  patience := min 40 (c.framesPerSecond * 150 / 1000 + 1)

structure Playback where
  session : Session
  pace : Pace
  /-- Rounds since something was typed. -/
  quiet : Nat := 0
  /-- The rows that the user has noted, each list for one wait. -/
  noted : List (Option (List String)) := []

namespace Playback

/-- The rounds after which a wait is given up. -/
abbrev horizon : Nat := 4000

def round (p : Playback) : Playback :=
  let session := (p.session.feedTimes .tick p.pace.ticksPerRound).feed .frame
  if p.quiet + 1 = p.pace.patience then { p with session := session.silence, quiet := 0 }
  else { p with session, quiet := p.quiet + 1 }

/-- Whether each text is part of some row. -/
def holds (rows texts : List String) : Bool :=
  texts.all fun text => rows.any fun row => Text.occursIn text.toList row.toList

/-- Plays rounds until the rows hold the texts, and gives the rows. -/
def await (texts : List String) : Nat → Playback → Playback × Option (List String)
  | 0, p => (p, none)
  | n + 1, p =>
    let rows := p.session.terminal.shown.rowTexts
    if holds rows texts then (p, some rows)
    else if p.session.isOver then (p, none)
    else await texts n p.round

def act (p : Playback) : Act → Playback
  | .type text => { p with session := p.session.type (Text.encoded text), quiet := 0 }
  | .await texts =>
    let (p, rows) := await texts horizon p.round
    { p with noted := p.noted ++ [rows] }

/-- Plays rounds until the session is over. -/
def drain : Nat → Playback → Playback
  | 0, p => p
  | n + 1, p => if p.session.isOver then p else drain n p.round

end Playback

/-- Plays a script and then lets the session go on until it ends. -/
def Session.play (s : Session) (config : Config) (script : List Act) : Playback :=
  (script.foldl Playback.act { session := s, pace := config.pace }).drain Playback.horizon

end Chip8
