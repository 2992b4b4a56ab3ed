import Chip8.Program.Disassembler
import Chip8.Program.Emulation

/-!
# The two programs

One executable that is the emulator, or the disassembler if its own name says so. It reads
files, measures time, listens to the keyboard and draws; everything else is decided
elsewhere. The size of the terminal is taken from `COLUMNS` and `LINES`.
-/

namespace Chip8.Program.Live

def fileError : IO.Error → FileError
  | .noFileOrDirectory .. => .notFound
  | .inappropriateType _ code _ => if code = 21 then .isDirectory else .notDirectory
  | .invalidArgument _ 36 _ => .nameTooLong
  | e => .other (toString e)

/-- Runs a file operation and sorts its errors. -/
def attempt {α : Type} (path : String) (action : IO α) : IO (Except FileError α) := do
  match checkPath path with
  | .error e => return .error e
  | .ok _ =>
    try return .ok (← action)
    catch e => return .error (fileError e)

instance : MonadFiles IO where
  read path := attempt path do
    return (← IO.FS.readBinFile path).toList.map (·.toBitVec)
  create path := attempt path (IO.FS.writeFile path "")

/-- Writes records to the log file, or to standard error. -/
def writeLog (file : Option String) (records : List Log.Record) : IO Unit := do
  let now ← IO.monoMsNow
  let text := String.join (records.map fun r => "[" ++ toString now ++ " " ++ r.text)
  unless records.isEmpty do
    match file with
    | some path => do
      let handle ← IO.FS.Handle.mk path .append
      handle.putStr text
    | none => IO.eprint text

/-- Prints a report. -/
def tell (r : Report) : IO UInt32 := do
  r.stdout.forM IO.println
  writeLog r.logFile r.records
  r.stderr.forM IO.eprintln
  return UInt32.ofNat r.status

/-- What has been typed and not been taken yet, and whether anyone still wants it. -/
structure Keyboard where
  typed : IO.Ref (Option ByteArray)
  closed : IO.Ref Bool

/-- Waits until typed bytes are taken. -/
partial def Keyboard.handOver (k : Keyboard) : IO Unit := do
  unless (← k.typed.get).isNone || (← k.closed.get) do
    IO.sleep 5
    k.handOver

/-- Reads what is typed until the keyboard is closed. -/
partial def Keyboard.listen (k : Keyboard) (input : IO.FS.Stream) : IO Unit := do
  let bytes ← input.read 64
  unless bytes.isEmpty do
    k.typed.set (some bytes)
    k.handOver
    unless ← k.closed.get do
      k.listen input

/-- How many times each clock has fired, and when something was typed last. -/
structure Times where
  start : Nat
  ticks : Nat := 0
  frames : Nat := 0
  typed : Nat := 0

/-- Draws the rows over the ones before. -/
def paint (rows : List String) : IO Unit := do
  IO.print ("\x1b[H" ++ "\x1b[K\r\n".intercalate rows ++ "\x1b[K")
  (← IO.getStdout).flush

/-- Drives a session in real time until it is over. -/
partial def drive (e : Emulation) (k : Keyboard) (s : Session) (t : Times) : IO Session := do
  let config := e.options.config
  let now := (← IO.monoMsNow) - t.start
  let mut session := s
  let mut times := t
  if let some bytes ← k.typed.get then
    session := session.type (bytes.toList.map (·.toBitVec))
    times := { times with typed := now }
    k.typed.set none
  else if t.typed + 150 ≤ now then
    session := session.silence
    times := { times with typed := now }
  let ticks := if config.debug then 0 else now * config.instructionsPerSecond / 1000
  session := session.feedTimes .tick (ticks - t.ticks)
  if t.frames * 1000 ≤ now * config.framesPerSecond then
    session := session.feed .frame
    times := { times with frames := now * config.framesPerSecond / 1000 + 1 }
    paint session.terminal.shown.rowTexts
  let records := session.run.notes.toList.map Note.record
  writeLog e.journal.file (e.journal.flushed.write records).admitted
  session := { session with run := { session.run with notes := #[] } }
  if session.isOver then return session
  IO.sleep 1
  drive e k session { times with ticks }

/-- Runs a session on the terminal, which is given back afterwards. -/
def onTerminal (e : Emulation) (s : Session) : IO Report := do
  writeLog e.journal.file e.journal.admitted
  let e := { e with journal := e.journal.flushed }
  let keyboard : Keyboard := { typed := ← IO.mkRef none, closed := ← IO.mkRef false }
  let _ ← IO.asTask (keyboard.listen (← IO.getStdin)) .dedicated
  IO.print "\x1b[?1049h\x1b[?25l\x1b[2J"
  let s ← drive e keyboard s { start := ← IO.monoMsNow }
  keyboard.closed.set true
  IO.print "\x1b[?1049l\x1b[?25h"
  (← IO.getStdout).flush
  return e.finish s

/-- The size of the window, if the environment tells. -/
def windowSize? : IO (Option Terminal.Size) := do
  let number? (name : String) : IO (Option Nat) := do
    return (← IO.getEnv name).bind String.toNat?
  match ← number? "COLUMNS", ← number? "LINES" with
  | some width, some height => return some ⟨width, height⟩
  | _, _ => return none

/-- Runs the emulator. -/
def emulate (arguments : List String) (logRequest : Option String) : IO Report := do
  match ← Emulation.prepare arguments logRequest with
  | .error report => return report
  | .ok e =>
    match ← windowSize? with
    | none => return e.withoutTerminal
    | some size =>
      match e.open? size (.ofSeed (← IO.monoNanosNow)) with
      | .error report => return report
      | .ok session => onTerminal e session

end Chip8.Program.Live

open Chip8.Program in
def main (arguments : List String) : IO UInt32 := do
  let logRequest ← IO.getEnv "RUST_LOG"
  if (← IO.appPath).fileName = some "chipterm-disasm" then
    Live.tell (← Disassembler.report arguments logRequest)
  else
    Live.tell (← Live.emulate arguments logRequest)
