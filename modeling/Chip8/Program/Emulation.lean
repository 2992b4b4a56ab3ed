import Chip8.Program.Report
import Chip8.Session.Basic

/-!
# The emulator as a program

What the program does before it takes over the terminal, and what it leaves behind when it
ends. The log file is made before anything is loaded; without one the terminal stays free of
records, except for targets that the log filter names.
-/

namespace Chip8.Program

open CommandLine

/-- The log of a program that is running. -/
structure Journal where
  file : Option String
  filter : Log.Filter
  warnings : List String
  /-- What has been said, whether the filter admits it or not. -/
  records : List Log.Record := []

namespace Journal

/-- Under which name the program logs. -/
def target : String := "chipterm"

def write (j : Journal) (records : List Log.Record) : Journal :=
  { j with records := j.records ++ records }

def say (j : Journal) (level : Log.Level) (message : String) : Journal :=
  j.write [⟨level, target, message⟩]

/-- What is logged. -/
def admitted (j : Journal) : List Log.Record := j.records.filter j.filter.admits

/-- The journal after what it holds has been written. -/
def flushed (j : Journal) : Journal := { j with records := [] }

/-- The end of the program. -/
def close (j : Journal) (status : Nat) (stderr : List String) : Report where
  status
  stderr := j.warnings ++ stderr
  records := j.admitted
  logFile := j.file

/-- The end of the program for a reason that is both logged and printed. -/
def fail (j : Journal) (message : String) : Report :=
  (j.say .error message).close 1 (linesOf (target ++ ": " ++ message))

/-- The journal that the environment and the choice of a log file ask for. Without a file
only targets that the environment names are logged. -/
def ofRequest (logRequest file : Option String) : Journal :=
  let (filter, warnings) := filterOf logRequest
  { file
    filter := if file.isSome then filter else filter.put ⟨none, none⟩
    warnings := warnings.flatMap fun w => linesOf w.message }

end Journal

/-- The program at the point where it takes over the terminal. -/
structure Emulation where
  options : Options
  machine : Machine
  journal : Journal

namespace Emulation

variable {m : Type → Type} [Monad m] [MonadFiles m]

/-- What is logged of a machine that was loaded. -/
def loadRecords (o : Options) (machine : Machine) : List Log.Record :=
  [(Note.programLoaded machine.programSize).record,
    ⟨.info, Journal.target,
      "loaded " ++ o.rom ++ " (" ++ toString machine.programSize ++ " bytes)"⟩]

/-- Makes the log file, if there is to be one. -/
def openLog (o : Options) : m (Except FileError Unit) :=
  match o.logFile with
  | some path => MonadFiles.create path
  | none => pure (.ok ())

/-- Reads the command line and the files it names. -/
def prepare (arguments : List String) (logRequest : Option String) :
    m (Except Report Emulation) := do
  match Options.ofArguments arguments with
  | .error stop => return .error (.ofStop emulatorManual stop)
  | .ok options =>
    let journal := Journal.ofRequest logRequest options.logFile
    match ← openLog options with
    | .error e =>
      let message := "failed to create log file " ++ options.logFile.getD "" ++ ": " ++ e.message
      return .error (journal.close 1 (linesOf (Journal.target ++ ": " ++ message)))
    | .ok () =>
      match ← options.readMachine with
      | .error e => return .error (journal.fail e.message)
      | .ok machine =>
        let journal := journal.write (loadRecords options machine)
        return .ok { options, machine, journal }

/-- Starts a session in a window of the given size, or gives up. -/
def open? (e : Emulation) (size : Terminal.Size) (random : RandomSource) :
    Except Report Session :=
  (Session.open? e.options e.machine size random).mapError fun error =>
    e.journal.fail error.message

/-- Gives up because there is no terminal to take over. -/
def withoutTerminal (e : Emulation) : Report :=
  e.journal.fail "No such device or address (os error 6)"

/-- The end of the program after a session, whose notes have not been logged yet. -/
def finish (e : Emulation) (s : Session) : Report :=
  let journal := e.journal.write (s.run.finish.notes.toList.map Note.record)
  match s.outcome with
  | .error error => journal.fail error.message
  | .ok machine => (journal.say .info ("stopped at " ++ hexMarked 3 machine.pc.toNat)).close 0 []

end Emulation

end Chip8.Program
