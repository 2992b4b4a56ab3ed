import Chip8.CommandLine.Help
import Chip8.CommandLine.Usage
import Chip8.Log.Filter

/-!
# Reports

What a program leaves behind when it ends: its status, what it prints, and what it logs.
-/

namespace Chip8.Program

open CommandLine (Manual Stop)

structure Report where
  status : Nat := 0
  stdout : List String := []
  stderr : List String := []
  /-- What is logged, to standard error if there is no log file. -/
  records : List Log.Record := []
  logFile : Option String := none
  deriving DecidableEq, Repr

def linesOf (text : String) : List String := text.splitOn "\n"

/-- What is logged, without times. -/
def Report.log (r : Report) : String := String.join (r.records.map (·.text))

/-- Usage errors go to standard error, what was asked for goes to standard output. -/
def Report.ofStop (manual : Manual) : Stop → Report
  | .usage e =>
    { status := 2
      stderr := linesOf ("error: " ++ e.message) ++
        ["", manual.usage, "", "For more information, try '--help'."] }
  | .help full => { stdout := if full then manual.full else manual.summary }
  | .version => { stdout := [manual.version] }

/-- The log filter that the environment asks for. -/
def filterOf (request : Option String) : Log.Filter × List Log.FilterWarning :=
  request.elim ({}, []) Log.Filter.ofText

end Chip8.Program
