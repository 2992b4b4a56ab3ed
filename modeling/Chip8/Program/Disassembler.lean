import Chip8.CommandLine.Options
import Chip8.Files
import Chip8.Program.Report

/-!
# The disassembler

Prints the disassembly of the file that the command line names.
-/

namespace Chip8.Program.Disassembler

open CommandLine

variable {m : Type → Type} [Monad m] [MonadFiles m]

/-- The disassembly of a file of the given content. -/
def reportOf (path : String) (content : Except FileError (List Byte)) : Report :=
  match content with
  | .ok image => { stdout := disassemble image }
  | .error e =>
    { status := 1
      stderr := linesOf ("Error: error while reading file " ++ path) ++
        ["", "Caused by:", "    " ++ e.message] }

/-- Runs the program. Complaints about the log filter come before anything else. -/
def report (arguments : List String) (logRequest : Option String) : m Report := do
  let warnings := (filterOf logRequest).2.flatMap fun w => linesOf w.message
  let report ← match disassemblerGrammar.read "" arguments with
    | .error stop => pure (Report.ofStop disassemblerManual stop)
    | .ok path => reportOf path <$> MonadFiles.read path
  return { report with stderr := warnings ++ report.stderr }

end Chip8.Program.Disassembler
