import Chip8.Text.Control

/-!
# Usage errors

What can be wrong with a command line, and the one line that says so. Parameters are named
the way the help text names them.
-/

namespace Chip8.CommandLine

inductive UsageError where
  /-- An option that does not exist, or one operand too many. -/
  | unexpectedArgument (argument : String)
  /-- A value that is not among the possible ones. -/
  | invalidValue (value parameter : String)
  /-- A value that is refused for a reason of its own. -/
  | refusedValue (value parameter reason : String)
  | missingValue (parameter : String)
  | repeated (parameter : String)
  /-- A value for something that takes none. -/
  | unneededValue (value parameter : String)
  | missingOperand (parameter : String)
  deriving DecidableEq, Repr

private def inQuotes (s : String) : String := "'" ++ s ++ "'"

/-- What a user wrote, in quotes and without control characters. -/
private def quoting (s : String) : String := inQuotes (Text.plain s)

def UsageError.message : UsageError → String
  | unexpectedArgument argument => "unexpected argument " ++ quoting argument ++ " found"
  | invalidValue value parameter =>
    "invalid value " ++ quoting value ++ " for " ++ inQuotes parameter
  | refusedValue value parameter reason =>
    "invalid value " ++ quoting value ++ " for " ++ inQuotes parameter ++ ": " ++ reason
  | missingValue parameter =>
    "a value is required for " ++ inQuotes parameter ++ " but none was supplied"
  | repeated parameter =>
    "the argument " ++ inQuotes parameter ++ " cannot be used multiple times"
  | unneededValue value parameter =>
    "unexpected value " ++ quoting value ++ " for " ++ inQuotes parameter ++
      " found; no more were expected"
  | missingOperand parameter =>
    "the following required arguments were not provided:\n  " ++ parameter

/-- Why reading a command line ends without a result. -/
inductive Stop where
  | usage (e : UsageError)
  /-- The help text was asked for, in full or as a summary. -/
  | help (full : Bool)
  | version
  deriving DecidableEq, Repr

end Chip8.CommandLine
