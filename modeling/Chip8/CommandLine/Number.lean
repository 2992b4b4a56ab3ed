/-!
# Numbers on the command line

Decimal numbers with an optional sign that fit in 64 bits, and rates, which are numbers from
1 to 4294967295. The digits are read from the left, so of two faults the first one counts.
-/

namespace Chip8.CommandLine

inductive NumberError where
  | empty
  | invalidDigit
  | tooLarge
  | tooSmall
  /-- A number that is no rate. -/
  | noRate (n : Int)
  deriving DecidableEq, Repr

def NumberError.message : NumberError → String
  | empty => "cannot parse integer from empty string"
  | invalidDigit => "invalid digit found in string"
  | tooLarge => "number too large to fit in target type"
  | tooSmall => "number too small to fit in target type"
  | noRate n => toString n ++ " is not in 1..=4294967295"

private def digits (limit : Nat) (overflow : NumberError) : Nat → List Char →
    Except NumberError Nat
  | n, [] => .ok n
  | n, c :: rest =>
    if c.isDigit then
      let next := n * 10 + (c.toNat - '0'.toNat)
      if limit < next then .error overflow else digits limit overflow next rest
    else .error .invalidDigit

/-- The largest signed number of 64 bits. The smallest one is one further from zero. -/
def largest : Nat := 0x7FFFFFFFFFFFFFFF

/-- Reads a number of 64 bits. -/
def readInteger (text : String) : Except NumberError Int :=
  match text.toList with
  | [] => .error .empty
  | ['+'] | ['-'] => .error .invalidDigit
  | '-' :: rest => (digits (largest + 1) .tooSmall 0 rest).map fun n => -(n : Int)
  | '+' :: rest => (digits largest .tooLarge 0 rest).map Int.ofNat
  | rest => (digits largest .tooLarge 0 rest).map Int.ofNat

/-- Reads a rate. -/
def readRate (text : String) : Except NumberError Nat := do
  let n ← readInteger text
  if 1 ≤ n ∧ n ≤ 4294967295 then return n.toNat else .error (.noRate n)

end Chip8.CommandLine
