/-!
# Keys of a terminal

What a terminal reports for one key press, and what one look at the terminal brings.
-/

namespace Chip8

inductive KeyCode where
  | backspace
  | enter
  | left
  | right
  | up
  | down
  | home
  | endKey
  | pageUp
  | pageDown
  | tab
  | backTab
  | delete
  | insert
  | null
  | escape
  | function (n : Nat)
  | char (c : Char)
  deriving DecidableEq, Repr

structure Key where
  code : KeyCode
  control : Bool := false
  shift : Bool := false
  alt : Bool := false
  deriving DecidableEq, Repr

/-- What the keyboard sees when it looks at the terminal. -/
inductive Poll where
  /-- Nothing happened for as long as a held key takes to be released. -/
  | timeout
  /-- Something that is no key, such as a change of size. -/
  | other
  | key (k : Key)
  deriving DecidableEq, Repr

end Chip8
