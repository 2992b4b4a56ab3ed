/-!
# Control sequences

Text that goes to a file or into a quotation of an argument is written plain: control
characters and the sequences that an Escape begins are left out. White space stays, also
inside a sequence, which then breaks off up to the next control character.
-/

namespace Chip8.Text

/-- Where in a control sequence a text stands. -/
inductive Control where
  /-- In no sequence. -/
  | outside
  | escape
  /-- After Escape and a character that selects a set of functions. -/
  | selected
  /-- In the parameters that follow Escape and a bracket. -/
  | parameters
  /-- At the beginning of a device control string. -/
  | deviceEntry
  | deviceParameters
  | deviceSelected
  /-- In a string that a terminator ends. -/
  | string
  /-- In a string for the operating system, which a bell ends. -/
  | command
  deriving DecidableEq, Repr

/-- The control characters that move on in the text: tabulator, line feed, form feed and
carriage return. -/
def isLayout (c : Char) : Bool := c = '\t' || c = '\n' || c = '\x0c' || c = '\r'

/-- Whether a character is kept outside of sequences. -/
def isPlain (c : Char) : Bool := (' ' ≤ c && c ≤ '~') || '\x80' ≤ c || isLayout c

namespace Control

/-- Whether white space takes effect here instead of becoming a part of the sequence. -/
def showsLayout (s : Control) : Bool :=
  s = outside || s = escape || s = selected || s = parameters

/-- Whether the encoding of a character has the byte that ends a string. -/
def isTerminator (c : Char) : Bool := 0x9C ∈ String.utf8EncodeChar c

/-- Where a sequence goes on after a character. Escape begins a new one; the control
characters Cancel and Substitute end any. -/
def next (s : Control) (c : Char) : Control :=
  if c = '\x1b' then .escape
  else if c = '\x18' ∨ c = '\x1a' then .outside
  else if '\x80' ≤ c then if s = .string ∧ isTerminator c then .outside else s
  else if c = '\x07' ∧ s = .command then .outside
  else if c < ' ' ∨ c = '\x7f' then s
  else
    match s with
    | outside => .outside
    | escape =>
      if c < '0' then .selected
      else
        match c with
        | '[' => .parameters
        | ']' => .command
        | 'P' => .deviceEntry
        | 'X' | '^' | '_' => .string
        | _ => .outside
    | selected => if c < '0' then .selected else .outside
    | parameters => if c < '@' then .parameters else .outside
    | deviceEntry =>
      if c < '0' then .deviceSelected else if c < '@' then .deviceParameters else .string
    | deviceParameters =>
      if c < '0' then .deviceSelected else if c < '<' then .deviceParameters else .string
    | deviceSelected => if c < '0' then .deviceSelected else .string
    | string => .string
    | command => .command

end Control

/-- The plain part of a text that begins at some place in a sequence. While the sequence is
broken off, characters are kept. -/
def plainFrom (s : Control) (brokenOff : Bool) : List Char → List Char
  | [] => []
  | c :: rest =>
    if (brokenOff || s = .outside) && isPlain c then
      c :: plainFrom (if '\x80' ≤ c then .outside else s) true rest
    else if s.showsLayout && isLayout c then c :: plainFrom s true rest
    else plainFrom (s.next c) false rest

/-- The text without control characters and control sequences. -/
def plain (text : String) : String := String.ofList (plainFrom .outside false text.toList)

end Chip8.Text
