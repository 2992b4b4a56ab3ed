/-!
# Places in a pattern

Positions count characters, and lines and columns from one. A span is half open; an empty one
points between two characters.
-/

namespace Chip8.Regex

structure Position where
  offset : Nat := 0
  line : Nat := 1
  column : Nat := 1
  deriving DecidableEq, Repr

/-- The position behind a character. -/
def Position.after (p : Position) (c : Char) : Position :=
  if c = '\n' then ⟨p.offset + 1, p.line + 1, 1⟩ else ⟨p.offset + 1, p.line, p.column + 1⟩

structure Span where
  start : Position
  stop : Position
  deriving DecidableEq, Repr

namespace Span

/-- The empty span at a position. -/
def point (p : Position) : Span := ⟨p, p⟩

/-- The span from the start of one to the end of the other. -/
def upTo (a b : Span) : Span := ⟨a.start, b.stop⟩

def isOneLine (s : Span) : Bool := s.start.line = s.stop.line

/-- Spans in the order of the text. -/
def before (a b : Span) : Bool :=
  a.start.offset < b.start.offset ||
    (a.start.offset = b.start.offset && a.stop.offset < b.stop.offset)

end Span

end Chip8.Regex
