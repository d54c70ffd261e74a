/-
# Positions in a pattern

A mistake in a pattern is shown under the characters that it concerns, so every part of a pattern
knows its span. Positions count lines, and characters within a line, both from one.
-/

namespace HeaderSearch.Pattern

/-- A place before a character or at the end of a pattern, with lines and columns counted from one.
-/
structure Position where
  line : Nat
  column : Nat
  deriving DecidableEq, Repr

namespace Position

def start : Position := ⟨1, 1⟩

def after (position : Position) (c : Char) : Position :=
  if c = '\n' then ⟨position.line + 1, 1⟩ else ⟨position.line, position.column + 1⟩

end Position

/-- A stretch of a pattern, from the place before its first character to that after its last. -/
structure Span where
  start : Position
  finish : Position
  deriving DecidableEq, Repr

namespace Span

def empty (position : Position) : Span := ⟨position, position⟩

def isOneLine (span : Span) : Bool := span.start.line = span.finish.line

/-- The order in which the spans of one line are shown. -/
def precedes (a b : Span) : Bool :=
  a.start.column < b.start.column ||
    (a.start.column = b.start.column && a.finish.column ≤ b.finish.column)

end Span

end HeaderSearch.Pattern
