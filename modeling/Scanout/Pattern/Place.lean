/-!
# Places in a pattern

A fault of a pattern is shown under the characters it is about, so everything that is read keeps the
piece of the pattern that it was read from.

## Main definitions

* `Pattern.Place` — a place between two characters
* `Pattern.Span` — the piece between two places
-/

namespace Scanout.Pattern

/-- **A place between two characters**: how many characters are before it, and its line and column,
both counted from one. -/
structure Place where
  offset : Nat
  line : Nat
  column : Nat
  deriving DecidableEq, Repr

namespace Place

/-- The place before a pattern. -/
def start : Place := ⟨0, 1, 1⟩

/-- The place behind a character; a line feed begins the next line. -/
def after (p : Place) (c : Char) : Place :=
  if c = '\n' then ⟨p.offset + 1, p.line + 1, 1⟩ else ⟨p.offset + 1, p.line, p.column + 1⟩

end Place

/-- **The piece of a pattern between two places.** -/
structure Span where
  start : Place
  stop : Place
  deriving DecidableEq, Repr

namespace Span

/-- The empty piece at a place. -/
def emptyAt (p : Place) : Span := ⟨p, p⟩

/-- Whether a piece begins and ends on one line. -/
def isOneLine (s : Span) : Bool := s.start.line == s.stop.line

/-- Whether a piece comes before another one, or is the same: the earlier start decides, then the
earlier end. -/
def precedes (s t : Span) : Bool :=
  s.start.offset < t.start.offset ||
    (s.start.offset == t.start.offset && s.stop.offset ≤ t.stop.offset)

end Span

end Scanout.Pattern
