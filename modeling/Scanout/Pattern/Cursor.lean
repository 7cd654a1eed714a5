import Scanout.Pattern.Fault
import Scanout.Text.Blank

/-!
# Reading a pattern

A pattern is read from left to right, one character at a time.  A pattern may ask for blanks and
comments between its parts to be passed over; then what stands between two tokens does not count.

## Main definitions

* `Pattern.Cursor` — how far a pattern has been read
* `Cursor.advance`, `Cursor.step` — behind the next character, and behind the blanks after it
* `Cursor.gather` — the characters of a kind that come next
* `Pattern.Reading` — a reader with the first fault that it meets
-/

namespace Scanout.Pattern

/-- **How far a pattern has been read.** -/
structure Cursor where
  rest : List Char
  place : Place
  /-- Whether blanks and comments are passed over. -/
  spaced : Bool
  deriving DecidableEq, Repr

namespace Cursor

/-- The cursor before a pattern. -/
def ofText (s : String) : Cursor := ⟨s.toList, .start, false⟩

/-- Whether nothing is left. -/
def atEnd (k : Cursor) : Bool := k.rest.isEmpty

/-- Whether a given character comes next. -/
def sees (k : Cursor) (c : Char) : Bool := k.rest.head? == some c

/-- The empty piece at the cursor. -/
def here (k : Cursor) : Span := .emptyAt k.place

/-- Behind the next character, if there is one. -/
def advance (k : Cursor) : Cursor :=
  match k.rest with
  | [] => k
  | c :: rest => { k with rest := rest, place := k.place.after c }

/-- The piece that the next character is. -/
def charSpan (k : Cursor) : Span := ⟨k.place, k.advance.place⟩

/-- The piece from a place to the cursor. -/
def since (k : Cursor) (start : Place) : Span := ⟨start, k.place⟩

/-- What follows the blanks and comments at the front of a text, and where it begins.  A comment goes
from a number sign to the end of its line. -/
def behindBlanks (inComment : Bool) : List Char → Place → List Char × Place
  | [], p => ([], p)
  | c :: rest, p =>
      if inComment then behindBlanks (c != '\n') rest (p.after c)
      else if Text.isBlank c then behindBlanks false rest (p.after c)
      else if c = '#' then behindBlanks true rest (p.after c)
      else (c :: rest, p)

/-- Behind the blanks that come next, if blanks are passed over. -/
def skipBlanks (k : Cursor) : Cursor :=
  if k.spaced then
    let (rest, place) := behindBlanks false k.rest k.place
    { k with rest := rest, place := place }
  else k

/-- Behind the next character and the blanks after it. -/
def step (k : Cursor) : Cursor := k.advance.skipBlanks

/-- Behind given characters, if they come next. -/
def behind? (k : Cursor) : List Char → Option Cursor
  | [] => some k
  | c :: word => if k.sees c then k.advance.behind? word else none

/-- What comes behind the blanks at the front of a text.  Only one number sign is passed over with
them. -/
def firstBehind (inComment : Bool) : List Char → Option Char
  | [] => none
  | c :: rest =>
      if Text.isBlank c then firstBehind inComment rest
      else if !inComment && c = '#' then firstBehind true rest
      else some c

/-- What comes behind the next character: the character after it, or where blanks are passed over
the first that is no blank, if there is one. -/
def peek (k : Cursor) : Option Char :=
  let rest := k.rest.tail
  if k.spaced then (firstBehind false rest).or rest.head? else rest.head?

/-- The first `n` characters of a kind that come next, and the cursor behind them, each passed over
as `forward` does. -/
def gatherUpTo (forward : Cursor → Cursor) (accept : Char → Bool) : Nat → Cursor → List Char × Cursor
  | 0, k => ([], k)
  | n + 1, k =>
      match k.rest with
      | [] => ([], k)
      | c :: _ =>
          if accept c then
            let (cs, k) := gatherUpTo forward accept n (forward k)
            (c :: cs, k)
          else ([], k)

/-- **The characters of a kind that come next**, with blanks between them passed over, and the cursor
behind them. -/
def gather (k : Cursor) (accept : Char → Bool) : List Char × Cursor :=
  gatherUpTo step accept k.rest.length k

end Cursor

/-- **A reader of patterns**: what it reads with the cursor behind it, or the first fault. -/
abbrev Reading (α : Type) := Cursor → Except Fault (α × Cursor)

end Scanout.Pattern
