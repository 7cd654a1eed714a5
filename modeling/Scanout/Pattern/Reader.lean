import Scanout.Pattern.Brackets
import Scanout.Pattern.Count
import Scanout.Pattern.Depth
import Scanout.Pattern.Group

/-!
# Reading patterns

A pattern is a choice between sequences of parts, and a part may be repeated or be a pattern in
parentheses.  The groups and choices that are open are kept on a stack, and the pattern is read in
one sweep.

## Main definitions

* `Pattern.Progress` — how far a pattern has been read
* `Pattern.readTree` — a pattern as written, or its first fault
-/

namespace Scanout.Pattern

/-- Parts of a sequence, the last one first, and where the sequence begins. -/
structure Row where
  start : Place
  parts : List Tree

namespace Row

def empty (start : Place) : Row := ⟨start, []⟩

def push (row : Row) (part : Tree) : Row := { row with parts := part :: row.parts }

/-- The parts as one, if they end at a place. -/
def close (row : Row) (stop : Place) : Tree :=
  match row.parts with
  | [] => .nothing ⟨row.start, stop⟩
  | [one] => one
  | parts => .sequence ⟨row.start, stop⟩ parts.reverse

/-- The last part and those before it, if there is a last part that can be repeated. -/
def last? (row : Row) : Option (Tree × Row) :=
  match row.parts with
  | [] | .nothing _ :: _ | .flags _ _ :: _ => none
  | part :: parts => some (part, { row with parts := parts })

end Row

/-- What is open around the sequence that is being read. -/
inductive Enclosure where
  /-- A group, with the sequence outside of it and whether blanks were passed over there. -/
  | group (outer : Row) (span : Span) (number : Option Nat) (change : FlagChange) (spaced : Bool)
  /-- A choice, with its branches so far, the last one first. -/
  | choice (start : Place) (branches : List Tree)

/-- **How far a pattern has been read.** -/
structure Progress where
  cursor : Cursor
  row : Row
  /-- What is open, the innermost first. -/
  enclosures : List Enclosure
  names : Names
  /-- How many groups are remembered so far. -/
  captures : Nat

/-- Reads a part that holds no other part. -/
def readAtom : Reading Atom := fun k =>
  match k.rest with
  | [] => .error (.of .escapeUnfinished k.here)
  | '\\' :: _ => readEscape k
  | '.' :: _ => .ok (.dot k.charSpan, k.advance)
  | '^' :: _ => .ok (.anchor k.charSpan .lineStart, k.advance)
  | '$' :: _ => .ok (.anchor k.charSpan .lineEnd, k.advance)
  | c :: _ => .ok (.literal ⟨k.charSpan, c, false⟩, k.advance)

/-- The choice that is open innermost, if one is, with the branch that has just ended as its last,
and what is open around it. -/
def closeChoice (branch : Tree) (stop : Place) : List Enclosure → Tree × List Enclosure
  | .choice start branches :: enclosures =>
      (.choice ⟨start, stop⟩ (branch :: branches).reverse, enclosures)
  | enclosures => (branch, enclosures)

namespace Progress

/-- The progress before a pattern. -/
def ofText (s : String) : Progress :=
  let k := Cursor.ofText s
  ⟨k, .empty k.place, [], [], 0⟩

/-- Adds a part that has been read. -/
def push (p : Progress) (part : Tree) (k : Cursor) : Progress :=
  { p with row := p.row.push part, cursor := k }

/-- Reads what a parenthesis opens. -/
def openGroup (p : Progress) : Except Fault Progress := do
  let ((opening, names), k) ← readOpeningOfGroup p.names p.cursor
  match opening with
  | .flags span change =>
      let spaced := (change.value? .spaced).getD k.spaced
      return { p with
        row := p.row.push (.flags span change), names := names, cursor := { k with spaced := spaced } }
  | .group span captures change =>
      let spaced := (change.value? .spaced).getD k.spaced
      let number := if captures then some p.captures else none
      return ⟨{ k with spaced := spaced }, .empty k.place,
        .group p.row span number change k.spaced :: p.enclosures, names,
        p.captures + if captures then 1 else 0⟩

/-- Closes the innermost group. -/
def closeGroup (p : Progress) : Except Fault Progress :=
  let k := p.cursor
  match closeChoice (p.row.close k.place) k.place p.enclosures with
  | (sub, .group outer span number change spaced :: enclosures) =>
      let k := { k with spaced := spaced }.advance
      let group : Tree := .group ⟨span.start, k.place⟩ number change sub
      .ok { p with cursor := k, row := outer.push group, enclosures := enclosures }
  | _ => .error (.of .groupUnopened k.charSpan)

/-- Ends a branch of a choice. -/
def endBranch (p : Progress) : Progress :=
  let k := p.cursor
  let branch := p.row.close k.place
  let enclosures := match p.enclosures with
    | .choice start branches :: enclosures => .choice start (branch :: branches) :: enclosures
    | enclosures => .choice p.row.start [branch] :: enclosures
  let k := k.advance
  { p with cursor := k, row := .empty k.place, enclosures := enclosures }

/-- Repeats the last part as often as is read from the cursor. -/
def repeatLast (p : Progress) (read : Reading (Count × Bool)) : Except Fault Progress :=
  match p.row.last? with
  | none => .error (.of .repetitionOfNothing p.cursor.here)
  | some (part, row) => do
      let ((count, isLazy), k) ← read p.cursor
      let repetition : Tree := .repetition ⟨part.span.start, k.place⟩ count isLazy part
      return { p with cursor := k, row := row.push repetition }

/-- **Reads the next part of a pattern**, whose first character is given. -/
def turn (p : Progress) (c : Char) : Except Fault Progress :=
  if c = '(' then p.openGroup
  else if c = ')' then p.closeGroup
  else if c = '|' then .ok p.endBranch
  else if c = '[' then do
    let (brackets, k) ← readBrackets p.cursor
    return p.push brackets k
  else if c = '\x7b' then p.repeatLast readCount
  else
    match Count.ofSign? c with
    | some count => p.repeatLast (readSign count)
    | none => do
        let (atom, k) ← readAtom p.cursor
        return p.push (.atom atom) k

/-- The pattern, once nothing is left to read. -/
def finish (p : Progress) : Except Fault Tree :=
  let stop := p.cursor.place
  match closeChoice (p.row.close stop) stop p.enclosures with
  | (_, .group _ span _ _ _ :: _) => .error (.of .groupUnclosed span)
  | (t, _) => .ok t

/-- Reads at most so many parts, and all of the pattern. -/
def sweep : Nat → Progress → Except Fault Tree
  | 0, p => p.finish
  | n + 1, p =>
      let p := { p with cursor := p.cursor.skipBlanks }
      match p.cursor.rest with
      | [] => p.finish
      | c :: _ => do
          let p ← p.turn c
          sweep n p

end Progress

/-- **A pattern as written**, or its first fault in the order of the text; one that stands too deep
shows only when all has been read. -/
def readTree (s : String) : Except Fault Tree := do
  let t ← Progress.sweep (s.length + 1) (.ofText s)
  t.checkDepth
  return t

end Scanout.Pattern
