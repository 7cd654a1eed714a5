import Scanout.Pattern.Escape

/-!
# Characters between brackets

Brackets hold the characters to choose from: single ones, ranges, classes, and brackets again.  Two
ampersands, hyphens or tildes combine all that is before them with all that is behind them.

The brackets that are open are kept on a stack, and they are read in one sweep.

## Main definitions

* `Pattern.Brackets` — how far brackets have been read
* `Pattern.readBrackets` — reads brackets from the opening one on
-/

namespace Scanout.Pattern

/-- Parts that have been gathered between brackets, the last one first, and where they begin. -/
structure Gathering where
  start : Place
  parts : List Members

namespace Gathering

def empty (start : Place) : Gathering := ⟨start, []⟩

def push (g : Gathering) (part : Members) : Gathering := { g with parts := part :: g.parts }

/-- The parts as one. -/
def close (g : Gathering) : Members :=
  match g.parts.reverse with
  | [] => .nothing (.emptyAt g.start)
  | [one] => one
  | first :: rest =>
      .union ⟨first.span.start, ((rest.getLast?).getD first).span.stop⟩ (first :: rest)

end Gathering

/-- What waits for the brackets that are being read. -/
inductive Waiting where
  /-- Open brackets, with what was gathered outside of them. -/
  | brackets (outer : Gathering) (span : Span) (negated : Bool)
  /-- An operator, with what it stands behind. -/
  | pending (operator : SetOperator) (left : Members)

/-- **How far brackets have been read.** -/
structure Brackets where
  cursor : Cursor
  gathering : Gathering
  /-- What waits, the innermost first. -/
  waiting : List Waiting

namespace Waiting

/-- The fault of a pattern that ends inside brackets. -/
def unclosed (start : Place) : List Waiting → Fault
  | [] => .of .bracketsUnclosed (.emptyAt start)
  | .brackets _ span _ :: _ => .of .bracketsUnclosed span
  | .pending _ _ :: waiting => unclosed start waiting

/-- Gives an operator that waits what stands behind it. -/
def apply (right : Members) : List Waiting → Members × List Waiting
  | .pending operator left :: waiting =>
      (.combined ⟨left.span.start, right.span.stop⟩ operator left right, waiting)
  | waiting => (right, waiting)

end Waiting

/-! ### Opening brackets -/

/-- Reads the hyphens at the front of brackets, which stand for themselves. -/
def readHyphens (start : Place) : Nat → Gathering → Reading Gathering
  | 0, g, k => .ok (g, k)
  | n + 1, g, k =>
      if k.sees '-' then
        let g := g.push (.literal ⟨k.charSpan, '-', false⟩)
        let k := k.step
        if k.atEnd then .error (.of .bracketsUnclosed (.emptyAt start))
        else readHyphens start n g k
      else .ok (g, k)

/-- Goes behind a character of the opening of brackets; behind it something must follow. -/
def stepInside (start : Place) (k : Cursor) : Except Fault Cursor :=
  let k := k.step
  if k.atEnd then .error (.of .bracketsUnclosed (k.since start)) else .ok k

/-- **Reads the opening of brackets**: the bracket, a caret that negates them, and the characters
that stand for themselves only there. -/
def readOpening : Reading (Gathering × Span × Bool) := fun k => do
  let start := k.place
  let k ← stepInside start k
  let negated := k.sees '^'
  let k ← if negated then stepInside start k else .ok k
  let (g, k) ← readHyphens start k.rest.length (.empty k.place) k
  if g.parts.isEmpty && k.sees ']' then do
    let g := g.push (.literal ⟨k.charSpan, ']', false⟩)
    let k ← stepInside start k
    return ((g, k.since start, negated), k)
  else return ((g, k.since start, negated), k)

/-- Reads a class with a name, which stands between brackets and colons.  What is no such class may
be brackets, and nothing is read. -/
def readAsciiClass? (k : Cursor) : Option (Members × Cursor) := do
  let start := k.place
  let k ← k.behind? ['[', ':']
  if k.atEnd then none
  else
    let negated := k.sees '^'
    let k := if negated then k.advance else k
    let (name, k) := Cursor.gatherUpTo Cursor.advance (· != ':') k.rest.length k
    let k ← k.behind? [':', ']']
    let kind ← AsciiClass.ofName? (String.ofList name)
    return (.asciiClass (k.since start) negated kind, k)

/-! ### Members -/

/-- Reads a character or an escape between brackets. -/
def readInside : Reading Atom := fun k =>
  match k.rest with
  | [] => .error (.of .bracketsUnclosed k.here)
  | c :: _ => if c = '\\' then readEscape k else .ok (.literal ⟨k.charSpan, c, false⟩, k.advance)

/-- An atom as a part of brackets.  What asks something of a place is none. -/
def Atom.asMembers : Atom → Except Fault Members
  | .literal l => .ok (.literal l)
  | .letterClass span negated kind => .ok (.letterClass span negated kind)
  | .property span query => .ok (.property span query)
  | .dot span | .anchor span _ => .error (.of .escapeInBrackets span)

/-- An atom as an end of a range. -/
def Atom.asLimit : Atom → Except Fault Literal
  | .literal l => .ok l
  | atom => .error (.of .rangeOfNoLiteral atom.span)

/-- **Reads a character, a class or a range.**  A hyphen in front of the closing bracket or of
another hyphen makes no range. -/
def readMember (unclosed : Fault) : Reading Members := fun k => do
  let (first, k) ← readInside k
  let k := k.skipBlanks
  if k.atEnd then .error unclosed
  else if !k.sees '-' || k.peek == some ']' || k.peek == some '-' then
    return (← first.asMembers, k)
  else
    let k := k.step
    if k.atEnd then .error unclosed
    else do
      let (second, k) ← readInside k
      let span : Span := ⟨first.span.start, second.span.stop⟩
      let low ← first.asLimit
      let high ← second.asLimit
      if low.char ≤ high.char then return (.range span low high, k)
      else .error (.of .rangeReversed span)

/-! ### The sweep -/

/-- The operator that comes next, and what is behind it. -/
def readOperator? (k : Cursor) : Option (SetOperator × Cursor) :=
  ((k.behind? ['&', '&']).map fun k => (.intersection, k)).or
    (((k.behind? ['-', '-']).map fun k => (.difference, k)).or
      ((k.behind? ['~', '~']).map fun k => (.symmetricDifference, k)))

namespace Brackets

/-- Opens brackets inside the present ones. -/
def openInside (b : Brackets) : Except Fault Brackets := do
  let ((inner, span, negated), k) ← readOpening b.cursor
  return ⟨k, inner, .brackets b.gathering span negated :: b.waiting⟩

/-- Closes the innermost brackets.  If they are the outermost as well, all has been read. -/
def close (b : Brackets) : Brackets ⊕ (Tree × Cursor) :=
  let k := b.cursor.advance
  match Waiting.apply b.gathering.close b.waiting with
  | (inner, .brackets outer span negated :: waiting) =>
      let span : Span := ⟨span.start, k.place⟩
      if waiting.isEmpty then .inr (.bracketed span negated inner, k)
      else .inl ⟨k, outer.push (.bracketed span negated inner), waiting⟩
  | (inner, _) => .inr (.bracketed inner.span false inner, k)

/-- Reads the next part of the brackets. -/
def turn (b : Brackets) : Except Fault (Brackets ⊕ (Tree × Cursor)) :=
  let b := { b with cursor := b.cursor.skipBlanks }
  let k := b.cursor
  if k.atEnd then .error (Waiting.unclosed k.place b.waiting)
  else if k.sees '[' then
    match readAsciiClass? k with
    | some (part, k) => .ok (.inl { b with cursor := k, gathering := b.gathering.push part })
    | none => b.openInside.map .inl
  else if k.sees ']' then .ok b.close
  else
    match readOperator? k with
    | some (operator, k) =>
        let (left, waiting) := Waiting.apply b.gathering.close b.waiting
        .ok (.inl ⟨k, .empty k.place, .pending operator left :: waiting⟩)
    | none => do
        let (part, k) ← readMember (Waiting.unclosed k.place b.waiting) k
        return .inl { b with cursor := k, gathering := b.gathering.push part }

/-- Reads at most so many parts. -/
def sweep : Nat → Brackets → Except Fault (Tree × Cursor)
  | 0, b => .error (Waiting.unclosed b.cursor.place b.waiting)
  | n + 1, b => do
      match ← b.turn with
      | .inl b => sweep n b
      | .inr done => .ok done

end Brackets

/-- **Reads brackets**, from the opening one on. -/
def readBrackets : Reading Tree := fun k => do
  let outer : Brackets := ⟨k, .empty k.place, []⟩
  let b ← outer.openInside
  Brackets.sweep (k.rest.length + 1) b

end Scanout.Pattern
