import Scanout.Pattern.NormalForm
import Scanout.Pattern.Sharing
import Scanout.Pattern.Words

/-!
# The automaton of a pattern

Two automata are laid out for a pattern, one that reads forwards and one that reads backwards.  Only
the one that reads forwards notes where groups begin and end.

A repetition is laid out as often as it may occur.  If it has no greatest count, a branch goes back to
what was laid out last.

## Main definitions

* `Expr.lay` — the states of a meaning
* `Expr.automaton` — the whole automaton
* `Expr.isTooLarge` — whether it goes beyond the limit
-/

namespace Scanout.Pattern

namespace Layout

/-- Lays out a repetition of what `lay` lays out, where `consumes` tells whether that never matches the
empty text. -/
def addRepetition (count : Count) (consumes : Bool) (lay : Layout → Layout) (l : Layout) : Layout :=
  match count.most with
  | none =>
      if count.least ≠ 0 then (iterate lay count.least l).add 1 (2 * branchSize)
      else if consumes then lay (l.add 1 (2 * branchSize))
      else (lay l).add 3 (4 * branchSize)
  | some most =>
      if count.least = most then iterate lay most l
      else
        let optional (l : Layout) : Layout := lay (l.add 1 (2 * branchSize))
        if count.least = 0 ∧ most = 1 then (optional l).add 1 0
        else
          let l := if count.least = 0 then l.add 1 0 else iterate lay count.least l
          iterate optional (most - count.least) (l.add 1 0)

end Layout

/-- Where a meaning stands: by itself or as the first branch of a choice, as its second branch, or as a
later one. -/
inductive Position where
  | alone
  | second
  | later
  deriving DecidableEq, Repr

/-- What is added behind a meaning at a position.  The states where the branches of a choice part and
meet are added behind the second one. -/
def Position.close : Position → Layout → Layout
  | alone, l => l
  | second, l => l.add 2 branchSize
  | later, l => l.add 0 branchSize

namespace Expr

/-- The characters of a literal. -/
def text? : Expr → Option (List Char)
  | literal cs => some cs
  | _ => none

/-- The words that a meaning is a choice between, as bytes in the order in which they are read. -/
def words? (backwards : Bool) (e : Expr) : Option (List (List Nat)) :=
  (e.branches.mapM text?).map fun texts =>
    texts.map fun cs => if backwards then (textBytes cs).reverse else textBytes cs

/-- Lays out a meaning at a position. -/
def layAt (backwards : Bool) : Expr → Position → Layout → Layout
  | empty, p, l | test _, p, l => p.close (l.add 1 0)
  | literal cs, p, l => p.close (l.add (textBytes cs).length 0)
  | chars _ set, p, l => p.close (l.addSet backwards set)
  | repetition count _ e, p, l =>
      p.close (l.addRepetition count e.consumes (e.layAt backwards .alone))
  | captured _ e, p, l =>
      let noted := if backwards then 0 else 1
      p.close ((e.layAt backwards .alone (l.add noted 0)).add noted 0)
  | sequence e f, p, l =>
      p.close (if backwards then e.layAt backwards .alone (f.layAt backwards .alone l)
        else f.layAt backwards .alone (e.layAt backwards .alone l))
  | choice e f, .alone, l =>
      match (choice e f).words? backwards with
      | some words => l.addWords words
      | none => f.layAt backwards .second ((e.layAt backwards .alone l).add 0 branchSize)
  | choice e f, p, l => f.layAt backwards .later (e.layAt backwards p l)

/-- **The states of a meaning**, added to those before it. -/
def lay (backwards : Bool) (e : Expr) (l : Layout) : Layout := e.layAt backwards .alone l

/-- What comes before the states of a meaning: a loop that passes over what is before a match, where
a match may begin anywhere. -/
def leadIn (anchored : Bool) : Layout :=
  if anchored then Layout.empty.add 1 0 else Layout.empty.add 3 (2 * branchSize + stepSize)

/-- **The whole automaton of a meaning**, with the state for a match.  Forwards there are two states
more, for the beginning and the end of the match. -/
def automaton (backwards : Bool) (e : Expr) : Layout :=
  if backwards then (e.lay true (leadIn e.endsAnchored)).add 1 0
  else (e.lay false ((leadIn e.startsAnchored).add 1 0)).add 2 0

/-- **Whether an automaton goes beyond the limit.** -/
def isTooLarge (backwards : Bool) (e : Expr) : Bool := (e.automaton backwards).isTooLarge

end Expr

end Scanout.Pattern
