import Scanout.Pattern.Width

/-!
# Meanings in normal form

Meanings are put together in one way, whatever the way in which they were written: sequences stand in
no sequences and choices in no choices, literals next to each other are one literal, a choice of
characters is a set, and what all branches of a choice begin with stands before the choice.

## Main definitions

* `Expr.ofSet` — a set of characters
* `Expr.inOrder` — meanings one behind the other
* `Expr.anyOf` — a choice between meanings
* `Expr.times` — a repetition
-/

namespace Scanout.Pattern.Expr

/-! ### Sets -/

/-- What matches nowhere. -/
def nowhere : Expr := chars true .empty

/-- **The meaning of a set of characters.**  One that has a single member is a literal. -/
def ofSet (bytewise : Bool) (s : CharSet) : Expr :=
  match s.ranges with
  | [] => nowhere
  | [(low, high)] => if low = high then literal [Char.ofNat low] else chars bytewise s
  | _ => chars bytewise s

/-! ### Sequences -/

/-- The parts of a sequence. -/
def parts : Expr → List Expr
  | empty => []
  | sequence e f => e.parts ++ f.parts
  | e => [e]

/-- The sequence of some parts. -/
def ofParts : List Expr → Expr
  | [] => empty
  | [e] => e
  | e :: es => sequence e (ofParts es)

/-- Makes one literal of literals that stand next to each other. -/
def joinLiterals : List Expr → List Expr
  | [] => []
  | literal s :: es =>
      match joinLiterals es with
      | literal t :: es => literal (s ++ t) :: es
      | es => literal s :: es
  | e :: es => e :: joinLiterals es

/-- **Meanings one behind the other.** -/
def inOrder (es : List Expr) : Expr := ofParts (joinLiterals (es.flatMap parts))

/-! ### Choices -/

/-- The branches of a choice. -/
def branches : Expr → List Expr
  | choice e f => e.branches ++ f.branches
  | e => [e]

/-- The choice between some branches. -/
def ofBranches : List Expr → Expr
  | [] => nowhere
  | [e] => e
  | e :: es => choice e (ofBranches es)

/-- The only character of a literal. -/
def char? : Expr → Option Char
  | literal [c] => some c
  | _ => none

/-- The members of a set that is no single character. -/
def set? : Expr → Option CharSet
  | chars _ s => some s
  | _ => none

/-- A set that stands for all branches, if they are all characters or if they are all sets. -/
def merged? (es : List Expr) : Option Expr :=
  match es.mapM char? with
  | some cs => some (ofSet false (.ofRanges (cs.map fun c => (c, c))))
  | none => (es.mapM set?).map fun sets => ofSet false (sets.foldl CharSet.union .empty)

/-- A choice in which nothing is drawn to the front. -/
def plainChoice (es : List Expr) : Expr :=
  match es.flatMap branches with
  | [] => nowhere
  | [e] => e
  | es => (merged? es).getD (ofBranches es)

/-- The parts of a sequence that has at least two. -/
def sequenceParts? : Expr → Option (List Expr)
  | sequence e f => some (sequence e f).parts
  | _ => none

/-- What two rows begin with. -/
def sharedStart : List Expr → List Expr → List Expr
  | e :: es, f :: fs => if e = f then e :: sharedStart es fs else []
  | _, _ => []

/-- What some rows begin with. -/
def commonStart : List (List Expr) → List Expr
  | [] => []
  | row :: rows => rows.foldl sharedStart row

/-- A choice behind what all its branches begin with, if they are sequences that begin alike. -/
def factored? (es : List Expr) : Option Expr :=
  match es.mapM sequenceParts? with
  | none => none
  | some rows =>
      match commonStart rows with
      | [] => none
      | start =>
          let rests := rows.map fun row => inOrder (row.drop start.length)
          some (inOrder (start ++ [plainChoice rests]))

/-- **A choice between meanings.** -/
def anyOf (es : List Expr) : Expr :=
  match es.flatMap branches with
  | [] => nowhere
  | [e] => e
  | es => ((merged? es).or (factored? es)).getD (ofBranches es)

/-! ### Repetitions -/

/-- **A repetition.**  What matches nothing but the empty text need not be repeated, and no repetition
at all leaves nothing. -/
def times (count : Count) (isLazy : Bool) (e : Expr) : Expr :=
  let count : Count :=
    if e.isWidthless then ⟨min count.least 1, some (min (count.most.getD 1) 1)⟩ else count
  if count = ⟨0, some 0⟩ then empty
  else if count = ⟨1, some 1⟩ then e
  else repetition count isLazy e

end Scanout.Pattern.Expr
