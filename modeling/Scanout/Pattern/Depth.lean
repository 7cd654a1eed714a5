import Scanout.Pattern.Fault
import Scanout.Pattern.Tree

/-!
# The depth of a pattern

Parts that hold other parts may stand inside one another only up to a limit.

## Main definitions

* `Pattern.Tree.checkDepth` — refuses a pattern that goes beyond the limit
-/

namespace Scanout.Pattern

mutual

/-- The first part that has more than `n` parts around it and itself, of those that hold parts. -/
def Members.tooDeep (n : Nat) : Members → Option Span
  | .bracketed span _ inner =>
      match n with
      | 0 => some span
      | n + 1 => inner.tooDeep n
  | .union span parts =>
      match n with
      | 0 => some span
      | n + 1 => Members.anyTooDeep n parts
  | .combined span _ left right =>
      match n with
      | 0 => some span
      | n + 1 => (left.tooDeep n).or (right.tooDeep n)
  | .nothing _ | .literal _ | .range _ _ _ | .asciiClass _ _ _ | .letterClass _ _ _
  | .property _ _ => none

/-- The first such part in a list. -/
def Members.anyTooDeep (n : Nat) : List Members → Option Span
  | [] => none
  | part :: parts => (part.tooDeep n).or (Members.anyTooDeep n parts)

end

mutual

/-- The first part that has more than `n` parts around it and itself, of those that hold parts. -/
def Tree.tooDeep (n : Nat) : Tree → Option Span
  | .bracketed span _ inner =>
      match n with
      | 0 => some span
      | n + 1 => inner.tooDeep n
  | .repetition span _ _ sub =>
      match n with
      | 0 => some span
      | n + 1 => sub.tooDeep n
  | .group span _ _ sub =>
      match n with
      | 0 => some span
      | n + 1 => sub.tooDeep n
  | .choice span branches =>
      match n with
      | 0 => some span
      | n + 1 => Tree.anyTooDeep n branches
  | .sequence span parts =>
      match n with
      | 0 => some span
      | n + 1 => Tree.anyTooDeep n parts
  | .nothing _ | .flags _ _ | .atom _ => none

/-- The first such part in a list. -/
def Tree.anyTooDeep (n : Nat) : List Tree → Option Span
  | [] => none
  | part :: parts => (part.tooDeep n).or (Tree.anyTooDeep n parts)

end

/-- **Refuses a pattern whose parts stand too deep inside one another.** -/
def Tree.checkDepth (t : Tree) : Except Fault Unit :=
  match t.tooDeep depthLimit with
  | none => .ok ()
  | some span => .error (.of .tooDeep span)

end Scanout.Pattern
