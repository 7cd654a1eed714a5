/-!
# How much room an automaton takes up

A pattern is matched by an automaton over bytes.  Of its states it matters here how many there are, and
how many bytes their branches take up beyond that: counts repeat what is counted, so a short pattern
may need a huge automaton, and there is a limit.

## Main definitions

* `Pattern.Layout` — states and branches so far
* `Layout.isTooLarge` — whether they go beyond the limit
* `Layout.iterate` — lays out the same thing again and again
-/

namespace Scanout.Pattern

/-- The bytes of a state. -/
def stateSize : Nat := 32

/-- The bytes of a branch that takes no byte of the text. -/
def branchSize : Nat := 4

/-- The bytes of a branch that takes a byte of the text. -/
def stepSize : Nat := 8

/-- **The states of an automaton so far**, and the bytes that their branches take up.  States are
numbered from nought on in the order in which they are added. -/
structure Layout where
  states : Nat
  branches : Nat
  deriving DecidableEq, Repr

namespace Layout

def empty : Layout := ⟨0, 0⟩

/-- Adds states with branches of so many bytes. -/
def add (l : Layout) (states branches : Nat) : Layout := ⟨l.states + states, l.branches + branches⟩

/-- How many bytes a layout takes up. -/
def size (l : Layout) : Nat := stateSize * l.states + l.branches

/-- How many bytes an automaton may take up. -/
def limit : Nat := 10 * 1024 * 1024

/-- **Whether a layout goes beyond the limit.** -/
def isTooLarge (l : Layout) : Bool := limit < l.size

/-- **Lays out the same thing `n` times**, or until it has become too large. -/
def iterate (lay : Layout → Layout) : Nat → Layout → Layout
  | 0, l => l
  | n + 1, l => if l.isTooLarge then l else iterate lay n (lay l)

end Layout

end Scanout.Pattern
