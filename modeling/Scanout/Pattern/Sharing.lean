import Scanout.Pattern.CharSet
import Scanout.Pattern.Layout
import Scanout.Pattern.Runs
import Std.Data.HashMap

/-!
# States that sets of characters share

The encodings of the members of a set often end alike, and then they share the states for their ends.
Which state there is for what is kept in a table with a fixed number of slots.  A key has one slot; what
comes later to a slot takes the place of what was there, so not all that could be shared is.

Reading forwards, a state branches on the next byte of all runs.  Reading backwards, a state goes from
the place behind a run towards its first byte, one byte at a time.

## Main definitions

* `Pattern.Sharing` — a layout with the table of states to share
* `Sharing.state` — the state for a key
* `Layout.addSet` — the states of a set of characters
-/

namespace Scanout.Pattern

/-- The slot of a key, among so many. -/
def slotOf (slots : Nat) (key : List Nat) : Nat :=
  (key.foldl (fun (h : UInt64) n => (h ^^^ n.toUInt64) * 1099511628211) 14695981039346656037).toNat %
    slots

/-- **A layout with the table of states to share**, by their slots. -/
structure Sharing where
  slots : Nat
  table : Std.HashMap Nat (List Nat × Nat)
  layout : Layout

namespace Sharing

/-- A layout with nothing to share yet. -/
def start (slots : Nat) (l : Layout) : Sharing := ⟨slots, ∅, l⟩

/-- **The state for a key**, which is added with its branches if the table does not have it. -/
def state (s : Sharing) (key : List Nat) (branches : Nat) : Nat × Sharing :=
  let slot := slotOf s.slots key
  let known := (s.table.get? slot).filter fun entry => entry.1 = key
  match known with
  | some (_, number) => (number, s)
  | none =>
      let number := s.layout.states
      (number, { s with table := s.table.insert slot (key, number), layout := s.layout.add 1 branches })

/-! ### Reading backwards -/

/-- The states of a run that ends in state `last`, and the one that it begins in. -/
def addRun (last : Nat) (run : Run) (s : Sharing) : Nat × Sharing :=
  run.foldl (fun (next, s) (low, high) => s.state [next, low, high] 0) (last, s)

/-- The states of some runs that end in state `last`, with a branch to each. -/
def addBackwards (last : Nat) (runs : List Run) (s : Sharing) : Sharing :=
  runs.foldl
    (fun s run =>
      let (_, s) := s.addRun last run
      { s with layout := s.layout.add 0 branchSize })
    s

/-! ### Reading forwards -/

/-- The states of some runs of at most `n` bytes that end in state `last`, and the one that they begin
in.  Runs that begin alike stand next to each other. -/
def addForwards (last : Nat) : Nat → List Run → Sharing → Nat × Sharing
  | 0, _, s => (last, s)
  | n + 1, runs, s =>
      let groups := runs.splitBy fun run next => run.head? == next.head?
      let (branches, s) := groups.foldl
        (fun (branches, s) group =>
          match group with
          | ((low, high) :: rest) :: _ =>
              let (next, s) :=
                if rest.isEmpty then (last, s) else addForwards last n (group.map List.tail) s
              (branches ++ [low, high, next], s)
          | _ => (branches, s))
        ([], s)
      s.state branches (stepSize * groups.length)

end Sharing

/-! ### Sets -/

/-- How many slots there are for states that are shared backwards. -/
def slotsBackwards : Nat := 1000

/-- How many slots there are for states that are shared forwards. -/
def slotsForwards : Nat := 10000

/-- **Adds the states of a set of characters.**  Ranges of ASCII characters are branches of one
state. -/
def Layout.addSet (backwards : Bool) (set : CharSet) (l : Layout) : Layout :=
  let ranges := set.ranges
  let runs := ranges.flatMap fun (low, high) => byteRuns low high
  let number := l.states
  if ranges.all fun (_, high) => high < 0x80 then l.add 2 (stepSize * ranges.length)
  else if backwards then
    ((Sharing.start slotsBackwards (l.add 2 0)).addBackwards (number + 1) runs).layout
  else ((Sharing.start slotsForwards (l.add 1 0)).addForwards number 4 runs).2.layout

end Scanout.Pattern
