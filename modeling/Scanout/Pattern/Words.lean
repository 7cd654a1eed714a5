import Scanout.Pattern.Layout

/-!
# Choices between literals

A choice between literals is laid out as a tree: literals that begin with the same byte share the
state that branches on it.  The order of the branches has to stay known, so a state where a literal
ends is split there: what was given before this literal is one chunk, what is given behind it another.

## Main definitions

* `Pattern.chunks` — what is left of some literals, split where one has ended
* `Layout.addWords` — the states of a choice between literals
-/

namespace Scanout.Pattern

/-- Splits words where there is an empty one. -/
def splitAtEmpty : List (List Nat) → List (List (List Nat))
  | [] => [[]]
  | [] :: ws => [] :: splitAtEmpty ws
  | w :: ws =>
      match splitAtEmpty ws with
      | [] => [[w]]
      | chunk :: chunks => (w :: chunk) :: chunks

/-- **What is left of some literals, in chunks.**  Of several literals that end before any other goes
on, the first one counts. -/
def chunks : List (List Nat) → List (List (List Nat))
  | [] :: ws => [] :: splitAtEmpty (ws.dropWhile List.isEmpty)
  | ws => splitAtEmpty ws

/-- The bytes that some words begin with, each once. -/
def heads (words : List (List Nat)) : List Nat := (words.filterMap List.head?).eraseDups

/-- What is left of the words that begin with a byte. -/
def behind (head : Nat) (words : List (List Nat)) : List (List Nat) :=
  (words.filter fun w => w.head? == some head).map List.tail

namespace Layout

/-- Adds the state for one chunk, where `lay` adds the states for what is left of some words.  A chunk
with nothing in it needs none, and the place where words only end is there already. -/
def addChunk (lay : List (List Nat) → Layout → Layout) (l : Layout) (chunk : List (List Nat)) :
    Layout :=
  let bytes := heads chunk
  let l := bytes.foldl
    (fun l head =>
      let rest := behind head chunk
      if rest.all List.isEmpty then l else lay rest l)
    l
  match bytes with
  | [] => l
  | [_] => l.add 1 0
  | _ => l.add 1 (stepSize * bytes.length)

/-- Adds the states for what is left of words that are no longer than `n`. -/
def addRests : Nat → List (List Nat) → Layout → Layout
  | 0, _, l => l
  | n + 1, words, l =>
      let parts := chunks words
      let l := parts.foldl (addChunk (addRests n)) l
      let used := (parts.filter fun chunk => !chunk.isEmpty).length
      l.add 1 (branchSize * (used + (parts.length - 1)))

/-- **Adds the states of a choice between words.** -/
def addWords (words : List (List Nat)) (l : Layout) : Layout :=
  let longest := words.foldl (fun n w => max n w.length) 0
  addRests (longest + 1) words (l.add 1 0)

end Layout

end Scanout.Pattern
