import Scanout.Pattern.CharSet

/-!
# What a pattern means

The meaning of a pattern is built from characters, sets of characters and tests of a place in a text.
Flags, classes and ways of writing are gone from it.

Some parts of a meaning have no bearing on where there are matches.  They tell equal meanings from
unequal ones: whether a set was written for bytes, whether a repetition is lazy, and which group it is
that is remembered.

## Main definitions

* `Pattern.Test` — what is asked of a place in a text, with `Test.holds`
* `Pattern.Expr` — the meaning of a pattern
* `Expr.ends` — where a match can end that begins at one of some places
* `Expr.occursIn` — whether there is a match anywhere in a text
-/

namespace Scanout.Pattern

/-- What a test of words asks about the characters on both sides of a place. -/
inductive WordTest where
  | boundary
  | noBoundary
  | start
  | stop
  | startHalf
  | stopHalf
  deriving DecidableEq, Repr

/-- **What is asked of a place in a text.** -/
inductive Test where
  | textStart
  | textEnd
  /-- The beginning of a line; `returns` tells whether carriage returns end lines as well. -/
  | lineStart (returns : Bool)
  /-- The end of a line. -/
  | lineEnd (returns : Bool)
  /-- A test of words; `wide` tells whether words go beyond the ASCII range. -/
  | word (test : WordTest) (wide : Bool)
  deriving DecidableEq, Repr

/-- **The meaning of a pattern.** -/
inductive Expr where
  | empty
  /-- Characters that stand for themselves, one behind the other. -/
  | literal (text : List Char)
  | chars (bytewise : Bool) (set : CharSet)
  | test (test : Test)
  | repetition (count : Count) (isLazy : Bool) (sub : Expr)
  /-- A group that is remembered. -/
  | captured (number : Nat) (sub : Expr)
  | sequence (first second : Expr)
  | choice (left right : Expr)
  deriving DecidableEq, Repr

/-! ### Tests -/

/-- The characters of words. -/
def isWordCharacter (c : Char) : Bool := c.isAlphanum || c = '_'

/-- What a test of words asks, by whether there is a character of a word before and behind. -/
def WordTest.holds (before behind : Bool) : WordTest → Bool
  | boundary => before != behind
  | noBoundary => before == behind
  | start => !before && behind
  | stop => before && !behind
  | startHalf => !before
  | stopHalf => !behind

namespace Test

/-- Whether a line begins between two characters; at an end of the text there is none. -/
def beginsLine (returns : Bool) (before behind : Option Char) : Bool :=
  match before with
  | none => true
  | some c => c = '\n' || (returns && c = '\r' && behind != some '\n')

/-- Whether a line ends between two characters. -/
def endsLine (returns : Bool) (before behind : Option Char) : Bool :=
  match behind with
  | none => true
  | some c =>
      if returns then c = '\r' || (c = '\n' && before != some '\r') else c = '\n'

/-- **Whether a test holds between two characters.** -/
def holds (before behind : Option Char) : Test → Bool
  | textStart => before.isNone
  | textEnd => behind.isNone
  | lineStart returns => beginsLine returns before behind
  | lineEnd returns => endsLine returns before behind
  | word test _ => test.holds (before.any isWordCharacter) (behind.any isWordCharacter)

end Test

/-! ### Matches -/

/-- The character before a place. -/
def before? (text : Array Char) (p : Nat) : Option Char := if p = 0 then none else text[p - 1]?

/-- The places behind a character that is accepted. -/
def behindOne (text : Array Char) (accepts : Char → Bool) (ps : List Nat) : List Nat :=
  (ps.filter fun p => text[p]?.any accepts).map (· + 1)

/-- The places of two increasing lists, each once. -/
def mergePlaces : List Nat → List Nat → List Nat
  | [], qs => qs
  | p :: ps, [] => p :: ps
  | p :: ps, q :: qs =>
      if p < q then p :: mergePlaces ps (q :: qs)
      else if q < p then q :: mergePlaces (p :: ps) qs
      else p :: mergePlaces ps qs
  termination_by ps qs => ps.length + qs.length

/-- The places of an increasing list that are not in another one. -/
def dropPlaces : List Nat → List Nat → List Nat
  | [], _ => []
  | p :: ps, [] => p :: ps
  | p :: ps, q :: qs =>
      if p < q then p :: dropPlaces ps (q :: qs)
      else if q < p then dropPlaces (p :: ps) qs
      else dropPlaces ps qs
  termination_by ps qs => ps.length + qs.length

/-- Takes `n` rounds, or as many as change the places. -/
def rounds (next : List Nat → List Nat) : Nat → List Nat → List Nat
  | 0, ps => ps
  | n + 1, ps =>
      let qs := next ps
      if qs = ps then ps else rounds next n qs

/-- The places that are reached from `ps` in at most `n` rounds, where those of `seen` have been
reached already. -/
def reach (next : List Nat → List Nat) : Nat → List Nat → List Nat → List Nat
  | 0, _, seen => seen
  | n + 1, ps, seen =>
      match dropPlaces (next ps) seen with
      | [] => seen
      | new => reach next n new (mergePlaces new seen)

/-- The number of rounds that matter in a text: one that goes on reaches a new place, or stays where
it is. -/
def capped (text : Array Char) (n : Nat) : Nat := min n (text.size + 1)

/-- The places that repetitions end at. -/
def repeated (text : Array Char) (count : Count) (next : List Nat → List Nat) (ps : List Nat) :
    List Nat :=
  let ps := rounds next (capped text count.least) ps
  let more := match count.most with
    | none => text.size + 1
    | some most => capped text (most - count.least)
  reach next more ps ps

namespace Expr

/-- **Where a match can end** that begins at one of some places; they are in increasing order. -/
def ends (text : Array Char) : Expr → List Nat → List Nat
  | empty, ps => ps
  | literal cs, ps => cs.foldl (fun ps c => behindOne text (· = c) ps) ps
  | chars _ set, ps => behindOne text set.contains ps
  | test t, ps => ps.filter fun p => t.holds (before? text p) text[p]?
  | repetition count _ sub, ps => repeated text count (sub.ends text) ps
  | captured _ sub, ps => sub.ends text ps
  | sequence first second, ps => second.ends text (first.ends text ps)
  | choice left right, ps => mergePlaces (left.ends text ps) (right.ends text ps)

/-- **Whether there is a match anywhere in a text.** -/
def occursIn (e : Expr) (text : String) : Bool :=
  let text := text.toList.toArray
  !(e.ends text (List.range (text.size + 1))).isEmpty

/-! ### Words -/

/-- Whether a test of words beyond the ASCII range is left. -/
def asksWideWords : Expr → Bool
  | empty | literal _ | chars _ _ => false
  | test (.word _ wide) => wide
  | test _ => false
  | repetition _ _ e | captured _ e => e.asksWideWords
  | sequence e f | choice e f => e.asksWideWords || f.asksWideWords

end Expr

end Scanout.Pattern
