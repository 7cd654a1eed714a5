import Scanout.Pattern.Expr

/-!
# How wide matches are

The width of a match is the number of bytes that its characters take up.  What has no match has no
width, and then neither has what it is a part of.

## Main definitions

* `Expr.minWidth`, `Expr.maxWidth` — bounds for the width of matches, where there are any
* `Expr.startsAnchored`, `Expr.endsAnchored` — whether matches stand at an end of the text
-/

namespace Scanout.Pattern

/-- The bytes of a code point. -/
def codeWidth (n : Nat) : Nat := (Char.ofNat n).utf8Size

/-- The bytes of some characters. -/
def textWidth (cs : List Char) : Nat := cs.foldl (fun n c => n + c.utf8Size) 0

/-- The bytes of the first member of a set. -/
def CharSet.minWidth (s : CharSet) : Option Nat := s.ranges.head?.map fun (low, _) => codeWidth low

/-- The bytes of the last member of a set. -/
def CharSet.maxWidth (s : CharSet) : Option Nat :=
  s.ranges.getLast?.map fun (_, high) => codeWidth high

/-- A bound that is made of two, if there are both. -/
def bothWidths (f : Nat → Nat → Nat) : Option Nat → Option Nat → Option Nat
  | some m, some n => some (f m n)
  | _, _ => none

namespace Expr

/-- **The least width of a match.** -/
def minWidth : Expr → Option Nat
  | empty | test _ => some 0
  | literal cs => some (textWidth cs)
  | chars _ s => s.minWidth
  | repetition count _ e => e.minWidth.map (count.least * ·)
  | captured _ e => e.minWidth
  | sequence e f => bothWidths (· + ·) e.minWidth f.minWidth
  | choice e f => bothWidths min e.minWidth f.minWidth

/-- **The greatest width of a match**, if there is a bound. -/
def maxWidth : Expr → Option Nat
  | empty | test _ => some 0
  | literal cs => some (textWidth cs)
  | chars _ s => s.maxWidth
  | repetition count _ e => bothWidths (· * ·) count.most e.maxWidth
  | captured _ e => e.maxWidth
  | sequence e f => bothWidths (· + ·) e.maxWidth f.maxWidth
  | choice e f => bothWidths max e.maxWidth f.maxWidth

/-- Whether all matches are empty. -/
def isWidthless (e : Expr) : Bool := e.maxWidth = some 0

/-- Whether no match is empty, as far as the least width tells. -/
def consumes (e : Expr) : Bool := e.minWidth.any (0 < ·)

/-- **Whether matches begin only where the text begins**, as the first parts tell. -/
def startsAnchored : Expr → Bool
  | test t => t = .textStart
  | empty | literal _ | chars _ _ => false
  | repetition count _ e => count.least != 0 && e.startsAnchored
  | captured _ e => e.startsAnchored
  | sequence e f => e.startsAnchored || (e.isWidthless && f.startsAnchored)
  | choice e f => e.startsAnchored && f.startsAnchored

/-- **Whether matches end only where the text ends**, as the last parts tell. -/
def endsAnchored : Expr → Bool
  | test t => t = .textEnd
  | empty | literal _ | chars _ _ => false
  | repetition count _ e => count.least != 0 && e.endsAnchored
  | captured _ e => e.endsAnchored
  | sequence e f => f.endsAnchored || (f.isWidthless && e.endsAnchored)
  | choice e f => e.endsAnchored && f.endsAnchored

end Expr

end Scanout.Pattern
