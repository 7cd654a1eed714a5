import Scanout.Pattern.Tree

/-!
# Sets of characters

A set of characters is kept as the code points at which membership changes, in increasing order: it
begins outside of the set, and every point listed switches to the other side.  So the points stand in
pairs, one for each range of the set.

Between `0xd7ff` and `0xe000` lie code points that are no characters.  What is left over between two
ranges is a range from the character behind the one to the character before the other, which goes
backwards if only such code points lie there; a complement takes such a range the other way round.

## Main definitions

* `Pattern.CharSet` — a set of characters, with `CharSet.contains` for its members
* `CharSet.complement`, `CharSet.combine` — the operations on sets
* `AsciiClass.chars`, `LetterClass.chars` — the classes with names
-/

namespace Scanout.Pattern

/-- **A set of characters**, as the code points at which membership changes. -/
structure CharSet where
  changes : List Nat
  deriving DecidableEq, Repr

namespace CharSet

/-- Whether a code point is in a set. -/
def containsCode (s : CharSet) (n : Nat) : Bool := (s.changes.takeWhile (· ≤ n)).length % 2 == 1

/-- **Whether a character is in a set.** -/
def contains (s : CharSet) (c : Char) : Bool := s.containsCode c.toNat

def empty : CharSet := ⟨[]⟩

/-- The code points of a closed range. -/
def ofRange (low high : Nat) : CharSet := if low ≤ high then ⟨[low, high + 1]⟩ else empty

/-- The set with one member. -/
def singleton (c : Char) : CharSet := ofRange c.toNat c.toNat

/-- Adds a point to the changes behind it if a combination changes there. -/
def noteChange (before behind : Bool) (n : Nat) (rest : List Nat) : List Nat :=
  if before == behind then rest else n :: rest

/-- The changes of a combination of two sets, from their changes and from what they and the
combination were before. -/
def combineFrom (f : Bool → Bool → Bool) (x y : Bool) : List Nat → List Nat → List Nat
  | [], [] => []
  | a :: as, [] => noteChange (f x y) (f (!x) y) a (combineFrom f (!x) y as [])
  | [], b :: bs => noteChange (f x y) (f x (!y)) b (combineFrom f x (!y) [] bs)
  | a :: as, b :: bs =>
      if a < b then noteChange (f x y) (f (!x) y) a (combineFrom f (!x) y as (b :: bs))
      else if b < a then noteChange (f x y) (f x (!y)) b (combineFrom f x (!y) (a :: as) bs)
      else noteChange (f x y) (f (!x) (!y)) a (combineFrom f (!x) (!y) as bs)
  termination_by as bs => as.length + bs.length

/-- **A combination of two sets**: a character is in it as its being in the one and in the other tells,
where one that is in neither is not in it. -/
def combine (f : Bool → Bool → Bool) (s t : CharSet) : CharSet :=
  ⟨combineFrom f false false s.changes t.changes⟩

def union : CharSet → CharSet → CharSet := combine or

def inter : CharSet → CharSet → CharSet := combine and

/-- The code points of some closed ranges. -/
def ofRanges (ranges : List (Char × Char)) : CharSet :=
  ranges.foldl (fun s (low, high) => s.union (ofRange low.toNat high.toNat)) empty

/-- The members of a set with the other cases of its ASCII letters. -/
def withLetterCases (s : CharSet) : CharSet :=
  (List.range 26).foldl
    (fun t i =>
      let lower := 'a'.toNat + i
      let upper := 'A'.toNat + i
      if s.containsCode lower || s.containsCode upper then
        (t.union (ofRange lower lower)).union (ofRange upper upper)
      else t)
    s

/-- Whether no byte beyond the ASCII range is in a set of bytes. -/
def isAscii (s : CharSet) : Bool := (List.range 0x80).all fun i => !s.containsCode (0x80 + i)

/-! ### Ranges -/

/-- Pairs the points where a set begins with those where it ends. -/
def pairChanges : List Nat → List (Nat × Nat)
  | low :: high :: rest => (low, high - 1) :: pairChanges rest
  | _ => []

/-- The closed ranges of a set, in increasing order. -/
def ranges (s : CharSet) : List (Nat × Nat) := pairChanges s.changes

/-- The set of closed ranges that are in increasing order. -/
def ofSorted (ranges : List (Nat × Nat)) : CharSet :=
  ⟨ranges.flatMap fun (low, high) => [low, high + 1]⟩

/-- The last code point. -/
def lastCode : Nat := 0x10ffff

/-- Whether a code point is no character. -/
def isSurrogate (n : Nat) : Bool := 0xd800 ≤ n && n ≤ 0xdfff

/-- A range from its first character to its last one; it goes backwards if it has none. -/
def settle (low high : Nat) : Nat × Nat :=
  (if isSurrogate low then 0xe000 else low, if isSurrogate high then 0xd7ff else high)

/-- The code points from `start` on that lie before, between and behind some ranges. -/
def gaps (start : Nat) : List (Nat × Nat) → List (Nat × Nat)
  | [] => if start ≤ lastCode then [(start, lastCode)] else []
  | (low, high) :: rest =>
      if start < low then (start, low - 1) :: gaps (high + 1) rest else gaps (high + 1) rest

/-- **All characters that are not in a set.** -/
def complement (s : CharSet) : CharSet :=
  ofSorted ((gaps 0 s.ranges).map fun (low, high) =>
    let (low, high) := settle low high
    (min low high, max low high))

/-- The characters of one set that are not in another one. -/
def diff (s t : CharSet) : CharSet :=
  ofSorted ((combine (fun x y => x && !y) s t).ranges.filterMap fun (low, high) =>
    let (low, high) := settle low high
    if low ≤ high then some (low, high) else none)

/-- The characters that are in one set of two. -/
def symmDiff (s t : CharSet) : CharSet := (s.union t).diff (s.inter t)

end CharSet

/-! ### Classes with names -/

/-- The characters of a class of ASCII characters. -/
def AsciiClass.chars : AsciiClass → CharSet
  | alnum => .ofRanges [('0', '9'), ('A', 'Z'), ('a', 'z')]
  | alpha => .ofRanges [('A', 'Z'), ('a', 'z')]
  | ascii => .ofRanges [('\x00', '\x7f')]
  | blank => .ofRanges [('\t', '\t'), (' ', ' ')]
  | cntrl => .ofRanges [('\x00', '\x1f'), ('\x7f', '\x7f')]
  | digit => .ofRanges [('0', '9')]
  | graph => .ofRanges [('!', '~')]
  | lower => .ofRanges [('a', 'z')]
  | print => .ofRanges [(' ', '~')]
  | punct => .ofRanges [('!', '/'), (':', '@'), ('[', '\x60'), ('\x7b', '~')]
  | space => .ofRanges [('\t', '\r'), (' ', ' ')]
  | upper => .ofRanges [('A', 'Z')]
  | word => .ofRanges [('0', '9'), ('A', 'Z'), ('_', '_'), ('a', 'z')]
  | xdigit => .ofRanges [('0', '9'), ('A', 'F'), ('a', 'f')]

/-- The ASCII characters of a class with a letter. -/
def LetterClass.chars : LetterClass → CharSet
  | digit => AsciiClass.digit.chars
  | space => AsciiClass.space.chars
  | word => AsciiClass.word.chars

/-- What an operator makes of two sets. -/
def SetOperator.apply : SetOperator → CharSet → CharSet → CharSet
  | intersection => .inter
  | difference => .diff
  | symmetricDifference => .symmDiff

end Scanout.Pattern
