/-!
# Encodings of ranges of characters

An automaton over bytes does not see characters but their encodings.  The encodings of a range of
characters fall into runs: the first bytes go through a range, the second ones do, and so on, each
independently of the others.

## Main definitions

* `Pattern.Run` — encodings of one length, as the range of each byte
* `Pattern.byteRuns` — the encodings of a range of characters
-/

namespace Scanout.Pattern

/-- **Encodings of one length**, as the least and the greatest value of each byte. -/
abbrev Run := List (Nat × Nat)

/-- The bytes of a code point. -/
def encoded (n : Nat) : List Nat := (String.singleton (Char.ofNat n)).toUTF8.toList.map UInt8.toNat

/-- The bytes of some characters. -/
def textBytes (cs : List Char) : List Nat := cs.flatMap fun c => encoded c.toNat

/-- The last code points with an encoding of one, two and three bytes. -/
def lengthLimits : List Nat := [0x7f, 0x7ff, 0xffff]

/-- Where a range has to be cut so that the bytes from the last on run through all their values: behind
a first code point, with `bits` for the bits of these bytes. -/
def cutAt (low high bits : Nat) : Option Nat :=
  let block := Nat.pow 2 bits
  if low / block = high / block then none
  else if low % block ≠ 0 then some (low / block * block + (block - 1))
  else if high % block ≠ block - 1 then some (high / block * block - 1)
  else none

/-- Where a range of code points has to be cut first, so that the encodings of the pieces are runs of
bytes. -/
def firstCut (low high : Nat) : Option Nat :=
  ((lengthLimits.find? fun limit => low ≤ limit && limit < high)).or
    (if high ≤ 0x7f then none else [6, 12, 18].findSome? (cutAt low high))

/-- The encodings of a range of code points without gaps, each as the runs of its bytes; a range is
cut at most so often. -/
def runsOf : Nat → Nat → Nat → List Run
  | 0, _, _ => []
  | n + 1, low, high =>
      if high < low then []
      else
        match firstCut low high with
        | some cut => runsOf n low cut ++ runsOf n (cut + 1) high
        | none => [(encoded low).zip (encoded high)]

/-- **The encodings of a range of characters as runs of bytes.**  The range goes around the code
points that are no characters. -/
def byteRuns (low high : Nat) : List Run :=
  runsOf 32 low (min high 0xd7ff) ++ runsOf 32 (max low 0xe000) high

end Scanout.Pattern
