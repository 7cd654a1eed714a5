import Scanout.Pattern.Cursor
import Scanout.Pattern.Tree

/-!
# Counts of repetitions

Between braces stands how often the part before them is repeated: a number, or the least and the
greatest one with a comma between them, of which the greatest may be missing.  Blanks around the
numbers never count.  A question mark behind a count or a sign makes the repetition lazy.

## Main definitions

* `Pattern.readCount` — reads a count, from its opening brace on
* `Pattern.readSign` — reads the sign that stands for a count
-/

namespace Scanout.Pattern

/-- The number that decimal digits make. -/
def decimalValue (digits : List Char) : Nat :=
  digits.foldl (fun n c => 10 * n + (c.toNat - '0'.toNat)) 0

/-- Reads a decimal number of 32 bits between blanks.  The cursor goes behind the digits even if they
are no such number. -/
def readDecimal (k : Cursor) : Except Fault Nat × Cursor :=
  let (_, k) := Cursor.gatherUpTo Cursor.advance Text.isBlank k.rest.length k
  let start := k.place
  let (digits, k) := k.gather Char.isDigit
  let span := k.since start
  let (_, k) := k.gather Text.isBlank
  let value := decimalValue digits
  (if digits.isEmpty then .error (.of .countEmpty span)
    else if value < UInt32.size then .ok value
    else .error (.of .decimalInvalid span), k)

/-- Reads what stands between the braces of a count that began at a place.  A fault of the first
number shows only where the count does not break off right behind it. -/
def readLimits (start : Place) : Reading Count := fun k => do
  let unclosed (k : Cursor) : Fault := .of .countUnclosed (k.since start)
  let (least, k) := readDecimal k
  if k.atEnd then .error (unclosed k)
  else if !k.sees ',' then
    let n ← least
    return (⟨n, some n⟩, k)
  else
    let k := k.step
    if k.atEnd then .error (unclosed k)
    else if k.sees '\x7d' then return (⟨← least, none⟩, k)
    else
      let n ← least
      let (most, k) := readDecimal k
      return (⟨n, some (← most)⟩, k)

/-- Whether the least number of a count is not above the greatest. -/
def Count.isOrdered (count : Count) : Bool :=
  match count.most with
  | none => true
  | some most => count.least ≤ most

/-- Whether a question mark comes next, and what is behind it. -/
def readLazily (k : Cursor) : Bool × Cursor := if k.sees '?' then (true, k.advance) else (false, k)

/-- **Reads a count**, from its opening brace on, and whether it is lazy. -/
def readCount : Reading (Count × Bool) := fun k => do
  let start := k.place
  let k := k.step
  if k.atEnd then .error (.of .countUnclosed (k.since start))
  else do
    let (count, k) ← readLimits start k
    if !k.sees '\x7d' then .error (.of .countUnclosed (k.since start))
    else
      let (isLazy, k) := readLazily k.step
      if count.isOrdered then return ((count, isLazy), k)
      else .error (.of .countReversed (k.since start))

/-- The count that a sign stands for, if it stands for one. -/
def Count.ofSign? : Char → Option Count
  | '?' => some ⟨0, some 1⟩
  | '*' => some ⟨0, none⟩
  | '+' => some ⟨1, none⟩
  | _ => none

/-- **Reads the sign that a count stands for**, and whether the repetition is lazy. -/
def readSign (count : Count) : Reading (Count × Bool) := fun k =>
  let (isLazy, k) := readLazily k.advance
  .ok ((count, isLazy), k)

end Scanout.Pattern
