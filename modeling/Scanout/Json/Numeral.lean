import Scanout.Decimal.Literal
import Scanout.Json.Reader

/-!
# Numerals of a text

A numeral is an optional minus, digits without a leading zero, an optional fraction and an optional
exponent.  Without fraction and exponent it denotes an integer as long as 64 bits hold it; in every
other case it denotes a floating-point number.

## Main definitions

* `Json.Numeral` — the parts of a numeral
* `Json.Numeral.read` — reads the parts
* `Json.Numeral.value` — what a numeral denotes

## Design notes

The parts are read before anything is computed, so being malformed does not depend on the value.
The floating-point value takes the first digits that fit 64 bits as its significand, and drops
those after them.
-/

namespace Scanout.Json

/-- **The parts of a numeral.** -/
structure Numeral where
  negative : Bool
  whole : List Char
  /-- The digits of the fraction, none if there is no fraction. -/
  fraction : List Char
  /-- Whether the exponent is negative, and its digits. -/
  exponent : Option (Bool × List Char)
  deriving DecidableEq, Repr

namespace Numeral

/-! ### Reading -/

/-- Reads digits, of which there must be one; `broken` is the fault of a text that ends here. -/
def readDigits (broken : Fault) (s : List Char) : Except Fault (List Char × List Char) :=
  match s with
  | [] => .error broken
  | c :: rest =>
      if c.isDigit then .ok (c :: rest.takeWhile Char.isDigit, rest.dropWhile Char.isDigit)
      else .error .invalidNumber

/-- Reads the digits before the point.  A leading zero stands alone. -/
def readWhole (broken : Fault) (s : List Char) : Except Fault (List Char × List Char) := do
  let (digits, rest) ← readDigits broken s
  if digits.head? = some '0' && 1 < digits.length then .error .invalidNumber
  else return (digits, rest)

/-- Reads the fraction, if there is one. -/
def readFraction (broken : Fault) (s : List Char) : Except Fault (List Char × List Char) :=
  match s with
  | [] => .ok ([], [])
  | c :: rest => if c = '.' then readDigits broken rest else .ok ([], c :: rest)

/-- Reads the sign of an exponent, if there is one. -/
def readSign (s : List Char) : Bool × List Char :=
  match s with
  | [] => (false, [])
  | c :: rest =>
      if c = '-' then (true, rest) else if c = '+' then (false, rest) else (false, c :: rest)

/-- Reads the exponent, if there is one. -/
def readExponent (broken : Fault) (s : List Char) :
    Except Fault (Option (Bool × List Char) × List Char) :=
  match s with
  | [] => .ok (none, [])
  | c :: rest =>
      if c = 'e' || c = 'E' then do
        let (digits, after) ← readDigits broken (readSign rest).2
        return (some ((readSign rest).1, digits), after)
      else .ok (none, c :: rest)

/-- Whether a numeral can begin with a character. -/
def begins (c : Char) : Bool := c == '-' || c.isDigit

/-- Reads the minus of a numeral, if there is one. -/
def readMinus (s : List Char) : Bool × List Char :=
  match s with
  | [] => (false, [])
  | c :: rest => if c = '-' then (true, rest) else (false, c :: rest)

/-- **Reads a numeral.**  The fault of a text that breaks off in it is for the caller to choose. -/
def read (broken : Fault) : Reader Numeral := fun s => do
  let (negative, s) := readMinus s
  let (whole, s) ← readWhole broken s
  let (fraction, s) ← readFraction broken s
  let (exponent, s) ← readExponent broken s
  return (⟨negative, whole, fraction, exponent⟩, s)

/-! ### What a reader leaves is shorter -/

theorem readDigits_length {broken : Fault} {s digits rest : List Char}
    (h : readDigits broken s = .ok (digits, rest)) : rest.length < s.length := by
  unfold readDigits at h
  split at h
  · cases h
  · next c tail =>
    split at h
    · cases h
      have := (List.dropWhile_suffix (l := tail) Char.isDigit).length_le
      simp only [List.length_cons]
      omega
    · cases h

theorem readWhole_length {broken : Fault} {s digits rest : List Char}
    (h : readWhole broken s = .ok (digits, rest)) : rest.length < s.length := by
  obtain ⟨⟨digits', rest'⟩, hd, h⟩ := exists_ok_of_bind h
  simp only at h
  split at h
  · cases h
  · cases h
    exact readDigits_length hd

theorem readFraction_length {broken : Fault} {s digits rest : List Char}
    (h : readFraction broken s = .ok (digits, rest)) : rest.length ≤ s.length := by
  unfold readFraction at h
  split at h
  · cases h
    exact Nat.le_refl _
  · split at h
    · have := readDigits_length h
      simp only [List.length_cons]
      omega
    · cases h
      exact Nat.le_refl _

theorem readSign_length (s : List Char) : (readSign s).2.length ≤ s.length := by
  unfold readSign
  split
  · exact Nat.le_refl _
  · split
    · simp
    · split <;> simp

theorem readExponent_length {broken : Fault} {s rest : List Char}
    {exponent : Option (Bool × List Char)}
    (h : readExponent broken s = .ok (exponent, rest)) : rest.length ≤ s.length := by
  unfold readExponent at h
  split at h
  · cases h
    exact Nat.le_refl _
  · next c tail =>
    split at h
    · obtain ⟨⟨digits, after⟩, hd, h⟩ := exists_ok_of_bind h
      cases h
      have := readDigits_length hd
      have := readSign_length tail
      simp only [List.length_cons]
      omega
    · cases h
      exact Nat.le_refl _

theorem readMinus_length (s : List Char) : (readMinus s).2.length ≤ s.length := by
  unfold readMinus
  split
  · exact Nat.le_refl _
  · split <;> simp

theorem read_length {broken : Fault} {s rest : List Char} {n : Numeral}
    (h : read broken s = .ok (n, rest)) : rest.length < s.length := by
  unfold read at h
  simp only at h
  obtain ⟨⟨whole, s₁⟩, hw, h⟩ := exists_ok_of_bind h
  obtain ⟨⟨fraction, s₂⟩, hf, h⟩ := exists_ok_of_bind h
  obtain ⟨⟨exponent, s₃⟩, he, h⟩ := exists_ok_of_bind h
  simp only [pure, Except.pure, Except.ok.injEq, Prod.mk.injEq] at h
  obtain ⟨_, rfl⟩ := h
  have := readMinus_length s
  have := readWhole_length hw
  have := readFraction_length hf
  have := readExponent_length he
  simp only at *
  omega

/-! ### Values -/

/-- The greatest natural of 64 bits. -/
def greatestWord : Nat := 18446744073709551615

/-- Appends digits to a significand as long as it fits 64 bits, and gives the digits left over. -/
def accumulate (significand : Nat) : List Char → Nat × List Char
  | [] => (significand, [])
  | c :: rest =>
      let next := 10 * significand + (c.toNat - '0'.toNat)
      if next ≤ greatestWord then accumulate next rest else (significand, c :: rest)

/-- The floating-point number with a sign, a significand and a decimal exponent. -/
def real (negative : Bool) (significand : Nat) (exponent : Int) : Except Fault Found :=
  match Decimal.double.ofParts significand exponent with
  | some magnitude => .ok (.real (.finite negative magnitude))
  | none => .error .numberOutOfRange

/-- The greatest exponent that is applied; beyond it a number is zero or out of range. -/
def greatestExponent : Nat := 2147483647

/-- The floating-point number of a significand, its own exponent, and a written one. -/
def scaled (negative : Bool) (significand : Nat) (shift : Int) :
    Option (Bool × List Char) → Except Fault Found
  | none => real negative significand shift
  | some (down, digits) =>
      let written := Decimal.digitsValue digits
      if greatestExponent < written then
        if significand = 0 || down then real negative 0 0 else .error .numberOutOfRange
      else real negative significand (if down then shift - written else shift + written)

/-- Whether a numeral has neither fraction nor exponent. -/
def isWhole (n : Numeral) : Bool := n.fraction.isEmpty && n.exponent.isNone

/-- The integer of a sign and a natural, if there is one of 64 bits.  Zero has no minus. -/
def integer? (negative : Bool) (natural : Nat) : Option Int :=
  if negative then
    if natural = 0 || 9223372036854775808 < natural then none else some (-(natural : Int))
  else some natural

/-- **What a numeral denotes.** -/
def value (n : Numeral) : Except Fault Found :=
  let (wholePart, beyond) := accumulate 0 n.whole
  let (significand, dropped) := accumulate wholePart n.fraction
  let shift : Int := (beyond.length : Int) - (n.fraction.length - dropped.length : Nat)
  if n.isWhole && beyond.isEmpty then
    match integer? n.negative wholePart with
    | some integer => .ok (.integer integer)
    | none => real n.negative significand shift
  else scaled n.negative significand shift n.exponent

end Numeral

end Scanout.Json
