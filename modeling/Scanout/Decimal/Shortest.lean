import Scanout.Decimal.Binary

/-!
# Shortest decimals

A magnitude of a binary format is written with the fewest decimal digits that read back as the same
magnitude, and of those with the nearest.

## Main definitions

* `Scaled` — digits and a power of ten
* `Format.readsBack` — whether a decimal lies in the interval that rounds to a magnitude
* `Format.shortest` — the decimal by which a magnitude is written

## Design notes

For one digit, two digits and so on, the grid of decimals with that many digits has one point just
below the magnitude and one just above it.  If any point of the grid reads back, one of these two
does, so the first grid on which one of them does gives the fewest digits.
-/

namespace Scanout.Decimal

/-- The decimal `digits · 10 ^ exponent`. -/
structure Scaled where
  digits : Nat
  exponent : Int
  deriving DecidableEq, Repr

namespace Scaled

def toFraction (d : Scaled) : Fraction := Fraction.scaled d.digits 10 d.exponent

/-- Moves up to `n` zeros at the end of the digits into the exponent. -/
def strip : Nat → Scaled → Scaled
  | 0, d => d
  | n + 1, d => if d.digits % 10 = 0 then strip n ⟨d.digits / 10, d.exponent + 1⟩ else d

end Scaled

namespace Fraction

/-- The distance of two fractions. -/
def distance (a b : Fraction) : Fraction :=
  let left := a.num * b.den
  let right := b.num * a.den
  ⟨if left < right then right - left else left - right, a.den * b.den⟩

/-- The exponent of the leading decimal digit of a positive fraction of at least `10 ^ -400`. -/
def leadingExponent (x : Fraction) : Int :=
  if x.den ≤ x.num then ((Nat.toDigits 10 x.floor).length : Int) - 1
  else
    match (List.range 400).find? fun k => decide (x.den ≤ x.num * Nat.pow 10 (k + 1)) with
    | some k => -((k : Int) + 1)
    | none => -400

end Fraction

/-- The greatest value that rounds to `x`, as a fraction. -/
def Magnitude.upperBound (x : Magnitude) : Fraction :=
  Fraction.scaled (4 * x.significand + 2) 2 (x.exponent - 2)

namespace Format

variable (F : Format)

/-- The least value that rounds to `x`, as a fraction.  Below the least significand of a binade the
neighbour is only half as far. -/
def lowerBound (x : Magnitude) : Fraction :=
  let narrow := x.significand == Nat.pow 2 (F.precision - 1) && decide (F.least < x.exponent)
  Fraction.scaled (4 * x.significand - if narrow then 1 else 2) 2 (x.exponent - 2)

/-- **Whether a decimal reads back as `x`**: it lies between the bounds, and on a bound only if the
significand is even. -/
def readsBack (x : Magnitude) (d : Scaled) : Bool :=
  let lower := F.lowerBound x
  let upper := x.upperBound
  if x.significand % 2 = 0 then lower.le d.toFraction && d.toFraction.le upper
  else lower.lt d.toFraction && d.toFraction.lt upper

/-- The better of the two grid points around `x` at the given exponent, if one reads back. -/
def candidate (x : Magnitude) (exponent : Int) : Option Scaled :=
  let below : Scaled :=
    ⟨(x.toFraction.div (Fraction.scaled 1 10 exponent)).floor, exponent⟩
  let above : Scaled := ⟨below.digits + 1, exponent⟩
  match F.readsBack x below, F.readsBack x above with
  | true, true =>
      let down := x.toFraction.distance below.toFraction
      let up := x.toFraction.distance above.toFraction
      if down.lt up then some below
      else if up.lt down then some above
      else if below.digits % 2 = 0 then some below else some above
  | true, false => some below
  | false, true => some above
  | false, false => none

/-- The most digits a decimal of a supported format needs. -/
def mostDigits : Nat := 17

/-- **The shortest decimal that reads back as `x`**, without zeros at its end. -/
def shortest (x : Magnitude) : Scaled :=
  if x.isZero then ⟨0, 0⟩
  else
    let top := x.toFraction.leadingExponent
    match (List.range mostDigits).findSome? fun (n : Nat) => F.candidate x (top - n) with
    | some d => d.strip (mostDigits + 1)
    | none => ⟨0, 0⟩

end Format

end Scanout.Decimal
