/-!
# Binary magnitudes

A binary format holds the magnitudes `m · 2 ^ q` whose significand `m` has a bounded number of bits
and whose exponent `q` lies between two bounds.  Any fraction is taken to the nearest of them, and of
two equally near to the one with the even significand.

## Main definitions

* `Fraction` — a quotient of naturals, compared by cross multiplication
* `Format` — a binary format; `single` and `double` are the two in use
* `Format.round` — the magnitude nearest to a fraction, unless it is beyond the format
* `Format.ofParts` — a decimal significand scaled by a power of ten, one rounding at a time

## Design notes

Everything is exact arithmetic on naturals, so what a format does to a number can be computed and
reasoned about without any machine's own floating point.
-/

namespace Scanout.Decimal

/-- A quotient of naturals, not necessarily in lowest terms. -/
structure Fraction where
  num : Nat
  den : Nat
  deriving DecidableEq, Repr

namespace Fraction

/-- `n · base ^ e` for an exponent of either sign. -/
def scaled (n base : Nat) : Int → Fraction
  | .ofNat k => ⟨n * base.pow k, 1⟩
  | .negSucc k => ⟨n, base.pow (k + 1)⟩

def lt (a b : Fraction) : Bool := decide (a.num * b.den < b.num * a.den)

def le (a b : Fraction) : Bool := decide (a.num * b.den ≤ b.num * a.den)

def mul (a b : Fraction) : Fraction := ⟨a.num * b.num, a.den * b.den⟩

/-- The reciprocal of `b` times `a`. -/
def div (a b : Fraction) : Fraction := ⟨a.num * b.den, a.den * b.num⟩

def floor (a : Fraction) : Nat := a.num / a.den

/-- The nearest natural; of two equally near, the even one. -/
def nearest (a : Fraction) : Nat :=
  let below := a.num / a.den
  let twice := 2 * (a.num % a.den)
  if twice < a.den then below
  else if a.den < twice then below + 1
  else if below % 2 = 0 then below else below + 1

end Fraction

/-- **A binary format**: the bits of a significand and the bounds of the exponent. -/
structure Format where
  precision : Nat
  least : Int
  greatest : Int

/-- The magnitude `significand · 2 ^ exponent`. -/
structure Magnitude where
  significand : Nat
  exponent : Int
  deriving DecidableEq, Repr

/-- The format of 32-bit numbers. -/
def single : Format := ⟨24, -149, 104⟩

/-- The format of 64-bit numbers. -/
def double : Format := ⟨53, -1074, 971⟩

namespace Magnitude

def toFraction (x : Magnitude) : Fraction := Fraction.scaled x.significand 2 x.exponent

def isZero (x : Magnitude) : Bool := x.significand == 0

end Magnitude

namespace Format

variable (F : Format)

/-- The exponent at which a positive fraction has a significand of full precision, or the least one
where that would be below it. -/
def exponentOf (x : Fraction) : Int :=
  let guess : Int := (x.num.log2 : Int) - x.den.log2 - F.precision
  let tight := if (x.div (Fraction.scaled 1 2 guess)).floor < Nat.pow 2 F.precision
    then guess else guess + 1
  if tight < F.least then F.least else tight

/-- **The magnitude nearest to a fraction**, ties to the even significand; none when it is beyond the
greatest one. -/
def round (x : Fraction) : Option Magnitude :=
  if x.num = 0 then some ⟨0, F.least⟩
  else
    let q := F.exponentOf x
    let m := (x.div (Fraction.scaled 1 2 q)).nearest
    let full := Nat.pow 2 F.precision
    let rounded : Magnitude := if m = full then ⟨full / 2, q + 1⟩ else ⟨m, q⟩
    if F.greatest < rounded.exponent then none else some rounded

/-- The greatest power of ten that is applied in one step. -/
def greatestPower : Nat := 308

/-- Scales a magnitude by ten to a power, in steps of at most `greatestPower`.  A step multiplies or
divides by the rounded power and rounds again; only a division can be followed by another step, and
from zero there is none. -/
def scaleByTen : Nat → Magnitude → Int → Option Magnitude
  | 0, x, _ => some x
  | steps + 1, x, e =>
      if e.natAbs ≤ greatestPower then
        match F.round ⟨Nat.pow 10 e.natAbs, 1⟩ with
        | none => none
        | some power =>
            if 0 ≤ e then F.round (x.toFraction.mul power.toFraction)
            else F.round (x.toFraction.div power.toFraction)
      else if x.isZero then some x
      else if 0 ≤ e then none
      else
        match F.round ⟨Nat.pow 10 greatestPower, 1⟩ with
        | none => none
        | some power =>
            match F.round (x.toFraction.div power.toFraction) with
            | none => none
            | some y => scaleByTen steps y (e + greatestPower)

/-- **The value of `significand · 10 ^ exponent`**, where the significand is rounded first and the
scaling after it. -/
def ofParts (significand : Nat) (exponent : Int) : Option Magnitude :=
  match F.round ⟨significand, 1⟩ with
  | none => none
  | some x => F.scaleByTen (exponent.natAbs / greatestPower + 1) x exponent

end Format

end Scanout.Decimal
