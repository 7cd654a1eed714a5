import Scanout.Decimal.Layout

/-!
# Decimal literals and fixed places

A refresh rate is read from a decimal literal and shown with a fixed number of places; both are
exact up to the one rounding that the format asks for.

## Main definitions

* `Number.ofText?` — the number of a format that a decimal literal denotes
* `Number.fixed` — a number with a fixed number of places
-/

namespace Scanout.Decimal

/-- The value of a run of decimal digits. -/
def digitsValue (digits : List Char) : Nat :=
  digits.foldl (fun acc c => 10 * acc + (c.toNat - '0'.toNat)) 0

/-- Splits a sign off the front of a text: whether it is negative, and the rest. -/
def splitSign : List Char → Bool × List Char
  | '-' :: rest => (true, rest)
  | '+' :: rest => (false, rest)
  | rest => (false, rest)

namespace Number

/-- The exponent at the end of a literal, zero if there is none; nothing if it is malformed. -/
def exponentOfText? : List Char → Option Int
  | [] => some 0
  | c :: rest =>
      if c = 'e' || c = 'E' then
        let (negative, digits) := splitSign rest
        if digits.isEmpty || !digits.all Char.isDigit then none
        else if negative then some (-(digitsValue digits : Int)) else some (digitsValue digits)
      else none

/-- **The number that a decimal literal denotes**: a sign, digits with at most one point, and an
exponent.  Beyond the format it is infinite. -/
def ofText? (F : Format) (text : String) : Option Number :=
  let (negative, unsigned) := splitSign text.toList
  let whole := unsigned.takeWhile Char.isDigit
  let afterWhole := unsigned.dropWhile Char.isDigit
  let (places, afterPlaces) :=
    match afterWhole with
    | '.' :: rest => (rest.takeWhile Char.isDigit, rest.dropWhile Char.isDigit)
    | rest => ([], rest)
  if whole.isEmpty && places.isEmpty then none
  else
    match exponentOfText? afterPlaces with
    | none => none
    | some exponent =>
        let digits := digitsValue (whole ++ places)
        match F.round (Fraction.scaled digits 10 (exponent - places.length)) with
        | some magnitude => some (finite negative magnitude)
        | none => some (infinite negative)

/-- **A number with a fixed number of places**, the nearest such decimal, ties to the even digit. -/
def fixed (places : Nat) : Number → String
  | finite negative x =>
      let scaled := (x.toFraction.mul ⟨Nat.pow 10 places, 1⟩).nearest
      let digits := Nat.toDigits 10 scaled
      let padded := List.replicate (places + 1 - digits.length) '0' ++ digits
      let whole := padded.take (padded.length - places)
      let fraction := padded.drop (padded.length - places)
      (if negative then "-" else "") ++
        String.ofList (if places = 0 then whole else whole ++ '.' :: fraction)
  | infinite negative => if negative then "-inf" else "inf"

end Number

end Scanout.Decimal
