import Scanout.Decimal.Shortest

/-!
# Layouts of decimals

A decimal is written positionally, with a point and at least one place, or scientifically, with an
exponent.  Which of the two depends on the exponent of its leading digit, and each kind of output
draws the line for itself.

## Main definitions

* `Layout` — where positional writing begins and ends, and whether a positive exponent has a sign
* `Layout.render` — the text of a decimal
* `Number` — a binary number with its sign, finite or not
-/

namespace Scanout.Decimal

/-- **How decimals are laid out**: positionally if the exponent of the leading digit is at least
`positionalFrom` and below `positionalBelow`. -/
structure Layout where
  positionalFrom : Int
  positionalBelow : Int
  plusSign : Bool

namespace Layout

/-- Digits with a point after the last of them or inside them, and zeros where digits are missing. -/
def positional (digits : List Char) (exponent : Int) : List Char :=
  match exponent with
  | .ofNat k => digits ++ List.replicate k '0' ++ ['.', '0']
  | .negSucc k =>
      let places := k + 1
      if places < digits.length then
        digits.take (digits.length - places) ++ '.' :: digits.drop (digits.length - places)
      else '0' :: '.' :: List.replicate (places - digits.length) '0' ++ digits

/-- One digit, a point and the others if there are others, and the exponent. -/
def scientific (plusSign : Bool) (digits : List Char) (leading : Int) : List Char :=
  let fraction := if digits.length ≤ 1 then [] else '.' :: digits.drop 1
  let sign := if leading < 0 then ['-'] else if plusSign then ['+'] else []
  digits.take 1 ++ fraction ++ 'e' :: sign ++ Nat.toDigits 10 leading.natAbs

/-- **The text of a decimal.** -/
def render (layout : Layout) (d : Scaled) : List Char :=
  let digits := Nat.toDigits 10 d.digits
  let leading := d.exponent + digits.length - 1
  if layout.positionalFrom ≤ leading && leading < layout.positionalBelow then
    positional digits d.exponent
  else scientific layout.plusSign digits leading

end Layout

/-- A number of a binary format, with its sign. -/
inductive Number where
  | finite (negative : Bool) (magnitude : Magnitude)
  | infinite (negative : Bool)
  deriving DecidableEq, Repr

namespace Number

/-- The text of a number: the shortest decimal of its magnitude, laid out, after the sign. -/
def render (F : Format) (layout : Layout) : Number → String
  | finite negative x =>
      let sign := if negative then "-" else ""
      sign ++ String.ofList (layout.render (F.shortest x))
  | infinite negative => if negative then "-inf" else "inf"

end Number

end Scanout.Decimal
