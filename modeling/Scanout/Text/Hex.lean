/-!
# Hexadecimal text

Words and bit patterns are shown in lower-case hexadecimal after `0x`, either with the digits they
need or padded with zeros to a given number of digits.  They are read in either case of letters.
-/

namespace Scanout.Text

/-- The lower-case hexadecimal digits of `n`, at least one. -/
def hexDigits (n : Nat) : List Char := Nat.toDigits 16 n

/-- `0x` and the digits that `n` needs. -/
def hex (n : Nat) : String := "0x" ++ String.ofList (hexDigits n)

/-- `0x` and at least `width` digits, padded with zeros. -/
def hexPadded (width n : Nat) : String :=
  "0x" ++ String.ofList (List.replicate (width - (hexDigits n).length) '0' ++ hexDigits n)

/-- The value of a hexadecimal digit, of either case. -/
def hexDigit? (c : Char) : Option Nat :=
  if '0' ≤ c && c ≤ '9' then some (c.toNat - '0'.toNat)
  else if 'a' ≤ c && c ≤ 'f' then some (c.toNat - 'a'.toNat + 10)
  else if 'A' ≤ c && c ≤ 'F' then some (c.toNat - 'A'.toNat + 10)
  else none

/-- The value of hexadecimal digits, the first of them the highest. -/
def hexValue? (digits : List Char) : Option Nat :=
  digits.foldlM (fun acc c => (hexDigit? c).map fun digit => 16 * acc + digit) 0

end Scanout.Text
