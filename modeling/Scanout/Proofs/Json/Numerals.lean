import Scanout.Json.Codec
import Scanout.Proofs.Json.Grammar

/-!
# Numerals read back

A numeral of the grammar is read as a whole if nothing stands behind it that a numeral could go on
with.  An integer is written as its decimal digits, after a minus if it is negative; then exactly those
digits are read, and as long as 64 bits hold their value, it is the integer again.

## Main definitions

* `Json.Delimited` — a text that no numeral goes on in

## Main results

* `Json.Numeral.exists_read_numeral` — a numeral of the grammar is read
* `Json.Numeral.read_natural`, `Json.Numeral.read_minus` — which parts of a written integer are read
* `Json.Numeral.accumulate_toDigits` — the value of its digits
-/

namespace Scanout.Json

/-- Whether a numeral that has only digits so far can go on with a character. -/
def goesOn (c : Char) : Bool := c.isDigit || c == '.' || c == 'e' || c == 'E'

/-- **A text that no numeral goes on in**, for it ends or begins otherwise. -/
def Delimited (s : List Char) : Prop := ∀ c ∈ s.head?, goesOn c = false

theorem delimited_nil : Delimited [] := by
  intro c first
  cases first

theorem delimited_cons {c : Char} {s : List Char} (ends : goesOn c = false) : Delimited (c :: s) := by
  intro first same
  cases same
  exact ends

/-- A text that no numeral goes on in does not begin with a digit. -/
theorem Delimited.noDigit {s : List Char} (delimited : Delimited s) :
    ∀ c ∈ s.head?, c.isDigit = false := by
  intro c first
  have ends := delimited c first
  simp only [goesOn, Bool.or_eq_false_iff] at ends
  exact ends.1.1.1

/-! ### Decimal digits -/

theorem isDigit_of_mem_digits {n : Nat} {c : Char} (digit : c ∈ Nat.toDigits 10 n) :
    c.isDigit = true :=
  Nat.isDigit_of_mem_toDigits (by decide) (by decide) digit

/-- The digits of a positive number do not begin with a zero. -/
theorem head?_toDigits_ne_zero {n : Nat} (positive : 0 < n) :
    (Nat.toDigits 10 n).head? ≠ some '0' := by
  induction n using Nat.strongRecOn with
  | ind n ih =>
      rw [Nat.toDigits_eq_if (by decide)]
      split
      · intro zero
        rw [List.head?_cons, Option.some.injEq, Nat.digitChar_eq_zero] at zero
        omega
      · -- the first digit is that of a tenth of the number
        have lower := ih (n / 10) (by omega) (by omega)
        cases digits : Nat.toDigits 10 (n / 10) with
        | nil => exact absurd digits Nat.toDigits_ne_nil
        | cons first others =>
            rw [digits] at lower
            exact lower

/-- **The digits of a number are digits without a zero in front.** -/
theorem isWhole_toDigits (n : Nat) : IsWhole (Nat.toDigits 10 n) := by
  refine ⟨⟨Nat.toDigits_ne_nil, fun _ => isDigit_of_mem_digits⟩, fun zero => ?_⟩
  rcases Nat.eq_zero_or_pos n with rfl | positive
  · rfl
  · exact absurd zero (head?_toDigits_ne_zero positive)

namespace Numeral

variable {broken : Fault} {rest : List Char}

/-! ### Parts of a numeral -/

/-- Digits are read up to the last one. -/
theorem readDigits_append {digits : List Char} (are : IsDigits digits)
    (ends : ∀ c ∈ rest.head?, c.isDigit = false) :
    readDigits broken (digits ++ rest) = .ok (digits, rest) := by
  obtain ⟨some, all⟩ := are
  have stops : rest.takeWhile Char.isDigit = [] ∧ rest.dropWhile Char.isDigit = rest := by
    cases rest with
    | nil => exact ⟨rfl, rfl⟩
    | cons c rest => simp [ends c rfl]
  cases digits with
  | nil => exact absurd rfl some
  | cons first others =>
      have behind : ∀ c ∈ others, c.isDigit = true := fun c member =>
        all c (List.mem_cons_of_mem _ member)
      rw [List.cons_append, readDigits, if_pos (all first List.mem_cons_self),
        List.takeWhile_append_of_pos behind, List.dropWhile_append_of_pos behind, stops.1, stops.2,
        List.append_nil]

/-- **The digits before the point are read up to the last one.** -/
theorem readWhole_append {digits : List Char} (whole : IsWhole digits)
    (ends : ∀ c ∈ rest.head?, c.isDigit = false) :
    readWhole broken (digits ++ rest) = .ok (digits, rest) := by
  unfold readWhole
  rw [readDigits_append whole.1 ends]
  show (if _ then _ else _) = _
  rw [if_neg]
  · rfl
  · intro malformed
    simp only [Bool.and_eq_true, decide_eq_true_eq] at malformed
    rw [whole.2 malformed.1] at malformed
    exact absurd malformed.2 (by decide)

theorem readFraction_delimited (delimited : Delimited rest) :
    readFraction broken rest = .ok ([], rest) := by
  cases rest with
  | nil => rfl
  | cons c rest =>
      have other := delimited c rfl
      simp only [goesOn, Bool.or_eq_false_iff, beq_eq_false_iff_ne] at other
      rw [readFraction, if_neg other.1.1.2]

theorem readExponent_delimited (delimited : Delimited rest) :
    readExponent broken rest = .ok (none, rest) := by
  cases rest with
  | nil => rfl
  | cons c rest =>
      have other := delimited c rfl
      simp only [goesOn, Bool.or_eq_false_iff, beq_eq_false_iff_ne] at other
      rw [readExponent, if_neg (by simp [other.1.2, other.2])]

/-! ### Numerals of the grammar -/

/-- Behind the digits before the point and the fraction there is neither a digit nor a point. -/
theorem head?_exponent {exponent : List Char} (is : IsExponent exponent)
    (delimited : Delimited rest) :
    ∀ c ∈ (exponent ++ rest).head?, c.isDigit = false ∧ c ≠ '.' := by
  intro c first
  cases is with
  | missing =>
      have ends := delimited c first
      simp only [goesOn, Bool.or_eq_false_iff, beq_eq_false_iff_ne] at ends
      exact ends.1.1
  | given marks _ _ =>
      cases first
      simp only [List.mem_cons, List.not_mem_nil, or_false] at marks
      rcases marks with rfl | rfl <;> decide

/-- Behind the digits before the point there is no digit. -/
theorem head?_fraction {fraction s : List Char} (is : IsFraction fraction)
    (ends : ∀ c ∈ s.head?, c.isDigit = false ∧ c ≠ '.') :
    ∀ c ∈ (fraction ++ s).head?, c.isDigit = false := by
  intro c first
  cases is with
  | missing => exact (ends c first).1
  | given _ =>
      cases first
      rfl

/-- **The fraction is read up to its last digit**, if there is one. -/
theorem readFraction_append {fraction s : List Char} (is : IsFraction fraction)
    (ends : ∀ c ∈ s.head?, c.isDigit = false ∧ c ≠ '.') :
    ∃ digits, readFraction broken (fraction ++ s) = .ok (digits, s) ∧
      digits.isEmpty = fraction.isEmpty := by
  cases is with
  | missing =>
      refine ⟨[], ?_, rfl⟩
      cases s with
      | nil => rfl
      | cons c s => rw [List.nil_append, readFraction, if_neg (ends c rfl).2]
  | given are =>
      exact ⟨_, readDigits_append are fun c first => (ends c first).1,
        List.isEmpty_eq_false_iff.mpr are.1⟩

/-- The sign of an exponent is read, digits behind it or without it. -/
theorem readSign_append {sign digits s : List Char} (signs : sign ∈ [[], ['+'], ['-']])
    (are : IsDigits digits) : (readSign (sign ++ (digits ++ s))).2 = digits ++ s := by
  simp only [List.mem_cons, List.not_mem_nil, or_false] at signs
  rcases signs with rfl | rfl | rfl
  · obtain ⟨some, all⟩ := are
    cases digits with
    | nil => exact absurd rfl some
    | cons first others =>
        have digit := all first List.mem_cons_self
        rw [List.nil_append, List.cons_append, readSign, if_neg, if_neg]
        · rintro rfl
          cases digit
        · rintro rfl
          cases digit
  · rfl
  · rfl

/-- **The exponent is read up to its last digit**, if there is one. -/
theorem readExponent_append {exponent : List Char} (is : IsExponent exponent)
    (delimited : Delimited rest) :
    ∃ read, readExponent broken (exponent ++ rest) = .ok (read, rest) ∧
      read.isNone = exponent.isEmpty := by
  cases is with
  | missing => exact ⟨none, readExponent_delimited delimited, rfl⟩
  | @given mark sign digits marks signs are =>
      refine ⟨some ((readSign (sign ++ (digits ++ rest))).1, digits), ?_, rfl⟩
      rw [List.cons_append, List.append_assoc, readExponent, if_pos (by simpa using marks),
        readSign_append signs are, readDigits_append are delimited.noDigit]
      rfl

/-- A minus is read, digits behind it or without it. -/
theorem readMinus_append {minus whole s : List Char} (signs : minus ∈ [[], ['-']])
    (is : IsWhole whole) : (readMinus (minus ++ (whole ++ s))).2 = whole ++ s := by
  simp only [List.mem_cons, List.not_mem_nil, or_false] at signs
  rcases signs with rfl | rfl
  · obtain ⟨some, all⟩ := is.1
    cases whole with
    | nil => exact absurd rfl some
    | cons first others =>
        have digit := all first List.mem_cons_self
        rw [List.nil_append, List.cons_append, readMinus, if_neg]
        rintro rfl
        cases digit
  · rfl

/-- **A numeral of the grammar is read**, up to its last character. -/
theorem exists_read_numeral (broken : Fault) {s : List Char} (is : IsNumeral s) (delimited : Delimited rest) :
    ∃ numeral, read broken (s ++ rest) = .ok (numeral, rest) := by
  cases is with
  | @parts minus whole fraction exponent signs isWhole isFraction isExponent =>
      have behind := head?_exponent isExponent delimited
      obtain ⟨shown, exponentRead, -⟩ := readExponent_append isExponent delimited
      obtain ⟨digits, fractionRead, -⟩ := readFraction_append isFraction behind
      refine ⟨⟨(readMinus (minus ++ (whole ++ (fraction ++ (exponent ++ rest))))).1, whole, digits,
        shown⟩, ?_⟩
      unfold read
      simp only [List.append_assoc]
      rw [readMinus_append signs isWhole]
      show (readWhole broken _ >>= _) = _
      rw [readWhole_append isWhole (head?_fraction isFraction behind)]
      show (readFraction broken _ >>= _) = _
      rw [fractionRead]
      show (readExponent broken _ >>= _) = _
      rw [exponentRead]
      rfl

/-! ### Integers -/

/-- The numeral of a sign and a natural. -/
def ofNatural (negative : Bool) (n : Nat) : Numeral := ⟨negative, Nat.toDigits 10 n, [], none⟩

/-- Behind its sign a written integer is read as digits and nothing else. -/
theorem read_of_readMinus {s : List Char} {negative : Bool} {n : Nat}
    (sign : readMinus s = (negative, Nat.toDigits 10 n ++ rest)) (delimited : Delimited rest) :
    read broken s = .ok (ofNatural negative n, rest) := by
  unfold read
  rw [sign]
  show (readWhole broken (Nat.toDigits 10 n ++ rest) >>= _) = _
  rw [readWhole_append (isWhole_toDigits n) delimited.noDigit]
  show (readFraction broken rest >>= _) = _
  rw [readFraction_delimited delimited]
  show (readExponent broken rest >>= _) = _
  rw [readExponent_delimited delimited]
  rfl

/-- **A natural is read as its digits.** -/
theorem read_natural (n : Nat) (delimited : Delimited rest) :
    read broken (Nat.toDigits 10 n ++ rest) = .ok (ofNatural false n, rest) := by
  refine read_of_readMinus ?_ delimited
  cases written : Nat.toDigits 10 n with
  | nil => exact absurd written Nat.toDigits_ne_nil
  | cons first others =>
      have digit : first.isDigit = true := isDigit_of_mem_digits (written ▸ List.mem_cons_self)
      rw [List.cons_append, readMinus, if_neg]
      rintro rfl
      cases digit

/-- **A natural behind a minus is read as its digits with a sign.** -/
theorem read_minus (n : Nat) (delimited : Delimited rest) :
    read broken ('-' :: (Nat.toDigits 10 n ++ rest)) = .ok (ofNatural true n, rest) :=
  read_of_readMinus rfl delimited

/-! ### Values -/

/-- Appending digits to a significand makes it no smaller. -/
theorem le_ofDigitChars (digits : List Char) (significand : Nat) :
    significand ≤ Nat.ofDigitChars 10 digits significand := by
  rw [Nat.ofDigitChars_eq_ofDigitChars_zero]
  exact Nat.le_add_right_of_le (Nat.le_mul_of_pos_left _ (Nat.pow_pos (by decide)))

/-- Digits are taken to the last one if their value fits. -/
theorem accumulate_eq {digits : List Char} {significand : Nat}
    (fits : Nat.ofDigitChars 10 digits significand ≤ greatestWord) :
    accumulate significand digits = (Nat.ofDigitChars 10 digits significand, []) := by
  induction digits generalizing significand with
  | nil => rfl
  | cons c digits ih =>
      rw [Nat.ofDigitChars_cons] at fits ⊢
      rw [accumulate]
      -- the value so far is at most the value in the end, so it fits
      show (if _ then _ else _) = _
      rw [if_pos (Nat.le_trans (le_ofDigitChars digits _) fits)]
      exact ih fits

theorem accumulate_toDigits {n : Nat} (fits : n ≤ greatestWord) :
    accumulate 0 (Nat.toDigits 10 n) = (n, []) := by
  have whole := @accumulate_eq (Nat.toDigits 10 n) 0
  rw [Nat.ofDigitChars_ten_toDigits] at whole
  exact whole fits

/-- **What the digits of an integer denote**: the integer, if 64 bits hold it. -/
theorem value_ofNatural {negative : Bool} {n : Nat} {value : Int} (fits : n ≤ greatestWord)
    (held : integer? negative n = some value) : (ofNatural negative n).value = .ok (.integer value) := by
  unfold Numeral.value ofNatural
  simp only [accumulate_toDigits fits, accumulate]
  simp [isWhole, held]

end Numeral

end Scanout.Json
