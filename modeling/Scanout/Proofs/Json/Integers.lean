import Scanout.Proofs.Json.Portable

/-!
# Integers of a type

A literal may have any number of digits, and it is computed in 64 bits before it is held against the
bounds of its type.  Nothing wraps on the way: what is read is the value of the literal or nothing, and it
is read exactly if the literal has no fraction and no exponent, is within the bounds, and is no zero with a
minus.

## Main definitions

* `Json.Literal` — a numeral by its parts, and its value
* `Json.Literal.Fits` — an integer within bounds
* `Json.Codec.Integral` — a codec of the integers within bounds

## Main results

* `Json.Numeral.accumulate_eq_iff` — all digits are taken exactly if their value fits 64 bits
* `Json.Codec.readInteger_literal` — which literals are read as integers
* `Json.Codec.integral_word`, `.integral_longWord`, `.integral_integer`, `.integral_orNull`
-/

namespace Scanout.Json

/-- **A numeral by its parts**: whether it has a minus, its digits before the point, and its fraction and
exponent as they are written. -/
structure Literal where
  negative : Bool
  whole : List Char
  fraction : List Char
  exponent : List Char
  isWhole : IsWhole whole
  isFraction : IsFraction fraction
  isExponent : IsExponent exponent

namespace Literal

/-- The literal as it is written. -/
def text (literal : Literal) : List Char :=
  Numeral.sign literal.negative ++ (literal.whole ++ (literal.fraction ++ literal.exponent))

/-- The value of the digits before the point, with the sign. -/
def value (literal : Literal) : Int :=
  if literal.negative then -(Nat.ofDigitChars 10 literal.whole 0 : Int)
  else Nat.ofDigitChars 10 literal.whole 0

/-- **An integer within bounds**: there is neither a fraction nor an exponent, and zero has no minus. -/
structure Fits (literal : Literal) (least greatest : Int) : Prop where
  fraction : literal.fraction = []
  exponent : literal.exponent = []
  nonzero : literal.negative = true → literal.value ≠ 0
  above : least ≤ literal.value
  below : literal.value ≤ greatest

theorem isNumeral_text (literal : Literal) : IsNumeral literal.text := by
  refine .parts ?_ literal.isWhole literal.isFraction literal.isExponent
  cases literal.negative <;> decide

end Literal

namespace Numeral

/-! ### Digits -/

/-- Digits that are taken to the last one have their value, and it fits. -/
theorem eq_of_accumulate {digits : List Char} {significand value : Nat}
    (fits : significand ≤ greatestWord) (taken : accumulate significand digits = (value, [])) :
    Nat.ofDigitChars 10 digits significand = value ∧ value ≤ greatestWord := by
  induction digits generalizing significand with
  | nil =>
      obtain ⟨rfl, -⟩ := Prod.mk.inj taken
      exact ⟨rfl, fits⟩
  | cons c digits ih =>
      rw [accumulate_cons] at taken
      split at taken
      · next small =>
        rw [Nat.ofDigitChars_cons]
        exact ih small taken
      · cases (Prod.mk.inj taken).2

/-- **All digits are taken** exactly if their value fits 64 bits, and then it is theirs. -/
theorem accumulate_eq_iff {digits : List Char} {value : Nat} :
    accumulate 0 digits = (value, []) ↔
      Nat.ofDigitChars 10 digits 0 = value ∧ value ≤ greatestWord := by
  refine ⟨eq_of_accumulate (Nat.zero_le _), ?_⟩
  rintro ⟨rfl, fits⟩
  exact accumulate_eq fits

theorem integer?_eq_some {negative : Bool} {natural : Nat} {value : Int} :
    integer? negative natural = some value ↔
      if negative then natural ≠ 0 ∧ natural ≤ 9223372036854775808 ∧ value = -(natural : Int)
      else value = natural := by
  cases negative with
  | false => exact ⟨fun same => (Option.some.inj same).symm, fun same => congrArg some same.symm⟩
  | true =>
      unfold integer?
      simp only [if_true, Bool.or_eq_true, decide_eq_true_eq]
      split
      · next beyond =>
        refine ⟨nofun, fun held => ?_⟩
        omega
      · next within =>
        rw [Option.some.injEq]
        omega

/-- **A literal is read into its parts**, whatever no numeral goes on in behind it. -/
theorem exists_read_literal (broken : Fault) (literal : Literal) {rest : List Char}
    (delimited : Delimited rest) :
    ∃ n : Numeral, read broken (literal.text ++ rest) = .ok (n, rest) ∧
      n.negative = literal.negative ∧ n.whole = literal.whole ∧
      (n.isWhole = true ↔ literal.fraction = [] ∧ literal.exponent = []) := by
  have behind := head?_exponent literal.isExponent delimited
  obtain ⟨shown, exponent, noExponent⟩ := readExponent_append literal.isExponent delimited
  obtain ⟨digits, fraction, noFraction⟩ := readFraction_append literal.isFraction behind
  have sign := readMinus_sign literal.isWhole literal.negative
    (literal.fraction ++ (literal.exponent ++ rest))
  have whole := @readWhole_append broken _ _ literal.isWhole
    (head?_fraction literal.isFraction behind)
  refine ⟨⟨literal.negative, literal.whole, digits, shown⟩, ?_, rfl, rfl, ?_⟩
  · unfold Literal.text
    simp only [List.append_assoc]
    exact read_of_parts sign whole fraction exponent
  · show (digits.isEmpty && shown.isNone) = true ↔ _
    rw [noFraction, noExponent, Bool.and_eq_true, List.isEmpty_iff, List.isEmpty_iff]

end Numeral

/-- A literal begins like a numeral. -/
theorem Literal.exists_cons (literal : Literal) :
    ∃ c t, literal.text = c :: t ∧ Numeral.begins c = true := literal.isNumeral_text.exists_begin

namespace Codec

/-! ### Codecs -/

section Integers

variable (wanted : String) {least greatest : Int}

/-- **Which numerals are integers between bounds** that 64 bits hold. -/
theorem bounded_literal (low : -9223372036854775808 ≤ least)
    (high : greatest ≤ Numeral.greatestWord) {literal : Literal} {n : Numeral}
    (negative : n.negative = literal.negative) (whole : n.whole = literal.whole)
    (isWhole : n.isWhole = true ↔ literal.fraction = [] ∧ literal.exponent = []) {z : Int} :
    bounded wanted least greatest n = .ok z ↔ literal.Fits least greatest ∧ z = literal.value := by
  rw [bounded_eq_ok, Numeral.value_eq_integer, isWhole, negative, whole]
  have value : literal.value = if literal.negative then -(Nat.ofDigitChars 10 literal.whole 0 : Int)
    else Nat.ofDigitChars 10 literal.whole 0 := rfl
  constructor
  · rintro ⟨⟨⟨noFraction, noExponent⟩, natural, taken, held⟩, above, below⟩
    obtain ⟨rfl, -⟩ := Numeral.accumulate_eq_iff.mp taken
    rw [Numeral.integer?_eq_some] at held
    split at held
    · next minus =>
      rw [if_pos minus] at value
      obtain ⟨nonzero, -, rfl⟩ := held
      exact ⟨⟨noFraction, noExponent, fun _ => by omega, by omega, by omega⟩, value.symm⟩
    · next noMinus =>
      rw [if_neg noMinus] at value
      exact ⟨⟨noFraction, noExponent, fun minus => absurd minus noMinus, by omega, by omega⟩,
        held.trans value.symm⟩
  · rintro ⟨⟨noFraction, noExponent, nonzero, above, below⟩, rfl⟩
    have fits : Nat.ofDigitChars 10 literal.whole 0 ≤ Numeral.greatestWord := by
      unfold Numeral.greatestWord at high ⊢
      split at value <;> omega
    refine ⟨⟨⟨noFraction, noExponent⟩, _, Numeral.accumulate_eq_iff.mpr ⟨rfl, fits⟩, ?_⟩, above, below⟩
    rw [Numeral.integer?_eq_some]
    split
    · next minus =>
      rw [if_pos minus] at value
      have some := nonzero minus
      exact ⟨by omega, by omega, value⟩
    · next noMinus => exact value.trans (if_neg noMinus)

/-- **Which literals are read as integers between bounds** that 64 bits hold, and as which. -/
theorem readInteger_literal (low : -9223372036854775808 ≤ least)
    (high : greatest ≤ Numeral.greatestWord) {literal : Literal} {z : Int} {after : List Char} :
    readInteger wanted least greatest literal.text = .ok (z, after) ↔
      after = [] ∧ literal.Fits least greatest ∧ z = literal.value := by
  obtain ⟨n, read, negative, whole, isWhole⟩ :=
    Numeral.exists_read_literal .endInValue literal delimited_nil
  obtain ⟨c, t, begins, digit⟩ := literal.exists_cons
  rw [List.append_nil, begins] at read
  rw [← bounded_literal wanted low high negative whole isWhole, readInteger_eq, begins,
    readFirst_cons (isBlank_of_begins digit), if_pos digit, read]
  show (bounded wanted least greatest n >>= _) = _ ↔ _
  cases bounded wanted least greatest n with
  | error fault => exact ⟨nofun, fun both => nomatch both.2⟩
  | ok z' =>
      constructor
      · intro same
        obtain ⟨rfl, rfl⟩ := Prod.mk.inj (Except.ok.inj same)
        exact ⟨rfl, rfl⟩
      · rintro ⟨rfl, same⟩
        cases same
        rfl

end Integers

/-- **A codec of the integers within bounds**: a literal is accepted exactly if it fits, and as its
value, and each of these integers is one of the type. -/
structure Integral {α : Type} (codec : Codec α) (least greatest : Int) (integer? : α → Option Int) :
    Prop where
  accepts : ∀ (literal : Literal) (value : α), codec.Accepts literal.text value ↔
    literal.Fits least greatest ∧ integer? value = some literal.value
  reaches : ∀ z, least ≤ z → z ≤ greatest → ∃ value, integer? value = some z

variable {α : Type}

/-- A literal that fits is accepted. -/
theorem Integral.exists_accepts {codec : Codec α} {least greatest : Int} {integer? : α → Option Int}
    (integral : codec.Integral least greatest integer?) {literal : Literal}
    (fits : literal.Fits least greatest) : ∃ value, codec.Accepts literal.text value := by
  obtain ⟨value, same⟩ := integral.reaches literal.value fits.above fits.below
  exact ⟨value, (integral.accepts literal value).mpr ⟨fits, same⟩⟩

/-- A codec that reads an integer within bounds and gives it a type of its own. -/
theorem integral_of_readInteger {codec : Codec α} {wanted : String} {least greatest : Int}
    (ofInt : Int → α) (toInt : α → Int)
    (reads : codec.read = fun s =>
      readInteger wanted least greatest s >>= fun found => .ok (ofInt found.1, found.2))
    (low : -9223372036854775808 ≤ least) (high : greatest ≤ Numeral.greatestWord)
    (back : ∀ z, least ≤ z → z ≤ greatest → toInt (ofInt z) = z) (injective : Function.Injective toInt) :
    codec.Integral least greatest fun value => some (toInt value) := by
  refine ⟨fun literal value => ?_, fun z above below => ⟨ofInt z, congrArg some (back z above below)⟩⟩
  constructor
  · intro accepts
    obtain ⟨⟨value', after⟩, read, ended⟩ := exists_ok_of_bind accepts
    rw [String.toList_ofList, reads] at read
    obtain ⟨⟨z, after'⟩, found, given⟩ := exists_ok_of_bind read
    obtain ⟨rfl, rfl⟩ := Prod.mk.inj (Except.ok.inj given)
    obtain ⟨rfl, fits, rfl⟩ := (readInteger_literal wanted low high).mp found
    obtain rfl : ofInt literal.value = value := Except.ok.inj ended
    exact ⟨fits, congrArg some (back _ fits.above fits.below)⟩
  · rintro ⟨fits, same⟩
    have found := (readInteger_literal wanted low high).mpr ⟨rfl, fits, rfl⟩
    obtain rfl : ofInt literal.value = value :=
      injective ((back _ fits.above fits.below).trans (Option.some.inj same).symm)
    show (codec.read (String.ofList literal.text).toList >>= _) = _
    rw [String.toList_ofList, reads]
    show ((readInteger wanted least greatest literal.text >>= _) >>= _) = _
    rw [found]
    rfl

theorem integral_word : word.Integral 0 4294967295 fun value => some (value.toNat : Int) := by
  refine integral_of_readInteger (fun z => UInt32.ofNat z.toNat) (fun value => value.toNat) rfl
    (by decide) (by decide) (fun z above below => ?_) fun value value' same => ?_
  · show ((UInt32.ofNat z.toNat).toNat : Int) = z
    have small : z.toNat < 4294967296 := by omega
    rw [UInt32.toNat_ofNat_of_lt' small]
    omega
  · exact UInt32.toNat_inj.mp (Int.ofNat_inj.mp same)

theorem integral_longWord :
    longWord.Integral 0 18446744073709551615 fun value => some (value.toNat : Int) := by
  refine integral_of_readInteger (fun z => UInt64.ofNat z.toNat) (fun value => value.toNat) rfl
    (by decide) (by decide) (fun z above below => ?_) fun value value' same => ?_
  · show ((UInt64.ofNat z.toNat).toNat : Int) = z
    have small : z.toNat < 18446744073709551616 := by omega
    rw [UInt64.toNat_ofNat_of_lt' small]
    omega
  · exact UInt64.toNat_inj.mp (Int.ofNat_inj.mp same)

theorem integral_integer :
    integer.Integral (-2147483648) 2147483647 fun value => some value.toInt := by
  refine integral_of_readInteger Int32.ofInt Int32.toInt rfl (by decide) (by decide)
    (fun z above below => ?_) fun value value' same => Int32.toInt_inj.mp same
  exact Int32.toInt_ofInt_of_le (by omega) (by omega)

/-- **Where a value is given**, what may be missing is parsed as the value. -/
theorem orNull_parse (codec : Codec α) {text : String}
    (given : (skipBlanks text.toList).head? ≠ some 'n') :
    (orNull codec).parse text = codec.parse text >>= fun value => .ok (some value) := by
  show ((orNull codec).read text.toList >>= _) = (codec.read text.toList >>= _) >>= _
  rw [orNull_read, if_neg given]
  cases codec.read text.toList with
  | error fault => rfl
  | ok found =>
      show (if (skipBlanks found.2).isEmpty then _ else _) =
        (if (skipBlanks found.2).isEmpty then _ else _) >>= _
      split <;> rfl

/-- **A value that may be missing** is an integer where the value is. -/
theorem integral_orNull {codec : Codec α} {least greatest : Int} {integer? : α → Option Int}
    (integral : codec.Integral least greatest integer?) :
    (orNull codec).Integral least greatest fun value? => value?.bind integer? := by
  refine ⟨fun literal value? => ?_, fun z above below => (integral.reaches z above below).imp' some
    fun _ same => same⟩
  obtain ⟨c, t, begins, digit⟩ := literal.exists_cons
  have given : (skipBlanks (String.ofList literal.text).toList).head? ≠ some 'n' := by
    rw [String.toList_ofList, begins, skipBlanks_cons (isBlank_of_begins digit), List.head?_cons]
    rintro ⟨⟩
    cases digit
  unfold Accepts
  rw [orNull_parse codec given]
  constructor
  · intro accepts
    obtain ⟨value, read, same⟩ := exists_ok_of_bind accepts
    cases same
    exact (integral.accepts literal value).mp read
  · rintro ⟨fits, same⟩
    obtain ⟨value, rfl, held⟩ := Option.bind_eq_some_iff.mp same
    have accepts : codec.parse (String.ofList literal.text) = .ok value :=
      (integral.accepts literal value).mpr ⟨fits, held⟩
    rw [accepts]
    rfl

end Codec

end Scanout.Json
