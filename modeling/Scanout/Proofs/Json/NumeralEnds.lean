import Scanout.Proofs.Json.Extension

/-!
# Where a numeral ends

A numeral is the one value whose end cannot be told without what follows it: where the text breaks off
behind a digit, the numeral may go on.  Whatever it goes on with, an integer that is out of range stays
so, and so does anything that is malformed.

## Main definition

* `Json.Codec.bounded` — the integer that a numeral denotes, if it is one between two bounds

## Main results

* `Json.Numeral.stable_read`, `Json.Numeral.final_read` — numerals
* `Json.Numeral.value_eq_integer` — when a numeral denotes an integer
* `Json.Codec.open_readInteger` — integers
-/

namespace Scanout.Json

open Leaves (behind)

namespace Numeral

variable {broken : Fault} {s after : List Char}

/-! ### Digits -/

/-- More text adds to the digits at the front. -/
theorem takeWhile_prefix_append (u t : List Char) :
    u.takeWhile Char.isDigit <+: (u ++ t).takeWhile Char.isDigit := by
  rw [List.takeWhile_append]
  split
  · exact (List.takeWhile_prefix _).trans (List.prefix_append u _)
  · exact List.prefix_refl _

/-- What digits are read from. -/
theorem exists_of_readDigits {digits : List Char} (found : readDigits broken s = .ok (digits, after)) :
    ∃ c t, s = c :: t ∧ c.isDigit = true ∧ digits = c :: t.takeWhile Char.isDigit ∧
      after = t.dropWhile Char.isDigit := by
  unfold readDigits at found
  split at found
  · cases found
  · next c t =>
    split at found
    · next digit =>
      cases found
      exact ⟨c, t, rfl, digit, rfl, rfl⟩
    · cases found

theorem stable_readDigits (broken : Fault) (s : List Char) : StableAt (readDigits broken) s := by
  rintro ⟨digits, after⟩ found more t
  obtain ⟨c, u, rfl, digit, rfl, rfl⟩ := exists_of_readDigits found
  change u.dropWhile Char.isDigit ≠ [] at more
  have short : ¬(u.takeWhile Char.isDigit).length = u.length := by
    intro all
    refine more (List.eq_nil_of_length_eq_zero ?_)
    have whole := congrArg List.length (List.takeWhile_append_dropWhile (p := Char.isDigit) (l := u))
    rw [List.length_append] at whole
    omega
  show readDigits broken (c :: (u ++ t)) = _
  rw [readDigits, if_pos digit, List.takeWhile_append, if_neg short, List.dropWhile_append,
    if_neg (by simpa using more)]
  rfl

theorem final_readDigits (breaks : broken.category = .unfinished) (s : List Char) :
    FinalAt (readDigits broken) s := by
  intro fault failed other t found
  unfold readDigits at failed
  split at failed
  · cases failed
    exact absurd breaks other
  · next c u =>
    split at failed
    · cases failed
    · next noDigit =>
      show readDigits broken (c :: (u ++ t)) ≠ _
      rw [readDigits, if_neg noDigit]
      intro same
      cases same

/-! ### Parts of a numeral -/

/-- What the digits before the point are read from. -/
theorem exists_of_readWhole {digits : List Char} (found : readWhole broken s = .ok (digits, after)) :
    readDigits broken s = .ok (digits, after) ∧
      (digits.head? = some '0' && 1 < digits.length) = false := by
  obtain ⟨⟨digits', after'⟩, read, found⟩ := exists_ok_of_bind found
  dsimp only at found
  split at found
  · cases found
  · next sound =>
    cases found
    exact ⟨read, Bool.eq_false_iff.mpr sound⟩

theorem stable_readWhole (broken : Fault) (s : List Char) : StableAt (readWhole broken) s := by
  rintro ⟨digits, after⟩ found more t
  obtain ⟨read, sound⟩ := exists_of_readWhole found
  show (readDigits broken (s ++ t) >>= _) = _
  rw [show readDigits broken (s ++ t) = _ from stable_readDigits broken s read more t]
  show (if _ then _ else _) = _
  rw [if_neg (Bool.eq_false_iff.mp sound)]
  rfl

/-- A zero in front of other digits stays where it is. -/
theorem final_readWhole (breaks : broken.category = .unfinished) (s : List Char) :
    FinalAt (readWhole broken) s := by
  rintro fault failed other t ⟨digits, after⟩ found
  obtain ⟨read', sound⟩ := exists_of_readWhole found
  rcases error_of_bind failed with failed | ⟨⟨digits', after'⟩, read, failed⟩
  · exact final_readDigits breaks s failed other t _ read'
  · obtain ⟨c, u, rfl, -, rfl, rfl⟩ := exists_of_readDigits read
    obtain ⟨c', u', whole, -, rfl, rfl⟩ := exists_of_readDigits read'
    obtain ⟨rfl, rfl⟩ := List.cons.inj whole
    dsimp only at failed
    split at failed
    · next malformed =>
      simp only [List.head?_cons, List.length_cons, Bool.and_eq_true, Bool.and_eq_false_iff,
        decide_eq_true_eq, decide_eq_false_iff_not] at malformed sound
      have longer : (u.takeWhile Char.isDigit).length ≤ ((u ++ t).takeWhile Char.isDigit).length :=
        (takeWhile_prefix_append u t).length_le
      rcases sound with other | few
      · cases other.symm.trans malformed.1
      · exact few (Nat.lt_of_lt_of_le malformed.2 (Nat.succ_le_succ longer))
    · cases failed

theorem stable_readFraction (broken : Fault) (s : List Char) : StableAt (readFraction broken) s := by
  intro found known more t
  cases s with
  | nil =>
      cases known
      exact absurd rfl more
  | cons c u =>
      show readFraction broken (c :: (u ++ t)) = _
      rw [readFraction] at known ⊢
      by_cases point : c = '.'
      · rw [if_pos point] at known ⊢
        exact stable_readDigits broken u known more t
      · rw [if_neg point] at known ⊢
        cases known
        rfl

theorem final_readFraction (breaks : broken.category = .unfinished) (s : List Char) :
    FinalAt (readFraction broken) s := by
  intro fault failed other t
  cases s with
  | nil => cases failed
  | cons c u =>
      show ∀ found, readFraction broken (c :: (u ++ t)) ≠ .ok found
      rw [readFraction] at failed ⊢
      by_cases point : c = '.'
      · rw [if_pos point] at failed ⊢
        exact final_readDigits breaks u failed other t
      · rw [if_neg point] at failed
        cases failed

/-- Behind the sign of an exponent, more text is behind. -/
theorem readSign_behind {s : List Char} (some : s ≠ []) (t : List Char) :
    (readSign (s ++ t)).1 = (readSign s).1 ∧ (readSign (s ++ t)).2 = (readSign s).2 ++ t := by
  cases s with
  | nil => exact absurd rfl some
  | cons c s =>
      rw [List.cons_append, readSign, readSign]
      split
      · exact ⟨rfl, rfl⟩
      · split <;> exact ⟨rfl, rfl⟩

theorem stable_readExponent (broken : Fault) (s : List Char) : StableAt (readExponent broken) s := by
  intro found known more t
  cases s with
  | nil =>
      cases known
      exact absurd rfl more
  | cons c u =>
      show readExponent broken (c :: (u ++ t)) = _
      rw [readExponent] at known ⊢
      by_cases mark : (c = 'e' || c = 'E') = true
      · rw [if_pos mark] at known ⊢
        obtain ⟨⟨digits, after⟩, read, rest⟩ := exists_ok_of_bind known
        cases rest
        have filled : u ≠ [] := by
          rintro rfl
          cases read
        obtain ⟨sign, behind⟩ := readSign_behind filled t
        rw [sign, behind, show readDigits broken ((readSign u).2 ++ t) = _ from
          stable_readDigits broken _ read more t]
        rfl
      · rw [if_neg mark] at known ⊢
        cases known
        rfl

theorem final_readExponent (breaks : broken.category = .unfinished) (s : List Char) :
    FinalAt (readExponent broken) s := by
  intro fault failed other t found known
  cases s with
  | nil => cases failed
  | cons c u =>
      change readExponent broken (c :: (u ++ t)) = _ at known
      rw [readExponent] at failed known
      by_cases mark : (c = 'e' || c = 'E') = true
      · rw [if_pos mark] at failed known
        obtain ⟨read, first, -⟩ := exists_ok_of_bind known
        rcases error_of_bind failed with failed | ⟨read', -, failed⟩
        · have filled : u ≠ [] := by
            rintro rfl
            cases failed
            exact other breaks
          rw [(readSign_behind filled t).2] at first
          exact final_readDigits breaks _ failed other t read first
        · cases failed
      · rw [if_neg mark] at failed
        cases failed

/-! ### Whole numerals -/

/-- **What a numeral is read from**, part by part. -/
theorem exists_of_read {n : Numeral} (found : read broken s = .ok (n, after)) :
    ∃ r₁ r₂, readMinus s = (n.negative, (readMinus s).2) ∧
      readWhole broken (readMinus s).2 = .ok (n.whole, r₁) ∧
      readFraction broken r₁ = .ok (n.fraction, r₂) ∧
      readExponent broken r₂ = .ok (n.exponent, after) := by
  obtain ⟨⟨whole, r₁⟩, first, found⟩ := exists_ok_of_bind found
  obtain ⟨⟨fraction, r₂⟩, second, found⟩ := exists_ok_of_bind found
  obtain ⟨⟨exponent, r₃⟩, third, found⟩ := exists_ok_of_bind found
  cases found
  exact ⟨r₁, r₂, rfl, first, second, third⟩

/-- **A numeral is read part by part.** -/
theorem read_of_parts {n : Numeral} {u r₁ r₂ : List Char} (sign : readMinus s = (n.negative, u))
    (whole : readWhole broken u = .ok (n.whole, r₁))
    (fraction : readFraction broken r₁ = .ok (n.fraction, r₂))
    (exponent : readExponent broken r₂ = .ok (n.exponent, after)) :
    read broken s = .ok (n, after) := by
  unfold read
  rw [sign]
  dsimp only
  rw [whole]
  show (readFraction broken r₁ >>= _) = _
  rw [fraction]
  show (readExponent broken r₂ >>= _) = _
  rw [exponent]
  rfl

/-- Behind the minus of a numeral, more text is behind. -/
theorem readMinus_behind {s : List Char} (some : s ≠ []) (t : List Char) :
    readMinus (s ++ t) = ((readMinus s).1, (readMinus s).2 ++ t) := by
  cases s with
  | nil => exact absurd rfl some
  | cons c s =>
      rw [List.cons_append, readMinus, readMinus]
      split <;> rfl

/-- Nothing is read from nothing. -/
theorem ne_nil_of_read {n : Numeral} (found : read broken s = .ok (n, after)) : s ≠ [] := by
  rintro rfl
  cases found

/-- **A numeral that ends before the text does** ends there on every longer text. -/
theorem stable_read (broken : Fault) (s : List Char) : StableAt (read broken) s := by
  rintro ⟨n, after⟩ found more t
  obtain ⟨r₁, r₂, sign, whole, fraction, exponent⟩ := exists_of_read found
  have more₂ : r₂ ≠ [] := by
    rintro rfl
    exact more (Prod.mk.inj (Except.ok.inj exponent)).2.symm
  have more₁ : r₁ ≠ [] := by
    rintro rfl
    exact more₂ (Prod.mk.inj (Except.ok.inj fraction)).2.symm
  have sign' := readMinus_behind (ne_nil_of_read found) t
  rw [sign] at sign'
  exact read_of_parts sign' (stable_readWhole broken _ whole more₁ t)
    (stable_readFraction broken _ fraction more₂ t) (stable_readExponent broken _ exponent more t)

/-- **A malformed numeral stays malformed** on every longer text. -/
theorem final_read (breaks : broken.category = .unfinished) (s : List Char) :
    FinalAt (read broken) s := by
  rintro fault failed other t ⟨n, after⟩ found
  have some : s ≠ [] := by
    rintro rfl
    cases failed
    exact other breaks
  obtain ⟨r₁', r₂', -, whole', fraction', exponent'⟩ := exists_of_read found
  rw [show readMinus (behind s t) = _ from readMinus_behind some t] at whole'
  rcases error_of_bind failed with failed | ⟨⟨digits, r₁⟩, whole, failed⟩
  · exact final_readWhole breaks _ failed other t _ whole'
  · change (readFraction broken r₁ >>= _) = _ at failed
    rcases error_of_bind failed with broke | ⟨⟨digits₂, r₂⟩, fraction, failed⟩
    · have more : r₁ ≠ [] := by
        rintro rfl
        cases broke
      obtain ⟨rfl, rfl⟩ : _ ∧ r₁ ++ t = r₁' := by
        simpa [behind] using (stable_readWhole broken _ whole more t).symm.trans whole'
      exact final_readFraction breaks _ broke other t _ fraction'
    · change (readExponent broken r₂ >>= _) = _ at failed
      rcases error_of_bind failed with broke | ⟨read, -, failed⟩
      · have more : r₂ ≠ [] := by
          rintro rfl
          cases broke
        have more₁ : r₁ ≠ [] := by
          rintro rfl
          cases fraction
          exact more rfl
        obtain ⟨rfl, rfl⟩ : _ ∧ r₁ ++ t = r₁' := by
          simpa [behind] using (stable_readWhole broken _ whole more₁ t).symm.trans whole'
        obtain ⟨rfl, rfl⟩ : _ ∧ r₂ ++ t = r₂' := by
          simpa [behind] using (stable_readFraction broken _ fraction more t).symm.trans fraction'
        exact final_readExponent breaks _ broke other t _ exponent'
      · cases failed

/-- More text adds to the digits before the point. -/
theorem prefix_of_readWhole {digits digits' t after' : List Char}
    (read : readWhole broken s = .ok (digits, after))
    (longer : readWhole broken (s ++ t) = .ok (digits', after')) : digits <+: digits' := by
  obtain ⟨c, u, here, -, rfl, -⟩ := exists_of_readDigits (exists_of_readWhole read).1
  obtain ⟨c', u', here', -, rfl, -⟩ := exists_of_readDigits (exists_of_readWhole longer).1
  rw [here, List.cons_append] at here'
  obtain ⟨rfl, rfl⟩ := List.cons.inj here'
  exact List.cons_prefix_cons.mpr ⟨rfl, takeWhile_prefix_append u t⟩

/-- **What a numeral goes on with behind its digits** is a fraction or an exponent, and so it is on a
longer text. -/
theorem readExponent_ne_none {c : Char} {r r₂ r₂' t digits : List Char}
    {exponent : Option (Bool × List Char)} (read : readFraction broken (c :: r) = .ok (digits, r₂))
    (read' : readExponent broken r₂ = .ok (exponent, []))
    (longer : readFraction broken (c :: (r ++ t)) = .ok ([], r₂')) :
    readExponent broken r₂' ≠ .ok (none, after) := by
  intro longer'
  rw [readFraction] at read longer
  by_cases point : c = '.'
  · rw [if_pos point] at longer
    obtain ⟨_, _, -, -, digits, -⟩ := exists_of_readDigits longer
    cases digits
  · rw [if_neg point] at read longer
    obtain ⟨-, rfl⟩ := Prod.mk.inj (Except.ok.inj read)
    obtain ⟨-, rfl⟩ := Prod.mk.inj (Except.ok.inj longer)
    rw [readExponent] at read' longer'
    by_cases mark : (c = 'e' || c = 'E') = true
    · rw [if_pos mark] at longer'
      obtain ⟨_, -, given⟩ := exists_ok_of_bind longer'
      cases (Prod.mk.inj (Except.ok.inj given)).1
    · rw [if_neg mark] at read'
      cases (Prod.mk.inj (Except.ok.inj read')).2

/-- **A numeral whose beginning is read up to the end of the text**: if the longer one is an integer,
the beginning is one with the same sign and with the first of its digits. -/
theorem prefix_of_read {n n' : Numeral} {t : List Char} (read : read broken s = .ok (n, []))
    (longer : Numeral.read broken (s ++ t) = .ok (n', after)) (isWhole : n'.isWhole = true) :
    n.negative = n'.negative ∧ n.isWhole = true ∧ n.whole <+: n'.whole := by
  obtain ⟨r₁, r₂, sign, whole, fraction, exponent⟩ := exists_of_read read
  obtain ⟨r₁', r₂', sign', whole', fraction', exponent'⟩ := exists_of_read longer
  rw [readMinus_behind (ne_nil_of_read read) t] at sign' whole'
  refine ⟨(congrArg Prod.fst sign).symm.trans (congrArg Prod.fst sign'), ?_⟩
  simp only [Numeral.isWhole, Bool.and_eq_true, List.isEmpty_iff, Option.isNone_iff_eq_none]
    at isWhole ⊢
  cases r₁ with
  | nil =>
      -- the digits before the point end where the text does
      obtain ⟨none, rfl⟩ := Prod.mk.inj (Except.ok.inj fraction)
      obtain ⟨none', -⟩ := Prod.mk.inj (Except.ok.inj exponent)
      exact ⟨⟨none.symm, none'.symm⟩, prefix_of_readWhole whole whole'⟩
  | cons c r =>
      have same := (stable_readWhole broken _ whole (List.cons_ne_nil c r) t).symm.trans whole'
      obtain ⟨-, rfl⟩ := Prod.mk.inj (Except.ok.inj same)
      rw [isWhole.1] at fraction'
      rw [isWhole.2] at exponent'
      exact absurd exponent' (readExponent_ne_none fraction exponent fraction')

/-! ### Values -/

theorem accumulate_cons (significand : Nat) (c : Char) (digits : List Char) :
    accumulate significand (c :: digits) =
      if 10 * significand + (c.toNat - '0'.toNat) ≤ greatestWord then
        accumulate (10 * significand + (c.toNat - '0'.toNat)) digits
      else (significand, c :: digits) := rfl

/-- **The first digits of a number that fits** fit as well, and their value is no greater. -/
theorem accumulate_prefix {digits more : List Char} {significand value : Nat}
    (fits : accumulate significand (digits ++ more) = (value, [])) :
    ∃ value', accumulate significand digits = (value', []) ∧ significand ≤ value' ∧
      value' ≤ value := by
  induction digits generalizing significand with
  | nil =>
      refine ⟨significand, rfl, Nat.le_refl _, ?_⟩
      rw [List.nil_append] at fits
      induction more generalizing significand with
      | nil => exact Nat.le_of_eq (Prod.mk.inj fits).1
      | cons c more ih =>
          rw [accumulate_cons] at fits
          split at fits
          · have later := ih fits
            omega
          · cases (Prod.mk.inj fits).2
  | cons c digits ih =>
      rw [List.cons_append, accumulate_cons] at fits
      rw [accumulate_cons]
      split at fits
      · next small =>
        obtain ⟨value', taken, least, bound⟩ := ih fits
        rw [if_pos small]
        exact ⟨value', taken, by omega, bound⟩
      · cases (Prod.mk.inj fits).2

/-- A floating-point number is no integer. -/
theorem real_ne_integer (negative : Bool) (significand : Nat) (exponent value : Int) :
    real negative significand exponent ≠ .ok (.integer value) := by
  unfold real
  split <;> exact nofun

theorem scaled_ne_integer (negative : Bool) (significand : Nat) (shift : Int)
    (exponent : Option (Bool × List Char)) (value : Int) :
    scaled negative significand shift exponent ≠ .ok (.integer value) := by
  rcases exponent with _ | ⟨down, digits⟩
  · exact real_ne_integer _ _ _ _
  · show (if greatestExponent < Decimal.digitsValue digits then
      if (significand = 0 || down) = true then real negative 0 0 else .error .numberOutOfRange
      else _) ≠ _
    split
    · split
      · exact real_ne_integer _ _ _ _
      · exact nofun
    · exact real_ne_integer _ _ _ _

/-- **When a numeral denotes an integer.** -/
theorem value_eq_integer {n : Numeral} {value : Int} :
    n.value = .ok (.integer value) ↔ n.isWhole = true ∧
      ∃ natural, accumulate 0 n.whole = (natural, []) ∧ integer? n.negative natural = some value := by
  rcases n with ⟨negative, whole, fraction, exponent⟩
  unfold Numeral.value
  obtain ⟨⟨natural, beyond⟩, taken⟩ : ∃ taken, accumulate 0 whole = taken := ⟨_, rfl⟩
  obtain ⟨⟨significand, dropped⟩, taken'⟩ : ∃ taken', accumulate natural fraction = taken' := ⟨_, rfl⟩
  dsimp only
  rw [taken]
  dsimp only
  rw [taken']
  dsimp only
  by_cases plain : (Numeral.isWhole ⟨negative, whole, fraction, exponent⟩ && beyond.isEmpty) = true
  · rw [if_pos plain]
    obtain ⟨isWhole, ended⟩ := Bool.and_eq_true_iff.mp plain
    rw [List.isEmpty_iff.mp ended]
    cases held : integer? negative natural with
    | none => simp [held, real_ne_integer]
    | some integer => simp [held, isWhole]
  · rw [if_neg plain]
    refine ⟨fun denotes => absurd denotes (scaled_ne_integer _ _ _ _ _), ?_⟩
    rintro ⟨isWhole, natural', same, -⟩
    obtain ⟨-, rfl⟩ := Prod.mk.inj same
    exact absurd (Bool.and_eq_true_iff.mpr ⟨isWhole, rfl⟩) plain

end Numeral

namespace Codec

/-! ### Integers -/

section Integers

variable (wanted : String) (least greatest : Int)

/-- The integer that a numeral denotes, if it is one between the bounds. -/
def bounded (numeral : Numeral) : Except Fault Int :=
  match numeral.value with
  | .error fault => .error fault
  | .ok (.integer value) =>
      if least ≤ value && value ≤ greatest then .ok value
      else .error (.wrongValue (.integer value) wanted)
  | .ok found => .error (.wrongType found wanted)

/-- An integer is a numeral between the bounds. -/
theorem readInteger_eq : readInteger wanted least greatest = readFirst fun c s =>
    if Numeral.begins c then
      Numeral.read .endInValue (c :: s) >>= fun found =>
        bounded wanted least greatest found.1 >>= fun value => .ok (value, found.2)
    else .error (mismatch wanted c s) := by
  unfold readInteger
  congr
  funext c s
  split
  · congr
    funext ⟨numeral, after⟩
    show (numeral.value >>= _) = _
    unfold bounded
    cases numeral.value with
    | error fault => rfl
    | ok found =>
        cases found with
        | integer value =>
            show (if _ then _ else _) = _
            dsimp only
            split <;> rfl
        | real | truth | text | null | list | object => rfl
  · rfl

variable {wanted least greatest}

theorem bounded_eq_ok {numeral : Numeral} {value : Int} :
    bounded wanted least greatest numeral = .ok value ↔
      numeral.value = .ok (.integer value) ∧ least ≤ value ∧ value ≤ greatest := by
  unfold bounded
  cases numeral.value with
  | error fault => simp
  | ok found =>
      cases found with
      | integer value' =>
          dsimp only
          by_cases within : (decide (least ≤ value') && decide (value' ≤ greatest)) = true
          · rw [if_pos within]
            simp only [Bool.and_eq_true, decide_eq_true_eq] at within
            constructor
            · intro same
              cases same
              exact ⟨rfl, within⟩
            · rintro ⟨same, -⟩
              cases same
              rfl
          · rw [if_neg within]
            simp only [Bool.and_eq_true, decide_eq_true_eq] at within
            refine ⟨nofun, ?_⟩
            rintro ⟨same, bounds⟩
            cases same
            exact absurd bounds within
      | real | truth | text | null | list | object => simp

/-- A digit other than zero has a positive value. -/
theorem pos_of_isDigit {c : Char} (digit : c.isDigit = true) (other : c ≠ '0') :
    0 < c.toNat - '0'.toNat := by
  have least : '0'.toNat ≤ c.toNat := (Char.isDigit_iff_toNat.mp digit).1
  have unequal : c.toNat ≠ '0'.toNat := fun same => other (Char.toNat_inj.mp same)
  omega

/-- **The first digits of a positive number make up a positive number**: a zero in front stands alone. -/
theorem pos_of_prefix {broken : Fault} {n n' : Numeral} {s s' after after' : List Char}
    (read : Numeral.read broken s = .ok (n, after)) (longer : Numeral.read broken s' = .ok (n', after'))
    {more : List Char} (whole : n.whole ++ more = n'.whole) {natural natural' : Nat}
    (taken : Numeral.accumulate 0 n.whole = (natural, []))
    (taken' : Numeral.accumulate 0 n'.whole = (natural', [])) (positive : natural' ≠ 0) :
    natural ≠ 0 := by
  obtain ⟨_, _, -, first, -⟩ := Numeral.exists_of_read read
  obtain ⟨_, _, -, first', -⟩ := Numeral.exists_of_read longer
  obtain ⟨c, u, -, digit, digits, -⟩ := Numeral.exists_of_readDigits (Numeral.exists_of_readWhole first).1
  have sound := (Numeral.exists_of_readWhole first').2
  rw [← whole, digits] at sound taken'
  rw [digits, ← List.singleton_append] at taken
  have nonzero : c ≠ '0' := by
    rintro rfl
    refine positive ?_
    simp only [List.cons_append, List.head?_cons, decide_true, Bool.true_and, List.length_cons,
      decide_eq_false_iff_not] at sound
    have alone : List.takeWhile Char.isDigit u ++ more = [] := List.eq_nil_of_length_eq_zero (by omega)
    rw [List.cons_append, alone] at taken'
    exact (Prod.mk.inj taken').1.symm
  obtain ⟨single, taken₁, -, bound⟩ := Numeral.accumulate_prefix taken
  have value := pos_of_isDigit digit nonzero
  rw [Numeral.accumulate_cons] at taken₁
  split at taken₁
  · have same := (Prod.mk.inj taken₁).1
    omega
  · cases (Prod.mk.inj taken₁).2

/-- **The beginning of an integer within bounds is within them**, if zero is: its first digits make up no
greater a number, and it is zero only if there is no other digit. -/
theorem bounded_of_prefix (low : least ≤ 0) (high : 0 ≤ greatest) {n n' : Numeral} {s t after : List Char}
    (read : Numeral.read .endInValue s = .ok (n, []))
    (longer : Numeral.read .endInValue (s ++ t) = .ok (n', after)) {value' : Int}
    (accepted : bounded wanted least greatest n' = .ok value') :
    ∃ value, bounded wanted least greatest n = .ok value := by
  obtain ⟨denotes, above, below⟩ := bounded_eq_ok.mp accepted
  obtain ⟨isWhole', natural', taken', held'⟩ := Numeral.value_eq_integer.mp denotes
  obtain ⟨sign, isWhole, more, longerWhole⟩ := Numeral.prefix_of_read read longer isWhole'
  obtain ⟨natural, taken, -, bound⟩ := Numeral.accumulate_prefix (longerWhole ▸ taken')
  have positive := pos_of_prefix read longer longerWhole taken taken'
  suffices held : ∃ value, Numeral.integer? n.negative natural = some value ∧
      least ≤ value ∧ value ≤ greatest by
    obtain ⟨value, held, bounds⟩ := held
    exact ⟨value, bounded_eq_ok.mpr
      ⟨Numeral.value_eq_integer.mpr ⟨isWhole, natural, taken, held⟩, bounds⟩⟩
  rw [← sign] at held'
  generalize n.negative = negative at held' ⊢
  cases negative with
  | false =>
      cases held'
      exact ⟨natural, rfl, by omega, by omega⟩
  | true =>
      rw [Numeral.integer?, if_pos rfl] at held'
      split at held'
      · cases held'
      · next few =>
        cases held'
        simp only [Bool.or_eq_true, decide_eq_true_eq, not_or] at few
        have nonzero := positive few.1
        refine ⟨-(natural : Int), ?_, by omega, by omega⟩
        rw [Numeral.integer?, if_pos rfl, if_neg]
        simp only [Bool.or_eq_true, decide_eq_true_eq]
        omega

/-- **An integer may go on** where the text breaks off, and its faults are final. -/
theorem open_readInteger (wanted : String) (low : least ≤ 0) (high : 0 ≤ greatest) :
    Open (readInteger wanted least greatest) := by
  rw [readInteger_eq]
  refine open_readFirst fun c => open_ite (fun _ => fun s => ⟨?_, ?_⟩) fun _ => closed_error.open
  · rintro ⟨value, after⟩ found more t
    obtain ⟨⟨numeral, after'⟩, read, found⟩ := exists_ok_of_bind found
    obtain ⟨value', accepted, found⟩ := exists_ok_of_bind found
    cases found
    show (Numeral.read .endInValue (c :: (s ++ t)) >>= _) = _
    rw [show Numeral.read .endInValue (c :: (s ++ t)) = _ from
      Numeral.stable_read .endInValue (c :: s) read more t]
    show (bounded wanted least greatest numeral >>= _) = _
    rw [accepted]
    rfl
  · rintro fault failed other t ⟨value, after⟩ found
    obtain ⟨⟨n', after'⟩, read', found⟩ := exists_ok_of_bind found
    obtain ⟨value', accepted, -⟩ := exists_ok_of_bind found
    rcases error_of_bind failed with broke | ⟨⟨n, after₁⟩, read, refused⟩
    · exact Numeral.final_read rfl (c :: s) broke other t _ read'
    · cases after₁ with
      | nil =>
          obtain ⟨value₁, accepted₁⟩ := bounded_of_prefix low high (s := c :: s) read read' accepted
          change (bounded wanted least greatest n >>= _) = _ at refused
          rw [accepted₁] at refused
          cases refused
      | cons x after₁ =>
          have same := (Numeral.stable_read .endInValue (c :: s) read (List.cons_ne_nil x _) t).symm.trans
            read'
          obtain ⟨rfl, -⟩ := Prod.mk.inj (Except.ok.inj same)
          change (bounded wanted least greatest n >>= _) = _ at refused
          rw [accepted] at refused
          cases refused

end Integers

end Codec

end Scanout.Json
