import Scanout.Json.Variant
import Scanout.Proofs.Json.Numerals
import Scanout.Proofs.Json.Strings

/-!
# Lawful codecs

A codec is lawful if it reads back each value that it writes, and stops just behind it, as long as
what follows does not belong to a numeral.  The codecs of numbers, truth values, strings and
enumerations are lawful, and a lawful codec reads back whole texts.

## Main definitions

* `Json.Codec.Lawful` — values are read back in front of any delimited text
* `Json.Codec.RoundTrips` — values are read back from whole texts

## Main results

* `Json.Codec.lawful_word`, `.lawful_longWord`, `.lawful_integer`, `.lawful_truth`, `.lawful_text`,
  `.lawful_orNull`, `.lawful_variant`
* `Json.Codec.Lawful.roundTrips`
-/

namespace Scanout.Json

/-- A reader that goes by the first character begins at once if that is no blank. -/
theorem readFirst_cons {α : Type} {read : Char → Reader α} {c : Char} {s : List Char}
    (solid : isBlank c = false) : readFirst read (c :: s) = read c s := by
  simp [readFirst, skipBlanks, solid]

/-- Given letters are read. -/
theorem skipLetters_append (letters rest : List Char) :
    skipLetters letters (letters ++ rest) = .ok rest := by
  induction letters with
  | nil => rfl
  | cons letter letters ih =>
      rw [List.cons_append, skipLetters, if_pos rfl]
      exact ih

theorem afterLetters_append {α : Type} (letters rest : List Char) (value : α) :
    afterLetters letters value (letters ++ rest) = .ok (value, rest) := by
  rw [afterLetters, skipLetters_append]
  rfl

namespace Codec

variable {α : Type}

/-- **A codec reads back what it writes**, and stops just behind it, if no numeral goes on there. -/
def Lawful (codec : Codec α) : Prop :=
  ∀ value rest, Delimited rest → codec.read (codec.write value ++ rest) = .ok (value, rest)

/-- **The text of each value is a text of that value.** -/
def RoundTrips (codec : Codec α) : Prop := ∀ value, codec.parse (codec.print value) = .ok value

/-- A lawful codec reads back whole texts. -/
theorem Lawful.roundTrips {codec : Codec α} (lawful : codec.Lawful) : codec.RoundTrips := by
  intro value
  have read := lawful value [] delimited_nil
  rw [List.append_nil] at read
  rw [parse, print, String.toList_ofList, read]
  rfl

/-! ### Numbers -/

section Numbers

variable (wanted : String) (least greatest : Int)

/-- A numeral begins with no blank. -/
theorem isBlank_of_begins {c : Char} (begins : Numeral.begins c = true) : isBlank c = false := by
  simp only [Numeral.begins, Bool.or_eq_true, beq_iff_eq] at begins
  rcases begins with rfl | digit
  · rfl
  · simp only [isBlank, Bool.or_eq_false_iff, beq_eq_false_iff_ne]
    refine ⟨⟨⟨?_, ?_⟩, ?_⟩, ?_⟩ <;> rintro rfl <;> cases digit

/-- **A numeral between the bounds is read as an integer.** -/
theorem readInteger_of_read {value : Int} {c : Char} {s rest : List Char} {numeral : Numeral}
    (begins : Numeral.begins c = true)
    (read : Numeral.read .endInValue (c :: s) = .ok (numeral, rest))
    (denotes : numeral.value = .ok (.integer value)) (above : least ≤ value)
    (below : value ≤ greatest) :
    readInteger wanted least greatest (c :: s) = .ok (value, rest) := by
  rw [readInteger, readFirst_cons (isBlank_of_begins begins), if_pos begins, read]
  show (numeral.value >>= _) = _
  rw [denotes]
  show (if _ then _ else _) = _
  rw [if_pos]
  · rfl
  · simp [above, below]

variable {n : Nat} {rest : List Char}

/-- A natural begins with a digit. -/
theorem exists_writeNatural (n : Nat) :
    ∃ c digits, writeNatural n = c :: digits ∧ c.isDigit = true := by
  cases written : Nat.toDigits 10 n with
  | nil => exact absurd written Nat.toDigits_ne_nil
  | cons c digits =>
      exact ⟨c, digits, written, isDigit_of_mem_digits (written ▸ List.mem_cons_self)⟩

/-- **A natural within the bounds is read back.** -/
theorem readInteger_natural (fits : n ≤ Numeral.greatestWord) (above : least ≤ (n : Int))
    (below : (n : Int) ≤ greatest) (delimited : Delimited rest) :
    readInteger wanted least greatest (writeNatural n ++ rest) = .ok ((n : Int), rest) := by
  have read : Numeral.read .endInValue (writeNatural n ++ rest) = _ :=
    Numeral.read_natural n delimited
  have denotes : (Numeral.ofNatural false n).value = _ := Numeral.value_ofNatural fits rfl
  obtain ⟨c, digits, written, digit⟩ := exists_writeNatural n
  rw [written] at read ⊢
  refine readInteger_of_read wanted least greatest ?_ read denotes above below
  rw [Numeral.begins, digit, Bool.or_true]

/-- **A negative integer within the bounds is read back.** -/
theorem readInteger_minus (positive : 0 < n) (held : n ≤ 9223372036854775808)
    (above : least ≤ -(n : Int)) (below : -(n : Int) ≤ greatest) (delimited : Delimited rest) :
    readInteger wanted least greatest ('-' :: (writeNatural n ++ rest)) =
      .ok (-(n : Int), rest) := by
  refine readInteger_of_read wanted least greatest rfl (Numeral.read_minus n delimited)
    (Numeral.value_ofNatural ?_ ?_) above below
  · unfold Numeral.greatestWord
    omega
  · rw [Numeral.integer?, if_pos rfl, if_neg]
    simp only [Bool.or_eq_true, decide_eq_true_eq]
    omega

/-- **A type of naturals is read back**, if 64 bits hold its values and each is its number again. -/
theorem lawful_natural (ofInt : Int → α) (toNat : α → Nat) (fits : greatest ≤ Numeral.greatestWord)
    (bounded : ∀ value, (toNat value : Int) ≤ greatest) (back : ∀ value, ofInt (toNat value) = value) :
    Lawful {
      read := fun s => do
        let (value, rest) ← readInteger wanted 0 greatest s
        return (ofInt value, rest)
      write := fun value => writeNatural (toNat value) } := by
  intro value rest delimited
  have bound := bounded value
  have read := readInteger_natural wanted 0 greatest (by omega) (by omega) bound delimited
  show (readInteger wanted 0 greatest (writeNatural (toNat value) ++ rest) >>= _) = _
  rw [read]
  show Except.ok (ofInt (toNat value), rest) = _
  rw [back]

end Numbers

theorem lawful_word : word.Lawful := by
  refine lawful_natural "u32" 4294967295 (fun value => UInt32.ofNat value.toNat) UInt32.toNat
    (by decide) (fun value => ?_) fun value => UInt32.ofNat_toNat
  have bound : value.toNat < 4294967296 := value.toNat_lt
  omega

theorem lawful_longWord : longWord.Lawful := by
  refine lawful_natural "u64" 18446744073709551615 (fun value => UInt64.ofNat value.toNat)
    UInt64.toNat (by decide) (fun value => ?_) fun value => UInt64.ofNat_toNat
  have bound : value.toNat < 18446744073709551616 := value.toNat_lt
  omega

theorem lawful_integer : integer.Lawful := by
  intro value rest delimited
  have least : -2147483648 ≤ value.toInt := value.le_toInt
  have greatest : value.toInt < 2147483648 := value.toInt_lt
  have read : readInteger "i32" (-2147483648) 2147483647 (integer.write value ++ rest) =
      .ok (value.toInt, rest) := by
    -- the sign decides how the integer is written
    by_cases negative : value.toInt < 0
    · have whole : -(value.toInt.natAbs : Int) = value.toInt := by omega
      rw [← whole, show integer.write value = '-' :: writeNatural value.toInt.natAbs from
        if_pos negative]
      exact readInteger_minus "i32" (-2147483648) 2147483647 (by omega) (by omega) (by omega)
        (by omega) delimited
    · have whole : (value.toInt.natAbs : Int) = value.toInt := by omega
      rw [← whole, show integer.write value = writeNatural value.toInt.natAbs from
        if_neg negative]
      exact readInteger_natural "i32" (-2147483648) 2147483647
        (by unfold Numeral.greatestWord; omega) (by omega) (by omega) delimited
  show (readInteger "i32" (-2147483648) 2147483647 (integer.write value ++ rest) >>= _) = _
  rw [read]
  show Except.ok (Int32.ofInt value.toInt, rest) = _
  rw [Int32.ofInt_toInt]

/-! ### Other types -/

theorem lawful_truth : truth.Lawful := by
  intro value rest _
  unfold truth
  dsimp only
  cases value with
  | true =>
      rw [if_pos rfl, List.cons_append, readFirst_cons (by rfl), if_pos rfl]
      exact afterLetters_append trueTail rest true
  | false =>
      rw [if_neg (by decide), List.cons_append, readFirst_cons (by rfl), if_neg (by decide), if_pos rfl]
      exact afterLetters_append falseTail rest false

theorem lawful_text : text.Lawful := by
  intro value rest _
  unfold text
  dsimp only
  rw [writeString_append, readFirst_cons (by rfl), if_pos rfl]
  exact readString_written value rest

/-- **A value that may be missing is read back**, if no value begins like the word for nothing. -/
theorem lawful_orNull {codec : Codec α} (lawful : codec.Lawful)
    (unlike : ∀ value, ∃ c s, codec.write value = c :: s ∧ isBlank c = false ∧ c ≠ 'n') :
    (orNull codec).Lawful := by
  intro value rest delimited
  cases value with
  | none =>
      show afterLetters nullTail none (nullTail ++ rest) = _
      exact afterLetters_append nullTail rest none
  | some value =>
      -- the first character tells that the value is not missing
      obtain ⟨c, s, written, solid, other⟩ := unlike value
      have read := lawful value rest delimited
      show (orNull codec).read (codec.write value ++ rest) = _
      rw [written] at read ⊢
      unfold orNull
      dsimp only
      split
      · next tail begins =>
        simp only [skipBlanks, List.cons_append, List.dropWhile_cons, solid] at begins
        exact absurd (List.cons.inj begins).1 other
      · rw [read]
        rfl

/-- A natural that may be missing is read back: no digit begins the word for nothing. -/
theorem lawful_orNull_longWord : (orNull longWord).Lawful := by
  refine lawful_orNull lawful_longWord fun value => ?_
  obtain ⟨c, digits, written, digit⟩ := exists_writeNatural value.toNat
  refine ⟨c, digits, written, isBlank_of_begins ?_, ?_⟩
  · rw [Numeral.begins, digit, Bool.or_true]
  · rintro rfl
    cases digit

/-- **A value of an enumeration is read back**, if each of them is found by its name. -/
theorem lawful_variant {all : List α} {name : α → String}
    (found : ∀ value, all.find? (fun other => name other == name value) = some value) :
    (variant all name).Lawful := by
  intro value rest _
  unfold variant
  dsimp only
  rw [writeString_append, readFirst_cons (by rfl), if_pos rfl]
  show (readString _ >>= _) = _
  rw [readString_written]
  show (ofName all name (name value) >>= _) = _
  rw [ofName, found]
  rfl

end Codec

end Scanout.Json
