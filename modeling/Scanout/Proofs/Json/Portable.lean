import Scanout.Proofs.Json.WellFormed

/-!
# Values that are read alike wherever they stand

What is read as a value is a text of its own, which can be taken out of the text around it: wherever it
is put, with any blanks before it and whatever no numeral goes on in behind it, it is read as the same
value.  So a value that makes up a whole text may as well be an element or the value of a member.

## Main definitions

* `Json.Codec.Portable` — what is read as a value is read as that value elsewhere
* `Json.Codec.Accepts` — a whole text of a value

## Main results

* `Json.isKey_of_readString` — what is read as a string is one of its spellings
* `Json.Numeral.integer_of_read` — what is read as an integer is a sign and digits
* `Json.Codec.portable_word`, `.portable_longWord`, `.portable_integer`, `.portable_truth`,
  `.portable_text`, `.portable_orNull`, `.portable_variant`
* `Json.Codec.Portable.exists_core` — the text of a value inside a whole text
-/

namespace Scanout.Json

/-! ### Strings -/

/-- What a second half is read from. -/
theorem exists_of_readSecondHalf {first : Nat} {s after : List Char} {c : Char}
    (found : readSecondHalf first s = .ok (c, after)) :
    ∃ digits second, s = '\\' :: 'u' :: (digits ++ after) ∧ digits.length = 4 ∧
      Text.hexValue? digits = some second ∧ isSecondHalf second = true ∧
      c = joinHalves first second := by
  rcases s with _ | ⟨c₁, _ | ⟨c₂, s⟩⟩
  case nil => cases found
  case cons.nil =>
    simp only [readSecondHalf] at found
    split at found <;> cases found
  simp only [readSecondHalf] at found
  split at found
  · next backslash =>
    split at found
    · next unit =>
      obtain ⟨⟨second, after'⟩, read, joined⟩ := exists_ok_of_bind found
      obtain ⟨d₁, d₂, d₃, d₄, rfl, value⟩ := exists_of_readUnit read
      dsimp only at joined
      split at joined
      · next isSecond =>
        obtain ⟨rfl, rfl⟩ := Prod.mk.inj (Except.ok.inj joined)
        exact ⟨[d₁, d₂, d₃, d₄], second, by rw [backslash, unit]; rfl, rfl, value, isSecond, rfl⟩
      · cases joined
    · cases found
  · cases found

/-- **An escape that is read spells its character.** -/
theorem spellsOne_of_readEscape {s after : List Char} {c : Char}
    (found : readEscape s = .ok (c, after)) :
    ∃ part, SpellsOne c ('\\' :: part) ∧ s = part ++ after := by
  cases s with
  | nil => cases found
  | cons letter t =>
      rw [readEscape] at found
      split at found
      · next unit =>
        obtain ⟨⟨n, after'⟩, read, given⟩ := exists_ok_of_bind found
        obtain ⟨d₁, d₂, d₃, d₄, rfl, value⟩ := exists_of_readUnit read
        dsimp only at given
        rw [unit]
        split at given
        · cases given
        · next noSecond =>
          split at given
          · next isFirst =>
            obtain ⟨digits, second, rfl, four, value', isSecond, joined⟩ :=
              exists_of_readSecondHalf given
            have four' : [d₁, d₂, d₃, d₄].length = 4 := rfl
            rw [joined]
            exact ⟨_, .halves four' value isFirst four value' isSecond, rfl⟩
          · next noFirst =>
            obtain ⟨rfl, rfl⟩ := Prod.mk.inj (Except.ok.inj given)
            have four : [d₁, d₂, d₃, d₄].length = 4 := rfl
            exact ⟨_, .unit four value (Bool.eq_false_iff.mpr noFirst)
              (Bool.eq_false_iff.mpr noSecond), rfl⟩
      · split at found
        · next known =>
          cases found
          exact ⟨[letter], .short (mem_shortEscapes known), rfl⟩
        · cases found

/-- **Characters that are read are spelled** in the text, up to the closing quote. -/
theorem spells_of_readCharacters {s after characters : List Char}
    (found : readCharacters s = .ok (characters, after)) :
    ∃ text, Spells characters text ∧ s = text ++ '"' :: after := by
  fun_induction readCharacters s generalizing characters after with
  | case1 | case3 | case4 | case6 | case7 => cases found
  | case2 rest =>
      cases found
      exact ⟨[], .nil, rfl⟩
  | case5 rest c behind escape _ others _ read _ ih =>
      cases found
      obtain ⟨part, one, first⟩ := spellsOne_of_readEscape escape
      obtain ⟨text, spells, later⟩ := ih read
      refine ⟨'\\' :: part ++ text, .cons one spells, ?_⟩
      rw [first, later, List.cons_append, List.cons_append, List.append_assoc]
  | case8 c rest noQuote noEscape noControl others _ read ih =>
      cases found
      obtain ⟨text, spells, later⟩ := ih read
      have plain : isPlain c = true :=
        isPlain_iff.mpr ⟨noQuote, noEscape, Bool.eq_false_iff.mpr noControl⟩
      exact ⟨[c] ++ text, .cons (.plain plain) spells, by rw [later]; rfl⟩

/-- **A string that is read is one of its spellings**, with the quote in front of it. -/
theorem isKey_of_readString {s after : List Char} {name : String}
    (found : readString s = .ok (name, after)) : ∃ key, IsKey name key ∧ '"' :: s = key ++ after := by
  obtain ⟨⟨characters, after'⟩, read, found⟩ := exists_ok_of_bind found
  cases found
  obtain ⟨text, spells, rfl⟩ := spells_of_readCharacters read
  refine ⟨'"' :: (text ++ ['"']), .quoted ?_, ?_⟩
  · rw [String.toList_ofList]
    exact spells
  · rw [List.cons_append, List.append_assoc]
    rfl

/-! ### Numerals -/

namespace Numeral

variable {broken : Fault} {s after : List Char}

/-- The sign of an integer as it is written. -/
def sign (negative : Bool) : List Char := if negative then ['-'] else []

/-- A sign is read in front of digits. -/
theorem readMinus_sign {whole : List Char} (is : IsWhole whole) (negative : Bool) (rest : List Char) :
    readMinus (sign negative ++ (whole ++ rest)) = (negative, whole ++ rest) := by
  cases negative with
  | true => rfl
  | false =>
      obtain ⟨some, all⟩ := is.1
      cases whole with
      | nil => exact absurd rfl some
      | cons first others =>
          have digit := all first List.mem_cons_self
          show readMinus (first :: (others ++ rest)) = _
          rw [readMinus, if_neg]
          · rfl
          · rintro rfl
            cases digit

/-- **A sign and digits are read as an integer.** -/
theorem read_integer {whole rest : List Char} (is : IsWhole whole) (delimited : Delimited rest)
    (negative : Bool) :
    read broken (sign negative ++ (whole ++ rest)) = .ok (⟨negative, whole, [], none⟩, rest) :=
  read_of_parts (readMinus_sign is negative rest) (readWhole_append is delimited.noDigit)
    (readFraction_delimited delimited) (readExponent_delimited delimited)

theorem eq_of_readMinus {negative : Bool} {u : List Char} (found : readMinus s = (negative, u)) :
    s = sign negative ++ u := by
  cases s with
  | nil =>
      cases found
      rfl
  | cons c t =>
      rw [readMinus] at found
      split at found
      · next minus =>
        cases found
        rw [minus]
        rfl
      · cases found
        rfl

/-- Where no fraction is found, none is read. -/
theorem eq_of_readFraction (found : readFraction broken s = .ok ([], after)) : s = after := by
  cases s with
  | nil =>
      cases found
      rfl
  | cons c t =>
      rw [readFraction] at found
      split at found
      · obtain ⟨_, _, _, _, digits, _⟩ := exists_of_readDigits found
        cases digits
      · cases found
        rfl

/-- Where no exponent is found, none is read. -/
theorem eq_of_readExponent (found : readExponent broken s = .ok (none, after)) : s = after := by
  cases s with
  | nil =>
      cases found
      rfl
  | cons c t =>
      rw [readExponent] at found
      split at found
      · obtain ⟨_, _, given⟩ := exists_ok_of_bind found
        cases given
      · cases found
        rfl

/-- **What is read as an integer is a sign and digits.** -/
theorem integer_of_read {n : Numeral} (found : read broken s = .ok (n, after))
    (isWhole : n.isWhole = true) :
    IsWhole n.whole ∧ s = sign n.negative ++ (n.whole ++ after) ∧
      n = ⟨n.negative, n.whole, [], none⟩ := by
  obtain ⟨r₁, r₂, minus, whole, fraction, exponent⟩ := exists_of_read found
  rcases n with ⟨negative, digits, places, power⟩
  simp only [Numeral.isWhole, Bool.and_eq_true, List.isEmpty_iff, Option.isNone_iff_eq_none]
    at isWhole
  obtain ⟨rfl, rfl⟩ := isWhole
  obtain rfl := eq_of_readFraction fraction
  obtain rfl := eq_of_readExponent exponent
  obtain ⟨is, split⟩ := isWhole_of_readWhole whole
  refine ⟨is, ?_, rfl⟩
  rw [← split]
  exact eq_of_readMinus minus

end Numeral

/-! ### Codecs -/

/-- A text that is not empty begins like a text that it begins. -/
theorem exists_cons_of_append {c : Char} {t core after : List Char} (some : core ≠ [])
    (split : c :: t = core ++ after) : ∃ u, core = c :: u := by
  cases core with
  | nil => exact absurd rfl some
  | cons d u => exact ⟨u, by rw [(List.cons.inj split).1]⟩

/-- What the blanks are followed by is no blank. -/
theorem isBlank_of_skipBlanks {s t : List Char} {c : Char} (begins : skipBlanks s = c :: t) :
    isBlank c = false := by
  have solid := List.head?_dropWhile_not isBlank s
  rw [show s.dropWhile isBlank = c :: t from begins] at solid
  exact solid

namespace Codec

variable {α : Type} {codec : Codec α}

/-- **What is read as a value is read as that value elsewhere**, behind any blanks and in front of
whatever no numeral goes on in. -/
def Portable (codec : Codec α) : Prop :=
  ∀ ⦃s value after⦄, codec.read s = .ok (value, after) →
    ∃ core, skipBlanks s = core ++ after ∧ codec.Reads core value

/-- **A whole text of a value.** -/
def Accepts (codec : Codec α) (text : List Char) (value : α) : Prop :=
  codec.parse (String.ofList text) = .ok value

instance [DecidableEq α] (codec : Codec α) (text : List Char) (value : α) :
    Decidable (codec.Accepts text value) :=
  inferInstanceAs (Decidable (codec.parse (String.ofList text) = .ok value))

/-- The text of a value is a whole text of it, with blanks around it. -/
theorem Reads.accepts {core : List Char} {value : α} (reads : codec.Reads core value)
    {lead after : List Char} (blanks : Blanks lead) (blanks' : Blanks after) :
    codec.Accepts (lead ++ (core ++ after)) value :=
  reads.parse blanks blanks' String.toList_ofList

/-- What is read is a value of the grammar. -/
theorem derives_of_read (alike : codec.EndsAlike) {s core after : List Char} {value : α}
    (found : codec.read s = .ok (value, after)) (split : skipBlanks s = core ++ after) :
    Derives .value core := by
  obtain ⟨written, derives, split'⟩ := derives_of_skipValue (alike found)
  rwa [List.append_cancel_right (split.symm.trans split')]

/-- **The text of a value inside a whole text**: all that stands around it are blanks. -/
theorem Portable.exists_core (portable : codec.Portable) (alike : codec.EndsAlike) {text : List Char}
    {value : α} (accepts : codec.Accepts text value) :
    ∃ lead core after, Blanks lead ∧ Blanks after ∧ text = lead ++ (core ++ after) ∧
      Derives .value core ∧ codec.Reads core value := by
  obtain ⟨⟨value', after⟩, read, ended⟩ := exists_ok_of_bind accepts
  rw [String.toList_ofList] at read
  obtain ⟨core, split, reads⟩ := portable read
  obtain ⟨lead, blanks, whole⟩ := exists_blanks text
  change (if (skipBlanks after).isEmpty then _ else _) = _ at ended
  split at ended
  · next ends =>
    cases ended
    have blanks' : Blanks after := List.dropWhile_eq_nil_iff.mp (List.isEmpty_iff.mp ends)
    exact ⟨lead, core, after, blanks, blanks', by rw [← split, ← whole],
      derives_of_read alike read split, reads⟩
  · cases ended

/-- **An integer is read elsewhere**, from its sign and its digits. -/
theorem portable_of_readInteger (wanted : String) (least greatest : Int) (ofInt : Int → α)
    (reads : codec.read = fun s =>
      readInteger wanted least greatest s >>= fun found => .ok (ofInt found.1, found.2)) :
    codec.Portable := by
  intro s value after found
  rw [reads, readInteger_eq] at found
  obtain ⟨⟨z, after'⟩, read, given⟩ := exists_ok_of_bind found
  obtain ⟨rfl, rfl⟩ := Prod.mk.inj (Except.ok.inj given)
  obtain ⟨c, t, begins, read⟩ := exists_of_readFirst read
  split at read
  · next digit =>
    obtain ⟨⟨n, after''⟩, numeral, read⟩ := exists_ok_of_bind read
    obtain ⟨z', within, read⟩ := exists_ok_of_bind read
    obtain ⟨rfl, rfl⟩ := Prod.mk.inj (Except.ok.inj read)
    obtain ⟨is, split, parts⟩ := Numeral.integer_of_read numeral
      (Numeral.value_eq_integer.mp (bounded_eq_ok.mp within).1).1
    refine ⟨Numeral.sign n.negative ++ n.whole, ?_, fun before rest blanks delimited => ?_⟩
    · rw [begins, split, List.append_assoc]
    · have again : Numeral.read .endInValue (Numeral.sign n.negative ++ (n.whole ++ rest)) =
          .ok (n, rest) := by
        rw [Numeral.read_integer is delimited, ← parts]
      have some : Numeral.sign n.negative ++ n.whole ≠ [] :=
        fun empty => is.1.1 (List.append_eq_nil_iff.mp empty).2
      obtain ⟨u, same⟩ := exists_cons_of_append some (split.trans (List.append_assoc _ _ _).symm)
      rw [reads, readInteger_eq, List.append_assoc]
      show (readFirst _ (before ++ _) >>= _) = _
      rw [readFirst_append blanks, ← List.append_assoc, same, List.cons_append,
        readFirst_cons (isBlank_of_begins digit), if_pos digit, ← List.cons_append, ← same,
        List.append_assoc, again]
      show ((bounded wanted least greatest n >>= _) >>= _) = _
      rw [within]
      rfl
  · cases read

theorem portable_word : word.Portable :=
  portable_of_readInteger "u32" 0 4294967295 (fun value => UInt32.ofNat value.toNat) rfl

theorem portable_longWord : longWord.Portable :=
  portable_of_readInteger "u64" 0 18446744073709551615 (fun value => UInt64.ofNat value.toNat) rfl

theorem portable_integer : integer.Portable :=
  portable_of_readInteger "i32" (-2147483648) 2147483647 Int32.ofInt rfl

theorem portable_truth : truth.Portable := by
  intro s value after found
  obtain ⟨c, t, begins, read⟩ := exists_of_readFirst found
  have word {letter : Char} {letters : List Char} {given : Bool} (begins : skipBlanks s = letter :: t)
      (written : truth.write given = letter :: letters)
      (read : afterLetters letters given t = .ok (value, after)) :
      ∃ core, skipBlanks s = core ++ after ∧ truth.Reads core value := by
    obtain ⟨after', skipped, same⟩ := exists_ok_of_bind read
    obtain ⟨rfl, rfl⟩ := Prod.mk.inj (Except.ok.inj same)
    refine ⟨letter :: letters, ?_, ?_⟩
    · rw [begins, eq_of_skipLetters skipped, List.cons_append]
    · rw [← written]
      exact faithful_truth _ _ .written
  split at read
  · next letter =>
    subst letter
    exact word begins rfl read
  · split at read
    · next letter =>
      subst letter
      exact word begins rfl read
    · cases read

theorem portable_text : text.Portable := by
  intro s value after found
  obtain ⟨c, t, begins, read⟩ := exists_of_readFirst found
  split at read
  · next quote =>
    obtain ⟨key, is, split⟩ := isKey_of_readString read
    exact ⟨key, by rw [begins, quote, split], faithful_text _ _ (.spelled rfl is)⟩
  · cases read

/-- What is read begins with the first character behind the blanks. -/
theorem exists_cons_of_read (alike : codec.EndsAlike) {s core after : List Char} {value : α}
    (found : codec.read s = .ok (value, after)) (split : skipBlanks s = core ++ after) :
    ∃ c u, core = c :: u ∧ isBlank c = false := by
  obtain ⟨before, c, t, whole, -, -, -⟩ := (derives_of_read alike found split).exists_begin
  cases core with
  | nil => cases before <;> cases whole
  | cons d u => exact ⟨d, u, rfl, isBlank_of_skipBlanks split⟩

/-- **A value that may be missing is read elsewhere**, if the value is. -/
theorem portable_orNull (portable : codec.Portable) (alike : codec.EndsAlike) :
    (orNull codec).Portable := by
  intro s value after found
  rw [orNull_read] at found
  split at found
  · next null =>
    obtain ⟨t, begins⟩ := List.head?_eq_some_iff.mp null
    rw [begins, List.tail_cons] at found
    obtain ⟨after', skipped, same⟩ := exists_ok_of_bind found
    obtain ⟨rfl, rfl⟩ := Prod.mk.inj (Except.ok.inj same)
    refine ⟨'n' :: nullTail, ?_, fun before rest blanks _ => ?_⟩
    · rw [begins, eq_of_skipLetters skipped, List.cons_append]
    · rw [orNull_read, skipBlanks_append blanks, List.cons_append, skipBlanks_cons (by rfl),
        List.head?_cons, if_pos rfl]
      exact afterLetters_append nullTail rest none
  · next other =>
    obtain ⟨⟨value', after'⟩, read, same⟩ := exists_ok_of_bind found
    obtain ⟨rfl, rfl⟩ := Prod.mk.inj (Except.ok.inj same)
    obtain ⟨core, split, reads⟩ := portable read
    obtain ⟨c, u, rfl, solid⟩ := exists_cons_of_read alike read split
    rw [split, List.cons_append, List.head?_cons] at other
    refine ⟨c :: u, split, fun before rest blanks delimited => ?_⟩
    rw [orNull_read, skipBlanks_append blanks, List.cons_append, skipBlanks_cons solid,
      List.head?_cons, if_neg other, ← List.cons_append, reads before rest blanks delimited]
    rfl

section Variants

variable {all : List α} {name : α → String}

/-- A name that is read is read elsewhere. -/
theorem exists_of_readName {s after : List Char} {value : α}
    (found : readName all name s = .ok (value, after)) :
    ∃ key, s = key ++ after ∧ ∀ rest, readName all name (key ++ rest) = .ok (value, rest) := by
  obtain ⟨⟨given, after'⟩, read, found⟩ := exists_ok_of_bind found
  obtain ⟨value', known, same⟩ := exists_ok_of_bind found
  obtain ⟨rfl, rfl⟩ := Prod.mk.inj (Except.ok.inj same)
  obtain ⟨key, is, split⟩ := isKey_of_readString read
  obtain ⟨text, rfl, again⟩ := is.exists_readString
  refine ⟨text, (List.cons.inj split).2, fun rest => ?_⟩
  show (readString (text ++ rest) >>= _) = _
  rw [again]
  show (ofName all name given >>= _) = _
  rw [known]
  rfl

/-- What is read as the word for nothing is that word. -/
theorem split_of_readNothing {s after : List Char} (found : readNothing s = .ok ((), after)) :
    ∃ blank, Blanks blank ∧ s = blank ++ 'n' :: (nullTail ++ after) := by
  obtain ⟨c, t, begins, read⟩ := exists_of_readFirst found
  split at read
  · next letter =>
    obtain ⟨after', skipped, same⟩ := exists_ok_of_bind read
    obtain ⟨-, rfl⟩ := Prod.mk.inj (Except.ok.inj same)
    obtain ⟨blank, blanks, whole⟩ := exists_blanks s
    exact ⟨blank, blanks, by rw [← eq_of_skipLetters skipped, ← letter, ← begins, ← whole]⟩
  · cases read

theorem readNothing_append {blank : List Char} (blanks : Blanks blank) (rest : List Char) :
    readNothing (blank ++ 'n' :: (nullTail ++ rest)) = .ok ((), rest) := by
  rw [readNothing, readFirst_append blanks, readFirst_cons (by rfl), if_pos rfl]
  exact afterLetters_append nullTail rest ()

/-- **An object with a name for its one key is read elsewhere**, from behind its brace on. -/
theorem exists_of_readTagged {s after : List Char} {value : α}
    (found : readTagged all name s = .ok (value, after)) :
    ∃ body, s = body ++ after ∧ ∀ rest, readTagged all name (body ++ rest) = .ok (value, rest) := by
  obtain ⟨t, t₁, t₂, t₃, begins, read, colon, null, ends⟩ := parts_of_readTagged found
  obtain ⟨key, rfl, again⟩ := exists_of_readName read
  obtain ⟨between, blanks₂, rfl⟩ := exists_of_skipColon colon
  obtain ⟨blank, blanks₃, rfl⟩ := split_of_readNothing null
  obtain ⟨lead, blanks₁, first⟩ := exists_blanks s
  obtain ⟨last, blanks₄, whole⟩ := exists_blanks t₃
  rw [ends] at whole
  subst whole
  refine ⟨lead ++ '"' :: (key ++ (between ++ ':' ::
    (blank ++ 'n' :: (nullTail ++ (last ++ ['\x7d']))))), ?_, fun rest => ?_⟩
  · rw [first, begins]
    simp only [List.append_assoc, List.cons_append, List.nil_append]
  · simp only [List.append_assoc, List.cons_append, List.nil_append]
    rw [readTagged, readFirst_append blanks₁, readFirst_cons (by rfl), if_pos rfl]
    show (readName all name (key ++ _) >>= _) = _
    rw [again]
    show (skipColon _ >>= _) = _
    rw [skipColon_append blanks₂]
    show (readNothing _ >>= _) = _
    rw [readNothing_append blanks₃]
    simp only [bind, Except.bind]
    rw [skipBlanks_solid blanks₄ (by rfl)]
    rfl

theorem portable_variant : (variant all name).Portable := by
  intro s value after found
  obtain ⟨c, t, begins, read⟩ := exists_of_readFirst found
  split at read
  · next quote =>
    obtain ⟨key, rfl, again⟩ := exists_of_readName read
    refine ⟨'"' :: key, by rw [begins, quote]; rfl, fun before rest blanks _ => ?_⟩
    show readFirst _ (before ++ '"' :: (key ++ rest)) = _
    rw [readFirst_append blanks, readFirst_cons (by rfl), if_pos rfl, again]
  · split at read
    · next brace =>
      obtain ⟨body, rfl, again⟩ := exists_of_readTagged read
      refine ⟨'\x7b' :: body, by rw [begins, brace]; rfl, fun before rest blanks _ => ?_⟩
      show readFirst _ (before ++ '\x7b' :: (body ++ rest)) = _
      rw [readFirst_append blanks, readFirst_cons (by rfl), if_neg (by decide), if_pos rfl, again]
    · cases read

end Variants

end Codec

end Scanout.Json
