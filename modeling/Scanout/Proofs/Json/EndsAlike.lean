import Scanout.Proofs.Json.Contents
import Scanout.Proofs.Json.Verdicts

/-!
# Where a value ends

A value ends where it ends, whether it is read as a value of its type or only passed over.  So what a
reader makes of a text goes along with the grammar: behind a value that is read stands what stands
behind it in the text.

## Main definitions

* `Json.Codec.EndsAlike` — a value that is read ends where it ends if it is passed over

## Main results

* `Json.Numeral.read_of_read`, `Json.skipString_of_readString` — numerals and strings
* `Json.sweep_append` — a sweep goes on behind what it swept
* `Json.Codec.endsAlike_word`, `.endsAlike_longWord`, `.endsAlike_integer`, `.endsAlike_truth`,
  `.endsAlike_text`, `.endsAlike_orNull`, `.endsAlike_variant`
* `Json.Schema.endsAlike` — records
-/

namespace Scanout.Json

/-! ### Numerals -/

namespace Numeral

variable {broken : Fault} {s after : List Char}

theorem readDigits_of_readDigits (broken' : Fault) {digits : List Char}
    (found : readDigits broken s = .ok (digits, after)) : readDigits broken' s = .ok (digits, after) := by
  obtain ⟨c, t, rfl, digit, rfl, rfl⟩ := exists_of_readDigits found
  rw [readDigits, if_pos digit]

/-- **A numeral is read alike** whatever the fault of a text that breaks off. -/
theorem read_of_read (broken' : Fault) {n : Numeral} (found : read broken s = .ok (n, after)) :
    read broken' s = .ok (n, after) := by
  obtain ⟨r₁, r₂, sign, whole, fraction, exponent⟩ := exists_of_read found
  have whole' : readWhole broken' (readMinus s).2 = .ok (n.whole, r₁) := by
    obtain ⟨digits, sound⟩ := exists_of_readWhole whole
    show (readDigits broken' _ >>= _) = _
    rw [readDigits_of_readDigits broken' digits]
    show (if _ then _ else _) = _
    rw [if_neg (Bool.eq_false_iff.mp sound)]
    rfl
  have fraction' : readFraction broken' r₁ = .ok (n.fraction, r₂) := by
    cases r₁ with
    | nil => exact fraction
    | cons c r =>
        rw [readFraction] at fraction ⊢
        split at fraction
        · next point => rw [if_pos point, readDigits_of_readDigits broken' fraction]
        · next other => rw [if_neg other]; exact fraction
  have exponent' : readExponent broken' r₂ = .ok (n.exponent, after) := by
    cases r₂ with
    | nil => exact exponent
    | cons c r =>
        rw [readExponent] at exponent ⊢
        split at exponent
        · next mark =>
          obtain ⟨⟨digits, after'⟩, read, given⟩ := exists_ok_of_bind exponent
          rw [if_pos mark, readDigits_of_readDigits broken' read]
          exact given
        · next other => rw [if_neg other]; exact exponent
  exact read_of_parts sign whole' fraction' exponent'

end Numeral

/-! ### Strings -/

/-- The second of two halves that are read is passed over as an escape of its own. -/
theorem skipString_of_readSecondHalf {first : Nat} {s after : List Char} {c : Char}
    (found : readSecondHalf first s = .ok (c, after)) : skipString s = skipString after := by
  rcases s with _ | ⟨c, _ | ⟨c', s⟩⟩
  case nil => cases found
  case cons.nil =>
    simp only [readSecondHalf] at found
    split at found <;> cases found
  simp only [readSecondHalf] at found
  split at found
  · next backslash =>
    split at found
    · next unit =>
      obtain ⟨⟨n, s'⟩, read, found⟩ := exists_ok_of_bind found
      dsimp only at found
      split at found
      · obtain rfl : s' = after := (Prod.mk.inj (Except.ok.inj found)).2
        rw [backslash]
        refine skipString_escape ?_
        rw [skipEscape, if_pos unit, read]
        rfl
      · cases found
    · cases found
  · cases found

/-- **An escape that is read is passed over.** -/
theorem skipString_of_readEscape {s after : List Char} {c : Char}
    (found : readEscape s = .ok (c, after)) : skipString ('\\' :: s) = skipString after := by
  cases s with
  | nil => cases found
  | cons letter s =>
      rw [readEscape] at found
      by_cases unit : letter = 'u'
      · rw [if_pos unit] at found
        obtain ⟨⟨n, s'⟩, read, found⟩ := exists_ok_of_bind found
        have first : skipString ('\\' :: letter :: s) = skipString s' := by
          refine skipString_escape ?_
          rw [skipEscape, if_pos unit, read]
          rfl
        rw [first]
        dsimp only at found
        split at found
        · cases found
        · split at found
          · exact skipString_of_readSecondHalf found
          · cases found
            rfl
      · rw [if_neg unit] at found
        split at found
        · next known =>
          cases found
          refine skipString_escape ?_
          rw [skipEscape, if_neg unit, known]
        · cases found

/-- **A string that is read is passed over**, up to the same place. -/
theorem skipString_of_readString {s after : List Char} {text : String}
    (found : readString s = .ok (text, after)) : skipString s = .ok after := by
  obtain ⟨⟨characters, after'⟩, read, found⟩ := exists_ok_of_bind found
  cases found
  clear found
  induction hn : s.length using Nat.strongRecOn generalizing s characters with
  | ind n ih =>
      have shorter (t : List Char) (less : t.length < s.length) {cs : List Char}
          (read : readCharacters t = .ok (cs, after)) : skipString t = .ok after :=
        ih t.length (hn ▸ less) cs read rfl
      rw [readCharacters_eq] at read
      cases s with
      | nil => cases read
      | cons c t =>
          change (if c = '"' then _ else _) = _ at read
          by_cases quote : c = '"'
          · rw [if_pos quote] at read
            cases read
            rw [quote, skipString_quote]
          · rw [if_neg quote] at read
            by_cases escape : c = '\\'
            · rw [if_pos escape] at read
              obtain ⟨⟨character, t'⟩, escaped, read⟩ := exists_ok_of_bind read
              obtain ⟨⟨later, after''⟩, behind, read⟩ := exists_ok_of_bind read
              cases read
              rw [escape, skipString_of_readEscape escaped]
              refine shorter t' ?_ behind
              have less := readEscape_length escaped
              rw [List.length_cons]
              omega
            · rw [if_neg escape] at read
              split at read
              · cases read
              · next plain =>
                obtain ⟨⟨later, after''⟩, behind, read⟩ := exists_ok_of_bind read
                cases read
                rw [skipString_plain t (isPlain_iff.mpr
                  ⟨quote, escape, Bool.eq_false_iff.mpr plain⟩)]
                exact shorter t (by rw [List.length_cons]; omega) behind

/-! ### Sweeps inside further brackets -/

section Further

variable {inner outer : List Bracket} {s after : List Char}

/-- What the induction knows: behind a shorter text that is swept over, the sweep goes on. -/
def SweepsShorter (outer : List Bracket) (s after : List Char) : Prop :=
  ∀ ⦃place inner t⦄, t.length < s.length → sweep place inner t = .ok after →
    sweep place (inner ++ outer) t = sweep .after outer after

theorem SweepsShorter.item (shorter : SweepsShorter outer s after) {bracket : Bracket} {t : List Char}
    (less : t.length < s.length)
    (swept : skipBefore bracket t >>= sweep .before (bracket :: inner) = .ok after) :
    skipBefore bracket t >>= sweep .before (bracket :: (inner ++ outer)) = sweep .after outer after := by
  obtain ⟨t', skipped, swept⟩ := exists_ok_of_bind swept
  rw [skipped]
  exact shorter (Nat.lt_of_le_of_lt (skipBefore_length skipped) less) swept

theorem SweepsShorter.value (shorter : SweepsShorter outer s after) {c : Char} {t : List Char}
    (less : t.length < s.length) (swept : sweepValue inner c t = .ok after) :
    sweepValue (inner ++ outer) c t = sweep .after outer after := by
  unfold sweepValue at swept ⊢
  generalize opening? c = kind at swept ⊢
  cases kind with
  | none =>
      obtain ⟨t', skipped, swept⟩ := exists_ok_of_bind swept
      dsimp only
      rw [skipped]
      exact shorter (Nat.lt_of_le_of_lt (skipScalar_length skipped) less) swept
  | some bracket =>
      dsimp only at swept ⊢
      cases filled : skipBlanks t with
      | nil => rw [filled] at swept; cases swept
      | cons c' t' =>
          rw [filled] at swept
          change (if c' = bracket.closing then _ else _) = _ at swept
          show (if c' = bracket.closing then _ else _) = _
          split at swept
          · next closes =>
            rw [if_pos closes]
            exact shorter (Nat.lt_trans (length_of_skipBlanks filled) less) swept
          · next other =>
            rw [if_neg other]
            refine shorter.item ?_ swept
            rw [← filled]
            exact Nat.lt_of_le_of_lt (skipBlanks_length t) less

theorem SweepsShorter.next (shorter : SweepsShorter outer s after) {bracket : Bracket} {c : Char}
    {t : List Char} (less : t.length < s.length) (swept : sweepNext bracket inner c t = .ok after) :
    sweepNext bracket (inner ++ outer) c t = sweep .after outer after := by
  unfold sweepNext at swept ⊢
  split at swept
  · next comma =>
    rw [if_pos comma]
    exact shorter.item less swept
  · next noComma =>
    rw [if_neg noComma]
    split at swept
    · next closes =>
      rw [if_pos closes]
      exact shorter less swept
    · cases swept

/-- **A sweep goes on behind what it swept** if there are further brackets around it. -/
theorem sweep_append {place : Place} (swept : sweep place inner s = .ok after)
    (outer : List Bracket) : sweep place (inner ++ outer) s = sweep .after outer after := by
  induction hn : s.length using Nat.strongRecOn generalizing place inner s with
  | ind n ih =>
      have shorter : SweepsShorter outer s after :=
        fun _ _ t less swept => ih t.length (hn ▸ less) swept rfl
      cases place with
      | before =>
          rw [sweep_before_eq] at swept ⊢
          dsimp only at swept ⊢
          cases begins : skipBlanks s with
          | nil => rw [begins] at swept; cases swept
          | cons c t =>
              rw [begins] at swept
              exact shorter.value (length_of_skipBlanks begins) swept
      | after =>
          cases inner with
          | nil =>
              rw [sweep] at swept
              cases swept
              rfl
          | cons bracket inner =>
              rw [List.cons_append]
              rw [sweep_after_eq] at swept ⊢
              dsimp only at swept ⊢
              cases begins : skipBlanks s with
              | nil => rw [begins] at swept; cases swept
              | cons c t =>
                  rw [begins] at swept
                  exact shorter.next (length_of_skipBlanks begins) swept

end Further

/-- A value that is passed over is swept over inside any brackets. -/
theorem sweep_of_skipValue {s after : List Char} (skipped : skipValue s = .ok after)
    (brackets : List Bracket) : sweep .before brackets s = sweep .after brackets after :=
  sweep_append skipped brackets

/-- Behind a value, a bracket may close. -/
theorem sweep_closing {bracket : Bracket} {brackets : List Bracket} {s after : List Char}
    (ends : skipBlanks s = bracket.closing :: after) :
    sweep .after (bracket :: brackets) s = sweep .after brackets after := by
  rw [sweep_after, ends]
  dsimp only
  rw [if_neg (by cases bracket <;> decide), if_pos rfl]

/-- **A value without brackets is passed over**, blanks before it included. -/
theorem skipValue_of_skipScalar {s t after : List Char} {c : Char} (begins : skipBlanks s = c :: t)
    (noBracket : opening? c = none) (skipped : skipScalar c t = .ok after) :
    skipValue s = .ok after := by
  show sweep .before [] s = _
  rw [sweep_before, begins]
  dsimp only
  rw [noBracket, skipped]
  exact sweep.eq_2 after

/-- Blanks before a value make no difference. -/
theorem sweep_skipBlanks (brackets : List Bracket) (s : List Char) :
    sweep .before brackets (skipBlanks s) = sweep .before brackets s := by
  rw [sweep_before, sweep_before, skipBlanks_skipBlanks]

/-- What opens a bracket is its opening character. -/
theorem opening_of_opening? {c : Char} {bracket : Bracket} (opens : opening? c = some bracket) :
    c = bracket.opening := by
  unfold opening? at opens
  split at opens
  · next open_ =>
    cases opens
    exact open_
  · split at opens
    · next open_ =>
      cases opens
      exact open_
    · cases opens

section Brackets

variable {bracket : Bracket} {s t after : List Char}

/-- **A bracket is opened**, if it is not closed at once. -/
theorem skipValue_of_open {c : Char} {t' : List Char} (begins : skipBlanks s = bracket.opening :: t)
    (filled : skipBlanks t = c :: t') (other : c ≠ bracket.closing) :
    skipValue s = skipBefore bracket t >>= sweep .before [bracket] := by
  show sweep .before [] s = _
  rw [← sweep_skipBlanks, begins]
  exact sweep_open filled other

/-- A bracket that closes at once is passed over. -/
theorem skipValue_of_closed (begins : skipBlanks s = bracket.opening :: t)
    (closes : skipBlanks t = bracket.closing :: after) : skipValue s = .ok after := by
  show sweep .before [] s = _
  rw [← sweep_skipBlanks, begins, sweep_before, skipBlanks_cons (isBlank_opening bracket)]
  dsimp only
  rw [opening?_opening]
  dsimp only
  rw [closes]
  dsimp only
  rw [if_pos rfl]
  exact sweep.eq_2 after

/-- Behind a value, a bracket may go on with another. -/
theorem sweep_comma_of {brackets : List Bracket} (begins : skipBlanks s = ',' :: t) :
    sweep .after (bracket :: brackets) s =
      skipBefore bracket t >>= sweep .before (bracket :: brackets) := by
  rw [sweep_after, begins]
  rfl

end Brackets

/-! ### Codecs -/

/-- What a reader that goes by the first character reads. -/
theorem exists_of_readFirst {α : Type} {read : Char → Reader α} {s : List Char} {found : α × List Char}
    (known : readFirst read s = .ok found) : ∃ c t, skipBlanks s = c :: t ∧ read c t = .ok found := by
  unfold readFirst at known
  split at known
  · cases known
  · next begins => exact ⟨_, _, begins, known⟩

theorem skipLetters_of_afterLetters {α : Type} {letters s after : List Char} {value value' : α}
    (found : afterLetters letters value s = .ok (value', after)) : skipLetters letters s = .ok after := by
  obtain ⟨after', skipped, found⟩ := exists_ok_of_bind found
  cases found
  exact skipped

namespace Codec

variable {α : Type}

/-- **A value that is read ends where it ends if it is passed over.** -/
def EndsAlike (codec : Codec α) : Prop :=
  ∀ ⦃s value after⦄, codec.read s = .ok (value, after) → skipValue s = .ok after

/-- An integer that is read is passed over. -/
theorem skipValue_of_readInteger {wanted : String} {least greatest value : Int} {s after : List Char}
    (found : readInteger wanted least greatest s = .ok (value, after)) : skipValue s = .ok after := by
  rw [readInteger_eq] at found
  obtain ⟨c, t, begins, found⟩ := exists_of_readFirst found
  split at found
  · next digit =>
    obtain ⟨⟨n, after'⟩, read, found⟩ := exists_ok_of_bind found
    obtain ⟨value', -, found⟩ := exists_ok_of_bind found
    cases found
    obtain ⟨noQuote, noBracket⟩ := noOther_of_begins digit
    simp only [List.mem_cons, List.not_mem_nil, or_false, not_or] at noBracket
    refine skipValue_of_skipScalar begins ?_ ?_
    · rw [opening?, if_neg noBracket.1, if_neg noBracket.2.2.1]
    · rw [skipScalar, if_neg noQuote, if_pos digit, Numeral.read_of_read .invalidNumber read]
      rfl
  · cases found

theorem endsAlike_word : word.EndsAlike := by
  intro s value after found
  obtain ⟨⟨value', after'⟩, read, found⟩ := exists_ok_of_bind found
  cases found
  exact skipValue_of_readInteger read

theorem endsAlike_longWord : longWord.EndsAlike := by
  intro s value after found
  obtain ⟨⟨value', after'⟩, read, found⟩ := exists_ok_of_bind found
  cases found
  exact skipValue_of_readInteger read

theorem endsAlike_integer : integer.EndsAlike := by
  intro s value after found
  obtain ⟨⟨value', after'⟩, read, found⟩ := exists_ok_of_bind found
  cases found
  exact skipValue_of_readInteger read

/-- The word for nothing is passed over. -/
theorem skipValue_of_null {s t after : List Char} (begins : skipBlanks s = 'n' :: t)
    (skipped : skipLetters nullTail t = .ok after) : skipValue s = .ok after :=
  skipValue_of_skipScalar begins rfl skipped

theorem endsAlike_truth : truth.EndsAlike := by
  intro s value after found
  obtain ⟨c, t, begins, found⟩ := exists_of_readFirst found
  split at found
  · next letter =>
    subst letter
    exact skipValue_of_skipScalar begins rfl (skipLetters_of_afterLetters found)
  · split at found
    · next letter =>
      subst letter
      exact skipValue_of_skipScalar begins rfl (skipLetters_of_afterLetters found)
    · cases found

theorem endsAlike_text : text.EndsAlike := by
  intro s value after found
  obtain ⟨c, t, begins, found⟩ := exists_of_readFirst found
  split at found
  · next quote =>
    subst quote
    exact skipValue_of_skipScalar begins rfl (skipString_of_readString found)
  · cases found

theorem endsAlike_orNull {codec : Codec α} (alike : codec.EndsAlike) : (orNull codec).EndsAlike := by
  intro s value after found
  rw [orNull_read] at found
  split at found
  · next null =>
    obtain ⟨t, begins⟩ := List.head?_eq_some_iff.mp null
    rw [begins] at found
    exact skipValue_of_null begins (skipLetters_of_afterLetters found)
  · obtain ⟨⟨value', after'⟩, read, found⟩ := exists_ok_of_bind found
    cases found
    exact alike read

/-- A name that is read is passed over. -/
theorem skipString_of_readName {all : List α} {name : α → String} {s after : List Char} {value : α}
    (found : readName all name s = .ok (value, after)) : skipString s = .ok after := by
  obtain ⟨⟨given, after'⟩, read, found⟩ := exists_ok_of_bind found
  obtain ⟨value', -, found⟩ := exists_ok_of_bind found
  cases found
  exact skipString_of_readString read

/-- The word for nothing that is read is passed over. -/
theorem skipValue_of_readNothing {s after : List Char} (found : readNothing s = .ok ((), after)) :
    skipValue s = .ok after := by
  obtain ⟨c, t, begins, found⟩ := exists_of_readFirst found
  split at found
  · next letter =>
    subst letter
    exact skipValue_of_null begins (skipLetters_of_afterLetters found)
  · cases found

/-- A key is passed over with its colon. -/
theorem skipKey_of_parts {s t t' after : List Char} (begins : skipBlanks s = '"' :: t)
    (key : skipString t = .ok t') (colon : skipColon t' = .ok after) : skipKey s = .ok after := by
  rw [skipKey, begins]
  show (skipString t >>= skipColon) = _
  rw [key]
  exact colon

section Variants

variable {all : List α} {name : α → String}

/-- **What an object with a name for its one key is made of**, from behind its brace on. -/
theorem parts_of_readTagged {s after : List Char} {value : α}
    (found : readTagged all name s = .ok (value, after)) :
    ∃ t t₁ t₂ t₃, skipBlanks s = '"' :: t ∧ readName all name t = .ok (value, t₁) ∧
      skipColon t₁ = .ok t₂ ∧ readNothing t₂ = .ok ((), t₃) ∧ skipBlanks t₃ = '\x7d' :: after := by
  obtain ⟨c, t, begins, found⟩ := exists_of_readFirst found
  split at found
  · next quote =>
    obtain ⟨⟨value', t₁⟩, key, found⟩ := exists_ok_of_bind found
    obtain ⟨t₂, colon, found⟩ := exists_ok_of_bind found
    obtain ⟨⟨_, t₃⟩, null, found⟩ := exists_ok_of_bind found
    dsimp only at found
    split at found
    · cases found
    · next c' t' ends =>
      split at found
      · next closes =>
        obtain ⟨rfl, rfl⟩ := Prod.mk.inj (Except.ok.inj found)
        exact ⟨t, t₁, t₂, t₃, quote ▸ begins, key, colon, null, closes ▸ ends⟩
      · cases found
  · split at found <;> cases found

/-- An object with a name for its one key that is read is passed over. -/
theorem skipValue_of_readTagged {s t after : List Char} {value : α}
    (opens : skipBlanks s = Bracket.object.opening :: t)
    (found : readTagged all name t = .ok (value, after)) : skipValue s = .ok after := by
  obtain ⟨t', t₁, t₂, t₃, begins, key, colon, null, ends⟩ := parts_of_readTagged found
  rw [skipValue_of_open opens begins (by decide)]
  show (skipKey t >>= _) = _
  rw [skipKey_of_parts begins (skipString_of_readName key) colon]
  show sweep .before [.object] t₂ = _
  rw [sweep_of_skipValue (skipValue_of_readNothing null)]
  exact (sweep_closing ends).trans (sweep.eq_2 _)

theorem endsAlike_variant (all : List α) (name : α → String) : (variant all name).EndsAlike := by
  intro s value after found
  obtain ⟨c, t, begins, found⟩ := exists_of_readFirst found
  split at found
  · next quote =>
    subst quote
    exact skipValue_of_skipScalar begins rfl (skipString_of_readName found)
  · split at found
    · next brace =>
      subst brace
      exact skipValue_of_readTagged begins found
    · cases found

end Variants

end Codec

/-! ### Records -/

namespace Schema

variable {ρ : Type} {schema : Schema ρ}

/-- What is read into a field is passed over. -/
theorem skipValue_of_readInto {field : Field ρ} (alike : field.codec.EndsAlike) {r r' : ρ}
    {s after : List Char} (found : field.readInto r s = .ok (r', after)) : skipValue s = .ok after := by
  obtain ⟨⟨value, after'⟩, read, found⟩ := exists_ok_of_bind found
  cases found
  exact alike read

/-- The end of a list is where it closes. -/
theorem closes_of_readEnd {s after : List Char} (found : readEnd s = .ok after) :
    skipBlanks s = Bracket.list.closing :: after := by
  unfold readEnd at found
  split at found
  · cases found
  · next begins =>
    split at found
    · next closes =>
      cases found
      rw [begins, closes]
      rfl
    · split at found <;> cases found

section Lists

variable {fields : List (Field ρ)} {r r' : ρ} {s t v after : List Char}

/-- An element behind another is where the sweep goes on. -/
theorem sweep_of_findElement (goes : findElement false s = .ok (true, v)) :
    sweep .after [.list] s = sweep .before [.list] v := by
  obtain ⟨u, c, t, comma, filled, -, rfl⟩ := exists_of_findElement goes
  rw [sweep_comma_of comma, ← filled, sweep_skipBlanks]
  rfl

/-- The first element is where the sweep goes on behind the bracket. -/
theorem skipValue_of_findElement (begins : skipBlanks s = Bracket.list.opening :: t)
    (goes : findElement true t = .ok (true, v)) : skipValue s = sweep .before [.list] v := by
  obtain ⟨u, c, t', here, filled, other, rfl⟩ := exists_of_findElement goes
  have filled' : skipBlanks t = c :: t' := by
    rw [← skipBlanks_skipBlanks, here]
    exact filled
  rw [skipValue_of_open begins filled' other, ← filled', sweep_skipBlanks]
  rfl

/-- **The further elements of a list are swept over.** -/
theorem sweep_of_readElements (alike : ∀ field ∈ fields, field.codec.EndsAlike)
    (found : readElements fields false r s = .ok (r', after)) :
    sweep .after [.list] s = .ok after := by
  induction fields generalizing r s with
  | nil =>
      obtain ⟨after', ended, found⟩ := exists_ok_of_bind found
      cases found
      exact (sweep_closing (closes_of_readEnd ended)).trans (sweep.eq_2 after)
  | cons field fields ih =>
      rw [readElements_cons] at found
      obtain ⟨⟨more?, v⟩, goes, found⟩ := exists_ok_of_bind found
      cases more? with
      | false =>
          cases found
          exact (sweep_closing (closes_of_findElement goes)).trans (sweep.eq_2 after)
      | true =>
          obtain ⟨⟨r₁, s₁⟩, read, later⟩ := exists_ok_of_bind found
          have skipped := skipValue_of_readInto (alike field List.mem_cons_self) read
          rw [sweep_of_findElement goes, sweep_of_skipValue skipped]
          exact ih (fun other listed => alike other (List.mem_cons_of_mem _ listed)) later

/-- **The elements of a list are passed over** with its brackets. -/
theorem skipValue_of_readElements (alike : ∀ field ∈ fields, field.codec.EndsAlike)
    (begins : skipBlanks s = Bracket.list.opening :: t)
    (found : readElements fields true r t = .ok (r', after)) : skipValue s = .ok after := by
  cases fields with
  | nil =>
      obtain ⟨after', ended, found⟩ := exists_ok_of_bind found
      cases found
      exact skipValue_of_closed begins (closes_of_readEnd ended)
  | cons field fields =>
      rw [readElements_cons] at found
      obtain ⟨⟨more?, v⟩, goes, found⟩ := exists_ok_of_bind found
      cases more? with
      | false =>
          cases found
          exact skipValue_of_closed begins (closes_of_findElement goes)
      | true =>
          obtain ⟨⟨r₁, s₁⟩, read, later⟩ := exists_ok_of_bind found
          have skipped := skipValue_of_readInto (alike field List.mem_cons_self) read
          rw [skipValue_of_findElement begins goes, sweep_of_skipValue skipped]
          exact sweep_of_readElements
            (fun other listed => alike other (List.mem_cons_of_mem _ listed)) later

end Lists

/-- What is read behind a key is passed over, whether there is a field of its name or not. -/
theorem parts_of_readMember (alike : ∀ field ∈ schema.fields, field.codec.EndsAlike)
    {seen seen' : List String} {name : String} {r r' : ρ} {s after : List Char}
    (found : schema.readMember seen name r s = .ok ((seen', r'), after)) :
    ∃ s', skipColon s = .ok s' ∧ skipValue s' = .ok after := by
  obtain ⟨s', colon, ⟨-, skipped, -⟩ | ⟨field, value, known, -, read, -⟩⟩ := exists_of_readMember found
  · exact ⟨s', colon, skipped⟩
  · exact ⟨s', colon, alike field (mem_of_find? known).1 read⟩

section Objects

variable {turns : Nat} {seen : List String} {name : String} {r r' : ρ} {s s' t v after : List Char}

/-- A member behind another is where the sweep goes on, behind its colon. -/
theorem sweep_of_readKey (key : readKey false s = .ok (some name, s')) (colon : skipColon s' = .ok v) :
    sweep .after [.object] s = sweep .before [.object] v := by
  obtain ⟨u, t, comma, quote, read⟩ := exists_of_readKey key
  rw [sweep_comma_of comma]
  show (skipKey u >>= _) = _
  rw [Codec.skipKey_of_parts quote (skipString_of_readString read) colon]
  rfl

/-- The first member is where the sweep goes on behind the brace and the colon. -/
theorem skipValue_of_readKey (begins : skipBlanks s = Bracket.object.opening :: t)
    (key : readKey true t = .ok (some name, s')) (colon : skipColon s' = .ok v) :
    skipValue s = sweep .before [.object] v := by
  obtain ⟨u, t', here, quote, read⟩ := exists_of_readKey key
  have quote' : skipBlanks t = '"' :: t' := by
    rw [← skipBlanks_skipBlanks, here]
    exact quote
  rw [skipValue_of_open begins quote' (by decide)]
  show (skipKey t >>= _) = _
  rw [Codec.skipKey_of_parts quote' (skipString_of_readString read) colon]
  rfl

/-- **The further members of an object are swept over.** -/
theorem sweep_of_readMembers (alike : ∀ field ∈ schema.fields, field.codec.EndsAlike)
    (found : schema.readMembers turns false seen r s = .ok (r', after)) :
    sweep .after [.object] s = .ok after := by
  induction turns generalizing seen r s with
  | zero => cases found
  | succ turns ih =>
      rw [readMembers_succ] at found
      obtain ⟨⟨name?, s'⟩, key, found⟩ := exists_ok_of_bind found
      cases name? with
      | none =>
          cases found
          exact (sweep_closing (closes_of_readKey key)).trans (sweep.eq_2 after)
      | some name =>
          obtain ⟨⟨⟨seen', r₁⟩, s₁⟩, read, later⟩ := exists_ok_of_bind found
          obtain ⟨v, colon, skipped⟩ := parts_of_readMember alike read
          rw [sweep_of_readKey key colon, sweep_of_skipValue skipped]
          exact ih later

/-- **The members of an object are passed over** with its braces. -/
theorem skipValue_of_readMembers (alike : ∀ field ∈ schema.fields, field.codec.EndsAlike)
    (begins : skipBlanks s = Bracket.object.opening :: t)
    (found : schema.readMembers turns true seen r t = .ok (r', after)) : skipValue s = .ok after := by
  cases turns with
  | zero => cases found
  | succ turns =>
      rw [readMembers_succ] at found
      obtain ⟨⟨name?, s'⟩, key, found⟩ := exists_ok_of_bind found
      cases name? with
      | none =>
          cases found
          exact skipValue_of_closed begins (closes_of_readKey key)
      | some name =>
          obtain ⟨⟨⟨seen', r₁⟩, s₁⟩, read, later⟩ := exists_ok_of_bind found
          obtain ⟨v, colon, skipped⟩ := parts_of_readMember alike read
          rw [skipValue_of_readKey begins key colon, sweep_of_skipValue skipped]
          exact sweep_of_readMembers alike later

end Objects

/-- **A record that is read is passed over**, in either form. -/
theorem endsAlike (alike : ∀ field ∈ schema.fields, field.codec.EndsAlike) :
    schema.codec.EndsAlike := by
  intro s r after found
  obtain ⟨c, t, begins, found⟩ := exists_of_readFirst found
  cases opens : opening? c with
  | none =>
      rw [opens] at found
      cases found
  | some bracket =>
      rw [opens] at found
      obtain rfl := opening_of_opening? opens
      cases bracket with
      | list => exact skipValue_of_readElements alike begins found
      | object => exact skipValue_of_readMembers alike begins found

end Schema

end Scanout.Json
