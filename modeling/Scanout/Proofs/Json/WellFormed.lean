import Scanout.Proofs.Json.EndsAlike

/-!
# What is passed over is a value

A sweep never looks back: it keeps the brackets that are open and nothing else of the text behind it.
All the same, whatever it goes through is a value of the grammar.  At every moment the text that is left
has to close the open brackets, the innermost first, and the items that are still to come make up items
of the grammar together with those that have gone by.

## Main definitions

* `Json.Introduces` — what stands before the value of an item
* `Json.Continues` — what stands behind the value of an item, up to the end of its bracket
* `Json.Closes` — a text that closes the brackets that are open
* `Json.WellFormed` — a list or an object, alone in its text

## Main results

* `Json.exists_closes` — what a sweep goes through
* `Json.derives_of_skipValue` — what is passed over is a value of the grammar
* `Json.isWellFormed_iff` — being well formed can be decided
* `Json.Schema.wellFormed_of_parse` — a text that is read as a record is well formed

## Design notes

The grammar says nothing about where a value ends, so nothing here needs to know what stands behind it.
That a value of the grammar is passed over as a whole is the converse (`Json.skipValue_append`); there
the end matters, as a numeral goes on for as long as it can.
-/

namespace Scanout.Json

/-! ### Blanks and words -/

/-- What is passed over before a token is blank. -/
theorem exists_blanks (s : List Char) : ∃ lead, Blanks lead ∧ s = lead ++ skipBlanks s := by
  refine ⟨s.takeWhile isBlank, fun c among => ?_, (List.takeWhile_append_dropWhile).symm⟩
  exact List.mem_takeWhile_imp among

/-- Letters that are read stand in the text. -/
theorem eq_of_skipLetters {letters s after : List Char} (skipped : skipLetters letters s = .ok after) :
    s = letters ++ after := by
  induction letters generalizing s with
  | nil =>
      cases skipped
      rfl
  | cons letter letters ih =>
      cases s with
      | nil => cases skipped
      | cons c t =>
          rw [skipLetters] at skipped
          split at skipped
          · next same =>
            rw [same, ih skipped]
            rfl
          · cases skipped

/-! ### Numerals -/

namespace Numeral

variable {broken : Fault} {s after : List Char}

/-- Digits that are read are digits. -/
theorem isDigits_of_readDigits {digits : List Char} (found : readDigits broken s = .ok (digits, after)) :
    IsDigits digits ∧ s = digits ++ after := by
  obtain ⟨c, t, rfl, digit, rfl, rfl⟩ := exists_of_readDigits found
  refine ⟨⟨nofun, fun d among => ?_⟩, ?_⟩
  · rcases List.mem_cons.mp among with rfl | among
    · exact digit
    · exact List.mem_takeWhile_imp among
  · rw [List.cons_append, List.takeWhile_append_dropWhile]

/-- Digits before the point that are read have no zero in front. -/
theorem isWhole_of_readWhole {digits : List Char} (found : readWhole broken s = .ok (digits, after)) :
    IsWhole digits ∧ s = digits ++ after := by
  obtain ⟨read, sound⟩ := exists_of_readWhole found
  obtain ⟨are, split⟩ := isDigits_of_readDigits read
  refine ⟨⟨are, fun zero => ?_⟩, split⟩
  cases digits with
  | nil => cases zero
  | cons first others =>
      obtain rfl : first = '0' := Option.some.inj zero
      cases others with
      | nil => rfl
      | cons second others => simp at sound

theorem isFraction_of_readFraction {digits : List Char}
    (found : readFraction broken s = .ok (digits, after)) :
    ∃ fraction, IsFraction fraction ∧ s = fraction ++ after := by
  cases s with
  | nil =>
      cases found
      exact ⟨[], .missing, rfl⟩
  | cons c t =>
      rw [readFraction] at found
      split at found
      · next point =>
        obtain ⟨are, split⟩ := isDigits_of_readDigits found
        exact ⟨'.' :: digits, .given are, by rw [point, split]; rfl⟩
      · cases found
        exact ⟨[], .missing, rfl⟩

/-- A sign that is read is a sign, if there is one. -/
theorem exists_of_readSign (s : List Char) :
    ∃ sign ∈ [[], ['+'], ['-']], s = sign ++ (readSign s).2 := by
  cases s with
  | nil => exact ⟨[], by simp, rfl⟩
  | cons c t =>
      rw [readSign]
      split
      · next minus => exact ⟨['-'], by simp, by rw [minus]; rfl⟩
      · split
        · next plus => exact ⟨['+'], by simp, by rw [plus]; rfl⟩
        · exact ⟨[], by simp, rfl⟩

theorem isExponent_of_readExponent {exponent : Option (Bool × List Char)}
    (found : readExponent broken s = .ok (exponent, after)) :
    ∃ written, IsExponent written ∧ s = written ++ after := by
  cases s with
  | nil =>
      cases found
      exact ⟨[], .missing, rfl⟩
  | cons c t =>
      rw [readExponent] at found
      split at found
      · next mark =>
        obtain ⟨⟨digits, after'⟩, read, found⟩ := exists_ok_of_bind found
        cases found
        obtain ⟨are, split⟩ := isDigits_of_readDigits read
        obtain ⟨sign, listed, signed⟩ := exists_of_readSign t
        have marks : c ∈ ['e', 'E'] := by simpa using mark
        refine ⟨c :: (sign ++ digits), .given marks listed are, ?_⟩
        rw [List.cons_append, List.append_assoc, ← split, ← signed]
      · cases found
        exact ⟨[], .missing, rfl⟩

/-- A minus that is read is a minus, if there is one. -/
theorem exists_of_readMinus (s : List Char) :
    ∃ minus ∈ [[], ['-']], s = minus ++ (readMinus s).2 := by
  cases s with
  | nil => exact ⟨[], by simp, rfl⟩
  | cons c t =>
      rw [readMinus]
      split
      · next minus => exact ⟨['-'], by simp, by rw [minus]; rfl⟩
      · exact ⟨[], by simp, rfl⟩

/-- **A numeral that is read is a numeral of the grammar.** -/
theorem isNumeral_of_read {n : Numeral} (found : read broken s = .ok (n, after)) :
    ∃ written, IsNumeral written ∧ s = written ++ after := by
  obtain ⟨r₁, r₂, -, whole, fraction, exponent⟩ := exists_of_read found
  obtain ⟨minus, signs, signed⟩ := exists_of_readMinus s
  obtain ⟨isWhole, first⟩ := isWhole_of_readWhole whole
  obtain ⟨second, isFraction, rest⟩ := isFraction_of_readFraction fraction
  obtain ⟨third, isExponent, last⟩ := isExponent_of_readExponent exponent
  refine ⟨_, .parts signs isWhole isFraction isExponent, ?_⟩
  calc s = minus ++ (n.whole ++ (second ++ (third ++ after))) := by
          rw [← last, ← rest, ← first, ← signed]
    _ = minus ++ (n.whole ++ (second ++ third)) ++ after := by
          simp only [List.append_assoc]

end Numeral

/-! ### Strings -/

/-- The letters of the reader are those of the grammar. -/
theorem mem_shortEscapes {letter c : Char} (known : shortEscape? letter = some c) :
    (letter, c) ∈ shortEscapes := by
  unfold shortEscape? at known
  split_ifs at known with h <;> cases known <;> simp_all [shortEscapes]

/-- **An escape that is passed over is one of the grammar.** -/
theorem isCharacter_of_skipEscape {s after : List Char} (skipped : skipEscape s = .ok after) :
    ∃ part, IsCharacter ('\\' :: part) ∧ s = part ++ after := by
  cases s with
  | nil => cases skipped
  | cons letter t =>
      rw [skipEscape] at skipped
      split at skipped
      · next unit =>
        obtain ⟨⟨n, after'⟩, read, skipped⟩ := exists_ok_of_bind skipped
        cases skipped
        obtain ⟨a, b, c, d, rfl, value⟩ := exists_of_readUnit read
        rw [unit]
        exact ⟨['u', a, b, c, d], .unit rfl value, rfl⟩
      · split at skipped
        · next known =>
          cases skipped
          exact ⟨[letter], .short (mem_shortEscapes known), rfl⟩
        · cases skipped

/-- **A string that is passed over is one of the grammar**, from behind its opening quote on. -/
theorem areCharacters_of_skipString {s after : List Char} (skipped : skipString s = .ok after) :
    ∃ text, AreCharacters text ∧ s = text ++ '"' :: after := by
  fun_induction skipString s with
  | case1 => cases skipped
  | case2 rest =>
      cases skipped
      exact ⟨[], .nil, rfl⟩
  | case3 => cases skipped
  | case4 rest behind escape _ _ ih =>
      obtain ⟨part, isPart, first⟩ := isCharacter_of_skipEscape escape
      obtain ⟨text, are, later⟩ := ih skipped
      refine ⟨'\\' :: part ++ text, .cons isPart are, ?_⟩
      rw [first, later, List.cons_append, List.cons_append, List.append_assoc]
  | case5 => cases skipped
  | case6 c rest noQuote noEscape noControl ih =>
      obtain ⟨text, are, later⟩ := ih skipped
      have plain : isPlain c = true :=
        isPlain_iff.mpr ⟨noQuote, noEscape, Bool.eq_false_iff.mpr noControl⟩
      exact ⟨[c] ++ text, .cons (.plain plain) are, by rw [later]; rfl⟩

/-! ### Values without brackets -/

/-- **A value without brackets that is passed over is one of the grammar.** -/
theorem derives_of_skipScalar {c : Char} {t after : List Char} (skipped : skipScalar c t = .ok after) :
    ∃ value, Derives .value value ∧ c :: t = value ++ after := by
  unfold skipScalar at skipped
  split at skipped
  · next quote =>
    obtain ⟨text, are, split⟩ := areCharacters_of_skipString skipped
    refine ⟨'"' :: (text ++ ['"']), .string (.quoted are), ?_⟩
    rw [quote, split, List.cons_append, List.append_assoc]
    rfl
  · split at skipped
    · obtain ⟨⟨n, after'⟩, read, skipped⟩ := exists_ok_of_bind skipped
      cases skipped
      obtain ⟨written, is, split⟩ := Numeral.isNumeral_of_read read
      exact ⟨written, .numeral is, split⟩
    · -- the three words are told apart by their first letters
      split at skipped
      · next letter =>
        exact ⟨'n' :: nullTail, .word (by simp), by rw [letter, eq_of_skipLetters skipped]; rfl⟩
      · split at skipped
        · next letter =>
          exact ⟨'t' :: trueTail, .word (by simp), by rw [letter, eq_of_skipLetters skipped]; rfl⟩
        · split at skipped
          · next letter =>
            exact ⟨'f' :: falseTail, .word (by simp),
              by rw [letter, eq_of_skipLetters skipped]; rfl⟩
          · cases skipped

/-! ### Items -/

/-- **What stands before the value of an item**: nothing but blanks in a list, a key with its colon in an
object. -/
inductive Introduces : Bracket → List Char → Prop
  | element {lead : List Char} : Blanks lead → Introduces .list lead
  | member {before key between lead : List Char} : Blanks before → IsString key → Blanks between →
      Blanks lead → Introduces .object (before ++ (key ++ (between ++ ':' :: lead)))

/-- **What stands behind the value of an item**, up to the end of its bracket. -/
inductive Continues (bracket : Bracket) : List Char → Prop
  | last {after : List Char} : Blanks after → Continues bracket after
  | more {after others : List Char} : Blanks after → Derives (.items bracket) others →
      Continues bracket (after ++ ',' :: others)

section Items

variable {bracket : Bracket} {lead value : List Char}

/-- A value that is introduced is an item, with the blanks behind it. -/
theorem Introduces.item (introduces : Introduces bracket lead) (derives : Derives .value value)
    {after : List Char} (blanks : Blanks after) :
    Derives (.item bracket) (lead ++ (value ++ after)) := by
  cases introduces with
  | element blanks' => exact .element blanks' derives blanks
  | member blanks₁ is blanks₂ blanks₃ =>
      have member := Derives.member blanks₁ is blanks₂ (.element blanks₃ derives blanks)
      simpa only [List.append_assoc, List.cons_append] using member

/-- **An item goes on into the items of its bracket.** -/
theorem Introduces.items (introduces : Introduces bracket lead) (derives : Derives .value value)
    {rest : List Char} (continues : Continues bracket rest) :
    Derives (.items bracket) (lead ++ (value ++ rest)) := by
  cases continues with
  | last blanks => exact .last (introduces.item derives blanks)
  | more blanks others =>
      have items := Derives.more (introduces.item derives blanks) others
      simpa only [List.append_assoc] using items

/-- More blanks may stand before an item. -/
theorem Introduces.prepend (introduces : Introduces bracket lead) {blanks : List Char}
    (are : Blanks blanks) : Introduces bracket (blanks ++ lead) := by
  cases introduces with
  | element blanks' => exact .element (blanks_append are blanks')
  | member blanks₁ is blanks₂ blanks₃ =>
      rw [← List.append_assoc]
      exact .member (blanks_append are blanks₁) is blanks₂ blanks₃

/-- More blanks may stand before the value of an item. -/
theorem Introduces.append (introduces : Introduces bracket lead) {blanks : List Char}
    (are : Blanks blanks) : Introduces bracket (lead ++ blanks) := by
  cases introduces with
  | element blanks' => exact .element (blanks_append blanks' are)
  | member blanks₁ is blanks₂ blanks₃ =>
      have member := Introduces.member blanks₁ is blanks₂ (blanks_append blanks₃ are)
      simpa only [List.append_assoc, List.cons_append] using member

end Items

/-- A colon that is passed over stands behind blanks. -/
theorem exists_of_skipColon {s after : List Char} (skipped : skipColon s = .ok after) :
    ∃ between, Blanks between ∧ s = between ++ ':' :: after := by
  obtain ⟨between, blanks, split⟩ := exists_blanks s
  unfold skipColon at skipped
  cases begins : skipBlanks s with
  | nil =>
      rw [begins] at skipped
      cases skipped
  | cons c t =>
      rw [begins] at skipped split
      dsimp only at skipped
      split at skipped
      · next colon =>
        cases skipped
        exact ⟨between, blanks, by rw [split, colon]⟩
      · cases skipped

/-- **What is passed over before a value introduces it.** -/
theorem introduces_of_skipBefore {bracket : Bracket} {s after : List Char}
    (skipped : skipBefore bracket s = .ok after) :
    ∃ lead, Introduces bracket lead ∧ s = lead ++ after := by
  cases bracket with
  | list =>
      cases skipped
      exact ⟨[], .element blanks_nil, rfl⟩
  | object =>
      obtain ⟨before, blanks, split⟩ := exists_blanks s
      change skipKey s = .ok after at skipped
      unfold skipKey at skipped
      cases begins : skipBlanks s with
      | nil =>
          rw [begins] at skipped
          cases skipped
      | cons c t =>
          rw [begins] at skipped split
          dsimp only at skipped
          split at skipped
          · next quote =>
            obtain ⟨t', key, colon⟩ := exists_ok_of_bind skipped
            obtain ⟨text, are, keyed⟩ := areCharacters_of_skipString key
            obtain ⟨between, blanks', parted⟩ := exists_of_skipColon colon
            refine ⟨_, .member blanks (.quoted are) blanks' blanks_nil, ?_⟩
            rw [split, quote, keyed, parted]
            simp only [List.append_assoc, List.cons_append, List.nil_append]
          · cases skipped

/-! ### The sweep -/

/-- **A text that closes the brackets that are open**, the innermost first, from behind the value of an
item on. -/
inductive Closes : List Bracket → List Char → Prop
  | done : Closes [] []
  | close {bracket : Bracket} {brackets : List Bracket} {rest outer : List Char} :
      Continues bracket rest → Closes brackets outer →
      Closes (bracket :: brackets) (rest ++ bracket.closing :: outer)

/-- Blanks may stand in front of what closes a bracket. -/
theorem Closes.blanks {bracket : Bracket} {brackets : List Bracket} {lead s : List Char}
    (blanks : Blanks lead) (closes : Closes (bracket :: brackets) s) :
    Closes (bracket :: brackets) (lead ++ s) := by
  cases closes with
  | close continues outer =>
      rw [← List.append_assoc]
      refine .close ?_ outer
      cases continues with
      | last blanks' => exact .last (blanks_append blanks blanks')
      | more blanks' others =>
          rw [← List.append_assoc]
          exact .more (blanks_append blanks blanks') others

/-- What a sweep goes through, where it stands at a place of the text. -/
def GoesThrough (place : Place) (brackets : List Bracket) (s after : List Char) : Prop :=
  match place with
  | .before => ∃ value rest, Derives .value value ∧ Closes brackets rest ∧
      skipBlanks s = value ++ (rest ++ after)
  | .after => ∃ rest, Closes brackets rest ∧ s = rest ++ after

/-- A value in a bracket that has been opened makes up the bracket with what goes on behind it. -/
theorem GoesThrough.opened {bracket : Bracket} {brackets : List Bracket} {t after : List Char}
    (through : GoesThrough .before (bracket :: brackets) t after) {lead : List Char}
    (introduces : Introduces bracket lead) :
    ∃ value rest, Derives .value value ∧ Closes brackets rest ∧
      bracket.opening :: (lead ++ t) = value ++ (rest ++ after) := by
  obtain ⟨value, rest, derives, closes, split⟩ := through
  obtain ⟨blank, blanks, whole⟩ := exists_blanks t
  cases closes with
  | @close _ _ rest outer continues closes =>
      have items := (introduces.append blanks).items derives continues
      refine ⟨_, outer, .filled items, closes, ?_⟩
      rw [whole, split]
      simp only [List.append_assoc, List.cons_append, List.nil_append]

/-- A value behind a comma goes on with what closes its bracket. -/
theorem GoesThrough.continued {bracket : Bracket} {brackets : List Bracket} {t after : List Char}
    (through : GoesThrough .before (bracket :: brackets) t after) {lead : List Char}
    (introduces : Introduces bracket lead) :
    ∃ rest, Closes (bracket :: brackets) rest ∧ ',' :: (lead ++ t) = rest ++ after := by
  obtain ⟨value, rest, derives, closes, split⟩ := through
  obtain ⟨blank, blanks, whole⟩ := exists_blanks t
  cases closes with
  | @close _ _ rest outer continues closes =>
      have items := (introduces.append blanks).items derives continues
      refine ⟨_, .close (.more blanks_nil items) closes, ?_⟩
      rw [whole, split]
      simp only [List.append_assoc, List.cons_append, List.nil_append]

/-- **What a sweep goes through**: a value, if one comes next, and what closes the open brackets. -/
theorem exists_closes {place : Place} {brackets : List Bracket} {s after : List Char}
    (swept : sweep place brackets s = .ok after) : GoesThrough place brackets s after := by
  -- the induction goes by the turns of the sweep, of which each leaves a shorter text to the next one
  fun_induction sweep place brackets s with
  | case1 | case2 | case4 | case6 | case9 | case10 | case13 => cases swept
  | case3 s brackets c t begins _ bracket opens inner closed _ ih =>
      obtain rfl := opening_of_opening? opens
      obtain ⟨outer, closes, split⟩ := ih swept
      obtain ⟨blank, blanks, whole⟩ := exists_blanks t
      rw [closed, split] at whole
      have value : Derives .value (bracket.opening :: (blank ++ [bracket.closing])) := .empty blanks
      refine ⟨_, outer, value, closes, ?_⟩
      rw [begins, whole]
      simp only [List.append_assoc, List.cons_append, List.nil_append]
  | case5 s brackets c t begins _ bracket opens c' inner filled _ _ t' skipped _ ih =>
      obtain rfl := opening_of_opening? opens
      obtain ⟨lead, introduces, split⟩ := introduces_of_skipBefore skipped
      obtain ⟨blank, blanks, whole⟩ := exists_blanks t
      rw [filled, split, ← List.append_assoc] at whole
      obtain ⟨value, rest, derives, closes, text⟩ := (ih swept).opened (introduces.prepend blanks)
      exact ⟨value, rest, derives, closes, by rw [begins, whole, text]⟩
  | case7 s brackets c t begins _ _ t' skipped _ ih =>
      obtain ⟨rest, closes, split⟩ := ih swept
      obtain ⟨value, derives, scalar⟩ := derives_of_skipScalar skipped
      exact ⟨value, rest, derives, closes, by rw [begins, scalar, split]⟩
  | case8 s =>
      cases swept
      exact ⟨[], .done, rfl⟩
  | case11 s bracket brackets t t' skipped _ begins _ ih =>
      obtain ⟨lead, introduces, split⟩ := introduces_of_skipBefore skipped
      obtain ⟨blank, blanks, whole⟩ := exists_blanks s
      obtain ⟨rest, closes, text⟩ := (ih swept).continued introduces
      refine ⟨blank ++ rest, closes.blanks blanks, ?_⟩
      rw [whole, begins, split, text, List.append_assoc]
  | case12 s bracket brackets t begins _ _ ih =>
      obtain ⟨outer, closes, split⟩ := ih swept
      obtain ⟨blank, blanks, whole⟩ := exists_blanks s
      refine ⟨_, .close (.last blanks) closes, ?_⟩
      rw [whole, begins, split, List.append_assoc]
      rfl

/-- **What is passed over is a value of the grammar**, with the blanks before it. -/
theorem derives_of_skipValue {s after : List Char} (skipped : skipValue s = .ok after) :
    ∃ value, Derives .value value ∧ skipBlanks s = value ++ after := by
  obtain ⟨value, rest, derives, closes, split⟩ := exists_closes skipped
  cases closes
  exact ⟨value, derives, split⟩

/-- Where a bracket opens, the value that is passed over is the bracket. -/
theorem derives_of_opening {bracket : Bracket} {s t after : List Char}
    (begins : skipBlanks s = bracket.opening :: t) (skipped : skipValue s = .ok after) :
    ∃ u, Derives .value (bracket.opening :: u) ∧ skipBlanks s = bracket.opening :: u ++ after := by
  obtain ⟨value, derives, split⟩ := derives_of_skipValue skipped
  cases value with
  | nil =>
      -- a value is not empty
      obtain ⟨before, c, t, empty, -⟩ := derives.exists_begin
      cases before <;> cases empty
  | cons first others =>
      obtain ⟨rfl, -⟩ := List.cons.inj (begins.symm.trans split)
      exact ⟨others, derives, split⟩

/-! ### Whole texts -/

/-- **A list or an object, alone in its text**: around it there are only blanks. -/
inductive WellFormed : List Char → Prop
  | enclosed {before s after : List Char} {bracket : Bracket} : Blanks before →
      Derives .value (bracket.opening :: s) → Blanks after →
      WellFormed (before ++ (bracket.opening :: s ++ after))

/-- Whether a text is a list or an object that can be passed over, and nothing else. -/
def isWellFormed (s : List Char) : Bool :=
  match skipValue s with
  | .ok after => ((skipBlanks s).head?.bind opening?).isSome && (skipBlanks after).isEmpty
  | .error _ => false

/-- A bracket that is passed over up to the blanks behind it is well formed. -/
theorem wellFormed_of_skipValue {bracket : Bracket} {s t after : List Char}
    (begins : skipBlanks s = bracket.opening :: t) (skipped : skipValue s = .ok after)
    (ends : (skipBlanks after).isEmpty = true) : WellFormed s := by
  obtain ⟨u, derives, split⟩ := derives_of_opening begins skipped
  obtain ⟨before, blanks, whole⟩ := exists_blanks s
  have blanks' : Blanks after := List.dropWhile_eq_nil_iff.mp (List.isEmpty_iff.mp ends)
  rw [whole, split]
  exact .enclosed blanks derives blanks'

/-- **The well-formed texts are those that can be passed over**, so being well formed can be decided. -/
theorem isWellFormed_iff {s : List Char} : isWellFormed s = true ↔ WellFormed s := by
  constructor
  · intro is
    unfold isWellFormed at is
    split at is
    · next after skipped =>
      obtain ⟨opens, ends⟩ := Bool.and_eq_true_iff.mp is
      obtain ⟨bracket, opens⟩ := Option.isSome_iff_exists.mp opens
      obtain ⟨c, first, opens⟩ := Option.bind_eq_some_iff.mp opens
      obtain ⟨t, begins⟩ := List.head?_eq_some_iff.mp first
      rw [opening_of_opening? opens] at begins
      exact wellFormed_of_skipValue begins skipped ends
    · cases is
  · rintro ⟨blanks, derives, blanks'⟩
    next before t after bracket =>
    have delimited : Delimited after := by
      have apart := delimited_nil.blanks blanks'
      rwa [List.append_nil] at apart
    have ends : skipBlanks after = [] := List.dropWhile_eq_nil_iff.mpr blanks'
    rw [isWellFormed, skipValue_append blanks derives delimited, skipBlanks_append blanks,
      List.cons_append, skipBlanks_cons (isBlank_opening bracket)]
    dsimp only [List.head?_cons, Option.bind_some]
    rw [opening?_opening, ends]
    rfl

instance (s : List Char) : Decidable (WellFormed s) := decidable_of_iff _ isWellFormed_iff

/-- A comma that nothing follows, a zero in front, a control character and an escape that strings do not
have, brackets that do not match, and something behind the value. -/
example : ∀ text ∈ ["[[1,]]", "[-01]", "[\"\t\"]", "[\"\\x\"]", "[\x7b]\x7d", "[] 1"],
    ¬WellFormed text.toList := by
  decide +kernel

namespace Schema

variable {ρ : Type} {schema : Schema ρ}

/-- **A text that is read as a record is well formed** as a whole. -/
theorem wellFormed_of_parse (alike : ∀ field ∈ schema.fields, field.codec.EndsAlike) {text : String}
    {r : ρ} (parsed : schema.codec.parse text = .ok r) : WellFormed text.toList := by
  obtain ⟨⟨r', after⟩, read, ended⟩ := exists_ok_of_bind parsed
  have skipped : skipValue text.toList = .ok after := endsAlike alike read
  obtain ⟨c, t, begins, known⟩ := exists_of_readFirst read
  change (if (skipBlanks after).isEmpty then _ else _) = _ at ended
  split at ended
  · next ends =>
    cases opens : opening? c with
    | none =>
        rw [opens] at known
        cases known
    | some bracket =>
        rw [opening_of_opening? opens] at begins
        exact wellFormed_of_skipValue begins skipped ends
  · cases ended

end Schema

end Scanout.Json
