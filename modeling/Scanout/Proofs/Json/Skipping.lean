import Mathlib.Data.List.DropRight
import Scanout.Proofs.Json.Lawful

/-!
# Values passed over

A value of the grammar is passed over as a whole, however deep it nests: the sweep goes through it and
ends just behind it, with the brackets open that were open before.  First come the single turns of the
sweep, then one induction on how the value is derived.

## Main results

* `Json.Derives.passedOver` — the sweep over a value, inside any brackets
* `Json.skipValue_append` — a value is passed over, blanks before it included
-/

namespace Scanout.Json

/-! ### Blanks -/

theorem blanks_append {before after : List Char} (blanks : Blanks before)
    (blanks' : Blanks after) : Blanks (before ++ after) := by
  intro c member
  rcases List.mem_append.mp member with member | member
  · exact blanks c member
  · exact blanks' c member

/-- **Blanks at the front are passed over.** -/
theorem skipBlanks_append {before : List Char} (blanks : Blanks before) (s : List Char) :
    skipBlanks (before ++ s) = skipBlanks s :=
  List.dropWhile_append_of_pos blanks

theorem skipBlanks_cons {c : Char} (solid : isBlank c = false) (s : List Char) :
    skipBlanks (c :: s) = c :: s :=
  List.dropWhile_cons_of_neg (by simp [solid])

/-- The first character behind the blanks stays where it is. -/
theorem skipBlanks_solid {before : List Char} (blanks : Blanks before) {c : Char}
    (solid : isBlank c = false) (s : List Char) : skipBlanks (before ++ c :: s) = c :: s := by
  rw [skipBlanks_append blanks, skipBlanks_cons solid]

/-- Blanks are passed over all at once. -/
theorem skipBlanks_skipBlanks (s : List Char) : skipBlanks (skipBlanks s) = skipBlanks s :=
  List.dropWhile_idempotent isBlank s

/-- No numeral goes on in a blank. -/
theorem goesOn_of_isBlank {c : Char} (blank : isBlank c = true) : goesOn c = false := by
  simp only [isBlank, Bool.or_eq_true, beq_iff_eq] at blank
  rcases blank with ((rfl | rfl) | rfl) | rfl <;> rfl

/-- Blanks in front of a delimited text make it no less so. -/
theorem Delimited.blanks {before s : List Char} (delimited : Delimited s) (blanks : Blanks before) :
    Delimited (before ++ s) := by
  cases before with
  | nil => exact delimited
  | cons c before => exact delimited_cons (goesOn_of_isBlank (blanks c List.mem_cons_self))

/-! ### Turns of the sweep -/

/-- **What the sweep does where a value comes next.** -/
theorem sweep_before (brackets : List Bracket) (s : List Char) :
    sweep .before brackets s =
      match skipBlanks s with
      | [] => .error .endInValue
      | c :: rest =>
          match opening? c with
          | some bracket =>
              match skipBlanks rest with
              | [] => .error bracket.broken
              | c :: inner =>
                  if c = bracket.closing then sweep .after brackets inner
                  else skipBefore bracket (c :: inner) >>= sweep .before (bracket :: brackets)
          | none => skipScalar c rest >>= sweep .after brackets := by
  conv => lhs; rw [sweep]
  split
  · next ends => rw [ends]
  · next c rest begins =>
    simp only [begins]
    cases opening? c with
    | none =>
        dsimp only
        split
        · next failed => rw [failed]; rfl
        · next skipped => rw [skipped]; rfl
    | some bracket =>
        dsimp only
        split
        · next ends => rw [ends]
        · next filled =>
          simp only [filled]
          split
          · rfl
          · split
            · next failed => rw [failed]; rfl
            · next skipped => rw [skipped]; rfl

/-- **What the sweep does behind a value** inside a bracket. -/
theorem sweep_after (bracket : Bracket) (brackets : List Bracket) (s : List Char) :
    sweep .after (bracket :: brackets) s =
      match skipBlanks s with
      | [] => .error bracket.broken
      | c :: rest =>
          if c = ',' then skipBefore bracket rest >>= sweep .before (bracket :: brackets)
          else if c = bracket.closing then sweep .after brackets rest
          else .error bracket.unseparated := by
  conv => lhs; rw [sweep]
  split
  · next ends => rw [ends]
  · next begins =>
    simp only [begins]
    split
    · split
      · next failed => rw [failed]; rfl
      · next skipped => rw [skipped]; rfl
    · rfl

/-- Blanks before a value make no difference. -/
theorem sweep_before_append {before : List Char} (blanks : Blanks before)
    (brackets : List Bracket) (s : List Char) :
    sweep .before brackets (before ++ s) = sweep .before brackets s := by
  rw [sweep_before, sweep_before, skipBlanks_append blanks]

/-- Blanks behind a value inside a bracket make no difference. -/
theorem sweep_after_append {after : List Char} (blanks : Blanks after) (bracket : Bracket)
    (brackets : List Bracket) (s : List Char) :
    sweep .after (bracket :: brackets) (after ++ s) = sweep .after (bracket :: brackets) s := by
  rw [sweep_after, sweep_after, skipBlanks_append blanks]

/-- Blanks before an item make no difference to what comes before its value. -/
theorem skipBefore_skipBlanks (bracket : Bracket) (brackets : List Bracket) (s : List Char) :
    (skipBefore bracket (skipBlanks s) >>= sweep .before brackets) =
      skipBefore bracket s >>= sweep .before brackets := by
  cases bracket with
  | list =>
      show sweep .before brackets (skipBlanks s) = sweep .before brackets s
      rw [sweep_before, sweep_before, skipBlanks_skipBlanks]
  | object =>
      show (skipKey (skipBlanks s) >>= _) = skipKey s >>= _
      rw [skipKey, skipKey, skipBlanks_skipBlanks]

section Turns

variable {brackets : List Bracket} {bracket : Bracket} {s t rest : List Char} {c : Char}

/-- A value without brackets is passed over at once. -/
theorem sweep_scalar (solid : isBlank c = false) (noBracket : opening? c = none)
    (skipped : skipScalar c t = .ok rest) :
    sweep .before brackets (c :: t) = sweep .after brackets rest := by
  rw [sweep_before, skipBlanks_cons solid]
  dsimp only
  rw [noBracket, skipped]
  rfl

theorem isBlank_opening (bracket : Bracket) : isBlank bracket.opening = false := by
  cases bracket <;> rfl

theorem isBlank_closing (bracket : Bracket) : isBlank bracket.closing = false := by
  cases bracket <;> rfl

theorem opening?_opening (bracket : Bracket) : opening? bracket.opening = some bracket := by
  cases bracket <;> rfl

/-- A bracket with nothing but blanks in it is passed over. -/
theorem sweep_empty {blanks : List Char} (are : Blanks blanks) :
    sweep .before brackets (bracket.opening :: (blanks ++ bracket.closing :: rest)) =
      sweep .after brackets rest := by
  rw [sweep_before, skipBlanks_cons (isBlank_opening bracket)]
  dsimp only
  rw [opening?_opening]
  dsimp only
  rw [skipBlanks_solid are (isBlank_closing bracket)]
  dsimp only
  rw [if_pos rfl]

/-- A bracket with something else in it is opened. -/
theorem sweep_open (filled : skipBlanks t = c :: rest) (other : c ≠ bracket.closing) :
    sweep .before brackets (bracket.opening :: t) =
      skipBefore bracket t >>= sweep .before (bracket :: brackets) := by
  rw [sweep_before, skipBlanks_cons (isBlank_opening bracket)]
  dsimp only
  rw [opening?_opening]
  dsimp only
  rw [← skipBefore_skipBlanks, filled]
  dsimp only
  rw [if_neg other]

/-- A comma leads to the next item. -/
theorem sweep_comma :
    sweep .after (bracket :: brackets) (',' :: t) =
      skipBefore bracket t >>= sweep .before (bracket :: brackets) := by
  rw [sweep_after, skipBlanks_cons (by rfl)]
  dsimp only
  rw [if_pos rfl]

/-- The closing character ends the innermost bracket. -/
theorem sweep_close :
    sweep .after (bracket :: brackets) (bracket.closing :: rest) = sweep .after brackets rest := by
  rw [sweep_after, skipBlanks_cons (isBlank_closing bracket)]
  dsimp only
  rw [if_neg (by cases bracket <;> decide), if_pos rfl]

end Turns

/-! ### How values begin -/

/-- A numeral begins with a character that a numeral can begin with. -/
theorem IsNumeral.exists_begin {s : List Char} (is : IsNumeral s) :
    ∃ c t, s = c :: t ∧ Numeral.begins c = true := by
  cases is with
  | @parts minus whole fraction exponent signs isWhole _ _ =>
      obtain ⟨⟨some, all⟩, _⟩ := isWhole
      simp only [List.mem_cons, List.not_mem_nil, or_false] at signs
      rcases signs with rfl | rfl
      · cases whole with
        | nil => exact absurd rfl some
        | cons first others =>
            refine ⟨first, _, rfl, ?_⟩
            rw [Numeral.begins, all first List.mem_cons_self, Bool.or_true]
      · exact ⟨'-', _, rfl, rfl⟩

/-- A numeral begins neither with a quote nor with a bracket. -/
theorem noOther_of_begins {c : Char} (begins : Numeral.begins c = true) :
    c ≠ '"' ∧ c ∉ ['[', ']', '\x7b', '\x7d'] := by
  constructor
  · rintro rfl
    exact absurd begins (by decide)
  · intro listed
    simp only [List.mem_cons, List.not_mem_nil, or_false] at listed
    rcases listed with rfl | rfl | rfl | rfl <;> exact absurd begins (by decide)

/-- **A phrase begins, behind blanks, with something other than a bracket that closes.** -/
theorem Derives.exists_begin {phrase : Phrase} {s : List Char} (derives : Derives phrase s) :
    ∃ before c t, s = before ++ c :: t ∧ Blanks before ∧ isBlank c = false ∧
      ∀ bracket : Bracket, c ≠ bracket.closing := by
  induction derives with
  | word listed =>
      simp only [List.mem_cons, List.not_mem_nil, or_false] at listed
      rcases listed with rfl | rfl | rfl <;>
        exact ⟨[], _, _, rfl, blanks_nil, rfl, fun bracket => by cases bracket <;> decide⟩
  | numeral is =>
      obtain ⟨c, t, rfl, begins⟩ := is.exists_begin
      have other := (noOther_of_begins begins).2
      refine ⟨[], c, t, rfl, blanks_nil, Codec.isBlank_of_begins begins, ?_⟩
      rintro bracket rfl
      cases bracket <;> exact other (by decide)
  | string is =>
      cases is
      exact ⟨[], _, _, rfl, blanks_nil, rfl, fun bracket => by cases bracket <;> decide⟩
  | @empty bracket _ _ | @filled bracket _ _ _ =>
      refine ⟨[], _, _, rfl, blanks_nil, isBlank_opening bracket, fun other => ?_⟩
      cases bracket <;> cases other <;> decide
  | @element before s after blanks _ _ ih =>
      obtain ⟨before', c, t, rfl, blanks', solid, other⟩ := ih
      refine ⟨before ++ before', c, t ++ after, ?_, blanks_append blanks blanks', solid, other⟩
      simp only [List.append_assoc, List.cons_append]
  | member blanks is _ _ _ =>
      cases is
      exact ⟨_, _, _, rfl, blanks, rfl, fun bracket => by cases bracket <;> decide⟩
  | last _ ih => exact ih
  | more _ _ ih _ =>
      obtain ⟨before, c, t, rfl, rest⟩ := ih
      exact ⟨before, c, _, by rw [List.append_assoc, List.cons_append], rest⟩

/-! ### Values -/

/-- A colon is read behind blanks. -/
theorem skipColon_append {between : List Char} (blanks : Blanks between) (s : List Char) :
    skipColon (between ++ ':' :: s) = .ok s := by
  rw [skipColon, skipBlanks_solid blanks (by rfl)]
  rfl

/-- **A key and its colon are passed over**, with the blanks around the key. -/
theorem skipKey_append {before key between : List Char} (blanks : Blanks before)
    (is : IsString key) (blanks' : Blanks between) (s : List Char) :
    skipKey (before ++ (key ++ (between ++ ':' :: s))) = .ok s := by
  obtain ⟨text, rfl, skipped⟩ := is.exists_skipString
  rw [skipKey, List.cons_append, skipBlanks_solid blanks (by rfl)]
  show (skipString (text ++ _) >>= skipColon) = _
  rw [skipped]
  exact skipColon_append blanks' s

/-- **What passing over a phrase comes to**, whatever stands behind it.  An item may stand inside any
bracket, while items are the whole of what their own bracket holds. -/
def PassedOver : Phrase → List Char → Prop
  | .value, s => ∀ brackets rest, Delimited rest →
      sweep .before brackets (s ++ rest) = sweep .after brackets rest
  | .item bracket, s => ∀ top brackets rest, Delimited rest →
      (skipBefore bracket (s ++ rest) >>= sweep .before (top :: brackets)) =
        sweep .after (top :: brackets) rest
  | .items bracket, s => ∀ brackets rest,
      (skipBefore bracket (s ++ bracket.closing :: rest) >>= sweep .before (bracket :: brackets)) =
        sweep .after brackets rest

theorem passedOver_word {s : List Char}
    (listed : s ∈ ['n' :: nullTail, 't' :: trueTail, 'f' :: falseTail]) :
    PassedOver .value s := by
  intro brackets rest _
  simp only [List.mem_cons, List.not_mem_nil, or_false] at listed
  rcases listed with rfl | rfl | rfl
  · exact sweep_scalar rfl rfl (skipLetters_append nullTail rest)
  · exact sweep_scalar rfl rfl (skipLetters_append trueTail rest)
  · exact sweep_scalar rfl rfl (skipLetters_append falseTail rest)

theorem passedOver_numeral {s : List Char} (is : IsNumeral s) : PassedOver .value s := by
  intro brackets rest delimited
  obtain ⟨numeral, read⟩ := Numeral.exists_read_numeral .invalidNumber is delimited
  obtain ⟨c, t, rfl, begins⟩ := is.exists_begin
  obtain ⟨noQuote, noBracket⟩ := noOther_of_begins begins
  simp only [List.mem_cons, List.not_mem_nil, or_false, not_or] at noBracket
  refine sweep_scalar (Codec.isBlank_of_begins begins) ?_ ?_
  · rw [opening?, if_neg noBracket.1, if_neg noBracket.2.2.1]
  · rw [skipScalar, if_neg noQuote, if_pos begins]
    show (Numeral.read _ (c :: t ++ rest) >>= _) = _
    rw [read]
    rfl

theorem passedOver_string {s : List Char} (is : IsString s) : PassedOver .value s := by
  intro brackets rest _
  obtain ⟨text, rfl, skipped⟩ := is.exists_skipString
  exact sweep_scalar rfl rfl (skipped rest)

/-- The closing character of a bracket ends every numeral. -/
theorem delimited_closing (bracket : Bracket) (rest : List Char) :
    Delimited (bracket.closing :: rest) :=
  delimited_cons (by cases bracket <;> rfl)

/-- **Every phrase is passed over**, by induction on how it is derived. -/
theorem Derives.passedOver {phrase : Phrase} {s : List Char} (derives : Derives phrase s) :
    PassedOver phrase s := by
  induction derives with
  | word listed => exact passedOver_word listed
  | numeral is => exact passedOver_numeral is
  | string is => exact passedOver_string is
  | empty blanks =>
      intro brackets rest _
      rw [List.cons_append, List.append_assoc]
      exact sweep_empty blanks
  | @filled bracket s items ih =>
      intro brackets rest _
      -- the first character behind the blanks shows that the bracket is not closed at once
      obtain ⟨before, c, t, rfl, blanks, solid, other⟩ := items.exists_begin
      have begins : skipBlanks (before ++ c :: t ++ bracket.closing :: rest) =
          c :: (t ++ bracket.closing :: rest) := by
        rw [List.append_assoc, List.cons_append, skipBlanks_solid blanks solid]
      rw [List.cons_append, List.append_assoc]
      exact (sweep_open begins (other bracket)).trans (ih brackets rest)
  | @element before s after blanks _ blanks' ih =>
      intro top brackets rest delimited
      calc sweep .before (top :: brackets) (before ++ (s ++ after) ++ rest)
          = sweep .before (top :: brackets) (before ++ (s ++ (after ++ rest))) := by
            simp only [List.append_assoc]
        _ = sweep .before (top :: brackets) (s ++ (after ++ rest)) :=
            sweep_before_append blanks _ _
        _ = sweep .after (top :: brackets) (after ++ rest) :=
            ih _ _ (delimited.blanks blanks')
        _ = sweep .after (top :: brackets) rest := sweep_after_append blanks' _ _ _
  | @member before key between s blanks is blanks' _ ih =>
      intro top brackets rest delimited
      have key' : skipKey (before ++ (key ++ (between ++ ':' :: s)) ++ rest) = .ok (s ++ rest) := by
        simp only [List.append_assoc, List.cons_append]
        exact skipKey_append blanks is blanks' (s ++ rest)
      show (skipKey _ >>= sweep .before (top :: brackets)) = _
      rw [key']
      exact ih top brackets rest delimited
  | @last bracket s _ ih =>
      intro brackets rest
      exact (ih bracket brackets _ (delimited_closing bracket rest)).trans sweep_close
  | @more bracket s others _ _ ih ih' =>
      intro brackets rest
      rw [List.append_assoc, List.cons_append]
      exact ((ih bracket brackets _ (delimited_cons rfl)).trans sweep_comma).trans
        (ih' brackets rest)

/-- **A value is passed over** and nothing behind it, blanks before it included. -/
theorem skipValue_append {before s rest : List Char} (blanks : Blanks before)
    (value : Derives .value s) (delimited : Delimited rest) :
    skipValue (before ++ (s ++ rest)) = .ok rest := by
  show sweep .before [] (before ++ (s ++ rest)) = _
  rw [sweep_before_append blanks, value.passedOver [] rest delimited, sweep]

end Scanout.Json
