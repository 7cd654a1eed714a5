import Scanout.Proofs.Json.Progress

/-!
# Faults of a kind

What can be wrong where a token is read or a value is passed over is wrong with the text, never with
what it says: it is no data fault.  The codecs find data faults in values, but none about a name that
was given before; only records tell whether it was.

## Main definitions

* `Json.Finds` — a step finds nothing wrong but faults of a kind
* `Json.Fault.Textual` — faults of the text
* `Json.Fault.Single` — faults that are not about a repeated name
* `Json.Codec.Single` — codecs that find no repeated name

## Main results

* `Json.textual_readString`, `Json.textual_read`, `Json.textual_skipValue` — strings, numerals and values
  that are passed over
* `Json.Codec.single_word`, `.single_longWord`, `.single_integer`, `.single_truth`, `.single_text`,
  `.single_orNull`, `.single_variant`
-/

namespace Scanout.Json

/-! ### Steps -/

/-- **A step finds nothing wrong** but faults of a kind. -/
def Finds {α : Type} (kind : Fault → Prop) (step : Except Fault α) : Prop :=
  ∀ fault, step = .error fault → kind fault

namespace Fault

/-- Faults of the text, not of what it says. -/
def Textual (fault : Fault) : Prop := fault.category ≠ .data

/-- Faults that are not about a repeated name. -/
def Single (fault : Fault) : Prop := ∀ name, fault ≠ .duplicateField name

theorem Textual.single {fault : Fault} (textual : fault.Textual) : fault.Single := by
  rintro name rfl
  exact textual rfl

end Fault

section Steps

variable {α β : Type} {kind : Fault → Prop}

@[grind .]
theorem finds_ok (a : α) : Finds kind (.ok a) := nofun

@[grind .]
theorem finds_pure (a : α) : Finds kind (pure a) := nofun

@[grind .]
theorem finds_error {fault : Fault} (is : kind fault) : Finds kind (.error fault : Except Fault α) := by
  rintro _ ⟨⟩
  exact is

@[grind .]
theorem Finds.bind {step : Except Fault α} {next : α → Except Fault β} (first : Finds kind step)
    (later : ∀ a, Finds kind (next a)) : Finds kind (step >>= next) := by
  intro fault failed
  rcases error_of_bind failed with failed | ⟨a, -, failed⟩
  · exact first fault failed
  · exact later a fault failed

theorem Finds.mono {kind' : Fault → Prop} {step : Except Fault α} (finds : Finds kind step)
    (stronger : ∀ ⦃fault⦄, kind fault → kind' fault) : Finds kind' step :=
  fun fault failed => stronger (finds fault failed)

/-- A fault that is passed on is one of the step. -/
theorem Finds.passed {step : Except Fault α} (finds : Finds kind step) {fault : Fault}
    (failed : step = .error fault) : Finds kind (.error fault : Except Fault β) :=
  finds_error (finds fault failed)

end Steps

/-! ### Faults of the text -/

section Textual

open Fault (Textual)

variable {s : List Char}

@[grind .]
theorem textual_skipLetters (letters s : List Char) : Finds Textual (skipLetters letters s) := by
  fun_induction skipLetters letters s <;> grind [Fault.Textual, Fault.category]

@[grind .]
theorem textual_readUnit (s : List Char) : Finds Textual (readUnit s) := by
  unfold readUnit
  grind [Fault.Textual, Fault.category]

@[grind .]
theorem textual_readSecondHalf (first : Nat) (s : List Char) :
    Finds Textual (readSecondHalf first s) := by
  unfold readSecondHalf
  grind [Fault.Textual, Fault.category]

@[grind .]
theorem textual_readEscape (s : List Char) : Finds Textual (readEscape s) := by
  unfold readEscape
  grind [Fault.Textual, Fault.category]

@[grind .]
theorem textual_skipEscape (s : List Char) : Finds Textual (skipEscape s) := by
  unfold skipEscape
  grind [Fault.Textual, Fault.category]

@[grind .]
theorem textual_readCharacters (s : List Char) : Finds Textual (readCharacters s) := by
  fun_induction readCharacters s with
  | case3 _ _ failed => exact (textual_readEscape _).passed failed
  | _ => grind [Fault.Textual, Fault.category]

@[grind .]
theorem textual_readString (s : List Char) : Finds Textual (readString s) := by
  unfold readString
  grind

@[grind .]
theorem textual_skipString (s : List Char) : Finds Textual (skipString s) := by
  fun_induction skipString s with
  | case3 _ _ failed => exact (textual_skipEscape _).passed failed
  | _ => grind [Fault.Textual, Fault.category]

@[grind .]
theorem textual_skipColon (s : List Char) : Finds Textual (skipColon s) := by
  unfold skipColon
  grind [Fault.Textual, Fault.category]

@[grind .]
theorem textual_skipKey (s : List Char) : Finds Textual (skipKey s) := by
  unfold skipKey
  grind [Fault.Textual, Fault.category]

namespace Numeral

variable {broken : Fault}

@[grind .]
theorem textual_readDigits (breaks : broken.Textual) (s : List Char) :
    Finds Textual (readDigits broken s) := by
  unfold readDigits
  grind [Fault.Textual, Fault.category]

@[grind .]
theorem textual_readWhole (breaks : broken.Textual) (s : List Char) :
    Finds Textual (readWhole broken s) := by
  unfold readWhole
  grind [Fault.Textual, Fault.category]

@[grind .]
theorem textual_readFraction (breaks : broken.Textual) (s : List Char) :
    Finds Textual (readFraction broken s) := by
  unfold readFraction
  grind

@[grind .]
theorem textual_readExponent (breaks : broken.Textual) (s : List Char) :
    Finds Textual (readExponent broken s) := by
  unfold readExponent
  grind

/-- **What is wrong with a numeral** is wrong with the text. -/
@[grind .]
theorem textual_read (breaks : broken.Textual) (s : List Char) : Finds Textual (read broken s) := by
  unfold read
  grind

@[grind .]
theorem textual_real (negative : Bool) (significand : Nat) (exponent : Int) :
    Finds Textual (real negative significand exponent) := by
  unfold real
  grind [Fault.Textual, Fault.category]

/-- A numeral that is out of range is so as a text. -/
@[grind .]
theorem textual_value (n : Numeral) : Finds Textual n.value := by
  unfold value scaled
  grind [Fault.Textual, Fault.category]

end Numeral

@[grind .]
theorem textual_skipScalar (c : Char) (s : List Char) : Finds Textual (skipScalar c s) := by
  unfold skipScalar
  grind [Fault.Textual, Fault.category]

@[grind .]
theorem textual_skipBefore (bracket : Bracket) (s : List Char) :
    Finds Textual (skipBefore bracket s) := by
  unfold skipBefore
  grind

@[grind .]
theorem textual_broken (bracket : Bracket) : bracket.broken.Textual := by
  cases bracket <;> exact nofun

@[grind .]
theorem textual_unseparated (bracket : Bracket) : bracket.unseparated.Textual := by
  cases bracket <;> exact nofun

theorem textual_sweep (place : Place) (brackets : List Bracket) (s : List Char) :
    Finds Textual (sweep place brackets s) := by
  fun_induction sweep place brackets s <;> grind [Fault.Textual, Fault.category]

/-- **What is wrong with a value that is passed over** is wrong with the text. -/
@[grind .]
theorem textual_skipValue (s : List Char) : Finds Textual (skipValue s) := textual_sweep .before [] s

@[grind .]
theorem textual_afterLetters {α : Type} (letters : List Char) (value : α) (s : List Char) :
    Finds Textual (afterLetters letters value s) := by
  unfold afterLetters
  grind

@[grind .]
theorem textual_findOther (c : Char) (s : List Char) : Finds Textual (findOther c s) := by
  unfold findOther
  grind [Fault.Textual, Fault.category]

namespace Schema

@[grind .]
theorem textual_readQuote (first : Bool) (c : Char) (s : List Char) :
    Finds Textual (readQuote first c s) := by
  unfold readQuote
  grind [Fault.Textual, Fault.category]

/-- **What is wrong with a key** is wrong with the text. -/
theorem textual_readKey (first : Bool) (s : List Char) : Finds Textual (readKey first s) := by
  unfold readKey
  grind [Fault.Textual, Fault.category]

@[grind .]
theorem textual_readSeparator (first : Bool) (c : Char) (s : List Char) :
    Finds Textual (readSeparator first c s) := by
  unfold readSeparator
  grind [Fault.Textual, Fault.category]

/-- **What is wrong between elements** is wrong with the text. -/
theorem textual_findElement (first : Bool) (s : List Char) : Finds Textual (findElement first s) := by
  unfold findElement
  grind [Fault.Textual, Fault.category]

/-- What is wrong with the end of a list is wrong with the text. -/
theorem textual_readEnd (s : List Char) : Finds Textual (readEnd s) := by
  unfold readEnd
  grind [Fault.Textual, Fault.category]

end Schema

end Textual

/-! ### Codecs -/

/-- What is not of the wanted type is no repeated name. -/
@[grind .]
theorem single_mismatch (wanted : String) (c : Char) (s : List Char) :
    (mismatch wanted c s).Single := by
  unfold mismatch
  split
  · nofun
  · next failed => exact (textual_findOther c s _ failed).single

namespace Codec

variable {α : Type}

/-- **A codec that finds no repeated name** in the text of a value. -/
def Single (codec : Codec α) : Prop := ∀ s, Finds Fault.Single (codec.read s)

/-- What is wrong with the text is no repeated name. -/
@[grind →]
theorem single_of_textual {step : Except Fault α} (textual : Finds Fault.Textual step) :
    Finds Fault.Single step := textual.mono fun _ => Fault.Textual.single

theorem single_error {fault : Fault} (textual : fault.category ≠ .data) :
    Finds Fault.Single (.error fault : Except Fault α) := finds_error (Fault.Textual.single textual)

theorem finds_readFirst {kind : Fault → Prop} {read : Char → Reader α} (breaks : kind .endInValue)
    (finds : ∀ c s, Finds kind (read c s)) (s : List Char) : Finds kind (readFirst read s) := by
  unfold readFirst
  split
  · exact finds_error breaks
  · exact finds _ _

theorem single_readInteger (wanted : String) (least greatest : Int) (s : List Char) :
    Finds Fault.Single (readInteger wanted least greatest s) := by
  refine finds_readFirst nofun (fun c s => ?_) s
  split
  · refine (single_of_textual (Numeral.textual_read (nofun : Fault.Textual .endInValue) _)).bind fun found => ?_
    refine (single_of_textual (Numeral.textual_value _)).bind fun value => ?_
    split
    · split
      · exact finds_ok _
      · exact finds_error nofun
    · exact finds_error nofun
  · exact finds_error (single_mismatch _ _ _)

theorem single_word : word.Single :=
  fun s => (single_readInteger _ _ _ s).bind fun _ => finds_ok _

theorem single_longWord : longWord.Single :=
  fun s => (single_readInteger _ _ _ s).bind fun _ => finds_ok _

theorem single_integer : integer.Single :=
  fun s => (single_readInteger _ _ _ s).bind fun _ => finds_ok _

theorem single_truth : truth.Single :=
  finds_readFirst nofun fun c s => by
    split
    · exact single_of_textual (textual_afterLetters _ _ _)
    · split
      · exact single_of_textual (textual_afterLetters _ _ _)
      · exact finds_error (single_mismatch _ _ _)

theorem single_text : text.Single :=
  finds_readFirst nofun fun c s => by
    split
    · exact single_of_textual (textual_readString _)
    · exact finds_error (single_mismatch _ _ _)

theorem single_orNull {codec : Codec α} (single : codec.Single) : (orNull codec).Single := by
  intro s
  rw [orNull_read]
  split
  · exact single_of_textual (textual_afterLetters _ _ _)
  · exact (single s).bind fun _ => finds_ok _

section Variants

variable {all : List α} {name : α → String}

theorem single_readNothing (s : List Char) : Finds Fault.Single (readNothing s) := by
  refine finds_readFirst nofun (fun c s => ?_) s
  split
  · exact single_of_textual (textual_afterLetters _ _ _)
  · exact finds_error (single_mismatch _ _ _)

theorem single_readName (s : List Char) : Finds Fault.Single (readName all name s) := by
  refine (single_of_textual (textual_readString s)).bind fun found => ?_
  refine Finds.bind ?_ fun _ => finds_ok _
  unfold ofName
  split
  · exact finds_ok _
  · exact finds_error nofun

theorem single_readTagged (s : List Char) : Finds Fault.Single (readTagged all name s) := by
  refine finds_readFirst nofun (fun c s => ?_) s
  split
  · refine (single_readName _).bind fun found => ?_
    refine (single_of_textual (textual_skipColon _)).bind fun s => ?_
    refine (single_readNothing s).bind fun found => ?_
    dsimp only
    split
    · exact single_error (by decide)
    · split
      · exact finds_ok _
      · exact single_error (by decide)
  · split <;> exact single_error (by decide)

theorem single_variant : (variant all name).Single :=
  finds_readFirst nofun fun c s => by
    split
    · exact single_readName s
    · split
      · exact single_readTagged s
      · exact finds_error nofun

end Variants

end Codec

end Scanout.Json
