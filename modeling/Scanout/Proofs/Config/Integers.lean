import Scanout.Proofs.Config.Loading
import Scanout.Proofs.Config.Repeated
import Scanout.Proofs.Json.Integers

/-!
# Integers in a configuration

Seven fields of a configuration are integers, of three types.  A literal that is written as the value of
one of them, wherever the field stands in the text, is the value of the field or the whole file gives no
configuration.  Which of the two is known from the literal and the bounds of the field alone.

## Main definitions

* `Config.IntegerField` — the fields that are integers
* `Config.IntegerField.Given` — a literal is written as the value of a field
* `Config.IntegerField.Sole` — what else there is in the text is accepted

## Main result

* `Config.IntegerField.load_given`
-/

namespace Scanout.Config

open Json Json.Codec

/-- **The fields of a configuration that are integers.** -/
inductive IntegerField where
  | apiMajor
  | apiMinor
  | swapInterval
  | width
  | height
  | maxFrames
  | frameInterval
  deriving DecidableEq, Repr

namespace IntegerField

/-- The section that a field is in. -/
def part : IntegerField → Part
  | apiMajor | apiMinor | swapInterval | width | height => .video
  | maxFrames | frameInterval => .demo

/-- The name of a field in a text. -/
def name : IntegerField → String
  | apiMajor => "api_major"
  | apiMinor => "api_minor"
  | swapInterval => "swap_interval"
  | width => "width"
  | height => "height"
  | maxFrames => "max_frames"
  | frameInterval => "frame_interval_ms"

/-- The least integer of the type of a field. -/
def least : IntegerField → Int
  | swapInterval => -2147483648
  | apiMajor | apiMinor | width | height | maxFrames | frameInterval => 0

/-- The greatest integer of the type of a field. -/
def greatest : IntegerField → Int
  | swapInterval => 2147483647
  | apiMajor | apiMinor | width | height => 4294967295
  | maxFrames | frameInterval => 18446744073709551615

/-- The integer that a configuration has in a field, if there is one. -/
def value? : IntegerField → Config → Option Int
  | apiMajor, config => some config.video.version.major.toNat
  | apiMinor, config => some config.video.version.minor.toNat
  | swapInterval, config => some config.video.swapInterval.toInt
  | width, config => some config.video.width.toNat
  | height, config => some config.video.height.toNat
  | maxFrames, config => config.demo.maxFrames.map fun frames => (frames.toNat : Int)
  | frameInterval, config => some config.demo.frameInterval.toNat

/-- **Each of these fields is one of its section**, and a codec of the integers between its bounds. -/
theorem exists_field (f : IntegerField) :
    ∃ field ∈ f.part.schema.fields, field.name = f.name ∧
      ∃ integer? : field.Value → Option Int, field.codec.Integral f.least f.greatest integer? ∧
        ∀ config, f.value? config = integer? (field.get (f.part.of config)) := by
  have listed {field : Json.Field f.part.Record} {n : Nat} (at_ : f.part.schema.fields[n]? = some field) :
      field ∈ f.part.schema.fields := List.mem_of_getElem? at_
  cases f with
  | apiMajor => exact ⟨_, listed (n := 2) rfl, rfl, _, integral_word, fun _ => rfl⟩
  | apiMinor => exact ⟨_, listed (n := 3) rfl, rfl, _, integral_word, fun _ => rfl⟩
  | swapInterval => exact ⟨_, listed (n := 4) rfl, rfl, _, integral_integer, fun _ => rfl⟩
  | width => exact ⟨_, listed (n := 5) rfl, rfl, _, integral_word, fun _ => rfl⟩
  | height => exact ⟨_, listed (n := 6) rfl, rfl, _, integral_word, fun _ => rfl⟩
  | maxFrames =>
      exact ⟨_, listed (n := 0) rfl, rfl, _, integral_orNull integral_longWord,
        fun _ => Option.map_eq_bind⟩
  | frameInterval => exact ⟨_, listed (n := 1) rfl, rfl, _, integral_longWord, fun _ => rfl⟩

variable {f : IntegerField} {literal : Literal} {sections members : List Member}

/-- **A literal is written as the value of a field** in a text: it is that of one of the members of the
section, which is one of those of the configuration, each of the two in either form. -/
inductive Given (f : IntegerField) (literal : Literal) (sections members : List Member) :
    List Char → Prop
  | parts {before s after body : List Char} : Blanks before → Blanks after →
      Config.schema.IsWritten sections s → (∀ given ∈ sections, Derives .value given.value) →
      ⟨f.part.name, body⟩ ∈ sections → f.part.schema.IsWritten members body →
      (∀ given ∈ members, Derives .value given.value) → ⟨f.name, literal.text⟩ ∈ members →
      Given f literal sections members (before ++ (s ++ after))

/-- **Nothing but the literal is in doubt**: no known name is given twice in the section or in the
configuration, and the other members of both are accepted. -/
structure Sole (f : IntegerField) (sections members : List Member) : Prop where
  sections_distinct : Config.schema.Distinct sections
  members_distinct : f.part.schema.Distinct members
  sections : ∀ given ∈ sections, given.name = f.part.name ∨ Config.schema.Acceptable given
  members : ∀ given ∈ members, given.name = f.name ∨ f.part.schema.Acceptable given

/-- **A literal that is accepted fits, and the field has its value.** -/
theorem Given.of_accepts {s : List Char} (given : f.Given literal sections members s) {config : Config}
    (accepts : codec.Accepts s config) :
    literal.Fits f.least f.greatest ∧ f.value? config = some literal.value := by
  obtain ⟨field, listed, same, integer?, integral, held⟩ := f.exists_field
  cases given with
  | parts blanks blanks' is values among is' values' among' =>
      obtain ⟨-, takes⟩ := (Schema.accepts_iff_of_blanks legible_schema is values blanks blanks').mp accepts
      have inner : f.part.schema.codec.Accepts _ (f.part.of config) :=
        (takes f.part.field f.part.field_mem).1 _ among rfl
      obtain ⟨-, takes'⟩ := (Schema.accepts_iff f.part.legible_schema is' values').mp inner
      have value := (takes' field listed).1 _ among' same.symm
      rw [held]
      exact (integral.accepts literal _).mp value

/-- **A literal that fits is accepted**, where nothing else is in doubt. -/
theorem Given.exists_accepts {s : List Char} (given : f.Given literal sections members s)
    (sole : f.Sole sections members) (fits : literal.Fits f.least f.greatest) :
    ∃ config, codec.Accepts s config := by
  obtain ⟨field, listed, same, integer?, integral, -⟩ := f.exists_field
  have legible := f.part.legible_schema
  have inside := f.part.field_mem
  cases given with
  | @parts before s after body blanks blanks' is values among is' values' among' =>
      -- the section is accepted, since its literal is, and so the configuration
      obtain ⟨value, accepts⟩ := integral.exists_accepts fits
      have last := Schema.acceptable_of_accepts legible.lawful listed same.symm (values' _ among') accepts
      obtain ⟨r, takes⟩ := Schema.exists_takes legible (sole.members_distinct.forall_acceptable listed
        among' same.symm last (same ▸ sole.members)) sole.members_distinct
      have inner := (Schema.accepts_iff legible is' values').mpr ⟨sole.members_distinct, takes⟩
      have part := Schema.acceptable_of_accepts legible_schema.lawful inside rfl (values _ among) inner
      obtain ⟨config, takes'⟩ := Schema.exists_takes legible_schema
        (sole.sections_distinct.forall_acceptable inside among rfl part sole.sections)
        sole.sections_distinct
      exact ⟨config, (Schema.accepts_iff_of_blanks legible_schema is values blanks blanks').mpr
        ⟨sole.sections_distinct, takes'⟩⟩

/-- **Integers never wrap.**  If a file has a literal as the value of an integer field, then either it is
loaded, and the field has exactly the value of the literal, or no configuration is loaded.  A literal is
rejected that has a fraction or an exponent, is a zero with a minus, or is beyond the bounds of the type of
the field.  Where nothing else is in doubt, every other literal is accepted. -/
theorem load_given {contents : Path → Contents} {file : Path} {text : String}
    (held : contents file = .ok (Text.bytes text)) (given : f.Given literal sections members text.toList) :
    (∀ config, load contents file = .ok config → f.value? config = some literal.value) ∧
    (¬literal.Fits f.least f.greatest →
      ∃ fault, load contents file = .error (.malformed file fault)) ∧
    (f.Sole sections members →
      ((∃ config, load contents file = .ok config) ↔ literal.Fits f.least f.greatest)) := by
  have same := String.ofList_toList (s := text)
  rw [load_of_text held]
  cases parsed : codec.parse text with
  | ok config =>
      obtain ⟨fits, value⟩ := given.of_accepts (same.symm ▸ parsed)
      refine ⟨fun config' loaded => ?_, fun unfit => absurd fits unfit,
        fun _ => ⟨fun _ => fits, fun _ => ⟨config, rfl⟩⟩⟩
      obtain rfl : config = config' := Except.ok.inj loaded
      exact value
  | error fault =>
      refine ⟨fun _ loaded => ?_, fun _ => ⟨fault, rfl⟩, fun sole => ⟨?_, fun fits => ?_⟩⟩
      · cases loaded
      · rintro ⟨_, loaded⟩
        cases loaded
      · obtain ⟨config, accepts⟩ := given.exists_accepts sole fits
        rw [Accepts, same, parsed] at accepts
        cases accepts

/-! ### The greatest number of frames -/

/-- A section that gives the number of frames by its place. -/
def framesText (literal : Literal) : List Char := '[' :: (literal.text ++ [']'])

/-- The members of a configuration with this section behind a name that means nothing. -/
def framesSections (literal : Literal) : List Member :=
  [⟨"fps", rateText⟩, ⟨"demo", framesText literal⟩]

/-- The text of this configuration. -/
def framesDocument (literal : Literal) : List Char :=
  "\x7b\"fps\":-1.5e3".toList ++
    ',' :: (writeString "demo" ++ ':' :: (framesText literal ++ ['\x7d']))

theorem derives_framesText (literal : Literal) : Derives .value (framesText literal) := by
  have numeral : Derives .value literal.text := .numeral literal.isNumeral_text
  have list := Derives.filled (.last (.element blanks_nil numeral blanks_nil))
  rwa [List.append_nil] at list

theorem isWritten_framesText (literal : Literal) :
    Demo.schema.IsWritten [⟨"max_frames", literal.text⟩] (framesText literal) := by
  have placed := @Schema.Begun.placed _ Demo.schema [] _ _ [] literal.text _ .opened blanks_nil rfl
    (.parts blanks_nil blanks_nil)
  rw [List.append_nil] at placed
  exact .closed placed blanks_nil

theorem given_framesDocument (literal : Literal) :
    maxFrames.Given literal (framesSections literal) [⟨"max_frames", literal.text⟩]
      (String.ofList (framesDocument literal)).toList := by
  rw [String.toList_ofList]
  have named := gathers_rate.begun.named blanks_nil
    (isWritten_append ⟨"demo", framesText literal⟩ blanks_nil)
  have closed := Schema.IsWritten.closed named blanks_nil
  have values : ∀ given ∈ framesSections literal, Derives .value given.value := by
    simp only [framesSections, List.forall_mem_cons]
    exact ⟨derives_rateText, derives_framesText literal, List.forall_mem_nil _⟩
  have literals : ∀ given ∈ [Member.mk "max_frames" literal.text], Derives .value given.value :=
    List.forall_mem_singleton.mpr (.numeral literal.isNumeral_text)
  have among : Member.mk "demo" (framesText literal) ∈ framesSections literal :=
    List.mem_cons_of_mem _ List.mem_cons_self
  have given := @Given.parts maxFrames literal (framesSections literal) [⟨"max_frames", literal.text⟩]
    [] _ [] (framesText literal) blanks_nil blanks_nil closed values among
    (isWritten_framesText literal) literals List.mem_cons_self
  simp only [List.append_nil, List.nil_append, List.append_assoc, List.cons_append,
    List.isEmpty_cons] at given
  exact given

/-- A natural as a literal. -/
def natural (digits : List Char) (isWhole : IsWhole digits) : Literal :=
  ⟨false, digits, [], [], isWhole, .missing, .missing⟩

/-- The greatest integer of 64 bits. -/
def greatestLiteral : Literal :=
  natural "18446744073709551615".toList ⟨⟨by decide, List.all_eq_true.mp rfl⟩, by decide⟩

/-- The integer behind it. -/
def beyondLiteral : Literal :=
  natural "18446744073709551616".toList ⟨⟨by decide, List.all_eq_true.mp rfl⟩, by decide⟩

theorem sole_greatestLiteral :
    maxFrames.Sole (framesSections greatestLiteral) [⟨"max_frames", greatestLiteral.text⟩] := by
  refine ⟨by decide +kernel, by decide +kernel, ?_, List.forall_mem_singleton.mpr (.inl rfl)⟩
  simp only [framesSections, List.forall_mem_cons]
  exact ⟨.inr (acceptable_fps derives_rateText), .inl rfl, List.forall_mem_nil _⟩

/-- Two files, with the greatest number of frames and with one more. -/
def framesFiles (name : Path) : Contents :=
  .ok (Text.bytes (String.ofList
    (framesDocument (if name = "beyond.json" then beyondLiteral else greatestLiteral))))

/-- **The greatest number of frames is loaded, and one more is rejected.** -/
theorem load_framesFiles :
    (∃ config, load framesFiles "greatest.json" = .ok config ∧
      maxFrames.value? config = some 18446744073709551615) ∧
    ∃ fault, load framesFiles "beyond.json" = .error (.malformed "beyond.json" fault) := by
  obtain ⟨value, -, accepted⟩ := @load_given _ _ _ _ framesFiles "greatest.json" _ rfl
    (given_framesDocument greatestLiteral)
  obtain ⟨-, rejected, -⟩ := @load_given _ _ _ _ framesFiles "beyond.json" _ rfl
    (given_framesDocument beyondLiteral)
  obtain ⟨config, loaded⟩ := (accepted sole_greatestLiteral).mpr
    ⟨rfl, rfl, nofun, by decide, by decide⟩
  exact ⟨⟨config, loaded, value config loaded⟩, rejected fun fits => absurd fits.below (by decide)⟩

end IntegerField

end Scanout.Config
