import Scanout.Proofs.Config.RoundTrip
import Scanout.Proofs.Json.Objects

/-!
# Partial configurations

A text of a configuration may leave out sections, and fields of a section, may give the others in any
order, and may have names in it that no section or no field has.  It is read as the configuration that
has what is given, and the default wherever nothing is.

## Main definitions

* `Config.Part` — a section of a configuration, as a field of it and with its schema
* `Config.IsPartial` — the texts that give some fields of a configuration
* `Config.Keeps` — what is left of a configuration when only some fields are given

## Main result

* `Config.parse_isPartial`
-/

namespace Scanout

open Json Json.Codec

/-- An API is read from each spelling of its name. -/
theorem GraphicsApi.faithful_codec : GraphicsApi.codec.Faithful := by
  refine faithful_variant fun api => ?_
  cases api <;> decide

namespace Config

/-- **The sections of a configuration.** -/
inductive Part where
  | video
  | input
  | egl
  | demo
  deriving DecidableEq, Repr

namespace Part

/-- Every section, in declaration order. -/
def all : List Part := [video, input, egl, demo]

/-- The record that a section is. -/
abbrev Record : Part → Type
  | video => Video
  | input => Input
  | egl => Egl
  | demo => Demo

/-- The schema of a section. -/
def schema : (part : Part) → Schema part.Record
  | video => Video.schema
  | input => Input.schema
  | egl => Egl.schema
  | demo => Demo.schema

/-- The name of a section in a text. -/
def name : Part → String
  | video => "video"
  | input => "input"
  | egl => "egl"
  | demo => "demo"

/-- A section of a configuration. -/
def of : (part : Part) → Config → part.Record
  | video => Config.video
  | input => Config.input
  | egl => Config.egl
  | demo => Config.demo

/-- Puts a section into a configuration. -/
def put : (part : Part) → part.Record → Config → Config
  | video => fun x c => { c with video := x }
  | input => fun x c => { c with input := x }
  | egl => fun x c => { c with egl := x }
  | demo => fun x c => { c with demo := x }

/-- A section as a field of the configuration. -/
def field (part : Part) : Json.Field Config :=
  ⟨part.Record, part.name, part.schema.codec, part.of, part.put⟩

/-- The fields of a configuration are its sections. -/
theorem map_field : all.map field = Config.schema.fields := rfl

theorem field_mem (part : Part) : part.field ∈ Config.schema.fields := by
  rw [← map_field]
  refine List.mem_map_of_mem ?_
  cases part <;> decide

/-- The default of a section is that of the configuration there. -/
theorem default_schema (part : Part) : part.schema.default = part.of default := by
  cases part <;> rfl

/-! ### Laws -/

theorem lawful_schema (part : Part) : part.schema.Lawful := by
  cases part with
  | video => exact Video.lawful_schema
  | input => exact Input.lawful_schema
  | egl => exact Egl.lawful_schema
  | demo => exact Demo.lawful_schema

theorem separate_schema (part : Part) : part.schema.Separate := by
  cases part with
  | video => constructor <;> simp [schema, Video.schema, Schema.Apart]
  | input => constructor <;> simp [schema, Input.schema, Schema.Apart]
  | egl => constructor <;> simp [schema, Egl.schema, Schema.Apart]
  | demo => constructor <;> simp [schema, Demo.schema, Schema.Apart]

/-- Every field of a section reads each text of its values. -/
theorem faithful_codec (part : Part) : ∀ field ∈ part.schema.fields, field.codec.Faithful := by
  cases part with
  | video =>
      simp only [schema, Video.schema, List.forall_mem_cons]
      exact ⟨faithful_text, GraphicsApi.faithful_codec, faithful_word, faithful_word,
        faithful_integer, faithful_word, faithful_word, faithful_truth, faithful_truth,
        List.forall_mem_nil _⟩
  | input =>
      simp only [schema, Input.schema, List.forall_mem_cons]
      exact ⟨faithful_text, faithful_text, List.forall_mem_nil _⟩
  | egl =>
      simp only [schema, Egl.schema, List.forall_mem_cons]
      exact ⟨faithful_truth, faithful_truth, faithful_truth, faithful_truth, List.forall_mem_nil _⟩
  | demo =>
      simp only [schema, Demo.schema, List.forall_mem_cons]
      exact ⟨faithful_orNull_longWord, faithful_longWord, List.forall_mem_nil _⟩

end Part

theorem separate_schema : Config.schema.Separate := by
  constructor <;> simp [Config.schema, Schema.Apart]

/-- Configurations with the same sections are the same. -/
theorem ext_of {c c' : Config} (same : ∀ part : Part, part.of c = part.of c') : c = c' := by
  refine lawful_schema.ext fun field listed => ?_
  rw [← Part.map_field] at listed
  obtain ⟨part, _, rfl⟩ := List.mem_map.mp listed
  exact same part

/-! ### Partial texts -/

/-- **The texts that give some fields of a section**, with the names of all their members. -/
def Part.Gives (part : Part) (c : Config) (names : List String) (s : List Char) : Prop :=
  part.schema.Gives (fun field value => field.codec.Shows (field.get (part.of c)) value) names s

/-- **The texts that give some fields of a configuration.**  The text is an object, with blanks around
it.  Its members are the sections among `sections`; a section is an object again, whose members are
the fields among `given` of that section.  Names that belong to no section or to no field may have any
value, and may be repeated. -/
def IsPartial (c : Config) (sections : List String) (given : Part → List String) (text : String) :
    Prop :=
  ∃ before s after, Blanks before ∧ Blanks after ∧ text.toList = before ++ (s ++ after) ∧
    Config.schema.Gives
      (fun field value => ∃ part : Part, field = part.field ∧ part.Gives c (given part) value)
      sections s

/-- **What is left of a configuration** when only some fields are given: those fields, and the default
of every other. -/
def Keeps (c : Config) (sections : List String) (given : Part → List String) (kept : Config) : Prop :=
  ∀ part : Part, ∀ field ∈ part.schema.fields,
    field.get (part.of kept) =
      if part.name ∈ sections ∧ field.name ∈ given part then field.get (part.of c)
      else field.get (part.of default)

/-- There is one configuration at most that is left. -/
theorem Keeps.unique {c kept kept' : Config} {sections : List String} {given : Part → List String}
    (keeps : c.Keeps sections given kept) (keeps' : c.Keeps sections given kept') : kept = kept' :=
  ext_of fun part => part.lawful_schema.ext fun field listed =>
    (keeps part field listed).trans (keeps' part field listed).symm

section Reading

variable (c : Config) (sections : List String) (given : Part → List String)

/-- The configuration whose sections have the given fields. -/
def filled : Config where
  video := (given .video).foldl (Video.schema.takeOver c.video) .default
  input := (given .input).foldl (Input.schema.takeOver c.input) .default
  egl := (given .egl).foldl (Egl.schema.takeOver c.egl) .default
  demo := (given .demo).foldl (Demo.schema.takeOver c.demo) .default

theorem of_filled (part : Part) :
    part.of (filled c given) =
      (given part).foldl (part.schema.takeOver (part.of c)) part.schema.default := by
  cases part <;> rfl

/-- **The configuration with the given fields of the given sections.** -/
def kept : Config := sections.foldl (Config.schema.takeOver (filled c given)) default

theorem keeps_kept : c.Keeps sections given (kept c sections given) := by
  intro part field listed
  have outer : part.of (kept c sections given) =
      if part.name ∈ sections then part.of (filled c given) else part.of default :=
    Schema.get_foldl_takeOver lawful_schema separate_schema part.field_mem (filled c given) default
      sections
  have inner := Schema.get_foldl_takeOver part.lawful_schema part.separate_schema listed
    (part.of c) part.schema.default (given part)
  rw [outer]
  by_cases named : part.name ∈ sections
  · rw [if_pos named, of_filled, inner, part.default_schema]
    simp only [named, true_and]
  · rw [if_neg named, if_neg fun both => named both.1]

end Reading

/-- **The text of a section is read** as the section with the given fields. -/
theorem Part.Gives.reads {c : Config} {given : Part → List String} {part : Part} {s : List Char}
    (gives : part.Gives c (given part) s) :
    part.schema.codec.Reads s (part.of (filled c given)) := by
  rw [of_filled]
  exact Schema.reads_gives (fun field listed text => part.faithful_codec field listed _ text) gives

/-- **A partial text is read, and as exactly what it gives**: the fields that it names have the values
of the configuration, and every other field has its default. -/
theorem parse_isPartial {c : Config} {sections : List String} {given : Part → List String}
    {text : String} (isPartial : c.IsPartial sections given text) :
    ∃ read, codec.parse text = .ok read ∧
      ∀ other, c.Keeps sections given other ↔ other = read := by
  obtain ⟨before, s, after, blanks, blanks', same, gives⟩ := isPartial
  have keeps := keeps_kept c sections given
  refine ⟨kept c sections given, ?_, fun other => ⟨fun keeps' => keeps'.unique keeps, ?_⟩⟩
  · have reads := Schema.reads_gives (r := filled c given) ?_ gives
    · exact reads.parse blanks blanks' same
    · rintro _ _ value ⟨part, rfl, gives⟩
      exact gives.reads
  · rintro rfl
    exact keeps

/-! ### A text among unknown names -/

/-- A value that nests. -/
def themeText : List Char := "[\x7b\"a\":\tnull\x7d]".toList

theorem derives_themeText : Derives .value themeText := by
  have null : Derives .value ('n' :: nullTail) := .word (by decide)
  have object := Derives.filled (.last (.member blanks_nil (isKey_writeString "a").isString
    blanks_nil (.element (by decide : Blanks ['\t']) null blanks_nil)))
  exact .filled (.last (.element blanks_nil object blanks_nil))

/-- A numeral with all its parts. -/
def rateText : List Char := "-1.5e3".toList

theorem derives_rateText : Derives .value rateText := by
  have single {c : Char} (digit : c.isDigit = true) : IsDigits [c] :=
    ⟨List.cons_ne_nil c [], List.forall_mem_singleton.mpr digit⟩
  have whole : IsWhole ['1'] := ⟨single rfl, by decide⟩
  have fraction : IsFraction ['.', '5'] := .given (single rfl)
  have exponent : IsExponent ['e', '3'] := .given (by decide) (by decide : [] ∈ _) (single rfl)
  exact .numeral (.parts (by decide : ['-'] ∈ _) whole fraction exponent)

/-- A configuration of which the texts below give the height alone. -/
def windowed : Config := { default with
  video := { Video.default with width := 1280, height := 720, fullscreen := false } }

/-- A member is written with blanks behind its value alone. -/
theorem isWritten_append (member : Member) {after : List Char} (blanks : Blanks after) :
    member.IsWritten
      ([] ++ (writeString member.name ++ ([] ++ ':' :: ([] ++ (member.value ++ after))))) :=
  .parts blanks_nil (isKey_writeString member.name) blanks_nil blanks_nil blanks

/-- A section with one of its fields, between two members that are none of them. -/
def heightText : List Char :=
  "\x7b\"fps\":-1.5e3,\"height\":720 ,\"fps\":[\x7b\"a\":\tnull\x7d]\x7d".toList

theorem gives_heightText :
    Part.video.Gives windowed ["fps", "height", "fps"] heightText := by
  refine ⟨[⟨"fps", rateText⟩, ⟨"height", writeNatural 720⟩, ⟨"fps", themeText⟩],
    .filled (.more (isWritten_append _ blanks_nil) (.more
      (isWritten_append _ (by decide : Blanks [' '])) (.last (isWritten_append _ blanks_nil)))),
    rfl, by decide +kernel, ?_⟩
  simp only [List.forall_mem_cons]
  exact ⟨derives_rateText, .written, derives_themeText, nofun⟩

/-- The fields of the text of the window's height. -/
def heightFields : Part → List String
  | .video => ["fps", "height", "fps"]
  | _ => []

/-- A text with this section behind another name that means nothing. -/
def heightDocument : String :=
  "\n\x7b\"theme\":-1.5e3,\"video\":" ++ String.ofList heightText ++ "\x7d"

theorem isPartial_heightDocument :
    windowed.IsPartial ["theme", "video"] heightFields heightDocument := by
  refine ⟨['\n'], _, [], by decide, blanks_nil, ?_, [⟨"theme", rateText⟩, ⟨"video", heightText⟩],
    .filled (.more (isWritten_append _ blanks_nil) (.last (isWritten_append _ blanks_nil))), rfl,
    by decide +kernel, ?_⟩
  · decide +kernel
  · simp only [List.forall_mem_cons]
    exact ⟨derives_rateText, ⟨.video, rfl, gives_heightText⟩, nofun⟩

/-- **The height alone is read** from such a text. -/
theorem parse_heightDocument :
    codec.parse heightDocument =
      .ok { default with video := { Video.default with height := 720 } } := by
  obtain ⟨read, parsed, only⟩ := parse_isPartial isPartial_heightDocument
  rw [parsed, ← (only { default with video := { Video.default with height := 720 } }).mp]
  intro part
  cases part <;>
    simp [Part.schema, Video.schema, Input.schema, Egl.schema, Demo.schema, Part.name, Part.of,
      Config.default, heightFields, windowed]

end Config

end Scanout
