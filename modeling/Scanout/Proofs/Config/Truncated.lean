import Scanout.Config.Load
import Scanout.Proofs.Config.Partial
import Scanout.Proofs.Json.BreakingOff

/-!
# Configurations that break off

Every field of a configuration has a default, so nothing but the brackets tells whether a text of one
is whole.  A text that breaks off before its last bracket is rejected, wherever that is; and unless it
has an unknown key, whose value is passed over, it is rejected as a text that breaks off.

## Main definitions

* `Config.Document` — the configuration, or a section that stands alone
* `Config.Document.HasUnknownKey` — a text with a key that none of its records knows

## Main result

* `Config.Document.rejected_of_truncated`
-/

namespace Scanout.Config

open Json Json.Codec

/-! ### Sections -/

namespace Part

/-- The fields of a section may go on where the text breaks off, and their faults are final. -/
theorem open_codec (part : Part) : ∀ field ∈ part.schema.fields, Open field.codec.read := by
  have api : Open GraphicsApi.codec.read := (closed_variant GraphicsApi.all GraphicsApi.name).open
  cases part with
  | video =>
      simp only [schema, Video.schema, List.forall_mem_cons]
      exact ⟨closed_text.open, api, open_word, open_word, open_integer, open_word, open_word,
        closed_truth.open, closed_truth.open, List.forall_mem_nil _⟩
  | input =>
      simp only [schema, Input.schema, List.forall_mem_cons]
      exact ⟨closed_text.open, closed_text.open, List.forall_mem_nil _⟩
  | egl =>
      simp only [schema, Egl.schema, List.forall_mem_cons]
      exact ⟨closed_truth.open, closed_truth.open, closed_truth.open, closed_truth.open,
        List.forall_mem_nil _⟩
  | demo =>
      simp only [schema, Demo.schema, List.forall_mem_cons]
      exact ⟨open_orNull_longWord, open_longWord, List.forall_mem_nil _⟩

/-- The values of the fields of a section end where they end if they are passed over. -/
theorem endsAlike_codec (part : Part) : ∀ field ∈ part.schema.fields, field.codec.EndsAlike := by
  have api : GraphicsApi.codec.EndsAlike := endsAlike_variant GraphicsApi.all GraphicsApi.name
  cases part with
  | video =>
      simp only [schema, Video.schema, List.forall_mem_cons]
      exact ⟨endsAlike_text, api, endsAlike_word, endsAlike_word, endsAlike_integer, endsAlike_word,
        endsAlike_word, endsAlike_truth, endsAlike_truth, List.forall_mem_nil _⟩
  | input =>
      simp only [schema, Input.schema, List.forall_mem_cons]
      exact ⟨endsAlike_text, endsAlike_text, List.forall_mem_nil _⟩
  | egl =>
      simp only [schema, Egl.schema, List.forall_mem_cons]
      exact ⟨endsAlike_truth, endsAlike_truth, endsAlike_truth, endsAlike_truth, List.forall_mem_nil _⟩
  | demo =>
      simp only [schema, Demo.schema, List.forall_mem_cons]
      exact ⟨endsAlike_orNull endsAlike_longWord, endsAlike_longWord, List.forall_mem_nil _⟩

theorem steady_schema (part : Part) : part.schema.Steady :=
  ⟨fun field listed s => (part.open_codec field listed s).stable, part.endsAlike_codec⟩

/-- **A section without unknown keys may break off anywhere.** -/
theorem patient_read (part : Part) {s : List Char} (known : ¬part.schema.HasUnknownKey s) :
    Patient part.schema.codec.read s := by
  refine Schema.patient_read part.steady_schema known fun field v assigns => ?_
  exact patient_of_final (fun p => (part.open_codec field assigns.mem p).final) v

end Part

/-! ### The whole configuration -/

theorem steady_schema : schema.Steady := by
  have sections (field : Json.Field Config) (listed : field ∈ schema.fields) :
      (∀ s, StableAt field.codec.read s) ∧ field.codec.EndsAlike := by
    rw [← Part.map_field] at listed
    obtain ⟨part, _, rfl⟩ := List.mem_map.mp listed
    exact ⟨fun s => (Schema.extends_read part.steady_schema s).stable,
      Schema.endsAlike part.endsAlike_codec⟩
  exact ⟨fun field listed => (sections field listed).1, fun field listed => (sections field listed).2⟩

/-- **What a text may be read as**: the configuration, or a section that stands alone. -/
inductive Document where
  | whole
  | alone (part : Part)
  deriving DecidableEq, Repr

namespace Document

/-- The record that a text is read as. -/
abbrev Record : Document → Type
  | whole => Config
  | alone part => part.Record

/-- The schema of a document. -/
def schema : (document : Document) → Schema document.Record
  | whole => Config.schema
  | alone part => part.schema

/-- **A text with a key that is none of a field**, be it of the configuration or of a section in it. -/
def HasUnknownKey : Document → List Char → Prop
  | whole, s => Config.schema.HasUnknownKey s ∨
      ∃ (part : Part) (v : List Char), Config.schema.Assigns s part.field v ∧ part.schema.HasUnknownKey v
  | alone part, s => part.schema.HasUnknownKey s

theorem steady_schema : (document : Document) → document.schema.Steady
  | whole => Config.steady_schema
  | alone part => part.steady_schema

/-- **A text without unknown keys may break off anywhere.** -/
theorem patient_read (document : Document) {s : List Char} (known : ¬document.HasUnknownKey s) :
    Patient document.schema.codec.read s := by
  cases document with
  | alone part => exact part.patient_read known
  | whole =>
      refine Schema.patient_read Config.steady_schema (fun unknown => known (.inl unknown)) ?_
      intro field v assigns
      have listed := assigns.mem
      rw [← Part.map_field] at listed
      obtain ⟨part, _, rfl⟩ := List.mem_map.mp listed
      exact part.patient_read fun unknown => known (.inr ⟨part, v, assigns, unknown⟩)

/-- **A text that breaks off is rejected**, wherever a closing bracket is missing from it; and if the
text has no unknown key, then as one that breaks off. -/
theorem rejected_of_truncated (document : Document) {text cut : String} {more : List Char}
    {record : document.Record} (parsed : document.schema.codec.parse text = .ok record)
    (split : text.toList = cut.toList ++ more) {bracket : Bracket} (closes : bracket.closing ∈ more) :
    ∃ fault, document.schema.codec.parse cut = .error fault ∧
      (¬document.HasUnknownKey text.toList → fault.category = .unfinished) := by
  obtain ⟨fault, rejected, breaks⟩ := parse_beginning
    (Schema.extends_read document.steady_schema) parsed split (skipBlanks_ne_nil closes)
  exact ⟨fault, rejected, fun known => breaks (document.patient_read known)⟩

end Document

/-- **A file with a text that breaks off** gives no configuration. -/
theorem load_truncated {name : Path} {text cut : String} {more : List Char} {config : Config}
    (parsed : codec.parse text = .ok config) (split : text.toList = cut.toList ++ more)
    {bracket : Bracket} (closes : bracket.closing ∈ more) {contents : Path → Contents}
    (file : contents name = .ok cut.toByteArray.data.toList) :
    ∃ fault, load contents name = .error (.malformed name fault) := by
  obtain ⟨fault, rejected, -⟩ := parse_beginning (Schema.extends_read steady_schema) parsed split
    (skipBlanks_ne_nil closes)
  have bytes : String.fromUTF8? cut.toByteArray = some cut := dif_pos cut.isValidUTF8
  refine ⟨fault, ?_⟩
  rw [load, file]
  dsimp only
  rw [Array.toArray_toList, bytes]
  dsimp only
  rw [show codec.parse cut = _ from rejected]

/-! ### A text that breaks off inside a number -/

/-- A section with one of its fields. -/
def sizeText : List Char := "\x7b\"height\":720 \x7d".toList

/-- The member of the section. -/
def sizeMember : Member := ⟨"height", writeNatural 720⟩

theorem isObject_sizeText : IsObject [sizeMember] sizeText :=
  .filled (.last (isWritten_append sizeMember (by decide : Blanks [' '])))

/-- A text with this section alone. -/
def sizeDocument : String := "\x7b\"video\":" ++ String.ofList sizeText ++ "\x7d"

theorem isObject_sizeDocument : IsObject [⟨"video", sizeText⟩] sizeDocument.toList := by
  have whole : sizeDocument.toList =
      '\x7b' :: ([] ++ (writeString "video" ++ ([] ++ ':' :: ([] ++ (sizeText ++ [])))) ++ ['\x7d']) := by
    decide +kernel
  rw [whole]
  exact .filled (.last (isWritten_append ⟨"video", sizeText⟩ blanks_nil))

/-- The text has no unknown key. -/
theorem not_hasUnknownKey_sizeDocument : ¬Document.whole.HasUnknownKey sizeDocument.toList := by
  have inner : ∀ member ∈ [sizeMember], Derives .value member.value :=
    List.forall_mem_singleton.mpr (.numeral
      (.parts List.mem_cons_self (isWhole_toDigits 720) .missing .missing))
  have outer : ∀ member ∈ [(⟨"video", sizeText⟩ : Member)], Derives .value member.value :=
    List.forall_mem_singleton.mpr (isObject_sizeText.derives inner)
  rw [← List.append_nil sizeDocument.toList, ← List.nil_append (sizeDocument.toList ++ [])]
  rintro (unknown | ⟨part, v, assigns, unknown⟩)
  · obtain ⟨member, listed, unknown⟩ :=
      (Schema.hasUnknownKey_iff isObject_sizeDocument outer blanks_nil []).mp unknown
    obtain rfl := List.mem_singleton.mp listed
    have known : (schema.find? "video").isSome = true := by decide
    exact absurd (unknown ▸ known) (by decide)
  · obtain ⟨member, listed, found, before, after, blanks, rfl⟩ :=
      assigns.exists_member isObject_sizeDocument outer blanks_nil
    obtain rfl := List.mem_singleton.mp listed
    obtain rfl : part = .video := by
      have named : part.name = "video" := (Schema.mem_of_find? found).2
      cases part with
      | video => rfl
      | input | egl | demo => exact absurd named (by decide)
    obtain ⟨member, listed, unknown⟩ :=
      (Schema.hasUnknownKey_iff isObject_sizeText inner blanks after).mp unknown
    obtain rfl := List.mem_singleton.mp listed
    have known : (Part.video.schema.find? "height").isSome = true := by decide
    exact absurd (unknown ▸ known) (by decide)

/-- Where the text breaks off inside the number, it is rejected as one that breaks off. -/
theorem rejected_sizeDocument : ∃ fault,
    codec.parse "\x7b\"video\":\x7b\"height\":72" = .error fault ∧
      fault.category = .unfinished := by
  have parsed : codec.parse sizeDocument =
      .ok { default with video := { Video.default with height := 720 } } := by
    decide +kernel
  have split : sizeDocument.toList =
      "\x7b\"video\":\x7b\"height\":72".toList ++ ['0', ' ', '\x7d', '\x7d'] := by
    decide +kernel
  have closes : Bracket.object.closing ∈ ['0', ' ', '\x7d', '\x7d'] := by decide
  obtain ⟨fault, rejected, breaks⟩ := Document.whole.rejected_of_truncated parsed split closes
  exact ⟨fault, rejected, breaks not_hasUnknownKey_sizeDocument⟩

/-- Behind an unknown key, a numeral that breaks off is malformed. -/
example : codec.parse "\x7b\"fps\":-" = .error .invalidNumber := by decide +kernel

end Scanout.Config
