import Scanout.Proofs.Config.Legible
import Scanout.Proofs.Json.Repeated

/-!
# Names that are given twice

No known name may be given twice in one object of a configuration.  Where one comes again, behind members
that are accepted, the text is rejected for it at once, however the key is spelled and whatever follows
it.  No text is rejected so for another reason: not for a name in two objects, nor for a name that no
field has.

## Main definition

* `Config.Document.Repeats` — a text of a document comes to a known name again

## Main result

* `Config.Document.rejected_iff_repeats`
-/

namespace Scanout.Config

open Json Json.Codec

/-- The fields of a section find no repeated name. -/
theorem Part.single_codec (part : Part) : ∀ field ∈ part.schema.fields, field.codec.Single := by
  have api : GraphicsApi.codec.Single := single_variant
  cases part with
  | video =>
      simp only [schema, Video.schema, List.forall_mem_cons]
      exact ⟨single_text, api, single_word, single_word, single_integer, single_word, single_word,
        single_truth, single_truth, List.forall_mem_nil _⟩
  | input =>
      simp only [schema, Input.schema, List.forall_mem_cons]
      exact ⟨single_text, single_text, List.forall_mem_nil _⟩
  | egl =>
      simp only [schema, Egl.schema, List.forall_mem_cons]
      exact ⟨single_truth, single_truth, single_truth, single_truth, List.forall_mem_nil _⟩
  | demo =>
      simp only [schema, Demo.schema, List.forall_mem_cons]
      exact ⟨single_orNull single_longWord, single_longWord, List.forall_mem_nil _⟩

namespace Document

/-- **A text of a document comes to a known name again**, in the object of the document or in that of a
section. -/
def Repeats (document : Document) (name : String) (s : List Char) : Prop :=
  ∃ inner t, Meets t document inner s ∧ inner.schema.Repeats name t

variable {document : Document} {name : String} {s : List Char}

/-- A section is at fault for a repeated name exactly where it repeats one. -/
theorem read_alone_iff {part : Part} :
    part.schema.read s = .error (.duplicateField name) ↔ part.schema.Repeats name s :=
  Schema.repeated_iff_of_single part.legible_schema part.single_codec

/-- **A document is at fault for a repeated name** exactly where it repeats one. -/
theorem read_iff_repeats :
    document.schema.read s = .error (.duplicateField name) ↔ document.Repeats name s := by
  constructor
  · intro failed
    cases document with
    | alone part => exact ⟨.alone part, s, .itself blanks_nil, read_alone_iff.mp failed⟩
    | whole =>
        rcases (Schema.repeated_iff Config.legible_schema).mp failed with
          repeats | ⟨field, t, reaches, failed⟩
        · exact ⟨.whole, s, .itself blanks_nil, repeats⟩
        · have listed := reaches.mem
          rw [← Part.map_field] at listed
          obtain ⟨part, -, rfl⟩ := List.mem_map.mp listed
          exact ⟨.alone part, t, .inside reaches, read_alone_iff.mp failed⟩
  · rintro ⟨inner, t, meets, repeats⟩
    exact meets.read_eq (repeats.read_eq inner.legible_schema)

/-- A text is at fault for a repeated name exactly if reading it is. -/
theorem parse_iff_read {text : String} :
    document.schema.codec.parse text = .error (.duplicateField name) ↔
      document.schema.read text.toList = .error (.duplicateField name) := by
  constructor
  · intro failed
    rcases error_of_bind failed with failed | ⟨found, -, failed⟩
    · exact failed
    · dsimp only at failed
      split at failed <;> cases failed
  · intro failed
    show (document.schema.read text.toList >>= _) = _
    rw [failed]
    rfl

/-- **A known name that is given twice in an object is always caught, and nothing else is taken for it.**
A text is rejected for a repeated name exactly if it comes to one, behind members that are accepted; this
is a data fault, which names the field.  And if every member of a document is accepted by itself, the
document is accepted exactly if no known name is given twice in its object, so a name may be given again in
another object, and unknown names at will. -/
theorem rejected_iff_repeats (document : Document) :
    (∀ (text name : String),
      document.schema.codec.parse text = .error (.duplicateField name) ↔
        document.Repeats name text.toList) ∧
    (∀ name, (Fault.duplicateField name).category = .data ∧
      (Fault.duplicateField name).message = "duplicate field `" ++ name ++ "`") ∧
    ∀ (members : List Member) (s : List Char), document.schema.IsWritten members s →
      (∀ member ∈ members, document.schema.Acceptable member) →
      ((∃ r, document.schema.codec.Accepts s r) ↔ document.schema.Distinct members) := by
  refine ⟨fun text name => parse_iff_read.trans read_iff_repeats, fun name => ⟨rfl, rfl⟩,
    fun members s is acceptable => ?_⟩
  have legible := document.legible_schema
  have accepts {r : document.Record} :=
    Schema.accepts_iff legible is (fun member among => (acceptable member among).value) (r := r)
  constructor
  · rintro ⟨r, accepted⟩
    exact (accepts.mp accepted).1
  · intro distinct
    obtain ⟨r, takes⟩ := Schema.exists_takes legible acceptable distinct
    exact ⟨r, accepts.mpr ⟨distinct, takes⟩⟩

end Document

/-! ### A name in two spellings -/

/-- Any value is accepted for a name that no section has. -/
theorem acceptable_fps {value : List Char} (derives : Derives .value value) :
    schema.Acceptable ⟨"fps", value⟩ :=
  ⟨derives, fun _ known => by cases (show schema.find? "fps" = none from rfl).symm.trans known⟩

theorem gathers_rate : schema.Gathers .object [⟨"fps", rateText⟩] "\x7b\"fps\":-1.5e3".toList := by
  refine ⟨Schema.Begun.opened.named blanks_nil (isWritten_append ⟨"fps", rateText⟩ blanks_nil),
    List.forall_mem_singleton.mpr (acceptable_fps derives_rateText), by decide +kernel⟩

theorem gathers_width : Video.schema.Gathers .object [⟨"width", ['1']⟩] "\x7b\"width\":1".toList := by
  have whole : IsWhole ['1'] := ⟨⟨List.cons_ne_nil _ _, List.forall_mem_singleton.mpr rfl⟩, by decide⟩
  have one : Derives .value ['1'] := .numeral (.parts (by decide : [] ∈ _) whole .missing .missing)
  refine ⟨Schema.Begun.opened.named blanks_nil (isWritten_append ⟨"width", ['1']⟩ blanks_nil),
    List.forall_mem_singleton.mpr ⟨one, fun field known => ?_⟩, by decide +kernel⟩
  cases (show Video.schema.find? "width" = some _ from rfl).symm.trans known
  exact ⟨(1 : UInt32), by decide +kernel⟩

/-- A section that gives the width twice, spelled in two ways, and is no JSON behind it. -/
def widthText : List Char := "\x7b\"width\":1, \"\\u0077idth\"?".toList

theorem repeats_widthText : Video.schema.Repeats "width" widthText := by
  obtain ⟨key, is, split⟩ := isKey_of_readString
    (show readString "\\u0077idth\"?".toList = .ok ("width", ['?']) by decide +kernel)
  have repeats := @Schema.Repeats.again _ Video.schema "width" _ [] _ [] [' '] key ['?'] gathers_width
    (by decide) (by decide) blanks_nil blanks_nil (by decide) is
  rwa [← split] at repeats

/-- A configuration with this section behind a name that means nothing. -/
def widthDocument : String := "\x7b\"fps\":-1.5e3,\"video\":" ++ String.ofList widthText

theorem repeats_widthDocument : Document.whole.Repeats "width" widthDocument.toList := by
  have reaches := Schema.Reaches.named (t := widthText) gathers_rate Part.video.field_mem (by decide)
    blanks_nil blanks_nil blanks_nil (isKey_writeString "video") blanks_nil
  have same : widthDocument.toList = "\x7b\"fps\":-1.5e3,\"video\":".toList ++ widthText := by
    decide +kernel
  rw [same]
  exact ⟨.alone .video, widthText, .inside reaches, repeats_widthText⟩

/-- **The width given twice is caught**, and an unknown name is not. -/
theorem rejected_widthDocument :
    codec.parse widthDocument = .error (.duplicateField "width") ∧
      ∃ config, codec.Accepts
        "\x7b\"fps\":-1.5e3,\"fps\":[\x7b\"a\":\tnull\x7d]\x7d".toList config := by
  obtain ⟨caught, -, apart⟩ := Document.whole.rejected_iff_repeats
  have twice := gathers_rate.begun.named blanks_nil (isWritten_append ⟨"fps", themeText⟩ blanks_nil)
  refine ⟨(caught widthDocument "width").mpr repeats_widthDocument, ?_⟩
  refine (apart _ _ (.closed twice blanks_nil) ?_).mpr (by decide +kernel)
  simp only [List.cons_append, List.nil_append, List.forall_mem_cons]
  exact ⟨acceptable_fps derives_rateText, acceptable_fps derives_themeText, List.forall_mem_nil _⟩

end Scanout.Config
