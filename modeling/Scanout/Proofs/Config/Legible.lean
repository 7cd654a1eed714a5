import Scanout.Proofs.Config.Truncated
import Scanout.Proofs.Json.Reaches

/-!
# What texts of a configuration say

The values of all fields are read alike wherever they stand, so a section may as well stand alone as in a
configuration, where a list or an object may hold it.  A text of a document may come to a section of it
only behind items that are accepted.

## Main definitions

* `Config.Document.Meets` — a text comes to a record of the document

## Main results

* `Config.Document.legible_schema` — what is needed of the fields of a record holds in every document
* `Config.Document.Meets.parse_eq` — the fault of the record that comes is that of the text
-/

namespace Scanout.Config

open Json Json.Codec

namespace Part

/-- The values of the fields of a section are read alike wherever they stand. -/
theorem portable_codec (part : Part) : ∀ field ∈ part.schema.fields, field.codec.Portable := by
  have api : GraphicsApi.codec.Portable := portable_variant
  cases part with
  | video =>
      simp only [schema, Video.schema, List.forall_mem_cons]
      exact ⟨portable_text, api, portable_word, portable_word, portable_integer, portable_word,
        portable_word, portable_truth, portable_truth, List.forall_mem_nil _⟩
  | input =>
      simp only [schema, Input.schema, List.forall_mem_cons]
      exact ⟨portable_text, portable_text, List.forall_mem_nil _⟩
  | egl =>
      simp only [schema, Egl.schema, List.forall_mem_cons]
      exact ⟨portable_truth, portable_truth, portable_truth, portable_truth, List.forall_mem_nil _⟩
  | demo =>
      simp only [schema, Demo.schema, List.forall_mem_cons]
      exact ⟨portable_orNull portable_longWord endsAlike_longWord, portable_longWord,
        List.forall_mem_nil _⟩

theorem legible_schema (part : Part) : part.schema.Legible :=
  ⟨part.lawful_schema, part.separate_schema, part.portable_codec, part.endsAlike_codec⟩

end Part

theorem legible_schema : schema.Legible := by
  refine ⟨lawful_schema, separate_schema, fun field listed => ?_, steady_schema.alike⟩
  rw [← Part.map_field] at listed
  obtain ⟨part, -, rfl⟩ := List.mem_map.mp listed
  exact Schema.portable part.legible_schema

namespace Document

/-- **A document is known by its texts.** -/
theorem legible_schema : (document : Document) → document.schema.Legible
  | whole => Config.legible_schema
  | alone part => part.legible_schema

/-- **A text of a document comes to a record of it**: to the document itself, blanks before it, or in the
configuration to a section, behind accepted items.  What comes there begins with `t`. -/
inductive Meets (t : List Char) : (document inner : Document) → List Char → Prop
  | itself {document : Document} {before : List Char} : Blanks before →
      Meets t document document (before ++ t)
  | inside {part : Part} {s : List Char} : Config.schema.Reaches part.field t s →
      Meets t whole (alone part) s

variable {document inner : Document} {s t : List Char} {fault : Fault}

/-- The fault of the record that comes is that of the document. -/
theorem Meets.read_eq (meets : Meets t document inner s)
    (failed : inner.schema.read t = .error fault) : document.schema.read s = .error fault := by
  cases meets with
  | itself blanks =>
      rw [Schema.read, readFirst_append blanks]
      exact failed
  | inside reaches => exact reaches.read_eq Config.legible_schema failed

/-- **The fault of the record that comes is that of the text.** -/
theorem Meets.parse_eq {text : String} (meets : Meets t document inner text.toList)
    (failed : inner.schema.read t = .error fault) :
    document.schema.codec.parse text = .error fault := by
  show (document.schema.read text.toList >>= _) = _
  rw [meets.read_eq failed]
  rfl

end Document

end Scanout.Config
