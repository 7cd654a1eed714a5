import Scanout.Proofs.Config.Legible
import Scanout.Proofs.Json.Forms

/-!
# The two forms of a configuration

A configuration and each of its sections may be given by position or by name.  Texts for the first
fields give the same record either way, the two forms may be nested at will, and a list with an element
more than there are fields is rejected, wherever it stands.

## Main definition

* `Config.nest` — a configuration of texts, each of its records in a form of its own

## Main result

* `Config.positional_eq_keyed`
-/

namespace Scanout.Config

open Json Json.Codec

/-- **A configuration of texts** for the fields of its first sections, each section and the whole in a
form of its own. -/
def nest (outer : Bracket) (inner : Part → Bracket) (count : Nat) (texts : Part → List (List Char)) :
    List Char :=
  schema.enclose outer ((Part.all.take count).map fun part => part.schema.enclose (inner part) (texts part))

section Nesting

variable {count : Nat} {texts : Part → List Char}

/-- The texts of the first sections, with the sections that they are for. -/
theorem zip_sections : schema.fields.zip ((Part.all.take count).map texts) =
    (Part.all.take count).map fun part => (part.field, texts part) := by
  have together (parts : List Part) : (parts.map Part.field).zip ((parts.take count).map texts) =
      (parts.take count).map fun part => (part.field, texts part) := by
    induction parts generalizing count with
    | nil => simp
    | cons part parts ih =>
        cases count with
        | zero => rfl
        | succ count => exact congrArg ((part.field, texts part) :: ·) ih
  rw [← Part.map_field]
  exact together Part.all

/-- The other sections are those behind the first ones. -/
theorem mem_drop_sections {part : Part} (other : part ∉ Part.all.take count) :
    part.field ∈ schema.fields.drop ((Part.all.take count).map texts).length := by
  have listed : part ∈ Part.all.take count ++ Part.all.drop count := by
    rw [List.take_append_drop]
    cases part <;> decide
  have behind := (List.mem_append.mp listed).resolve_left other
  have within : count ≤ Part.all.length := by
    by_contra beyond
    rw [List.drop_of_length_le (by omega)] at behind
    cases behind
  rw [← Part.map_field, List.length_map, List.length_take_of_le within, ← List.map_drop]
  exact List.mem_map_of_mem behind

/-- Texts of the first sections are texts for the first fields of a configuration. -/
theorem areTexts_sections (accepted : ∀ part ∈ Part.all.take count,
    ∃ r, part.schema.codec.Accepts (texts part) r) :
    schema.AreTexts ((Part.all.take count).map texts) := by
  refine ⟨?_, fun given among => ?_⟩
  · rw [← Part.map_field, List.length_map, List.length_map]
    exact List.length_take_le' count Part.all
  · rw [zip_sections] at among
    obtain ⟨part, listed, rfl⟩ := List.mem_map.mp among
    exact accepted part listed

/-- **What the texts of sections come down to**, section by section. -/
theorem of_fills {config : Config} (fills : schema.Fills ((Part.all.take count).map texts) config)
    (part : Part) :
    if part ∈ Part.all.take count then part.schema.codec.Accepts (texts part) (part.of config)
    else part.of config = part.of default := by
  split
  · next listed =>
    refine fills.given (part.field, texts part) ?_
    rw [zip_sections]
    exact List.mem_map_of_mem listed
  · next other => exact fills.others part.field (mem_drop_sections other)

end Nesting

/-- **Nested forms are read as one configuration**, whichever they are. -/
theorem exists_nest {count : Nat} {texts : Part → List (List Char)}
    (are : ∀ part ∈ Part.all.take count, part.schema.AreTexts (texts part)) :
    ∃ config : Config, (∀ outer inner, codec.Accepts (nest outer inner count texts) config) ∧
      ∀ part : Part, if part ∈ Part.all.take count then part.schema.Fills (texts part) (part.of config)
        else part.of config = part.of default := by
  have each (part : Part) : ∃ r, part ∈ Part.all.take count → part.schema.Fills (texts part) r ∧
      ∀ form, part.schema.codec.Accepts (part.schema.enclose form (texts part)) r := by
    by_cases listed : part ∈ Part.all.take count
    · obtain ⟨r, fills⟩ := Schema.exists_fills part.legible_schema (are part listed)
      exact ⟨r, fun _ => fills⟩
    · exact ⟨part.schema.default, fun given => absurd given listed⟩
  choose record records using each
  have whole (inner : Part → Bracket) : ∃ config : Config,
      (∀ part : Part, part.of config =
        if part ∈ Part.all.take count then record part else part.of default) ∧
      ∀ outer, codec.Accepts (nest outer inner count texts) config := by
    obtain ⟨config, fills, accepts⟩ := Schema.exists_fills legible_schema
      (@areTexts_sections count (fun part => part.schema.enclose (inner part) (texts part))
        fun part listed => ⟨record part, (records part listed).2 (inner part)⟩)
    refine ⟨config, fun part => ?_, accepts⟩
    have given := of_fills fills part
    split at given
    · next listed =>
      rw [if_pos listed]
      exact given.unique ((records part listed).2 (inner part))
    · next other => rw [if_neg other, given]
  -- a configuration is its sections, so the forms make no difference
  obtain ⟨config, sections, -⟩ := whole fun _ => .list
  refine ⟨config, fun outer inner => ?_, fun part => ?_⟩
  · obtain ⟨config', sections', accepts⟩ := whole inner
    rw [ext_of fun part => (sections part).trans (sections' part).symm]
    exact accepts outer
  · split
    · next listed =>
      rw [sections part, if_pos listed]
      exact (records part listed).1
    · next other => rw [sections part, if_neg other]

/-- **The two forms agree.**  Texts that are accepted for the first fields of a document are read as one
record, be they the elements of a list or the values behind the names of their fields: it has their values
there, and its default in the other fields.  The forms may be nested in any way.  A list that goes on
behind an element for each field is rejected, be it the document or a section that the text comes to. -/
theorem positional_eq_keyed :
    (∀ (document : Document) (texts : List (List Char)), document.schema.AreTexts texts →
      ∃ r, document.schema.Fills texts r ∧
        ∀ form, document.schema.codec.Accepts (document.schema.enclose form texts) r) ∧
    (∀ (count : Nat) (texts : Part → List (List Char)),
      (∀ part ∈ Part.all.take count, part.schema.AreTexts (texts part)) →
      ∃ config : Config, (∀ outer inner, codec.Accepts (nest outer inner count texts) config) ∧
        ∀ part : Part, if part ∈ Part.all.take count then part.schema.Fills (texts part) (part.of config)
          else part.of config = part.of default) ∧
    ∀ (document inner : Document) (texts : List (List Char)) (more : List Char) (text : String),
      inner.schema.AreTexts texts → texts.length = inner.schema.fields.length →
      Document.Meets ('[' :: (Schema.joinCommas texts ++ ',' :: more)) document inner text.toList →
      ∃ fault ∈ [Fault.trailingComma, .trailingCharacters],
        document.schema.codec.parse text = .error fault := by
  refine ⟨fun document texts are => Schema.exists_fills document.legible_schema are,
    fun count texts are => exists_nest are, fun document inner texts more text are all meets => ?_⟩
  obtain ⟨fault, kind, failed⟩ :=
    (are.overflows inner.legible_schema all more).exists_fault inner.legible_schema
  exact ⟨fault, kind, meets.parse_eq failed⟩

/-- Texts for the fields of two sections; the first of them leaves fields out. -/
def formTexts : Part → List (List Char)
  | .video => [" \"sdl\"".toList, "\"opengl\"\n".toList, "4".toList]
  | .input => []
  | .egl => []
  | .demo => ["null".toList, " 5".toList]

theorem areTexts_formTexts (part : Part) : part.schema.AreTexts (formTexts part) := by
  cases part with
  | video =>
      refine ⟨by decide, ?_⟩
      simp only [formTexts, Part.schema, Video.schema, List.zip_cons_cons, List.zip_nil_right,
        List.forall_mem_cons]
      exact ⟨⟨"sdl", by decide +kernel⟩, ⟨.openGl, by decide +kernel⟩, ⟨4, by decide +kernel⟩,
        List.forall_mem_nil _⟩
  | input => exact ⟨by decide, List.forall_mem_nil _⟩
  | egl => exact ⟨by decide, List.forall_mem_nil _⟩
  | demo =>
      refine ⟨by decide, ?_⟩
      simp only [formTexts, Part.schema, Demo.schema, List.zip_cons_cons, List.zip_nil_right,
        List.forall_mem_cons]
      exact ⟨⟨none, by decide +kernel⟩, ⟨5, by decide +kernel⟩, List.forall_mem_nil _⟩

/-- Texts for the sections before the last one. -/
def sectionTexts : List (List Char) := ["\x7b\x7d".toList, "[ ]".toList, "[true]".toList]

theorem areTexts_sectionTexts : schema.AreTexts sectionTexts := by
  refine ⟨by decide, ?_⟩
  simp only [sectionTexts, schema, List.zip_cons_cons, List.zip_nil_right, List.forall_mem_cons]
  exact ⟨⟨.default, by decide +kernel⟩, ⟨.default, by decide +kernel⟩,
    ⟨{ Egl.default with openGl := true }, by decide +kernel⟩, List.forall_mem_nil _⟩

/-- A list whose last section has a third element. -/
def overlongText : String := "[\x7b\x7d,[ ],[true] , [null, 5,\x7b"

theorem meets_overlongText :
    Document.Meets ('[' :: (Schema.joinCommas (formTexts .demo) ++ ',' :: ['\x7b'])) .whole
      (.alone .demo) overlongText.toList := by
  obtain ⟨trim, trims⟩ := areTexts_sectionTexts.exists_trim legible_schema
  have gathers := areTexts_sectionTexts.gathers legible_schema trims .list
  exact .inside (@Schema.Reaches.placed _ _ Part.demo.field _ _ [] _ [' '] [' '] _ _ gathers rfl
    blanks_nil (by decide) (by decide) rfl rfl (by decide))

/-- **Lists in an object and objects in a list** give one configuration, as a list and an object of a
section give one section, and a section with an element too many is rejected. -/
theorem nested_eq_keyed :
    (∃ video : Video, Video.schema.codec.Accepts "[ \"sdl\",\"opengl\"\n,4]".toList video ∧
      Video.schema.codec.Accepts
        "\x7b\"driver\": \"sdl\",\"api\":\"opengl\"\n,\"api_major\":4\x7d".toList video) ∧
    (∃ config : Config, codec.Accepts (nest .object (fun _ => .list) 4 formTexts) config ∧
      codec.Accepts (nest .list (fun _ => .object) 4 formTexts) config) ∧
    ∃ fault ∈ [Fault.trailingComma, .trailingCharacters], codec.parse overlongText = .error fault := by
  obtain ⟨flat, nested, overlong⟩ := positional_eq_keyed
  obtain ⟨video, -, accepts⟩ := flat (.alone .video) (formTexts .video) (areTexts_formTexts .video)
  obtain ⟨config, accepts', -⟩ := nested 4 formTexts fun part _ => areTexts_formTexts part
  exact ⟨⟨video, accepts .list, accepts .object⟩, ⟨config, accepts' _ _, accepts' _ _⟩,
    overlong .whole (.alone .demo) _ _ _ (areTexts_formTexts .demo) rfl meets_overlongText⟩

end Scanout.Config
