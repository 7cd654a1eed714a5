import Scanout.Config.Schema
import Scanout.Proofs.Json.Records

/-!
# Configurations read back

The text of a configuration is a text of that configuration: whatever strings, numbers and truth
values its fields hold, reading the text gives the same configuration again.  The same holds for each
section alone, and for an API.

## Main result

* `Config.codecs_roundTrip`
-/

namespace Scanout

open Json Json.Codec

/-- Each API is found by its name. -/
theorem GraphicsApi.lawful_codec : GraphicsApi.codec.Lawful := by
  refine lawful_variant fun api => ?_
  cases api <;> decide

namespace Config

theorem Video.lawful_schema : Video.schema.Lawful where
  names := by decide +kernel
  codecs := by
    simp only [Video.schema, List.forall_mem_cons]
    exact ⟨lawful_text, GraphicsApi.lawful_codec, lawful_word, lawful_word, lawful_integer,
      lawful_word, lawful_word, lawful_truth, lawful_truth, nofun⟩
  copies := by
    intro v
    simp only [Video.schema, List.foldl_cons, List.foldl_nil, Field.copy]

theorem Input.lawful_schema : Input.schema.Lawful where
  names := by decide +kernel
  codecs := by
    simp only [Input.schema, List.forall_mem_cons]
    exact ⟨lawful_text, lawful_text, nofun⟩
  copies := by
    intro i
    simp only [Input.schema, List.foldl_cons, List.foldl_nil, Field.copy]

theorem Egl.lawful_schema : Egl.schema.Lawful where
  names := by decide +kernel
  codecs := by
    simp only [Egl.schema, List.forall_mem_cons]
    exact ⟨lawful_truth, lawful_truth, lawful_truth, lawful_truth, nofun⟩
  copies := by
    intro e
    simp only [Egl.schema, List.foldl_cons, List.foldl_nil, Field.copy]

theorem Demo.lawful_schema : Demo.schema.Lawful where
  names := by decide +kernel
  codecs := by
    simp only [Demo.schema, List.forall_mem_cons]
    exact ⟨lawful_orNull_longWord, lawful_longWord, nofun⟩
  copies := by
    intro d
    simp only [Demo.schema, List.foldl_cons, List.foldl_nil, Field.copy]

/-- The sections are lawful, so the configuration is. -/
theorem lawful_schema : Config.schema.Lawful where
  names := by decide +kernel
  codecs := by
    simp only [Config.schema, List.forall_mem_cons]
    exact ⟨Video.lawful_schema.codec, Input.lawful_schema.codec, Egl.lawful_schema.codec,
      Demo.lawful_schema.codec, nofun⟩
  copies := by
    intro c
    simp only [Config.schema, List.foldl_cons, List.foldl_nil, Field.copy]

/-- **A configuration is read back from its text**, and so is each section and each API. -/
theorem codecs_roundTrip :
    Config.codec.RoundTrips ∧ Video.schema.codec.RoundTrips ∧ Input.schema.codec.RoundTrips ∧
      Egl.schema.codec.RoundTrips ∧ Demo.schema.codec.RoundTrips ∧ GraphicsApi.codec.RoundTrips :=
  ⟨lawful_schema.codec.roundTrips, Video.lawful_schema.codec.roundTrips,
    Input.lawful_schema.codec.roundTrips, Egl.lawful_schema.codec.roundTrips,
    Demo.lawful_schema.codec.roundTrips, GraphicsApi.lawful_codec.roundTrips⟩

end Config

end Scanout
