import Scanout.Proofs.Config.Truncated
import Scanout.Proofs.Json.WellFormed

/-!
# Configurations are well-formed texts

A configuration is read from a list or an object that is well formed from its first character to its
last, be it a value that a field takes or one that is passed over under a name that no field has.

## Main results

* `Config.Document.wellFormed_of_parsed` — a text that is read
* `Config.wellFormed_of_load` — a file that is loaded
-/

namespace Scanout.Config

open Json

/-- **A text that is read is well formed** as a whole, be it read as the configuration or as a section
that stands alone. -/
theorem Document.wellFormed_of_parsed (document : Document) {text : String}
    {record : document.Record} (parsed : document.schema.codec.parse text = .ok record) :
    WellFormed text.toList :=
  Schema.wellFormed_of_parse document.steady_schema.alike parsed

/-- A section by position, and an unknown name with a half of a character and a number out of range in
what is passed over. -/
theorem wellFormed_skippedText :
    WellFormed " \x7b\"egl\":[true,false],\"x\":[\x7b\"\":\"\\ud800\"\x7d,-0e999]\x7d\n".toList := by
  have parsed : Document.whole.schema.codec.parse
      " \x7b\"egl\":[true,false],\"x\":[\x7b\"\":\"\\ud800\"\x7d,-0e999]\x7d\n" =
        .ok { default with egl := ⟨true, false, false, true⟩ } := by
    decide +kernel
  exact Document.whole.wellFormed_of_parsed parsed

/-- **A file that gives a configuration** holds a well-formed text, in bytes that are its encoding. -/
theorem wellFormed_of_load {contents : Path → Contents} {name : Path} {config : Config}
    (loaded : load contents name = .ok config) :
    ∃ text : String, contents name = .ok text.toByteArray.data.toList ∧ WellFormed text.toList := by
  unfold load at loaded
  split at loaded
  · cases loaded
  · next bytes file =>
    split at loaded
    · cases loaded
    · next text decoded =>
      split at loaded
      · cases loaded
      · next parsed =>
        refine ⟨text, ?_, Schema.wellFormed_of_parse steady_schema.alike parsed⟩
        have encoded : text.toByteArray = ⟨bytes.toArray⟩ := by
          unfold String.fromUTF8? at decoded
          split at decoded
          · cases decoded
            rfl
          · cases decoded
        rw [encoded, file]

end Scanout.Config
