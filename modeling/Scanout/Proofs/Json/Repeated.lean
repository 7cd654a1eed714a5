import Scanout.Proofs.Json.Faults
import Scanout.Proofs.Json.Reaches

/-!
# Repeated names

That a name comes again is found where it comes again, and nowhere else: no other fault is worded like
this one.  So a record is at fault for a repeated name exactly if, behind items that are accepted, a known
name comes again, or the value of a field comes that is at fault for a repeated name itself.

## Main result

* `Json.Schema.repeated_iff`
-/

namespace Scanout.Json.Schema

variable {ρ : Type} {schema : Schema ρ} {name : String}

/-- **What is wrong behind a key**: the name was given before, there is no colon, or the value is at fault,
be it passed over or read. -/
theorem fault_of_readMember {seen : List String} {name : String} {built : ρ} {s : List Char}
    {fault : Fault} (failed : schema.readMember seen name built s = .error fault) :
    (∃ field, schema.find? name = some field ∧ name ∈ seen ∧ fault = .duplicateField name) ∨
      skipColon s = .error fault ∨
      ∃ v, skipColon s = .ok v ∧ (skipValue v = .error fault ∨
        ∃ field, schema.find? name = some field ∧ name ∉ seen ∧ field.codec.read v = .error fault) := by
  unfold readMember at failed
  split at failed
  · rcases error_of_bind failed with broke | ⟨v, colon, failed⟩
    · exact .inr (.inl broke)
    · rcases error_of_bind failed with broke | ⟨_, -, impossible⟩
      · exact .inr (.inr ⟨v, colon, .inl broke⟩)
      · cases impossible
  · next field known =>
    split at failed
    · next given =>
      cases failed
      exact .inl ⟨field, known, by simpa using given, rfl⟩
    · next new =>
      rcases error_of_bind failed with broke | ⟨v, colon, failed⟩
      · exact .inr (.inl broke)
      · rcases error_of_bind failed with failed | ⟨_, -, impossible⟩
        · rcases error_of_bind failed with broke | ⟨_, -, impossible⟩
          · exact .inr (.inr ⟨v, colon, .inr ⟨field, known, by simpa using new, broke⟩⟩)
          · cases impossible
        · cases impossible

/-- Where a known name is at fault for being given before, it was. -/
theorem repeats_of_readMember (legible : schema.Legible) {members : List Member}
    {text before lead blank blank' key s : List Char} {name' : String} {built : ρ}
    (gathers : schema.Gathers .object members lead) (blanks₁ : Blanks before) (blanks₂ : Blanks blank)
    (blanks₃ : Blanks blank') (is : IsKey name' key)
    (whole : text =
      before ++ (lead ++ (blank ++ (separator members.isEmpty ++ (blank' ++ (key ++ s))))))
    (failed : schema.readMember (schema.recalled members) name' built s =
      .error (.duplicateField name)) :
    schema.Repeats name text ∨
      ∃ field t, schema.Reaches field t text ∧ field.codec.read t = .error (.duplicateField name) := by
  have textual {α : Type} {step : Except Fault α} (finds : Finds Fault.Textual step) :
      step ≠ .error (.duplicateField name) := fun repeated => finds _ repeated rfl
  rcases fault_of_readMember failed with
    ⟨field, known, given, same⟩ | broke | ⟨v, colon, broke | ⟨field, known, new, broke⟩⟩
  · obtain ⟨listed, rfl⟩ := mem_of_find? known
    cases same
    have among := (mem_recalled legible.lawful listed members).mp given
    rw [isEmpty_of_mem among] at whole
    rw [whole]
    exact .inl (@Repeats.again _ schema _ members _ _ _ _ _ s gathers among
      (List.mem_map_of_mem listed) blanks₁ blanks₂ blanks₃ is)
  · exact absurd broke (textual (textual_skipColon s))
  · exact absurd broke (textual (textual_skipValue v))
  · obtain ⟨listed, rfl⟩ := mem_of_find? known
    have missing := (mem_recalled legible.lawful listed members).not.mp new
    obtain ⟨between, blanks₄, rfl⟩ := exists_of_skipColon colon
    rw [whole]
    exact .inr ⟨field, v, .named gathers listed missing blanks₁ blanks₂ blanks₃ is blanks₄, broke⟩

/-- **A record is at fault for a repeated name** exactly where it repeats one, or where the value of a
field does. -/
theorem repeated_iff (legible : schema.Legible) {s : List Char} :
    schema.read s = .error (.duplicateField name) ↔
      schema.Repeats name s ∨
        ∃ field t, schema.Reaches field t s ∧ field.codec.read t = .error (.duplicateField name) := by
  refine ⟨fun failed => ?_, ?_⟩
  · have textual {α : Type} {step : Except Fault α} (finds : Finds Fault.Textual step) :
        step ≠ .error (.duplicateField name) := fun repeated => finds _ repeated rfl
    obtain ⟨before, blanks, whole⟩ := exists_blanks s
    rcases exists_end legible s with
      ⟨fault, failed', ended | ⟨c, t, -, other⟩⟩ | ⟨bracket, members, lead, s', split, gathers, ends⟩
    · cases failed.symm.trans failed'
      cases ended.2
    · cases failed.symm.trans failed'
      exact absurd other.symm (single_mismatch _ c t name)
    · rw [failed] at ends
      rw [whole, split]
      cases bracket with
      | object =>
          cases ends with
          | key failed => exact absurd failed (textual (textual_readKey _ s'))
          | member key failed =>
              obtain ⟨blank, blank', text, blanks₂, blanks₃, is, rfl⟩ := parts_of_readKey key
              exact repeats_of_readMember legible gathers blanks blanks₂ blanks₃ is rfl failed
      | list =>
          cases ends with
          | next failed => exact absurd failed (textual (textual_findElement _ s'))
          | beyond _ failed => exact absurd failed (textual (textual_readEnd s'))
          | @element field v _ _ at_ goes failed =>
              obtain ⟨blank, blank', blanks₂, blanks₃, rfl, solid, c, t, begins, other⟩ :=
                parts_of_findElement goes
              have solid' : isBlank c = false := isBlank_of_skipBlanks (solid.trans begins)
              rcases error_of_bind failed with failed | ⟨_, -, impossible⟩
              · exact .inr ⟨field, v,
                  .placed gathers at_ blanks blanks₂ blanks₃ begins solid' other, failed⟩
              · cases impossible
  · rintro (repeats | ⟨field, t, reaches, failed⟩)
    · exact repeats.read_eq legible
    · exact reaches.read_eq legible failed

/-- **A record whose fields find no repeated name** is at fault for one exactly where it repeats one. -/
theorem repeated_iff_of_single (legible : schema.Legible)
    (single : ∀ field ∈ schema.fields, field.codec.Single) {s : List Char} :
    schema.read s = .error (.duplicateField name) ↔ schema.Repeats name s := by
  rw [repeated_iff legible, or_iff_left]
  rintro ⟨field, t, reaches, failed⟩
  exact single field reaches.mem t _ failed name rfl

end Scanout.Json.Schema
