import Scanout.Proofs.Json.Reaches

/-!
# The two forms of a record

From texts for its first fields a record is written in two ways: as a list of the texts, or as an object
with each text behind the name of its field.  Both are read as the same record, which has the values of
the texts in its first fields and its default in the others.

## Main definitions

* `Json.Schema.AreTexts` — texts for the first fields of a record
* `Json.Schema.enclose` — the record of such texts, in either form
* `Json.Schema.Fills` — the record that such texts come down to

## Main results

* `Json.Schema.exists_fills` — both forms are read as one record
* `Json.Schema.AreTexts.overflows` — a list with an element more is at fault
-/

namespace Scanout.Json.Schema

variable {ρ : Type} {schema : Schema ρ}

/-- **Texts for the first fields of a record**, each of which is accepted for its field. -/
structure AreTexts (schema : Schema ρ) (texts : List (List Char)) : Prop where
  within : texts.length ≤ schema.fields.length
  accepted : ∀ given ∈ schema.fields.zip texts, ∃ value, given.1.codec.Accepts given.2 value

/-- **The record that texts for its first fields come down to**: their values there, and the default in
the other fields. -/
structure Fills (schema : Schema ρ) (texts : List (List Char)) (r : ρ) : Prop where
  given : ∀ given ∈ schema.fields.zip texts, given.1.codec.Accepts given.2 (given.1.get r)
  others : ∀ field ∈ schema.fields.drop texts.length, field.get r = field.get schema.default

/-- An item with a text for a field: the text alone in a list, and behind the name in an object. -/
def item : Bracket → Field ρ × List Char → List Char
  | .list, given => given.2
  | .object, given => writeString given.1.name ++ ':' :: given.2

/-- **A record of texts for its first fields**, as a list or as an object. -/
def enclose (schema : Schema ρ) (bracket : Bracket) (texts : List (List Char)) : List Char :=
  bracket.opening :: (joinCommas ((schema.fields.zip texts).map (item bracket)) ++ [bracket.closing])

/-! ### Members -/

/-- **The member that a text for a field comes down to**, without the blanks around its value. -/
structure Trims (given : Field ρ × List Char) (member : Member) : Prop where
  name : member.name = given.1.name
  element : IsElement member.value given.2
  derives : Derives .value member.value
  reads : ∃ value, given.1.codec.Reads member.value value

theorem Trims.exists_parts {given : Field ρ × List Char} {member : Member}
    (trims : Trims given member) :
    ∃ before after, Blanks before ∧ Blanks after ∧ given.2 = before ++ (member.value ++ after) := by
  generalize whole : given.2 = text
  obtain ⟨blanks, blanks'⟩ := whole ▸ trims.element
  exact ⟨_, _, blanks, blanks', rfl⟩

/-- What a text for a field comes down to has its value. -/
theorem Trims.accepts {given : Field ρ × List Char} {member : Member} (trims : Trims given member)
    {value : given.1.Value} (accepts : given.1.codec.Accepts member.value value) :
    given.1.codec.Accepts given.2 value := by
  obtain ⟨value', reads⟩ := trims.reads
  obtain rfl := accepts.unique reads.accepts_self
  obtain ⟨before, after, blanks, blanks', whole⟩ := trims.exists_parts
  rw [whole]
  exact reads.accepts blanks blanks'

section Texts

variable {texts : List (List Char)} {trim : Field ρ × List Char → Member}

/-- Texts that are accepted can be trimmed. -/
theorem AreTexts.exists_trim (legible : schema.Legible) (are : schema.AreTexts texts) :
    ∃ trim : Field ρ × List Char → Member, ∀ given ∈ schema.fields.zip texts,
      Trims given (trim given) := by
  have each (given : Field ρ × List Char) :
      ∃ member, given ∈ schema.fields.zip texts → Trims given member := by
    by_cases among : given ∈ schema.fields.zip texts
    · have known := (List.of_mem_zip among).1
      obtain ⟨value, accepts⟩ := are.accepted given among
      obtain ⟨lead, core, after, blanks, blanks', whole, derives, reads⟩ :=
        (legible.portable given.1 known).exists_core (legible.alike given.1 known) accepts
      exact ⟨⟨given.1.name, core⟩, fun _ =>
        ⟨rfl, whole ▸ .parts blanks blanks', derives, value, reads⟩⟩
    · exact ⟨⟨"", []⟩, fun listed => absurd listed among⟩
  choose trim trims using each
  exact ⟨trim, trims⟩

/-- A text for a field is an item of the member that it comes down to. -/
theorem Begun.item {bracket : Bracket} {done : List Member} {lead : List Char}
    (begun : schema.Begun bracket done lead) {given : Field ρ × List Char}
    (at_ : schema.fields[done.length]? = some given.1) {member : Member} (trims : Trims given member) :
    schema.Begun bracket (done ++ [member])
      (lead ++ (separator done.isEmpty ++ Schema.item bracket given)) := by
  obtain ⟨before, after, blanks, blanks', whole⟩ := trims.exists_parts
  obtain ⟨name, value⟩ := member
  obtain rfl : name = given.1.name := trims.name
  cases bracket with
  | list => exact .placed begun blanks_nil at_ trims.element
  | object =>
      have is := @Member.IsWritten.parts ⟨given.1.name, value⟩ [] _ [] before after blanks_nil
        (isKey_writeString given.1.name) blanks_nil blanks blanks'
      rw [Schema.item, whole]
      exact .named begun blanks_nil is

/-- **Texts for the next fields** are the next items. -/
theorem Begun.extend {bracket : Bracket} {lead : List Char} {done : List Member}
    (begun : schema.Begun bracket done lead) {given : List (Field ρ × List Char)}
    (trims : ∀ one ∈ given, Trims one (trim one))
    (next : given.map Prod.fst <+: schema.fields.drop done.length) (nonempty : given ≠ []) :
    schema.Begun bracket (done ++ given.map trim)
      (lead ++ (separator done.isEmpty ++ joinCommas (given.map (Schema.item bracket)))) := by
  induction given generalizing done lead with
  | nil => exact absurd rfl nonempty
  | cons one given ih =>
      obtain ⟨others, split⟩ := next
      rw [List.map_cons, List.cons_append] at split
      have at_ : schema.fields[done.length]? = some one.1 := by
        rw [← List.head?_drop, ← split]
        rfl
      have begun' := begun.item at_ (trims one List.mem_cons_self)
      cases given with
      | nil => exact begun'
      | cons second given =>
          have next' : (second :: given).map Prod.fst <+:
              schema.fields.drop (done ++ [trim one]).length := by
            refine ⟨others, ?_⟩
            rw [List.length_append, List.length_singleton, ← List.drop_drop, ← split]
            rfl
          have extended := ih begun' (fun other among => trims other (List.mem_cons_of_mem _ among))
            next' (List.cons_ne_nil _ _)
          rw [isEmpty_append] at extended
          simpa only [List.append_assoc, List.singleton_append, List.map_cons, joinCommas, separator,
            if_neg Bool.false_ne_true] using extended

theorem map_fst_zip_fields (within : texts.length ≤ schema.fields.length) :
    (schema.fields.zip texts).map Prod.fst = schema.fields.take texts.length := by
  rw [List.zip_eq_zip_take_min, Nat.min_eq_right within, List.take_length, List.map_fst_zip]
  rw [List.length_take]
  exact Nat.min_le_left _ _

/-- **Texts for the first fields make up items** of either form, with the same members. -/
theorem AreTexts.gathers (legible : schema.Legible) (are : schema.AreTexts texts)
    (trims : ∀ given ∈ schema.fields.zip texts, Trims given (trim given)) (bracket : Bracket) :
    schema.Gathers bracket ((schema.fields.zip texts).map trim)
      (bracket.opening :: joinCommas ((schema.fields.zip texts).map (Schema.item bracket))) := by
  have begun (bracket : Bracket) : schema.Begun bracket ((schema.fields.zip texts).map trim)
      (bracket.opening :: joinCommas ((schema.fields.zip texts).map (Schema.item bracket))) := by
    by_cases nothing : schema.fields.zip texts = []
    · rw [nothing]
      exact .opened
    · refine Begun.opened.extend trims ?_ nothing
      rw [map_fst_zip_fields are.within]
      exact List.take_prefix _ _
  refine ⟨begun bracket, ?_, (begun .list).distinct legible.lawful⟩
  refine List.forall_mem_map.mpr fun given among => ?_
  obtain ⟨value, reads⟩ := (trims given among).reads
  exact acceptable_of_accepts legible.lawful (List.of_mem_zip among).1 (trims given among).name
    (trims given among).derives reads.accepts_self

/-- **What the members come down to** has the values of the texts. -/
theorem Takes.fills (legible : schema.Legible) (are : schema.AreTexts texts)
    (trims : ∀ given ∈ schema.fields.zip texts, Trims given (trim given)) {r : ρ}
    (takes : schema.Takes ((schema.fields.zip texts).map trim) r) : schema.Fills texts r := by
  refine ⟨fun given among => ?_, fun field among => ?_⟩
  · have listed := (List.of_mem_zip among).1
    exact (trims given among).accepts
      ((takes given.1 listed).1 _ (List.mem_map_of_mem among) (trims given among).name)
  · refine (takes field (List.mem_of_mem_drop among)).2 fun named => ?_
    -- the names of the members are those of the first fields
    obtain ⟨member, listed, name⟩ := List.mem_map.mp named
    obtain ⟨given, listed', rfl⟩ := List.mem_map.mp listed
    have first : given.1 ∈ schema.fields.take texts.length := by
      rw [← map_fst_zip_fields are.within]
      exact List.mem_map_of_mem listed'
    refine List.disjoint_take_drop legible.lawful.names (Nat.le_refl texts.length)
      (a := field.name) ?_ ?_
    · rw [← name, (trims given listed').name, ← List.map_take]
      exact List.mem_map_of_mem first
    · rw [← List.map_drop]
      exact List.mem_map_of_mem among

/-- **Both forms of a record are read as one record**, which has the values of the texts in its first
fields and its default in the others. -/
theorem exists_fills (legible : schema.Legible) (are : schema.AreTexts texts) :
    ∃ r, schema.Fills texts r ∧ ∀ bracket, schema.codec.Accepts (schema.enclose bracket texts) r := by
  obtain ⟨trim, trims⟩ := are.exists_trim legible
  have gathers := are.gathers legible trims
  obtain ⟨r, takes⟩ := exists_takes legible (gathers .list).acceptable (gathers .list).distinct
  refine ⟨r, takes.fills legible are trims, fun bracket => ?_⟩
  have written : schema.IsWritten _ (schema.enclose bracket texts) :=
    .closed (gathers bracket).begun blanks_nil
  refine (accepts_iff legible written fun member among => ?_).mpr ⟨(gathers bracket).distinct, takes⟩
  exact ((gathers bracket).acceptable member among).value

/-- **A list with an element more** than there are fields is at fault. -/
theorem AreTexts.overflows (legible : schema.Legible) (are : schema.AreTexts texts)
    (all : texts.length = schema.fields.length) (more : List Char) :
    schema.Overflows ('[' :: (joinCommas texts ++ ',' :: more)) := by
  obtain ⟨trim, trims⟩ := are.exists_trim legible
  have gathers := are.gathers legible trims .list
  have elements : (schema.fields.zip texts).map (Schema.item .list) = texts :=
    List.map_snd_zip are.within
  rw [elements] at gathers
  refine .beyond gathers ?_ blanks_nil blanks_nil
  rw [List.length_map, List.length_zip, all, Nat.min_self]

end Texts

end Scanout.Json.Schema
