import Mathlib.Data.List.Nodup
import Scanout.Proofs.Json.BreakingOff
import Scanout.Proofs.Json.Portable

/-!
# Records by name and by position

A record may be written as an object, its values behind the names of their fields, or as a list, its
values in the places of their fields.  Both are ways to give values to names, and nothing else decides
what is read: a text is one of a record if each known name is given once at most and the record holds,
in each field, the value that is given to its name, or else its default.

## Main definitions

* `Json.Schema.Begun`, `Json.Schema.IsWritten` — how a record is written in either form, with the members
  that its items come down to
* `Json.Schema.Takes` — the record that members come down to
* `Json.Schema.Legible` — what is needed of the fields of a record

## Main results

* `Json.Schema.Begun.exists_turns`, `.exists_left` — where reading a record stands behind some items
* `Json.Schema.exists_takes` — members that are accepted come down to a record
* `Json.Schema.accepts_iff` — what a text of a record is read as
-/

namespace Scanout.Json

/-! ### Values -/

/-- A value begins with something that is neither a blank nor a bracket that closes. -/
theorem Derives.exists_cons {s : List Char} (derives : Derives .value s) :
    ∃ c t, s = c :: t ∧ isBlank c = false ∧ ∀ bracket : Bracket, c ≠ bracket.closing := by
  obtain ⟨before, c, t, whole, blanks, solid, other⟩ := derives.exists_begin
  have first : ∃ d u, s = d :: u ∧ isBlank d = false := by
    cases derives with
    | word listed =>
        simp only [List.mem_cons, List.not_mem_nil, or_false] at listed
        rcases listed with rfl | rfl | rfl <;> exact ⟨_, _, rfl, rfl⟩
    | numeral is =>
        obtain ⟨c, t, rfl, begins⟩ := is.exists_begin
        exact ⟨c, t, rfl, Codec.isBlank_of_begins begins⟩
    | string is =>
        cases is
        exact ⟨_, _, rfl, rfl⟩
    | empty _ | filled _ => exact ⟨_, _, rfl, isBlank_opening _⟩
  -- so nothing stands before it
  cases before with
  | nil => exact ⟨c, t, whole, solid, other⟩
  | cons b before =>
      obtain ⟨d, u, same, solid'⟩ := first
      obtain ⟨rfl, -⟩ := List.cons.inj (same.symm.trans whole)
      rw [blanks d List.mem_cons_self] at solid'
      cases solid'

namespace Codec

variable {α : Type} {codec : Codec α}

/-- **What is read from a value of the grammar** is the whole of it. -/
theorem reads_of_read (portable : codec.Portable) (alike : codec.EndsAlike)
    {lead text rest after : List Char} {value : α} (derives : Derives .value text) (blanks : Blanks lead)
    (delimited : Delimited rest) (found : codec.read (lead ++ (text ++ rest)) = .ok (value, after)) :
    codec.Reads text value ∧ after = rest := by
  have skipped := skipValue_append blanks derives delimited
  obtain rfl : after = rest := Except.ok.inj ((alike found).symm.trans skipped)
  obtain ⟨c, t, whole, solid, -⟩ := derives.exists_cons
  obtain ⟨core, split, reads⟩ := portable found
  rw [skipBlanks_append blanks, whole, List.cons_append, skipBlanks_cons solid, ← List.cons_append,
    ← whole] at split
  rw [List.append_cancel_right split]
  exact ⟨reads, rfl⟩

/-- **A whole text that is a value of the grammar** is read as its value elsewhere. -/
theorem reads_of_accepts (portable : codec.Portable) (alike : codec.EndsAlike) {text : List Char}
    {value : α} (derives : Derives .value text) (accepts : codec.Accepts text value) :
    codec.Reads text value := by
  obtain ⟨⟨value', after⟩, read, ended⟩ := exists_ok_of_bind accepts
  rw [String.toList_ofList, ← List.append_nil text] at read
  obtain ⟨reads, -⟩ := reads_of_read portable alike derives blanks_nil delimited_nil read
  change (if (skipBlanks after).isEmpty then _ else _) = _ at ended
  split at ended
  · cases ended
    exact reads
  · cases ended

/-- The text of a value is accepted as it. -/
theorem Reads.accepts_self {text : List Char} {value : α} (reads : codec.Reads text value) :
    codec.Accepts text value := by
  have accepts := reads.accepts blanks_nil blanks_nil
  rwa [List.nil_append, List.append_nil] at accepts

/-- A whole text is that of one value. -/
theorem Accepts.unique {text : List Char} {value value' : α} (accepts : codec.Accepts text value)
    (accepts' : codec.Accepts text value') : value = value' :=
  Except.ok.inj (Eq.trans (Eq.symm accepts) accepts')

end Codec

/-- **How an element is written**, with blanks around its value. -/
inductive IsElement (value : List Char) : List Char → Prop
  | parts {before after : List Char} : Blanks before → Blanks after →
      IsElement value (before ++ (value ++ after))

namespace Schema

variable {ρ : Type} {schema : Schema ρ}

/-! ### Both forms -/

/-- **A record that has been begun**, with the members that its items come down to.  An element has the
name of the field in whose place it stands. -/
inductive Begun (schema : Schema ρ) : Bracket → List Member → List Char → Prop
  | opened {bracket : Bracket} : Begun schema bracket [] [bracket.opening]
  | named {members : List Member} {member : Member} {lead blank s : List Char} :
      Begun schema .object members lead → Blanks blank → member.IsWritten s →
      Begun schema .object (members ++ [member])
        (lead ++ (blank ++ (separator members.isEmpty ++ s)))
  | placed {members : List Member} {field : Field ρ} {lead blank value s : List Char} :
      Begun schema .list members lead → Blanks blank → schema.fields[members.length]? = some field →
      IsElement value s →
      Begun schema .list (members ++ [⟨field.name, value⟩])
        (lead ++ (blank ++ (separator members.isEmpty ++ s)))

/-- **The texts of a record** in either form, with the members that they come down to. -/
inductive IsWritten (schema : Schema ρ) (members : List Member) : List Char → Prop
  | closed {bracket : Bracket} {lead blank : List Char} : schema.Begun bracket members lead →
      Blanks blank → IsWritten schema members (lead ++ (blank ++ [bracket.closing]))

/-- **Members that give each known name once** at most. -/
def Distinct (schema : Schema ρ) (members : List Member) : Prop :=
  ∀ field ∈ schema.fields, (members.map Member.name).count field.name ≤ 1

instance (schema : Schema ρ) (members : List Member) : Decidable (schema.Distinct members) :=
  List.decidableBAll (fun field : Field ρ => (members.map Member.name).count field.name ≤ 1)
    schema.fields

/-- **A member that is accepted**: its value is one of the grammar and, if there is a field of its name,
one of the field. -/
structure Acceptable (schema : Schema ρ) (member : Member) : Prop where
  value : Derives .value member.value
  known : ∀ field, schema.find? member.name = some field →
    ∃ value, field.codec.Accepts member.value value

/-- **A member that a record holds**: its value is read as that of the field of its name. -/
structure Holds (schema : Schema ρ) (r : ρ) (member : Member) : Prop where
  value : Derives .value member.value
  known : ∀ field, schema.find? member.name = some field →
    field.codec.Reads member.value (field.get r)

/-- **The record that members come down to**: each field has the value that is given to its name, or its
default if none is. -/
def Takes (schema : Schema ρ) (members : List Member) (r : ρ) : Prop :=
  ∀ field ∈ schema.fields,
    (∀ member ∈ members, member.name = field.name → field.codec.Accepts member.value (field.get r)) ∧
      (field.name ∉ members.map Member.name → field.get r = field.get schema.default)

/-- **What is needed of the fields** of a record, so that it is known what a text of it says. -/
structure Legible (schema : Schema ρ) : Prop where
  lawful : schema.Lawful
  separate : schema.Separate
  portable : ∀ field ∈ schema.fields, field.codec.Portable
  alike : ∀ field ∈ schema.fields, field.codec.EndsAlike

/-- A member of the name of a field is accepted if its value is for the field. -/
theorem acceptable_of_accepts (lawful : schema.Lawful) {field : Field ρ} (listed : field ∈ schema.fields)
    {member : Member} (same : member.name = field.name) (derives : Derives .value member.value)
    {value : field.Value} (accepts : field.codec.Accepts member.value value) :
    schema.Acceptable member := by
  refine ⟨derives, fun field' known => ?_⟩
  rw [same, find?_name lawful listed] at known
  cases known
  exact ⟨value, accepts⟩

section Names

variable {members : List Member} {member : Member}

theorem Distinct.of_append (distinct : schema.Distinct (members ++ [member])) :
    schema.Distinct members := by
  intro field listed
  have bound := distinct field listed
  rw [List.map_append, List.count_append] at bound
  omega

/-- The name of another member is new, if it is that of a field. -/
theorem Distinct.new (distinct : schema.Distinct (members ++ [member])) {field : Field ρ}
    (listed : field ∈ schema.fields) (same : field.name = member.name) :
    member.name ∉ members.map Member.name := by
  have bound := distinct field listed
  rw [same, List.map_append, List.count_append, List.map_singleton, List.count_singleton_self] at bound
  exact List.count_eq_zero.mp (by omega)

/-- A name that is new may be given. -/
theorem Distinct.append (distinct : schema.Distinct members)
    (new : ∀ field ∈ schema.fields, field.name = member.name →
      member.name ∉ members.map Member.name) : schema.Distinct (members ++ [member]) := by
  intro field listed
  have bound := distinct field listed
  rw [List.map_append, List.count_append, List.map_singleton, List.count_singleton]
  split
  · next same =>
    have same : member.name = field.name := by simpa using same
    rw [← same, List.count_eq_zero.mpr (new field listed same.symm)]
  · omega

/-- There is one member at most of the name of a field. -/
theorem Distinct.eq_of_name (distinct : schema.Distinct members) {field : Field ρ}
    (listed : field ∈ schema.fields) {other : Member} (among : member ∈ members)
    (among' : other ∈ members) (same : member.name = field.name) (same' : other.name = field.name) :
    member = other := by
  have short : (members.filter fun given => given.name == field.name).length ≤ 1 := by
    have bound := distinct field listed
    rwa [List.count, List.countP_map, List.countP_eq_length_filter] at bound
  have found : member ∈ members.filter fun given => given.name == field.name :=
    List.mem_filter.mpr ⟨among, beq_iff_eq.mpr same⟩
  have found' : other ∈ members.filter fun given => given.name == field.name :=
    List.mem_filter.mpr ⟨among', beq_iff_eq.mpr same'⟩
  obtain ⟨only, whole⟩ := List.length_eq_one_iff.mp
    (Nat.le_antisymm short (List.length_pos_of_mem found))
  rw [whole, List.mem_singleton] at found found'
  exact found.trans found'.symm

/-- **All members are accepted** if one is, and those of other names are. -/
theorem Distinct.forall_acceptable (distinct : schema.Distinct members) {field : Field ρ}
    (listed : field ∈ schema.fields) (among : member ∈ members) (same : member.name = field.name)
    (accepted : schema.Acceptable member)
    (others : ∀ given ∈ members, given.name = field.name ∨ schema.Acceptable given) :
    ∀ given ∈ members, schema.Acceptable given := by
  intro given among'
  rcases others given among' with same' | acceptable
  · rwa [distinct.eq_of_name listed among' among same' same]
  · exact acceptable

theorem distinct_nil : schema.Distinct [] := fun _ _ => Nat.zero_le _

/-- **Elements are given in the order of their fields.** -/
theorem Begun.names {lead : List Char} (begun : schema.Begun .list members lead) :
    members.map Member.name = (schema.fields.map Field.name).take members.length := by
  generalize kind : Bracket.list = bracket at begun
  induction begun with
  | opened => rfl
  | named => cases kind
  | @placed members field _ _ value _ _ _ at_ _ ih =>
      have name : (schema.fields.map Field.name)[members.length]? = some field.name := by
        rw [List.getElem?_map, at_]
        rfl
      rw [List.map_append, List.length_append, List.length_singleton, List.take_add_one, name, ← ih kind]
      rfl

/-- No two elements have one name. -/
theorem Begun.distinct {lead : List Char} (begun : schema.Begun .list members lead)
    (lawful : schema.Lawful) : schema.Distinct members := by
  intro field _
  rw [begun.names]
  exact List.nodup_iff_count_le_one.mp (lawful.names.sublist (List.take_sublist _ _)) field.name

end Names

/-! ### Where reading stands -/

/-- The names that are remembered behind members. -/
def recalled (schema : Schema ρ) (members : List Member) : List String :=
  (members.map Member.name).foldl schema.remember []

/-- The record that has been read behind members, if each is read as the value of another record. -/
def gathered (schema : Schema ρ) (r : ρ) (members : List Member) : ρ :=
  (members.map Member.name).foldl (schema.takeOver r) schema.default

theorem recalled_append (members : List Member) (member : Member) :
    schema.recalled (members ++ [member]) = schema.remember (schema.recalled members) member.name := by
  rw [recalled, List.map_append, List.foldl_append]
  rfl

theorem gathered_append (r : ρ) (members : List Member) (member : Member) :
    schema.gathered r (members ++ [member]) =
      schema.takeOver r (schema.gathered r members) member.name := by
  rw [gathered, List.map_append, List.foldl_append]
  rfl

theorem mem_remember (lawful : schema.Lawful) {field : Field ρ} (listed : field ∈ schema.fields)
    (seen : List String) (name : String) :
    field.name ∈ schema.remember seen name ↔ field.name = name ∨ field.name ∈ seen := by
  unfold remember
  cases found : schema.find? name with
  | none =>
      refine ⟨.inr, fun either => either.resolve_left ?_⟩
      rintro rfl
      rw [find?_name lawful listed] at found
      cases found
  | some _ => exact List.mem_cons

/-- **The known names among those given are remembered.** -/
theorem mem_recalled (lawful : schema.Lawful) {field : Field ρ} (listed : field ∈ schema.fields)
    (members : List Member) :
    field.name ∈ schema.recalled members ↔ field.name ∈ members.map Member.name := by
  induction members using List.reverseRecOn with
  | nil => rfl
  | append_singleton members member ih =>
      rw [recalled_append, mem_remember lawful listed, ih, List.map_append, List.mem_append,
        List.map_singleton, List.mem_singleton, or_comm]

theorem isEmpty_append (members : List Member) (member : Member) :
    (members ++ [member]).isEmpty = false :=
  List.isEmpty_eq_false_iff.mpr (List.append_ne_nil_of_right_ne_nil _ (List.cons_ne_nil _ _))

theorem drop_of_getElem? {fields : List (Field ρ)} {n : Nat} {field : Field ρ}
    (at_ : fields[n]? = some field) : fields.drop n = field :: fields.drop (n + 1) := by
  obtain ⟨bound, rfl⟩ := List.getElem?_eq_some_iff.mp at_
  exact List.drop_eq_getElem_cons bound

/-- An item behind a comma, or the first one, takes a character at least. -/
theorem length_le_of_item (blank rest : List Char) (first : Bool) {s : List Char} (some : s ≠ []) :
    rest.length + 1 ≤ (blank ++ (separator first ++ (s ++ rest))).length := by
  have := List.length_pos_iff.mpr some
  simp only [List.length_append]
  omega

/-- A comma ends every numeral, blanks before it or not. -/
theorem delimited_separator (members : List Member) {blank : List Char} (blanks : Blanks blank)
    (rest : List Char) :
    members = [] ∨ Delimited (blank ++ (separator members.isEmpty ++ rest)) := by
  cases members with
  | nil => exact .inl rfl
  | cons => exact .inr ((delimited_cons (c := ',') (by rfl)).blanks blanks)

section Standing

variable {r : ρ} {members : List Member} {lead : List Char}

/-- A member that a record holds may be read as the value there. -/
theorem Holds.admits {member : Member} (holds : schema.Holds r member) :
    schema.Admits (fun field text => field.codec.Reads text (field.get r)) member := by
  unfold Admits
  cases found : schema.find? member.name with
  | none => exact holds.value
  | some field => exact holds.known field found

/-- The name of another member is not remembered, if it is that of a field. -/
theorem Distinct.not_recalled (lawful : schema.Lawful) {member : Member}
    (distinct : schema.Distinct (members ++ [member])) :
    ∀ field ∈ schema.fields, field.name = member.name → member.name ∉ schema.recalled members := by
  intro field listed same
  rw [← same, mem_recalled lawful listed, same]
  exact distinct.new listed same

/-- **Where reading an object stands** behind some of its members. -/
theorem Begun.exists_turns (lawful : schema.Lawful) (begun : schema.Begun .object members lead)
    (holds : ∀ member ∈ members, schema.Holds r member) (distinct : schema.Distinct members)
    {before : List Char} (blanks : Blanks before) {rest : List Char}
    (apart : members = [] ∨ Delimited rest) :
    ∃ after turns, Blanks after ∧ rest.length ≤ turns ∧
      schema.read (before ++ (lead ++ rest)) =
        schema.readMembers (turns + 1) members.isEmpty (schema.recalled members)
          (schema.gathered r members) (after ++ rest) := by
  generalize kind : Bracket.object = bracket at begun
  induction begun generalizing rest with
  | opened =>
      subst kind
      refine ⟨[], rest.length, blanks_nil, Nat.le_refl _, ?_⟩
      rw [read, readFirst_append blanks]
      rfl
  | @named members member lead blank s _ blanks' is ih =>
      obtain ⟨after, turns, blanks₁, enough, reading⟩ :=
        ih (fun other listed => holds other (List.mem_append_left _ listed)) distinct.of_append
          (delimited_separator members blanks' (s ++ rest)) kind
      have delimited : Delimited rest := apart.resolve_left (by simp)
      have some : s ≠ [] := by
        cases is
        simp
      have held := holds member (List.mem_append_right _ List.mem_cons_self)
      obtain ⟨turns, rfl⟩ : ∃ others, turns = others + 1 :=
        ⟨turns - 1, by have := length_le_of_item blank rest members.isEmpty some; omega⟩
      obtain ⟨after', blanks₂, turn⟩ := exists_readMembers_member (fun _ _ _ reads => reads) is
        held.admits (distinct.not_recalled lawful) (blanks_append blanks₁ blanks') delimited
        members.isEmpty (schema.gathered r members) (turns + 1)
      refine ⟨after', turns, blanks₂, ?_, ?_⟩
      · have := length_le_of_item blank rest members.isEmpty some
        omega
      · simp only [List.append_assoc] at reading turn ⊢
        rw [reading, turn, recalled_append, gathered_append, isEmpty_append]
  | placed => cases kind

/-- An element is found, with blanks around what separates it from the one before. -/
theorem findElement_append {blank before t : List Char} {c : Char} (blanks : Blanks blank)
    (blanks' : Blanks before) (solid : isBlank c = false) (other : c ≠ Bracket.list.closing)
    (first : Bool) :
    findElement first (blank ++ (separator first ++ (before ++ c :: t))) = .ok (true, c :: t) := by
  cases first with
  | true =>
      show findElement true (blank ++ (before ++ c :: t)) = _
      rw [findElement, skipBlanks_append blanks, skipBlanks_solid blanks' solid]
      exact if_neg other
  | false =>
      have separated : readSeparator false ',' (before ++ c :: t) = .ok (c :: t) := by
        rw [readSeparator, if_neg (by decide), if_pos rfl, skipBlanks_solid blanks' solid]
        exact if_neg other
      show findElement false (blank ++ ',' :: (before ++ c :: t)) = _
      rw [findElement, skipBlanks_solid blanks (by rfl)]
      dsimp only
      rw [if_neg (by decide), separated]
      rfl

/-- **One turn reads an element** as the value of the field in whose place it stands. -/
theorem exists_readElements_element (lawful : schema.Lawful) {field : Field ρ}
    (listed : field ∈ schema.fields) (fields : List (Field ρ)) {value s : List Char}
    (is : IsElement value s) (holds : schema.Holds r ⟨field.name, value⟩) {blank : List Char}
    (blanks : Blanks blank) {rest : List Char} (delimited : Delimited rest) (first : Bool) (built : ρ) :
    ∃ after, Blanks after ∧
      readElements (field :: fields) first built (blank ++ (separator first ++ (s ++ rest))) =
        readElements fields false (schema.takeOver r built field.name) (after ++ rest) := by
  cases is with
  | @parts before after blanks₁ blanks₂ =>
      have known := find?_name lawful listed
      have read := holds.known field known [] (after ++ rest) blanks_nil (delimited.blanks blanks₂)
      obtain ⟨c, t, whole, solid, other⟩ := holds.value.exists_cons
      have goes := findElement_append (t := t ++ (after ++ rest)) blanks blanks₁ solid (other .list)
        first
      rw [← List.cons_append, ← show value = c :: t from whole] at goes
      refine ⟨after, blanks₂, ?_⟩
      simp only [List.append_assoc]
      rw [readElements_cons, goes]
      show (field.readInto built (value ++ (after ++ rest)) >>= _) = _
      rw [Field.readInto, show field.codec.read (value ++ (after ++ rest)) = _ from read, takeOver, known]
      rfl

/-- **Where reading a list stands** behind some of its elements. -/
theorem Begun.exists_left (lawful : schema.Lawful) (begun : schema.Begun .list members lead)
    (holds : ∀ member ∈ members, schema.Holds r member) {before : List Char}
    (blanks : Blanks before) {rest : List Char} (apart : members = [] ∨ Delimited rest) :
    ∃ after, Blanks after ∧
      schema.read (before ++ (lead ++ rest)) =
        readElements (schema.fields.drop members.length) members.isEmpty
          (schema.gathered r members) (after ++ rest) := by
  generalize kind : Bracket.list = bracket at begun
  induction begun generalizing rest with
  | opened =>
      subst kind
      refine ⟨[], blanks_nil, ?_⟩
      rw [read, readFirst_append blanks]
      rfl
  | @placed members field lead blank value s _ blanks' at_ is ih =>
      obtain ⟨after, blanks₁, reading⟩ :=
        ih (fun other listed => holds other (List.mem_append_left _ listed))
          (delimited_separator members blanks' (s ++ rest)) kind
      have delimited : Delimited rest := apart.resolve_left (by simp)
      obtain ⟨after', blanks₂, turn⟩ := exists_readElements_element lawful
        (List.mem_of_getElem? at_) (schema.fields.drop (members.length + 1)) is
        (holds _ (List.mem_append_right _ List.mem_cons_self)) (blanks_append blanks₁ blanks') delimited
        members.isEmpty (schema.gathered r members)
      refine ⟨after', blanks₂, ?_⟩
      simp only [List.append_assoc] at reading turn ⊢
      rw [reading, drop_of_getElem? at_, turn, gathered_append, isEmpty_append, List.length_append]
      rfl
  | named => cases kind

/-- The closing bracket ends the elements. -/
theorem readElements_closed {after : List Char} (blanks : Blanks after) (fields : List (Field ρ))
    (first : Bool) (built : ρ) (rest : List Char) :
    readElements fields first built (after ++ ']' :: rest) = .ok (built, rest) := by
  cases fields with
  | nil =>
      show (readEnd _ >>= _) = _
      rw [readEnd, skipBlanks_solid blanks (by rfl)]
      rfl
  | cons field fields =>
      rw [readElements, skipBlanks_solid blanks (by rfl)]
      rfl

/-- **A record whose members another record holds is read**: their values are gathered. -/
theorem IsWritten.read_append (lawful : schema.Lawful) {s : List Char}
    (is : schema.IsWritten members s) (holds : ∀ member ∈ members, schema.Holds r member)
    (distinct : schema.Distinct members) {before : List Char} (blanks : Blanks before)
    (rest : List Char) :
    schema.read (before ++ (s ++ rest)) = .ok (schema.gathered r members, rest) := by
  cases is with
  | @closed bracket lead blank begun blanks' =>
      have delimited : Delimited (blank ++ bracket.closing :: rest) :=
        (delimited_closing bracket rest).blanks blanks'
      simp only [List.append_assoc, List.singleton_append]
      cases bracket with
      | object =>
          obtain ⟨after, turns, blanks₁, -, reading⟩ :=
            begun.exists_turns lawful holds distinct blanks (.inr delimited)
          rw [reading, ← List.append_assoc]
          exact readMembers_closed (blanks_append blanks₁ blanks') _ _ _ rest turns
      | list =>
          obtain ⟨after, blanks₁, reading⟩ := begun.exists_left lawful holds blanks (.inr delimited)
          rw [reading, ← List.append_assoc]
          exact readElements_closed (blanks_append blanks₁ blanks') _ _ _ rest

end Standing

/-! ### Members and the record -/

section Records

variable {r : ρ} {members : List Member}

/-- Putting a value into one field leaves the fields of other names alone. -/
theorem Separate.get_set (separate : schema.Separate) {field other : Field ρ}
    (listed : field ∈ schema.fields) (listed' : other ∈ schema.fields) (apart : field.name ≠ other.name)
    (value : other.Value) (r : ρ) : field.get (other.set value r) = field.get r := by
  refine (separate.apart.forall listed listed' ?_).1 value r
  rintro rfl
  exact apart rfl

/-- **Members that are accepted are held by a record**, if each known name is given once. -/
theorem exists_holds (legible : schema.Legible)
    (acceptable : ∀ member ∈ members, schema.Acceptable member) (distinct : schema.Distinct members) :
    ∃ r, ∀ member ∈ members, schema.Holds r member := by
  induction members using List.reverseRecOn with
  | nil => exact ⟨schema.default, nofun⟩
  | append_singleton members member ih =>
      obtain ⟨r, holds⟩ := ih (fun other listed => acceptable other (List.mem_append_left _ listed))
        distinct.of_append
      obtain ⟨derives, known⟩ := acceptable member (List.mem_append_right _ List.mem_cons_self)
      cases found : schema.find? member.name with
      | none =>
          refine ⟨r, List.forall_mem_append.mpr ⟨holds, List.forall_mem_singleton.mpr ⟨derives, ?_⟩⟩⟩
          exact fun field found' => by cases found.symm.trans found'
      | some field =>
          obtain ⟨listed', same⟩ := mem_of_find? found
          obtain ⟨value, accepts⟩ := known field found
          refine ⟨field.set value r, List.forall_mem_append.mpr ⟨fun other before => ?_,
            List.forall_mem_singleton.mpr ⟨derives, fun field' found' => ?_⟩⟩⟩
          · -- a member before has another name, so its value stays
            refine ⟨(holds other before).value, fun field' found' => ?_⟩
            obtain ⟨listed'', same'⟩ := mem_of_find? found'
            rw [legible.separate.get_set listed'' listed' ?_]
            · exact (holds other before).known field' found'
            · rintro name
              refine distinct.new listed' same ?_
              rw [← same, ← name, same']
              exact List.mem_map_of_mem before
          · cases found.symm.trans found'
            rw [legible.separate.held field listed']
            exact Codec.reads_of_accepts (legible.portable field listed') (legible.alike field listed')
              derives accepts

/-- **A record that is gathered from members** is what they come down to. -/
theorem takes_gathered (legible : schema.Legible)
    (holds : ∀ member ∈ members, schema.Holds r member) :
    schema.Takes members (schema.gathered r members) := by
  intro field listed
  have value := get_foldl_takeOver legible.lawful legible.separate listed r schema.default
    (members.map Member.name)
  refine ⟨fun member among same => ?_, fun missing => value.trans (if_neg missing)⟩
  have named : field.name ∈ members.map Member.name := same ▸ List.mem_map_of_mem among
  have found : schema.find? member.name = some field := by rw [same, find?_name legible.lawful listed]
  rw [show field.get (schema.gathered r members) = field.get r from value.trans (if_pos named)]
  exact ((holds member among).known field found).accepts_self

/-- What members come down to holds them. -/
theorem Takes.holds (legible : schema.Legible) (takes : schema.Takes members r)
    (values : ∀ member ∈ members, Derives .value member.value) :
    ∀ member ∈ members, schema.Holds r member := by
  refine fun member among => ⟨values member among, fun field found => ?_⟩
  obtain ⟨listed, same⟩ := mem_of_find? found
  exact Codec.reads_of_accepts (legible.portable field listed) (legible.alike field listed)
    (values member among) ((takes field listed).1 member among same.symm)

/-- What members come down to is gathered from it. -/
theorem Takes.gathered_eq (legible : schema.Legible) (takes : schema.Takes members r) :
    schema.gathered r members = r := by
  refine legible.lawful.ext fun field listed => ?_
  rw [gathered, get_foldl_takeOver legible.lawful legible.separate listed]
  split
  · rfl
  · next missing => exact ((takes field listed).2 missing).symm

/-- **Members that are accepted come down to a record**, if each known name is given once. -/
theorem exists_takes (legible : schema.Legible)
    (acceptable : ∀ member ∈ members, schema.Acceptable member) (distinct : schema.Distinct members) :
    ∃ r, schema.Takes members r := by
  obtain ⟨r, holds⟩ := exists_holds legible acceptable distinct
  exact ⟨_, takes_gathered legible holds⟩

end Records

/-! ### What is read -/

/-- What is read behind a key is accepted, and the name is new. -/
theorem acceptable_of_readMember (legible : schema.Legible) {member : Member} {seen : List String}
    {built : ρ} {between lead rest : List Char} (value : Derives .value member.value)
    (blanks : Blanks between) (blanks' : Blanks lead) (delimited : Delimited rest)
    {found : (List String × ρ) × List Char}
    (read : schema.readMember seen member.name built
      (between ++ ':' :: (lead ++ (member.value ++ rest))) = .ok found) :
    schema.Acceptable member ∧
      ∀ field ∈ schema.fields, field.name = member.name → member.name ∉ seen := by
  obtain ⟨s, colon, read⟩ := exists_of_readMember read
  cases (skipColon_append blanks _).symm.trans colon
  rcases read with ⟨unknown, -, -⟩ | ⟨field, given, known, new, read, -⟩
  · refine ⟨⟨value, fun field known => by cases unknown.symm.trans known⟩, fun field listed same => ?_⟩
    rw [← same, find?_name legible.lawful listed] at unknown
    cases unknown
  · obtain ⟨listed, same⟩ := mem_of_find? known
    obtain ⟨reads, -⟩ := Codec.reads_of_read (legible.portable field listed)
      (legible.alike field listed) value blanks' delimited read
    exact ⟨acceptable_of_accepts legible.lawful listed same.symm value reads.accepts_self,
      fun _ _ _ => new⟩

/-- **A member that is read is accepted**, and its name is new. -/
theorem acceptable_of_readMembers (legible : schema.Legible) {member : Member} {s : List Char}
    (is : member.IsWritten s) (value : Derives .value member.value) {seen : List String}
    {lead : List Char} (blanks : Blanks lead) {rest : List Char} (delimited : Delimited rest)
    {first : Bool} {built : ρ} {turns : Nat} {found : ρ × List Char}
    (read : schema.readMembers (turns + 1) first seen built
      (lead ++ (separator first ++ (s ++ rest))) = .ok found) :
    schema.Acceptable member ∧
      ∀ field ∈ schema.fields, field.name = member.name → member.name ∉ seen := by
  cases is with
  | parts blanks₁ is blanks₂ blanks₃ blanks₄ =>
      simp only [List.append_assoc, List.cons_append] at read
      rw [readMembers_key schema is blanks blanks₁] at read
      obtain ⟨_, given, -⟩ := exists_ok_of_bind read
      exact acceptable_of_readMember legible value blanks₂ blanks₃ (delimited.blanks blanks₄) given

/-- **An element that is read is accepted**, if it is a value. -/
theorem acceptable_of_readElements (legible : schema.Legible) {field : Field ρ}
    (listed : field ∈ schema.fields) {fields : List (Field ρ)} {value s : List Char}
    (is : IsElement value s) (derives : Derives .value value) {lead : List Char} (blanks : Blanks lead)
    {rest : List Char} (delimited : Delimited rest) {first : Bool} {built : ρ} {found : ρ × List Char}
    (read : readElements (field :: fields) first built (lead ++ (separator first ++ (s ++ rest))) =
      .ok found) : schema.Acceptable ⟨field.name, value⟩ := by
  cases is with
  | @parts before after blanks₁ blanks₂ =>
      obtain ⟨c, t, whole, solid, other⟩ := derives.exists_cons
      have goes := findElement_append (t := t ++ (after ++ rest)) blanks blanks₁ solid (other .list)
        first
      rw [← List.cons_append, ← show value = c :: t from whole] at goes
      simp only [List.append_assoc] at read
      rw [readElements_cons] at read
      obtain ⟨_, goes', read⟩ := exists_ok_of_bind read
      cases goes.symm.trans goes'
      obtain ⟨_, into, -⟩ := exists_ok_of_bind read
      obtain ⟨⟨given, _⟩, read', -⟩ := exists_ok_of_bind into
      obtain ⟨reads, -⟩ := Codec.reads_of_read (legible.portable field listed)
        (legible.alike field listed) derives blanks_nil (delimited.blanks blanks₂) read'
      exact acceptable_of_accepts legible.lawful listed rfl derives reads.accepts_self

/-- **Where a record is read, its items are accepted** and give each known name once. -/
theorem Begun.acceptable_of_read (legible : schema.Legible) {bracket : Bracket} {members : List Member}
    {lead : List Char} (begun : schema.Begun bracket members lead)
    (values : ∀ member ∈ members, Derives .value member.value) {before : List Char}
    (blanks : Blanks before) {rest : List Char} (apart : members = [] ∨ Delimited rest)
    {found : ρ × List Char} (read : schema.read (before ++ (lead ++ rest)) = .ok found) :
    (∀ member ∈ members, schema.Acceptable member) ∧ schema.Distinct members := by
  -- what stands before the last item is known by induction, and so where reading stands there
  induction begun generalizing rest with
  | opened => exact ⟨nofun, distinct_nil⟩
  | @named members member lead blank s begun blanks' is ih =>
      have apart' := delimited_separator members blanks' (s ++ rest)
      have delimited : Delimited rest := apart.resolve_left (by simp)
      simp only [List.append_assoc] at read
      obtain ⟨acceptable, distinct⟩ :=
        ih (fun other listed => values other (List.mem_append_left _ listed)) apart' read
      obtain ⟨r, holds⟩ := exists_holds legible acceptable distinct
      obtain ⟨after, turns, blanks₁, -, reading⟩ :=
        begun.exists_turns legible.lawful holds distinct blanks apart'
      rw [reading, ← List.append_assoc] at read
      obtain ⟨last, new⟩ := acceptable_of_readMembers legible is
        (values member (List.mem_append_right _ List.mem_cons_self)) (blanks_append blanks₁ blanks')
        delimited read
      refine ⟨List.forall_mem_append.mpr ⟨acceptable, List.forall_mem_singleton.mpr last⟩,
        distinct.append fun field listed same => ?_⟩
      rw [← same, ← mem_recalled legible.lawful listed, same]
      exact new field listed same
  | @placed members field lead blank value s begun blanks' at_ is ih =>
      have apart' := delimited_separator members blanks' (s ++ rest)
      have delimited : Delimited rest := apart.resolve_left (by simp)
      simp only [List.append_assoc] at read
      obtain ⟨acceptable, distinct⟩ :=
        ih (fun other listed => values other (List.mem_append_left _ listed)) apart' read
      obtain ⟨r, holds⟩ := exists_holds legible acceptable distinct
      obtain ⟨after, blanks₁, reading⟩ := begun.exists_left legible.lawful holds blanks apart'
      rw [reading, drop_of_getElem? at_, ← List.append_assoc] at read
      have last := acceptable_of_readElements legible (List.mem_of_getElem? at_) is
        (values _ (List.mem_append_right _ List.mem_cons_self)) (blanks_append blanks₁ blanks') delimited
        read
      exact ⟨List.forall_mem_append.mpr ⟨acceptable, List.forall_mem_singleton.mpr last⟩,
        (Begun.placed begun blanks' at_ is).distinct legible.lawful⟩

/-- **What a text of a record is read as**, in either form and with blanks around it: each known name is
given once at most, and the record is what the members come down to. -/
theorem accepts_iff_of_blanks (legible : schema.Legible) {members : List Member} {s : List Char}
    (is : schema.IsWritten members s) (values : ∀ member ∈ members, Derives .value member.value)
    {before after : List Char} (blanks : Blanks before) (blanks' : Blanks after) {r : ρ} :
    schema.codec.Accepts (before ++ (s ++ after)) r ↔
      schema.Distinct members ∧ schema.Takes members r := by
  constructor
  · intro accepts
    obtain ⟨found, read, -⟩ := exists_ok_of_bind accepts
    obtain ⟨acceptable, distinct⟩ :
        (∀ member ∈ members, schema.Acceptable member) ∧ schema.Distinct members := by
      rw [String.toList_ofList] at read
      cases is with
      | @closed bracket lead blank begun blanks₁ =>
          simp only [List.append_assoc, List.singleton_append] at read
          exact begun.acceptable_of_read legible values blanks
            (.inr ((delimited_closing bracket after).blanks blanks₁)) read
    obtain ⟨r', holds⟩ := exists_holds legible acceptable distinct
    have again : schema.codec.Reads s (schema.gathered r' members) :=
      fun before rest blanks _ => is.read_append legible.lawful holds distinct blanks rest
    rw [accepts.unique (again.accepts blanks blanks')]
    exact ⟨distinct, takes_gathered legible holds⟩
  · rintro ⟨distinct, takes⟩
    have reads : schema.codec.Reads s (schema.gathered r members) := fun before rest blanks _ =>
      is.read_append legible.lawful (takes.holds legible values) distinct blanks rest
    rw [takes.gathered_eq legible] at reads
    exact reads.accepts blanks blanks'

/-- **What a text of a record is read as**, in either form. -/
theorem accepts_iff (legible : schema.Legible) {members : List Member} {s : List Char}
    (is : schema.IsWritten members s) (values : ∀ member ∈ members, Derives .value member.value) {r : ρ} :
    schema.codec.Accepts s r ↔ schema.Distinct members ∧ schema.Takes members r := by
  have accepts := accepts_iff_of_blanks legible is values blanks_nil blanks_nil (r := r)
  rwa [List.nil_append, List.append_nil] at accepts

end Schema

end Scanout.Json
