import Mathlib.Data.List.Pairwise
import Scanout.Proofs.Json.Faithful
import Scanout.Proofs.Json.Records

/-!
# Records read from any object

An object need not be one that was written.  Its members may come in any order with blanks around
every token, fields may be missing, and members of other names may stand among them, more than once
and with any value of the grammar.  Such an object is read into the record that has the given fields
and, in the others, the default.

## Main definitions

* `Json.IsObject` — the texts of an object with given members
* `Json.Schema.Gives` — the objects that give some fields of a record
* `Json.Schema.takeOver` — a record with the field of a name taken over from another

## Main results

* `Json.Schema.reads_gives` — such an object is read
* `Json.Schema.get_foldl_takeOver` — what the record holds that it is read into
-/

namespace Scanout.Json

/-! ### Objects -/

/-- **A member of an object**: its name and the text of its value. -/
structure Member where
  name : String
  value : List Char
  deriving DecidableEq, Repr

/-- **How a member is written**, its name in any spelling and blanks around the name and the value. -/
inductive Member.IsWritten (member : Member) : List Char → Prop
  | parts {before key between lead after : List Char} : Blanks before → IsKey member.name key →
      Blanks between → Blanks lead → Blanks after →
      IsWritten member (before ++ (key ++ (between ++ ':' :: (lead ++ (member.value ++ after)))))

/-- Members with a comma between each two. -/
inductive AreMembers : List Member → List Char → Prop
  | last {member : Member} {s : List Char} : member.IsWritten s → AreMembers [member] s
  | more {member : Member} {members : List Member} {s others : List Char} : member.IsWritten s →
      AreMembers members others → AreMembers (member :: members) (s ++ ',' :: others)

/-- **The texts of an object** with given members. -/
inductive IsObject : List Member → List Char → Prop
  | empty {blanks : List Char} : Blanks blanks → IsObject [] ('\x7b' :: (blanks ++ ['\x7d']))
  | filled {members : List Member} {s : List Char} : AreMembers members s →
      IsObject members ('\x7b' :: (s ++ ['\x7d']))

/-- Every member takes a character at least. -/
theorem AreMembers.length_le {members : List Member} {s : List Char} (are : AreMembers members s) :
    members.length ≤ s.length := by
  induction are with
  | last is =>
      cases is
      simp only [List.length_append, List.length_cons, List.length_nil]
      omega
  | more _ _ ih =>
      simp only [List.length_append, List.length_cons]
      omega

namespace Schema

variable {ρ : Type} {schema : Schema ρ}

/-! ### Records -/

/-- What a member of an object must be: a text of the field of its name, or any value if there is no
such field. -/
def Admits (schema : Schema ρ) (shows : Field ρ → List Char → Prop) (member : Member) : Prop :=
  match schema.find? member.name with
  | some field => shows field member.value
  | none => Derives .value member.value

/-- **The objects that give some fields of a record**, with the names of all their members.  A field is
given once at most; other names may be repeated. -/
def Gives (schema : Schema ρ) (shows : Field ρ → List Char → Prop) (names : List String)
    (s : List Char) : Prop :=
  ∃ members, IsObject members s ∧ members.map Member.name = names ∧
    (∀ field ∈ schema.fields, names.count field.name ≤ 1) ∧
    ∀ member ∈ members, schema.Admits shows member

/-- **Takes the field of a name over** from one record to another, if there is such a field. -/
def takeOver (schema : Schema ρ) (r built : ρ) (name : String) : ρ :=
  match schema.find? name with
  | some field => field.copy r built
  | none => built

/-- **The names that are remembered** behind a member: those before it, and its own if it is that of a
field. -/
def remember (schema : Schema ρ) (seen : List String) (name : String) : List String :=
  match schema.find? name with
  | some _ => name :: seen
  | none => seen

theorem count_remember_le (seen : List String) (name other : String) :
    (schema.remember seen name).count other ≤ (name :: seen).count other := by
  unfold remember
  split
  · exact Nat.le_refl _
  · exact List.count_le_count_cons

theorem mem_of_find? {name : String} {field : Field ρ} (found : schema.find? name = some field) :
    field ∈ schema.fields ∧ field.name = name :=
  ⟨List.mem_of_find?_eq_some found, by simpa using List.find?_some found⟩

section Reading

variable {shows : Field ρ → List Char → Prop} {r : ρ}

/-- **One turn reads a member**, and remembers its name if it is that of a field. -/
theorem exists_readMembers_member (reads : ∀ field ∈ schema.fields, ∀ text, shows field text →
      field.codec.Reads text (field.get r))
    {member : Member} {s : List Char} (is : member.IsWritten s)
    (admits : schema.Admits shows member) {seen : List String}
    (new : ∀ field ∈ schema.fields, field.name = member.name → member.name ∉ seen)
    {lead : List Char} (blanks : Blanks lead) {rest : List Char} (delimited : Delimited rest)
    (first : Bool) (built : ρ) (turns : Nat) :
    ∃ after, Blanks after ∧
      schema.readMembers (turns + 1) first seen built (lead ++ (separator first ++ (s ++ rest))) =
        schema.readMembers turns false (schema.remember seen member.name)
          (schema.takeOver r built member.name) (after ++ rest) := by
  cases is with
  | @parts before key between lead' after blanks₁ is blanks₂ blanks₃ blanks₄ =>
      have behind := delimited.blanks blanks₄
      have key' := readMembers_key schema is blanks blanks₁ first seen built turns
        (between ++ ':' :: (lead' ++ (member.value ++ (after ++ rest))))
      simp only [List.append_assoc, List.cons_append]
      refine ⟨after, blanks₄, key'.trans ?_⟩
      unfold Admits at admits
      unfold takeOver remember
      cases found : schema.find? member.name with
      | none =>
          rw [found] at admits
          have skipped := skipValue_append blanks₃ admits behind
          rw [readMember, found]
          dsimp only
          rw [skipColon_append blanks₂]
          show (skipValue _ >>= _) >>= _ = _
          rw [skipped]
          rfl
      | some field =>
          rw [found] at admits
          obtain ⟨listed, same⟩ := mem_of_find? found
          have read := reads field listed _ admits lead' (after ++ rest) blanks₃ behind
          rw [readMember_field found (new field listed same) blanks₂ built read]
          rfl

/-- The closing brace ends the members. -/
theorem readMembers_closed {after : List Char} (blanks : Blanks after) (first : Bool)
    (seen : List String) (built : ρ) (rest : List Char) (turns : Nat) :
    schema.readMembers (turns + 1) first seen built (after ++ '\x7d' :: rest) = .ok (built, rest) := by
  rw [readMembers, skipBlanks_solid blanks (by rfl)]
  rfl

/-- **Members are read one after the other**, up to the closing brace.  A name that was seen before or
is still to come is that of a field once at most. -/
theorem readMembers_areMembers (reads : ∀ field ∈ schema.fields, ∀ text, shows field text →
      field.codec.Reads text (field.get r))
    {members : List Member} {s : List Char} (are : AreMembers members s)
    (admits : ∀ member ∈ members, schema.Admits shows member) {seen : List String}
    (once : ∀ field ∈ schema.fields,
      seen.count field.name + (members.map Member.name).count field.name ≤ 1)
    {lead : List Char} (blanks : Blanks lead) (first : Bool) (built : ρ) (rest : List Char)
    {turns : Nat} (enough : members.length < turns) :
    schema.readMembers turns first seen built (lead ++ (separator first ++ (s ++ '\x7d' :: rest))) =
      .ok ((members.map Member.name).foldl (schema.takeOver r) built, rest) := by
  -- the names are those seen before, the next one, and those to come
  have new : ∀ {member : Member} {others seen : List _}, (∀ field ∈ schema.fields,
      seen.count field.name + (member.name :: others).count field.name ≤ 1) →
      ∀ field ∈ schema.fields, field.name = member.name → member.name ∉ seen := by
    intro member others seen once field listed same
    have bound := once field listed
    rw [same, List.count_cons_self] at bound
    exact List.count_eq_zero.mp (by omega)
  induction are generalizing seen lead first built turns with
  | @last member s is =>
      obtain ⟨turns, rfl⟩ : ∃ others, turns = others + 1 + 1 :=
        ⟨turns - 2, by rw [List.length_singleton] at enough; omega⟩
      obtain ⟨after, blanks', turn⟩ := exists_readMembers_member reads is
        (admits member List.mem_cons_self) (new once) blanks (delimited_closing .object rest) first
        built (turns + 1)
      exact turn.trans (readMembers_closed blanks' false _ _ rest turns)
  | @more member members s others is _ ih =>
      obtain ⟨turns, rfl⟩ := Nat.exists_eq_succ_of_ne_zero (Nat.ne_of_gt (Nat.zero_lt_of_lt enough))
      obtain ⟨after, blanks', turn⟩ := exists_readMembers_member reads is
        (admits member List.mem_cons_self) (new once) blanks
        (delimited_cons (c := ',') (s := others ++ '\x7d' :: rest) rfl) first built turns
      rw [List.append_assoc, List.cons_append]
      refine turn.trans (ih (fun other listed => admits other (List.mem_cons_of_mem _ listed)) ?_
        blanks' false _ (Nat.lt_of_succ_lt_succ enough))
      intro field listed
      have bound := once field listed
      have bound' := schema.count_remember_le seen member.name field.name
      rw [List.map_cons, List.count_cons] at bound
      rw [List.count_cons] at bound'
      omega

/-- **An object that gives some fields of a record is read**: the fields that it names are taken over
into the default. -/
theorem reads_gives (reads : ∀ field ∈ schema.fields, ∀ text, shows field text →
      field.codec.Reads text (field.get r))
    {names : List String} {s : List Char} (gives : schema.Gives shows names s) :
    schema.codec.Reads s (names.foldl (schema.takeOver r) schema.default) := by
  obtain ⟨members, is, rfl, once, admits⟩ := gives
  intro before rest blanks _
  show schema.read (before ++ (s ++ rest)) = _
  rw [read, readFirst_append blanks]
  cases is with
  | empty blanks' =>
      rw [List.cons_append, readFirst_cons (by rfl), List.append_assoc]
      exact readMembers_closed blanks' true [] schema.default rest _
  | @filled _ s are =>
      rw [List.cons_append, readFirst_cons (by rfl), List.append_assoc]
      have enough : members.length < (s ++ ('\x7d' :: rest)).length + 1 := by
        have least := are.length_le
        rw [List.length_append]
        omega
      refine readMembers_areMembers reads are admits (fun field listed => ?_) blanks_nil true
        schema.default rest enough
      rw [List.count_nil, Nat.zero_add]
      exact once field listed

end Reading

/-! ### What the record holds -/

/-- Two fields that do not touch each other. -/
def Apart (field other : Field ρ) : Prop :=
  (∀ value r, field.get (other.set value r) = field.get r) ∧
    ∀ value r, other.get (field.set value r) = other.get r

instance : Std.Symm (Apart (ρ := ρ)) := ⟨fun _ _ apart => ⟨apart.2, apart.1⟩⟩

/-- **What a schema must satisfy** for a record to be known by its fields. -/
structure Separate (schema : Schema ρ) : Prop where
  /-- A field holds the value that was put into it. -/
  held : ∀ field ∈ schema.fields, ∀ value r, field.get (field.set value r) = value
  /-- No field touches another. -/
  apart : schema.fields.Pairwise Apart

/-- Taking a field over changes that field and no other. -/
theorem get_takeOver (lawful : schema.Lawful) (separate : schema.Separate) {field : Field ρ}
    (listed : field ∈ schema.fields) (r built : ρ) (name : String) :
    field.get (schema.takeOver r built name) =
      if field.name = name then field.get r else field.get built := by
  unfold takeOver
  cases found : schema.find? name with
  | none =>
      rw [if_neg]
      rintro rfl
      rw [find?_name lawful listed] at found
      cases found
  | some other =>
      obtain ⟨listed', rfl⟩ := mem_of_find? found
      show field.get (other.copy r built) = _
      by_cases same : field.name = other.name
      · rw [← same, find?_name lawful listed] at found
        cases found
        rw [if_pos rfl]
        exact separate.held field listed _ _
      · have apart : Apart field other := by
          refine separate.apart.forall listed listed' ?_
          rintro rfl
          exact same rfl
        rw [if_neg same]
        exact apart.1 _ _

/-- **Taking fields over changes the named ones** and no others. -/
theorem get_foldl_takeOver (lawful : schema.Lawful) (separate : schema.Separate) {field : Field ρ}
    (listed : field ∈ schema.fields) (r built : ρ) (names : List String) :
    field.get (names.foldl (schema.takeOver r) built) =
      if field.name ∈ names then field.get r else field.get built := by
  induction names generalizing built with
  | nil => rfl
  | cons name names ih =>
      rw [List.foldl_cons, ih, get_takeOver lawful separate listed]
      simp only [List.mem_cons]
      split <;> split <;> simp_all

/-- **A record is known by its fields.** -/
theorem Lawful.ext (lawful : schema.Lawful) {r r' : ρ}
    (same : ∀ field ∈ schema.fields, field.get r = field.get r') : r = r' := by
  rw [← lawful.copies r, ← lawful.copies r']
  refine List.foldl_ext ?_ _ schema.default fun built field listed => ?_
  unfold Field.copy
  rw [same field listed]

end Schema

end Scanout.Json
