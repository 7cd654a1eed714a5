import Scanout.Proofs.Json.Objects

/-!
# What stands in a text

The members of an object and the elements of a list, found one behind the other: a key is read, and its
value is passed over to get to the next one.  In an object of the grammar this finds the members that it
is written with.

## Main definitions

* `Json.HasMember`, `Json.Schema.HasElement` — what stands in an object and in a list
* `Json.Schema.Assigns` — what a text gives a field
* `Json.Schema.HasUnknownKey` — a text with a key that no field has

## Main results

* `Json.AreMembers.hasMember` — what stands in an object are its members
* `Json.Schema.hasUnknownKey_iff` — the unknown keys of an object are those of its members
-/

namespace Scanout.Json

/-- **A member of an object**, behind the brace or behind the members before it: its name, and what
stands behind its colon. -/
inductive HasMember : Bool → List Char → String → List Char → Prop
  | here {first : Bool} {s s' v : List Char} {name : String} :
      Schema.readKey first s = .ok (some name, s') → skipColon s' = .ok v → HasMember first s name v
  | later {first : Bool} {s s' v after v' : List Char} {name name' : String} :
      Schema.readKey first s = .ok (some name, s') → skipColon s' = .ok v → skipValue v = .ok after →
      HasMember false after name' v' → HasMember first s name' v'

namespace Schema

variable {ρ : Type} {schema : Schema ρ}

/-- Goes to the next element of a list, unless the list closes. -/
def findElement (first : Bool) : Reader Bool := fun s =>
  match skipBlanks s with
  | [] => .error .endInList
  | c :: rest =>
      if c = ']' then .ok (false, rest)
      else do
        let s ← readSeparator first c rest
        return (true, s)

/-- **An element of a list**, behind the bracket or behind the elements before it: the field whose place
it has, and what stands there. -/
inductive HasElement : List (Field ρ) → Bool → List Char → Field ρ → List Char → Prop
  | here {field : Field ρ} {fields : List (Field ρ)} {first : Bool} {s v : List Char} :
      findElement first s = .ok (true, v) → HasElement (field :: fields) first s field v
  | later {field field' : Field ρ} {fields : List (Field ρ)} {first : Bool} {s v after v' : List Char} :
      findElement first s = .ok (true, v) → skipValue v = .ok after →
      HasElement fields false after field' v' → HasElement (field :: fields) first s field' v'

/-- **What a text gives a field**: what stands behind its name in an object, or in its place in a
list. -/
inductive Assigns (schema : Schema ρ) (s : List Char) : Field ρ → List Char → Prop
  | named {t v : List Char} {name : String} {field : Field ρ} :
      skipBlanks s = Bracket.object.opening :: t → HasMember true t name v →
      schema.find? name = some field → Assigns schema s field v
  | placed {t v : List Char} {field : Field ρ} : skipBlanks s = Bracket.list.opening :: t →
      HasElement schema.fields true t field v → Assigns schema s field v

theorem HasElement.mem {fields : List (Field ρ)} {first : Bool} {s v : List Char} {field : Field ρ}
    (has : HasElement fields first s field v) : field ∈ fields := by
  induction has with
  | here _ => exact List.mem_cons_self
  | later _ _ _ ih => exact List.mem_cons_of_mem _ ih

/-- What is given is given to a field of the record. -/
theorem Assigns.mem {s v : List Char} {field : Field ρ} (assigns : schema.Assigns s field v) :
    field ∈ schema.fields := by
  cases assigns with
  | named _ _ found => exact (mem_of_find? found).1
  | placed _ has => exact has.mem

/-- **A text with a key that no field has.** -/
def HasUnknownKey (schema : Schema ρ) (s : List Char) : Prop :=
  ∃ t name v, skipBlanks s = Bracket.object.opening :: t ∧ HasMember true t name v ∧
    schema.find? name = none

/-! ### Turns of reading -/

/-- One turn of reading a list. -/
theorem readElements_cons (field : Field ρ) (fields : List (Field ρ)) (first : Bool) (r : ρ)
    (s : List Char) :
    readElements (field :: fields) first r s =
      (do
        let (more, s) ← findElement first s
        if more then do
          let (r, s) ← field.readInto r s
          readElements fields false r s
        else return (r, s)) := by
  rw [readElements, findElement]
  cases skipBlanks s with
  | nil => rfl
  | cons c rest =>
      dsimp only
      by_cases closes : c = ']'
      · rw [if_pos closes, if_pos closes]
        rfl
      · rw [if_neg closes, if_neg closes]
        cases readSeparator first c rest <;> rfl

/-- What a key is read from. -/
theorem exists_of_readKey {first : Bool} {s s' : List Char} {name : String}
    (found : readKey first s = .ok (some name, s')) :
    ∃ u t, skipBlanks s = separator first ++ u ∧ skipBlanks u = '"' :: t ∧
      readString t = .ok (name, s') := by
  unfold readKey at found
  split at found
  · cases found
  · next c rest begins =>
    split at found
    · cases found
    · obtain ⟨t, quoted, found⟩ := exists_ok_of_bind found
      obtain ⟨⟨name', after⟩, read, given⟩ := exists_ok_of_bind found
      cases given
      cases first with
      | true =>
          rw [readQuote, if_pos rfl] at quoted
          split at quoted
          · next quote =>
            cases quoted
            rw [quote] at begins
            refine ⟨_, _, rfl, ?_, read⟩
            exact (skipBlanks_skipBlanks s).trans begins
          · cases quoted
      | false =>
          rw [readQuote, if_neg Bool.false_ne_true] at quoted
          split at quoted
          · next comma =>
            rw [comma] at begins
            split at quoted
            · cases quoted
            · next c' t' filled =>
              split at quoted
              · next quote =>
                cases quoted
                rw [quote] at filled
                exact ⟨rest, _, begins, filled, read⟩
              · split at quoted <;> cases quoted
          · cases quoted

/-- Where no key is read, the object closes. -/
theorem closes_of_readKey {first : Bool} {s after : List Char}
    (found : readKey first s = .ok (none, after)) :
    skipBlanks s = Bracket.object.closing :: after := by
  unfold readKey at found
  split at found
  · cases found
  · next begins =>
    split at found
    · next closes =>
      cases found
      rw [begins, closes]
      rfl
    · obtain ⟨_, -, found⟩ := exists_ok_of_bind found
      obtain ⟨_, -, given⟩ := exists_ok_of_bind found
      cases given

/-- Where an element is found. -/
theorem exists_of_findElement {first : Bool} {s v : List Char}
    (found : findElement first s = .ok (true, v)) :
    ∃ u c t, skipBlanks s = separator first ++ u ∧ skipBlanks u = c :: t ∧
      c ≠ Bracket.list.closing ∧ v = c :: t := by
  unfold findElement at found
  split at found
  · cases found
  · next c rest begins =>
    split at found
    · cases found
    · next other =>
      obtain ⟨s₁, separated, given⟩ := exists_ok_of_bind found
      cases given
      cases first with
      | true =>
          cases separated
          exact ⟨_, c, rest, rfl, (skipBlanks_skipBlanks s).trans begins, other, rfl⟩
      | false =>
          rw [readSeparator, if_neg Bool.false_ne_true] at separated
          split at separated
          · next comma =>
            rw [comma] at begins
            split at separated
            · cases separated
            · next c' t' filled =>
              split at separated
              · cases separated
              · next other' =>
                cases separated
                exact ⟨rest, c', t', begins, filled, other', rfl⟩
          · cases separated

/-- Where no element is found, the list closes. -/
theorem closes_of_findElement {first : Bool} {s after : List Char}
    (found : findElement first s = .ok (false, after)) :
    skipBlanks s = Bracket.list.closing :: after := by
  unfold findElement at found
  split at found
  · cases found
  · next begins =>
    split at found
    · next closes =>
      cases found
      rw [begins, closes]
      rfl
    · obtain ⟨_, -, given⟩ := exists_ok_of_bind found
      cases given

end Schema

/-! ### Objects of the grammar -/

/-- Nothing stands before a brace that closes. -/
theorem not_hasMember_closed {after : List Char} (blanks : Blanks after) {first : Bool}
    {rest : List Char} {name : String} {v : List Char} :
    ¬HasMember first (after ++ '\x7d' :: rest) name v := by
  have closes : Schema.readKey first (after ++ '\x7d' :: rest) = .ok (none, rest) := by
    rw [Schema.readKey, skipBlanks_solid blanks (by rfl)]
    rfl
  rintro (⟨key, -⟩ | ⟨key, -, -, -⟩) <;> cases closes.symm.trans key

/-- **A member stands where it is written**, and behind it stands what follows. -/
theorem Member.IsWritten.hasMember_iff {member : Member} {s : List Char} (is : member.IsWritten s)
    (value : Derives .value member.value) {lead : List Char} (blanks : Blanks lead)
    {rest : List Char} (delimited : Delimited rest) (first : Bool) :
    ∃ lead' after, Blanks lead' ∧ Blanks after ∧ ∀ name v,
      HasMember first (lead ++ (Schema.separator first ++ (s ++ rest))) name v ↔
        name = member.name ∧ v = lead' ++ (member.value ++ (after ++ rest)) ∨
          HasMember false (after ++ rest) name v := by
  cases is with
  | @parts before key between lead' after blanks₁ is blanks₂ blanks₃ blanks₄ =>
      refine ⟨lead', after, blanks₃, blanks₄, fun name v => ?_⟩
      have read := Schema.readKey_append is blanks blanks₁ first
        (between ++ ':' :: (lead' ++ (member.value ++ (after ++ rest))))
      have colon := skipColon_append blanks₂ (lead' ++ (member.value ++ (after ++ rest)))
      have skipped := skipValue_append blanks₃ value (delimited.blanks blanks₄)
      simp only [List.append_assoc, List.cons_append]
      constructor
      · rintro (⟨read', colon'⟩ | ⟨read', colon', skipped', later⟩)
        · cases read.symm.trans read'
          cases colon.symm.trans colon'
          exact .inl ⟨rfl, rfl⟩
        · cases read.symm.trans read'
          cases colon.symm.trans colon'
          cases skipped.symm.trans skipped'
          exact .inr later
      · rintro (⟨rfl, rfl⟩ | later)
        · exact .here read colon
        · exact .later read colon skipped later

/-- **What stands in an object are its members**, each with its value behind its colon. -/
theorem AreMembers.hasMember {members : List Member} {s : List Char} (are : AreMembers members s)
    (values : ∀ member ∈ members, Derives .value member.value) {lead : List Char}
    (blanks : Blanks lead) (first : Bool) (rest : List Char) :
    (∀ name v, HasMember first (lead ++ (Schema.separator first ++ (s ++ '\x7d' :: rest))) name v →
      ∃ member ∈ members, member.name = name ∧
        ∃ before after, Blanks before ∧ v = before ++ (member.value ++ after)) ∧
    ∀ member ∈ members, ∃ v,
      HasMember first (lead ++ (Schema.separator first ++ (s ++ '\x7d' :: rest))) member.name v := by
  induction are generalizing lead first with
  | @last member s is =>
      obtain ⟨lead', after, blanks₁, blanks₂, turn⟩ := is.hasMember_iff
        (values member List.mem_cons_self) blanks (delimited_closing .object rest) first
      refine ⟨fun name v has => ?_, fun other listed => ?_⟩
      · rcases (turn name v).mp has with ⟨rfl, rfl⟩ | later
        · exact ⟨member, List.mem_cons_self, rfl, lead', _, blanks₁, rfl⟩
        · exact absurd later (not_hasMember_closed blanks₂)
      · obtain rfl := List.mem_singleton.mp listed
        exact ⟨_, (turn _ _).mpr (.inl ⟨rfl, rfl⟩)⟩
  | @more member members s others is _ ih =>
      obtain ⟨lead', after, blanks₁, blanks₂, turn⟩ := is.hasMember_iff
        (values member List.mem_cons_self) blanks
        (delimited_cons (c := ',') (s := others ++ '\x7d' :: rest) rfl) first
      obtain ⟨found, given⟩ :=
        ih (fun other listed => values other (List.mem_cons_of_mem _ listed)) blanks₂ false
      rw [List.append_assoc, List.cons_append]
      refine ⟨fun name v has => ?_, fun other listed => ?_⟩
      · rcases (turn name v).mp has with ⟨rfl, rfl⟩ | later
        · exact ⟨member, List.mem_cons_self, rfl, lead', _, blanks₁, rfl⟩
        · obtain ⟨other, listed, same⟩ := found name v later
          exact ⟨other, List.mem_cons_of_mem _ listed, same⟩
      · rcases List.mem_cons.mp listed with rfl | listed
        · exact ⟨_, (turn _ _).mpr (.inl ⟨rfl, rfl⟩)⟩
        · obtain ⟨v, has⟩ := given other listed
          exact ⟨v, (turn _ _).mpr (.inr has)⟩

/-- Members of the grammar make up items of the grammar. -/
theorem AreMembers.derives {members : List Member} {s : List Char} (are : AreMembers members s)
    (values : ∀ member ∈ members, Derives .value member.value) : Derives (.items .object) s := by
  have item {member : Member} {s : List Char} (is : member.IsWritten s)
      (value : Derives .value member.value) : Derives (.item .object) s := by
    cases is with
    | parts blanks is blanks₂ blanks₃ blanks₄ =>
        exact .member blanks is.isString blanks₂ (.element blanks₃ value blanks₄)
  induction are with
  | last is => exact .last (item is (values _ List.mem_cons_self))
  | more is _ ih =>
      exact .more (item is (values _ List.mem_cons_self))
        (ih fun other listed => values other (List.mem_cons_of_mem _ listed))

/-- **An object whose members have values is a value.** -/
theorem IsObject.derives {members : List Member} {s : List Char} (is : IsObject members s)
    (values : ∀ member ∈ members, Derives .value member.value) : Derives .value s := by
  cases is with
  | empty blanks => exact (.empty blanks : Derives .value (Bracket.object.opening :: _))
  | filled are => exact .filled (are.derives values)

section Objects

variable {ρ : Type} {schema : Schema ρ} {members : List Member} {s lead : List Char}

/-- **What stands in an object** behind blanks. -/
theorem IsObject.hasMember (is : IsObject members s)
    (values : ∀ member ∈ members, Derives .value member.value) (blanks : Blanks lead)
    (rest : List Char) :
    ∃ t, skipBlanks (lead ++ (s ++ rest)) = Bracket.object.opening :: t ∧
      (∀ name v, HasMember true t name v → ∃ member ∈ members, member.name = name ∧
        ∃ before after, Blanks before ∧ v = before ++ (member.value ++ after)) ∧
      ∀ member ∈ members, ∃ v, HasMember true t member.name v := by
  cases is with
  | @empty inner blanks' =>
      refine ⟨inner ++ '\x7d' :: rest, ?_, fun name v has => ?_, nofun⟩
      · rw [List.cons_append, skipBlanks_solid blanks (by rfl), List.append_assoc]
        rfl
      · exact absurd has (not_hasMember_closed blanks')
  | @filled _ s are =>
      refine ⟨s ++ '\x7d' :: rest, ?_, are.hasMember values blanks_nil true rest⟩
      rw [List.cons_append, skipBlanks_solid blanks (by rfl), List.append_assoc]
      rfl

/-- **The unknown keys of an object** are those of its members. -/
theorem Schema.hasUnknownKey_iff (is : IsObject members s)
    (values : ∀ member ∈ members, Derives .value member.value) (blanks : Blanks lead)
    (rest : List Char) :
    schema.HasUnknownKey (lead ++ (s ++ rest)) ↔
      ∃ member ∈ members, schema.find? member.name = none := by
  obtain ⟨t, begins, found, given⟩ := is.hasMember values blanks rest
  constructor
  · rintro ⟨t', name, v, begins', has, unknown⟩
    cases begins.symm.trans begins'
    obtain ⟨member, listed, rfl, -⟩ := found name v has
    exact ⟨member, listed, unknown⟩
  · rintro ⟨member, listed, unknown⟩
    obtain ⟨v, has⟩ := given member listed
    exact ⟨t, member.name, v, begins, has, unknown⟩

/-- **What an object gives a field** is the value of a member of its name. -/
theorem Schema.Assigns.exists_member (is : IsObject members s)
    (values : ∀ member ∈ members, Derives .value member.value) (blanks : Blanks lead)
    {rest : List Char} {field : Field ρ} {v : List Char}
    (assigns : schema.Assigns (lead ++ (s ++ rest)) field v) :
    ∃ member ∈ members, schema.find? member.name = some field ∧
      ∃ before after, Blanks before ∧ v = before ++ (member.value ++ after) := by
  obtain ⟨t, begins, found, -⟩ := is.hasMember values blanks rest
  cases assigns with
  | named begins' has known =>
      cases begins.symm.trans begins'
      obtain ⟨member, listed, rfl, value⟩ := found _ _ has
      exact ⟨member, listed, known, value⟩
  | placed begins' _ => cases begins.symm.trans begins'

end Objects

end Scanout.Json
