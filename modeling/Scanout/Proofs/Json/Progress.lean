import Scanout.Proofs.Json.Layouts

/-!
# How far a record is read

Reading a record goes through items that are accepted, until the record closes or something is wrong.
Where it ends, what has been read is a record that has been begun, and what comes next is the end of the
record or the fault.  So a record that is read is written in one of its two forms, and it may as well be
the value of a field itself.

## Main definitions

* `Json.Schema.Gathers` — a record that has been begun without a fault
* `Json.Schema.MembersEnd`, `.ElementsEnd`, `.Ends` — how reading ends behind accepted items

## Main results

* `Json.Schema.Gathers.member_of_read`, `.element_of_read` — one turn of reading
* `Json.Schema.Gathers.exists_membersEnd`, `.exists_elementsEnd` — where reading ends
* `Json.Schema.isWritten_of_read` — a record that is read is written in one of its forms
* `Json.Schema.portable` — a record is read alike wherever it stands
-/

namespace Scanout.Json.Schema

variable {ρ : Type} {schema : Schema ρ}

/-- **A record that has been begun without a fault**: its items are accepted, and no known name is given
twice. -/
structure Gathers (schema : Schema ρ) (bracket : Bracket) (members : List Member) (lead : List Char) :
    Prop where
  begun : schema.Begun bracket members lead
  acceptable : ∀ member ∈ members, schema.Acceptable member
  distinct : schema.Distinct members

theorem gathers_opening (bracket : Bracket) : schema.Gathers bracket [] [bracket.opening] :=
  ⟨.opened, nofun, distinct_nil⟩

/-! ### Members -/

/-- **How reading members ends**, behind those that are accepted. -/
inductive MembersEnd (schema : Schema ρ) (members : List Member) (s : List Char) :
    Except Fault (ρ × List Char) → Prop
  | closed {r : ρ} {after : List Char} : readKey members.isEmpty s = .ok (none, after) →
      MembersEnd schema members s (.ok (r, after))
  | key {fault : Fault} : readKey members.isEmpty s = .error fault →
      MembersEnd schema members s (.error fault)
  | member {name : String} {s' : List Char} {built : ρ} {fault : Fault} :
      readKey members.isEmpty s = .ok (some name, s') →
      schema.readMember (schema.recalled members) name built s' = .error fault →
      MembersEnd schema members s (.error fault)

/-- What stands before the value of a member: its key, and what separates it from the member before. -/
theorem parts_of_readKey {first : Bool} {s s' : List Char} {name : String}
    (found : readKey first s = .ok (some name, s')) :
    ∃ blank before key, Blanks blank ∧ Blanks before ∧ IsKey name key ∧
      s = blank ++ (separator first ++ (before ++ (key ++ s'))) := by
  obtain ⟨u, t, begins, quote, read⟩ := exists_of_readKey found
  obtain ⟨blank, blanks, whole⟩ := exists_blanks s
  obtain ⟨before, blanks', whole'⟩ := exists_blanks u
  obtain ⟨key, is, split⟩ := isKey_of_readString read
  exact ⟨blank, before, key, blanks, blanks', is, by rw [← split, ← quote, ← whole', ← begins, ← whole]⟩

/-- **What is read behind a key** is a colon and an accepted value, and the name is new. -/
theorem value_of_readMember (legible : schema.Legible) {seen seen' : List String} {name : String}
    {built r : ρ} {s after : List Char}
    (read : schema.readMember seen name built s = .ok ((seen', r), after)) :
    ∃ between lead value, Blanks between ∧ Blanks lead ∧
      s = between ++ ':' :: (lead ++ (value ++ after)) ∧ schema.Acceptable ⟨name, value⟩ ∧
      seen' = schema.remember seen name ∧
      ∀ field ∈ schema.fields, field.name = name → name ∉ seen := by
  obtain ⟨v, colon, parts⟩ := exists_of_readMember read
  obtain ⟨between, blanks, rfl⟩ := exists_of_skipColon colon
  obtain ⟨lead, blanks', whole⟩ := exists_blanks v
  unfold remember
  rcases parts with ⟨unknown, skipped, rfl⟩ | ⟨field, value, known, new, found, rfl⟩
  · obtain ⟨value, derives, split⟩ := derives_of_skipValue skipped
    refine ⟨between, lead, value, blanks, blanks', by rw [← split, ← whole],
      ⟨derives, fun field known => ?_⟩, by rw [unknown], fun field listed same => ?_⟩
    · cases unknown.symm.trans known
    · rw [← same, find?_name legible.lawful listed] at unknown
      cases unknown
  · obtain ⟨listed, same⟩ := mem_of_find? known
    obtain ⟨core, split, reads⟩ := legible.portable field listed found
    have derives := Codec.derives_of_read (legible.alike field listed) found split
    exact ⟨between, lead, core, blanks, blanks', by rw [← split, ← whole],
      acceptable_of_accepts legible.lawful listed same.symm derives reads.accepts_self,
      by rw [known], fun _ _ _ => new⟩

/-- **One turn of reading an object** goes on behind a member that is accepted. -/
theorem Gathers.member_of_read (legible : schema.Legible) {members : List Member} {lead : List Char}
    (gathers : schema.Gathers .object members lead) {s s' after : List Char} {name : String}
    {seen : List String} {built r : ρ} (key : readKey members.isEmpty s = .ok (some name, s'))
    (read : schema.readMember (schema.recalled members) name built s' = .ok ((seen, r), after)) :
    ∃ member t, s = t ++ after ∧ after.length < s.length ∧ seen = schema.recalled (members ++ [member]) ∧
      schema.Gathers .object (members ++ [member]) (lead ++ t) := by
  obtain ⟨blank, before, text, blanks, blanks₁, is, rfl⟩ := parts_of_readKey key
  obtain ⟨between, lead', value, blanks₂, blanks₃, rfl, acceptable, rfl, new⟩ :=
    value_of_readMember legible read
  have written : Member.IsWritten ⟨name, value⟩ _ := .parts blanks₁ is blanks₂ blanks₃ blanks_nil
  refine ⟨⟨name, value⟩, _, ?_, ?_, (recalled_append members ⟨name, value⟩).symm,
    .named gathers.begun blanks written, ?_, ?_⟩
  · simp only [List.append_assoc, List.cons_append, List.append_nil]
  · simp only [List.length_append, List.length_cons]
    omega
  · exact List.forall_mem_append.mpr ⟨gathers.acceptable, List.forall_mem_singleton.mpr acceptable⟩
  · refine gathers.distinct.append fun field listed same => ?_
    rw [← same, ← mem_recalled legible.lawful listed, same]
    exact new field listed same

/-- **Reading members ends** behind members that are accepted. -/
theorem Gathers.exists_membersEnd (legible : schema.Legible) {members : List Member} {lead : List Char}
    (gathers : schema.Gathers .object members lead) {turns : Nat} {s : List Char}
    (enough : s.length < turns) (built : ρ) :
    ∃ members' t s', s = t ++ s' ∧ schema.Gathers .object members' (lead ++ t) ∧
      schema.MembersEnd members' s'
        (schema.readMembers turns members.isEmpty (schema.recalled members) built s) := by
  induction turns generalizing members lead s built with
  | zero => cases enough
  | succ turns ih =>
      rw [readMembers_succ]
      cases key : readKey members.isEmpty s with
      | error fault => exact ⟨members, [], s, rfl, by rwa [List.append_nil], .key key⟩
      | ok found =>
          obtain ⟨name?, s₁⟩ := found
          cases name? with
          | none => exact ⟨members, [], s, rfl, by rwa [List.append_nil], .closed key⟩
          | some name =>
              show ∃ members' t s', _ ∧ _ ∧ schema.MembersEnd members' s'
                (schema.readMember (schema.recalled members) name built s₁ >>= _)
              cases read : schema.readMember (schema.recalled members) name built s₁ with
              | error fault => exact ⟨members, [], s, rfl, by rwa [List.append_nil], .member key read⟩
              | ok found =>
                  obtain ⟨⟨seen, r⟩, after⟩ := found
                  obtain ⟨member, t, rfl, shorter, rfl, gathers'⟩ :=
                    gathers.member_of_read legible key read
                  have enough' : after.length < turns := by omega
                  obtain ⟨members', t', s', rfl, gathers'', ends⟩ := ih gathers' enough' r
                  rw [isEmpty_append] at ends
                  exact ⟨members', t ++ t', s', (List.append_assoc t t' s').symm,
                    by rwa [← List.append_assoc], ends⟩

/-! ### Elements -/

/-- **How reading elements ends**, behind those that are accepted. -/
inductive ElementsEnd (schema : Schema ρ) (members : List Member) (s : List Char) :
    Except Fault (ρ × List Char) → Prop
  | closed {r : ρ} {after : List Char} : skipBlanks s = Bracket.list.closing :: after →
      ElementsEnd schema members s (.ok (r, after))
  | next {fault : Fault} : findElement members.isEmpty s = .error fault →
      ElementsEnd schema members s (.error fault)
  | element {field : Field ρ} {v : List Char} {built : ρ} {fault : Fault} :
      schema.fields[members.length]? = some field → findElement members.isEmpty s = .ok (true, v) →
      field.readInto built v = .error fault → ElementsEnd schema members s (.error fault)
  | beyond {fault : Fault} : members.length = schema.fields.length → readEnd s = .error fault →
      ElementsEnd schema members s (.error fault)

/-- Where an element stands: behind what separates it from the element before. -/
theorem parts_of_findElement {first : Bool} {s v : List Char}
    (goes : findElement first s = .ok (true, v)) :
    ∃ blank before, Blanks blank ∧ Blanks before ∧ s = blank ++ (separator first ++ (before ++ v)) ∧
      skipBlanks v = v ∧ ∃ c t, v = c :: t ∧ c ≠ Bracket.list.closing := by
  obtain ⟨u, c, t, begins, filled, other, rfl⟩ := exists_of_findElement goes
  obtain ⟨blank, blanks, whole⟩ := exists_blanks s
  obtain ⟨before, blanks', whole'⟩ := exists_blanks u
  refine ⟨blank, before, blanks, blanks', by rw [← filled, ← whole', ← begins, ← whole], ?_,
    c, t, rfl, other⟩
  rw [← filled, skipBlanks_skipBlanks]

/-- **One turn of reading a list** goes on behind an element that is accepted. -/
theorem Gathers.element_of_read (legible : schema.Legible) {members : List Member} {lead : List Char}
    (gathers : schema.Gathers .list members lead) {field : Field ρ}
    (at_ : schema.fields[members.length]? = some field) {s v after : List Char} {built r : ρ}
    (goes : findElement members.isEmpty s = .ok (true, v))
    (read : field.readInto built v = .ok (r, after)) :
    ∃ member t, s = t ++ after ∧ schema.Gathers .list (members ++ [member]) (lead ++ t) := by
  have listed := List.mem_of_getElem? at_
  obtain ⟨blank, before, blanks, blanks', rfl, solid, -⟩ := parts_of_findElement goes
  obtain ⟨⟨value, after'⟩, found, given⟩ := exists_ok_of_bind read
  cases given
  obtain ⟨core, split, reads⟩ := legible.portable field listed found
  have derives := Codec.derives_of_read (legible.alike field listed) found split
  obtain rfl : v = core ++ after := solid.symm.trans split
  have begun := Begun.placed gathers.begun blanks at_
    (.parts blanks' blanks_nil : IsElement core (before ++ (core ++ [])))
  refine ⟨⟨field.name, core⟩, _, ?_, begun, ?_, begun.distinct legible.lawful⟩
  · simp only [List.append_assoc, List.nil_append]
  · exact List.forall_mem_append.mpr ⟨gathers.acceptable, List.forall_mem_singleton.mpr
      (acceptable_of_accepts legible.lawful listed rfl derives reads.accepts_self)⟩

/-- **Reading elements ends** behind elements that are accepted. -/
theorem Gathers.exists_elementsEnd (legible : schema.Legible) {members : List Member}
    {lead : List Char} (gathers : schema.Gathers .list members lead) {fields : List (Field ρ)}
    (left : schema.fields.drop members.length = fields) (within : members.length ≤ schema.fields.length)
    (s : List Char) (built : ρ) :
    ∃ members' t s', s = t ++ s' ∧ schema.Gathers .list members' (lead ++ t) ∧
      schema.ElementsEnd members' s' (readElements fields members.isEmpty built s) := by
  induction fields generalizing members lead s built with
  | nil =>
      have all : members.length = schema.fields.length :=
        Nat.le_antisymm within (List.drop_eq_nil_iff.mp left)
      refine ⟨members, [], s, rfl, by rwa [List.append_nil], ?_⟩
      show schema.ElementsEnd members s (readEnd s >>= _)
      cases ended : readEnd s with
      | error fault => exact .beyond all ended
      | ok after => exact .closed (closes_of_readEnd ended)
  | cons field fields ih =>
      have at_ : schema.fields[members.length]? = some field := by
        rw [← List.head?_drop, left]
        rfl
      rw [readElements_cons]
      cases goes : findElement members.isEmpty s with
      | error fault => exact ⟨members, [], s, rfl, by rwa [List.append_nil], .next goes⟩
      | ok found =>
          obtain ⟨more?, v⟩ := found
          cases more? with
          | false =>
              exact ⟨members, [], s, rfl, by rwa [List.append_nil], .closed (closes_of_findElement goes)⟩
          | true =>
              show ∃ members' t s', _ ∧ _ ∧ schema.ElementsEnd members' s' (field.readInto built v >>= _)
              cases read : field.readInto built v with
              | error fault =>
                  exact ⟨members, [], s, rfl, by rwa [List.append_nil], .element at_ goes read⟩
              | ok found =>
                  obtain ⟨r, after⟩ := found
                  obtain ⟨member, t, rfl, gathers'⟩ := gathers.element_of_read legible at_ goes read
                  have left' : schema.fields.drop (members ++ [member]).length = fields := by
                    rw [List.length_append, List.length_singleton, ← List.drop_drop, left]
                    rfl
                  have within' : (members ++ [member]).length ≤ schema.fields.length := by
                    rw [List.length_append, List.length_singleton]
                    exact (List.getElem?_eq_some_iff.mp at_).1
                  obtain ⟨members', t', s', rfl, gathers'', ends⟩ := ih gathers' left' within' after r
                  rw [isEmpty_append] at ends
                  exact ⟨members', t ++ t', s', (List.append_assoc t t' s').symm,
                    by rwa [← List.append_assoc], ends⟩

/-! ### Records -/

/-- **How reading a record ends**, behind the items that are accepted. -/
def Ends (schema : Schema ρ) :
    Bracket → List Member → List Char → Except Fault (ρ × List Char) → Prop
  | .object => schema.MembersEnd
  | .list => schema.ElementsEnd

/-- **Where reading a record ends**: behind accepted items, unless no bracket opens. -/
theorem exists_end (legible : schema.Legible) (s : List Char) :
    (∃ fault, schema.read s = .error fault ∧
        (skipBlanks s = [] ∧ fault = .endInValue ∨
          ∃ c t, skipBlanks s = c :: t ∧ fault = mismatch schema.title c t)) ∨
      ∃ bracket members lead s', skipBlanks s = lead ++ s' ∧ schema.Gathers bracket members lead ∧
        schema.Ends bracket members s' (schema.read s) := by
  cases begins : skipBlanks s with
  | nil =>
      refine .inl ⟨.endInValue, ?_, .inl ⟨rfl, rfl⟩⟩
      rw [read, readFirst, begins]
  | cons c t =>
      have reading : schema.read s = _ := readFirst_of_begins begins
      cases opens : opening? c with
      | none =>
          rw [opens] at reading
          exact .inl ⟨_, reading, .inr ⟨c, t, rfl, rfl⟩⟩
      | some bracket =>
          rw [opens] at reading
          obtain rfl := opening_of_opening? opens
          rw [reading]
          cases bracket with
          | list =>
              obtain ⟨members, u, s', rfl, gathers, ends⟩ :=
                (gathers_opening .list).exists_elementsEnd legible (List.drop_zero (l := schema.fields))
                  (Nat.zero_le _) t schema.default
              exact .inr ⟨.list, members, _, s', rfl, gathers, ends⟩
          | object =>
              obtain ⟨members, u, s', rfl, gathers, ends⟩ :=
                (gathers_opening .object).exists_membersEnd legible (Nat.lt_succ_self t.length)
                  schema.default
              exact .inr ⟨.object, members, _, s', rfl, gathers, ends⟩

/-- **A record that is read is written in one of its forms**, with members that are accepted. -/
theorem isWritten_of_read (legible : schema.Legible) {s after : List Char} {r : ρ}
    (found : schema.read s = .ok (r, after)) :
    ∃ members core, skipBlanks s = core ++ after ∧ schema.IsWritten members core ∧
      (∀ member ∈ members, schema.Acceptable member) ∧ schema.Distinct members := by
  rcases exists_end legible s with ⟨fault, failed, -⟩ | ⟨bracket, members, lead, s', split, gathers, ends⟩
  · cases found.symm.trans failed
  · rw [found] at ends
    obtain ⟨blank, blanks, whole⟩ := exists_blanks s'
    have closes : skipBlanks s' = bracket.closing :: after := by
      cases bracket with
      | object =>
          cases ends with
          | closed key => exact closes_of_readKey key
      | list =>
          cases ends with
          | closed closes => exact closes
    refine ⟨members, _, ?_, .closed gathers.begun blanks, gathers.acceptable, gathers.distinct⟩
    rw [split, whole, closes]
    simp only [List.append_assoc, List.singleton_append]

/-- **A record is read alike wherever it stands.** -/
theorem portable (legible : schema.Legible) : schema.codec.Portable := by
  intro s r after found
  obtain ⟨members, core, split, is, acceptable, distinct⟩ := isWritten_of_read legible found
  obtain ⟨r', holds⟩ := exists_holds legible acceptable distinct
  have reads {before : List Char} (blanks : Blanks before) (rest : List Char) :=
    is.read_append legible.lawful holds distinct blanks rest
  obtain ⟨lead, blanks, whole⟩ := exists_blanks s
  rw [split] at whole
  have again := reads blanks after
  rw [← whole] at again
  obtain ⟨rfl, -⟩ := Prod.mk.inj (Except.ok.inj (Eq.trans (Eq.symm found) again))
  exact ⟨core, split, fun before rest blanks _ => reads blanks rest⟩

end Scanout.Json.Schema
