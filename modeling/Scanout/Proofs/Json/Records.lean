import Scanout.Json.Schema
import Scanout.Proofs.Json.Skipping

/-!
# Records read back

A record is written as an object of all its fields, in declaration order.  Read back, each member is
found by its name, which was not given before, and puts its value into the record.  If the fields
together make up the record, nothing of the default is left in the end.

## Main definitions

* `Json.Schema.Lawful` — what a schema must satisfy
* `Json.Schema.readKey` — what a turn of reading an object begins with
* `Json.Schema.members` — what is written of some fields behind others

## Main results

* `Json.Schema.readKey_append` — a key is read
* `Json.Schema.readMembers_members` — written members are read back into a record
* `Json.Schema.Lawful.codec` — a lawful schema has a lawful codec
-/

namespace Scanout.Json

variable {ρ : Type}

/-- Takes a value of a field over from one record to another. -/
def Field.copy (r : ρ) (built : ρ) (field : Field ρ) : ρ := field.set (field.get r) built

namespace Schema

/-- **What a schema must satisfy** for its records to be read back. -/
structure Lawful (schema : Schema ρ) : Prop where
  /-- No name is given to two fields. -/
  names : (schema.fields.map Field.name).Nodup
  /-- The values of each field are read back. -/
  codecs : ∀ field ∈ schema.fields, field.codec.Lawful
  /-- The fields make up the record. -/
  copies : ∀ r, schema.fields.foldl (Field.copy r) schema.default = r

/-- **What is written of some fields behind others**, a comma before each. -/
def members (fields : List (Field ρ)) (r : ρ) : List Char :=
  fields.flatMap fun field => ',' :: field.writeFrom r

/-- Parts joined by commas are the first part and the others with a comma before each. -/
theorem joinCommas_cons (field : Field ρ) (fields : List (Field ρ)) (r : ρ) :
    joinCommas ((field :: fields).map fun field => field.writeFrom r) =
      field.writeFrom r ++ members fields r := by
  induction fields generalizing field with
  | nil =>
      show field.writeFrom r = field.writeFrom r ++ []
      rw [List.append_nil]
  | cons next fields ih =>
      show field.writeFrom r ++ ',' :: joinCommas _ = field.writeFrom r ++ _
      rw [ih next]
      rfl

/-- Every member takes a character at least. -/
theorem length_le_members (fields : List (Field ρ)) (r : ρ) :
    fields.length ≤ (members fields r).length := by
  induction fields with
  | nil => exact Nat.zero_le _
  | cons field fields ih =>
      show fields.length + 1 ≤ (members (field :: fields) r).length
      rw [members, List.flatMap_cons, List.length_append, List.length_cons]
      have behind : fields.length ≤ (fields.flatMap fun field => ',' :: field.writeFrom r).length := ih
      omega

/-- No numeral goes on behind a value of an object. -/
theorem delimited_members (fields : List (Field ρ)) (r : ρ) (rest : List Char) :
    Delimited (members fields r ++ '\x7d' :: rest) := by
  cases fields with
  | nil => exact delimited_cons rfl
  | cons field fields => exact delimited_cons rfl

/-! ### One member -/

variable {schema : Schema ρ}

/-- A field is found by its name. -/
theorem find?_name (lawful : schema.Lawful) {field : Field ρ} (member : field ∈ schema.fields) :
    schema.find? field.name = some field := by
  have names := lawful.names
  unfold find?
  generalize schema.fields = fields at member names
  induction fields with
  | nil => cases member
  | cons first fields ih =>
      rw [List.map_cons, List.nodup_cons] at names
      rcases List.mem_cons.mp member with rfl | member
      · exact List.find?_cons_of_pos (beq_self_eq_true field.name)
      · have differs : first.name ≠ field.name := by
          intro same
          exact names.1 (same ▸ List.mem_map_of_mem member)
        rw [List.find?_cons_of_neg (by simpa using differs)]
        exact ih member names.2

/-- **A field is read** behind a key that was not given before. -/
theorem readMember_field {field : Field ρ} {name : String} (found : schema.find? name = some field)
    {seen : List String} (new : name ∉ seen) {between : List Char} (blanks : Blanks between)
    (built : ρ) {value : field.Value} {s rest : List Char}
    (read : field.codec.read s = .ok (value, rest)) :
    schema.readMember seen name built (between ++ ':' :: s) =
      .ok ((name :: seen, field.set value built), rest) := by
  have unseen : seen.contains name = false := by simpa using new
  rw [readMember, found]
  dsimp only
  rw [unseen, skipColon_append blanks]
  show (field.readInto built s >>= _) = _
  rw [Field.readInto, read]
  rfl

/-- **What is read behind a key**: a colon, and a value, which is passed over if there is no field of the
name, and is that of the field if there is one and the name is new. -/
theorem exists_of_readMember {seen seen' : List String} {name : String} {built r : ρ}
    {s after : List Char} (read : schema.readMember seen name built s = .ok ((seen', r), after)) :
    ∃ v, skipColon s = .ok v ∧
      ((schema.find? name = none ∧ skipValue v = .ok after ∧ seen' = seen) ∨
        ∃ (field : Field ρ) (value : field.Value), schema.find? name = some field ∧ name ∉ seen ∧
          field.codec.read v = .ok (value, after) ∧ seen' = name :: seen) := by
  unfold readMember at read
  split at read
  · next unknown =>
    obtain ⟨v, colon, read⟩ := exists_ok_of_bind read
    obtain ⟨after', skipped, given⟩ := exists_ok_of_bind read
    cases given
    exact ⟨v, colon, .inl ⟨unknown, skipped, rfl⟩⟩
  · next field known =>
    split at read
    · cases read
    · next new =>
      obtain ⟨v, colon, read⟩ := exists_ok_of_bind read
      obtain ⟨_, into, given⟩ := exists_ok_of_bind read
      obtain ⟨⟨value, after'⟩, found, given'⟩ := exists_ok_of_bind into
      cases given'
      cases given
      exact ⟨v, colon, .inr ⟨field, value, known, by simpa using new, found, rfl⟩⟩

/-- What stands before the key of a member. -/
def separator (first : Bool) : List Char := if first then [] else [',']

/-- Reads the next key of an object, unless the object closes. -/
def readKey (first : Bool) : Reader (Option String) := fun s =>
  match skipBlanks s with
  | [] => .error .endInObject
  | c :: rest =>
      if c = '\x7d' then .ok (none, rest)
      else do
        let s ← readQuote first c rest
        let (name, s) ← readString s
        return (some name, s)

/-- **One turn reads a key** and goes on with its value, unless the object closes. -/
theorem readMembers_succ (schema : Schema ρ) (turns : Nat) (first : Bool) (seen : List String) (r : ρ)
    (s : List Char) :
    schema.readMembers (turns + 1) first seen r s =
      (do
        let (name?, s) ← readKey first s
        match name? with
        | none => return (r, s)
        | some name =>
            let ((seen, r), s) ← schema.readMember seen name r s
            schema.readMembers turns false seen r s) := by
  rw [readMembers, readKey]
  cases skipBlanks s with
  | nil => rfl
  | cons c rest =>
      dsimp only
      by_cases closes : c = '\x7d'
      · rw [if_pos closes, if_pos closes]
        rfl
      · rw [if_neg closes, if_neg closes]
        cases readQuote first c rest with
        | error fault => rfl
        | ok s =>
            show (readString s >>= _) = (readString s >>= _) >>= _
            cases readString s with
            | error fault => rfl
            | ok found => rfl

/-- **A key is read**, with blanks around what separates it from the member before. -/
theorem readKey_append {name : String} {key : List Char} (is : IsKey name key)
    {lead before : List Char} (blanks : Blanks lead) (blanks' : Blanks before) (first : Bool)
    (s : List Char) :
    readKey first (lead ++ (separator first ++ (before ++ (key ++ s)))) = .ok (some name, s) := by
  obtain ⟨text, rfl, read⟩ := is.exists_readString
  cases first with
  | true =>
      show readKey true (lead ++ (before ++ '"' :: (text ++ s))) = _
      rw [readKey, skipBlanks_append blanks, skipBlanks_solid blanks' (by rfl)]
      show (readString (text ++ s) >>= _) = _
      rw [read]
      rfl
  | false =>
      have quote : readQuote false ',' (before ++ '"' :: (text ++ s)) = .ok (text ++ s) := by
        rw [readQuote, if_neg (by decide), if_pos rfl, skipBlanks_solid blanks' (by rfl)]
        rfl
      show readKey false (lead ++ ',' :: (before ++ '"' :: (text ++ s))) = _
      rw [readKey, skipBlanks_solid blanks (by rfl)]
      dsimp only
      rw [if_neg (by decide), quote]
      show (readString (text ++ s) >>= _) = _
      rw [read]
      rfl

/-- **One turn reads a key**, blanks around what separates it from the member before, and goes on with
its value. -/
theorem readMembers_key (schema : Schema ρ) {name : String} {key : List Char}
    (is : IsKey name key) {lead before : List Char} (blanks : Blanks lead) (blanks' : Blanks before) (first : Bool)
    (seen : List String) (built : ρ) (turns : Nat) (s : List Char) :
    schema.readMembers (turns + 1) first seen built
        (lead ++ (separator first ++ (before ++ (key ++ s)))) =
      (do
        let ((seen, r), s) ← schema.readMember seen name built s
        schema.readMembers turns false seen r s) := by
  rw [readMembers_succ, readKey_append is blanks blanks']
  rfl

/-- **A written member is read back**: one turn puts its value into the record and goes on behind
it. -/
theorem readMembers_member (lawful : schema.Lawful) {field : Field ρ}
    (member : field ∈ schema.fields) {seen : List String} (new : field.name ∉ seen) (r built : ρ)
    {rest : List Char} (delimited : Delimited rest) (first : Bool) (turns : Nat) :
    schema.readMembers (turns + 1) first seen built
        (separator first ++ (field.writeFrom r ++ rest)) =
      schema.readMembers turns false (field.name :: seen) (field.copy r built) rest := by
  have key := readMembers_key schema (isKey_writeString field.name) blanks_nil blanks_nil first seen
    built turns (':' :: (field.codec.write (field.get r) ++ rest))
  have value := readMember_field (find?_name lawful member) new blanks_nil built
    (lawful.codecs field member (field.get r) rest delimited)
  rw [List.nil_append] at value
  rw [Field.writeFrom, List.append_assoc, List.cons_append]
  refine key.trans ?_
  rw [value]
  rfl

/-! ### All members -/

/-- **Written members are read back into a record**, one after the other, up to the closing brace. -/
theorem readMembers_members (lawful : schema.Lawful) {fields : List (Field ρ)}
    (members_of : ∀ field ∈ fields, field ∈ schema.fields)
    (names : (fields.map Field.name).Nodup) {seen : List String}
    (new : ∀ field ∈ fields, field.name ∉ seen) (r built : ρ) (rest : List Char) {turns : Nat}
    (enough : fields.length < turns) :
    schema.readMembers turns false seen built (members fields r ++ '\x7d' :: rest) =
      .ok (fields.foldl (Field.copy r) built, rest) := by
  induction fields generalizing seen built turns with
  | nil =>
      obtain ⟨turns, rfl⟩ := Nat.exists_eq_succ_of_ne_zero (Nat.ne_of_gt enough)
      rfl
  | cons field fields ih =>
      obtain ⟨turns, rfl⟩ := Nat.exists_eq_succ_of_ne_zero (Nat.ne_of_gt (Nat.zero_lt_of_lt enough))
      rw [List.map_cons, List.nodup_cons] at names
      have step := readMembers_member lawful (members_of field List.mem_cons_self)
        (new field List.mem_cons_self) r built (delimited_members fields r rest) false turns
      rw [members, List.flatMap_cons, List.append_assoc]
      -- the name just read is none of the names to come, as no name is given to two fields
      refine step.trans (ih ?_ names.2 ?_ _ (Nat.lt_of_succ_lt_succ enough))
      · exact fun other member => members_of other (List.mem_cons_of_mem _ member)
      · intro other member
        rw [List.mem_cons, not_or]
        refine ⟨fun same => names.1 ?_, new other (List.mem_cons_of_mem _ member)⟩
        rw [← same]
        exact List.mem_map_of_mem member

/-- **The members of a written record are read back**, from the first one on. -/
theorem readMembers_record (lawful : schema.Lawful) (r : ρ) (rest : List Char) {turns : Nat}
    (enough : schema.fields.length < turns) :
    schema.readMembers turns true [] schema.default
        (joinCommas (schema.fields.map fun field => field.writeFrom r) ++ '\x7d' :: rest) =
      .ok (r, rest) := by
  have copied := lawful.copies r
  have names := lawful.names
  obtain ⟨turns, rfl⟩ := Nat.exists_eq_succ_of_ne_zero (Nat.ne_of_gt (Nat.zero_lt_of_lt enough))
  -- the first member has no comma before it
  cases all : schema.fields with
  | nil =>
      rw [all, List.foldl_nil] at copied
      rw [copied]
      rfl
  | cons field fields =>
      have members_of : ∀ other ∈ field :: fields, other ∈ schema.fields := by
        rw [all]
        exact fun _ member => member
      rw [all] at copied enough
      rw [all, List.map_cons, List.nodup_cons] at names
      rw [joinCommas_cons, List.append_assoc]
      refine (readMembers_member lawful (members_of field List.mem_cons_self) List.not_mem_nil r _
        (delimited_members fields r rest) true turns).trans ?_
      rw [readMembers_members lawful _ names.2 _ r _ rest (Nat.lt_of_succ_lt_succ enough)]
      · rw [← List.foldl_cons, copied]
      · exact fun other member => members_of other (List.mem_cons_of_mem _ member)
      · intro other member same
        rw [List.mem_singleton] at same
        exact names.1 (same ▸ List.mem_map_of_mem member)

/-- **A lawful schema has a lawful codec**: a written record is read back. -/
theorem Lawful.codec (lawful : schema.Lawful) : schema.codec.Lawful := by
  intro r rest _
  show schema.read (schema.write r ++ rest) = _
  rw [write, List.cons_append, List.append_assoc, read, readFirst_cons (by rfl)]
  refine readMembers_record lawful r rest ?_
  rw [List.length_append]
  cases fields : schema.fields with
  | nil => exact Nat.zero_lt_succ _
  | cons field others =>
      have behind := length_le_members others r
      rw [joinCommas_cons]
      simp only [List.length_append, List.length_cons]
      omega

end Schema

end Scanout.Json
