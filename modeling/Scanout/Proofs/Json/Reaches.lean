import Scanout.Proofs.Json.Progress

/-!
# What comes next in a record

Behind items that are accepted, the next one decides at once in three cases.  A known name that was given
before is a fault, and nothing behind it is looked at; so is an element for which there is no field.  And
the fault of the value of a field is that of the record.

## Main definitions

* `Json.Schema.Repeats` — a known name comes again in an object
* `Json.Schema.Overflows` — an element comes for which there is no field
* `Json.Schema.Reaches` — the value of a field comes next

## Main results

* `Json.Schema.Repeats.read_eq` — a known name that comes again is a fault
* `Json.Schema.Overflows.exists_fault` — an element too many is a fault
* `Json.Schema.Reaches.read_eq` — the fault of a value is that of the record
-/

namespace Scanout.Json.Schema

variable {ρ : Type} {schema : Schema ρ}

/-! ### Cases -/

/-- **A known name comes again in an object**: the members before it are accepted, one of them has the
name, and the key stands for it in any spelling.  Whatever follows the key is not looked at. -/
inductive Repeats (schema : Schema ρ) (name : String) : List Char → Prop
  | again {members : List Member} {before lead blank blank' key rest : List Char} :
      schema.Gathers .object members lead → name ∈ members.map Member.name →
      name ∈ schema.fields.map Field.name → Blanks before → Blanks blank → Blanks blank' →
      IsKey name key →
      Repeats schema name (before ++ (lead ++ (blank ++ ',' :: (blank' ++ (key ++ rest)))))

/-- **An element comes for which there is no field**: every field has its element, each of them is
accepted, and a comma follows. -/
inductive Overflows (schema : Schema ρ) : List Char → Prop
  | beyond {members : List Member} {before lead blank more : List Char} :
      schema.Gathers .list members lead → members.length = schema.fields.length → Blanks before →
      Blanks blank → Overflows schema (before ++ (lead ++ (blank ++ ',' :: more)))

/-- **The value of a field comes next**: the items before it are accepted, and the field is named or has
the place.  A text begins there that need not be a value. -/
inductive Reaches (schema : Schema ρ) (field : Field ρ) (t : List Char) : List Char → Prop
  | named {members : List Member} {before lead blank blank' key between : List Char} :
      schema.Gathers .object members lead → field ∈ schema.fields →
      field.name ∉ members.map Member.name → Blanks before → Blanks blank → Blanks blank' →
      IsKey field.name key → Blanks between →
      Reaches schema field t (before ++ (lead ++
        (blank ++ (separator members.isEmpty ++ (blank' ++ (key ++ (between ++ ':' :: t)))))))
  | placed {members : List Member} {before lead blank blank' u : List Char} {c : Char} :
      schema.Gathers .list members lead → schema.fields[members.length]? = some field →
      Blanks before → Blanks blank → Blanks blank' → t = c :: u → isBlank c = false →
      c ≠ Bracket.list.closing →
      Reaches schema field t
        (before ++ (lead ++ (blank ++ (separator members.isEmpty ++ (blank' ++ t)))))

theorem Reaches.mem {field : Field ρ} {s t : List Char} (reaches : schema.Reaches field t s) :
    field ∈ schema.fields := by
  cases reaches with
  | named _ listed => exact listed
  | placed _ at_ => exact List.mem_of_getElem? at_

/-! ### Verdicts -/

/-- A list of no names has no name. -/
theorem isEmpty_of_mem {members : List Member} {name : String}
    (among : name ∈ members.map Member.name) : members.isEmpty = false := by
  cases members with
  | nil => cases among
  | cons => rfl

/-- **A known name that comes again is a fault**, whatever follows. -/
theorem Repeats.read_eq (legible : schema.Legible) {name : String} {s : List Char}
    (repeats : schema.Repeats name s) : schema.read s = .error (.duplicateField name) := by
  cases repeats with
  | @again members before lead blank blank' key rest gathers given known blanks₁ blanks₂ blanks₃ is =>
      obtain ⟨field, listed, rfl⟩ := List.mem_map.mp known
      obtain ⟨r, holds⟩ := exists_holds legible gathers.acceptable gathers.distinct
      have apart := delimited_separator members blanks₂ (blank' ++ (key ++ rest))
      obtain ⟨after, turns, blanks, -, reading⟩ :=
        gathers.begun.exists_turns legible.lawful holds gathers.distinct blanks₁ apart
      have seen : (schema.recalled members).contains field.name = true := by
        simpa using (mem_recalled legible.lawful listed members).mpr given
      rw [isEmpty_of_mem given, ← List.append_assoc after,
        readMembers_key schema is (blanks_append blanks blanks₂) blanks₃] at reading
      refine Eq.trans reading ?_
      rw [readMember, find?_name legible.lawful listed]
      dsimp only
      rw [if_pos seen]
      rfl

/-- **An element too many is a fault**, whatever follows. -/
theorem Overflows.exists_fault (legible : schema.Legible) {s : List Char}
    (overflows : schema.Overflows s) :
    ∃ fault ∈ [Fault.trailingComma, .trailingCharacters], schema.read s = .error fault := by
  cases overflows with
  | @beyond members before lead blank more gathers all blanks₁ blanks₂ =>
      obtain ⟨r, holds⟩ := exists_holds legible gathers.acceptable gathers.distinct
      have delimited : Delimited (blank ++ ',' :: more) := (delimited_cons (by rfl)).blanks blanks₂
      obtain ⟨after, blanks, reading⟩ :=
        gathers.begun.exists_left legible.lawful holds blanks₁ (.inr delimited)
      rw [List.drop_of_length_le (Nat.le_of_eq all.symm), ← List.append_assoc after] at reading
      rw [reading]
      show ∃ fault ∈ _, (readEnd _ >>= _) = _
      rw [readEnd, skipBlanks_solid (blanks_append blanks blanks₂) (by rfl)]
      dsimp only
      rw [if_neg (by decide)]
      split
      · exact ⟨.trailingComma, by simp, rfl⟩
      · exact ⟨.trailingCharacters, by simp, rfl⟩

/-- **The fault of a value is that of the record.** -/
theorem Reaches.read_eq (legible : schema.Legible) {field : Field ρ} {s t : List Char}
    (reaches : schema.Reaches field t s) {fault : Fault} (failed : field.codec.read t = .error fault) :
    schema.read s = .error fault := by
  have failed' (built : ρ) : field.readInto built t = .error fault := by
    rw [Field.readInto, failed]
    rfl
  cases reaches with
  | @named members before lead blank blank' key between gathers listed new blanks₁ blanks₂ blanks₃ is
      blanks₄ =>
      obtain ⟨r, holds⟩ := exists_holds legible gathers.acceptable gathers.distinct
      have apart := delimited_separator members blanks₂
        (blank' ++ (key ++ (between ++ ':' :: t)))
      obtain ⟨after, turns, blanks, -, reading⟩ :=
        gathers.begun.exists_turns legible.lawful holds gathers.distinct blanks₁ apart
      have unseen : (schema.recalled members).contains field.name = false := by
        simpa using (mem_recalled legible.lawful listed members).not.mpr new
      rw [← List.append_assoc after,
        readMembers_key schema is (blanks_append blanks blanks₂) blanks₃] at reading
      rw [reading, readMember, find?_name legible.lawful listed]
      dsimp only
      rw [unseen, skipColon_append blanks₄]
      show ((field.readInto _ t >>= _) >>= _) = _
      rw [failed']
      rfl
  | @placed members before lead blank blank' u c gathers at_ blanks₁ blanks₂ blanks₃ begins solid other =>
      obtain ⟨r, holds⟩ := exists_holds legible gathers.acceptable gathers.distinct
      have apart := delimited_separator members blanks₂ (blank' ++ t)
      obtain ⟨after, blanks, reading⟩ :=
        gathers.begun.exists_left legible.lawful holds blanks₁ apart
      have goes := findElement_append (t := u) (blanks_append blanks blanks₂) blanks₃ solid other
        members.isEmpty
      rw [← begins, List.append_assoc] at goes
      rw [reading, drop_of_getElem? at_, readElements_cons, goes]
      show (field.readInto _ t >>= _) = _
      rw [failed']
      rfl

end Scanout.Json.Schema
