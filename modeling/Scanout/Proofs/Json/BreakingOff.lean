import Scanout.Proofs.Json.Contents
import Scanout.Proofs.Json.EndsAlike

/-!
# Texts that break off

A text that is a record has a bracket at its end, so it says where it ends, and a text that breaks off
before that is no record.  What is wrong with it is that it breaks off, since each of its values is read
as far as it goes; only the value of an unknown key is passed over, and the wording of a numeral that
breaks off there is another.

## Main definitions

* `Json.Patient` — a text that may break off anywhere
* `Json.Schema.Steady` — what is needed of the fields of a record

## Main results

* `Json.Schema.extends_read` — a record knows where it ends
* `Json.Schema.patient_read` — a record without unknown keys may break off anywhere
* `Json.Codec.parse_beginning` — whole texts that break off
-/

namespace Scanout.Json

open Leaves (rest behind)

/-! ### Beginnings -/

section Steps

variable {β γ : Type} [Leaves β] [Leaves γ] {f : β → Except Fault γ} {b : β} {fault : Fault}

omit [Leaves γ] in
/-- Where a longer text is without a fault, the text breaks off. -/
theorem FinalAt.unfinished (final : FinalAt f b) (failed : f b = .error fault) {t : List Char} {c : γ}
    (found : f (behind b t) = .ok c) : fault.category = .unfinished :=
  Decidable.byContradiction fun other => final failed other t c found

/-- **A fault of two steps on the beginning of a text**, if the first is without one on the whole text:
the text breaks off there, or the first step ends there as on the whole text. -/
theorem ClosedAt.error_of_bind {δ : Type} {k : γ → Except Fault δ} (closed : ClosedAt f b)
    {t : List Char} {c : γ} (whole : f (behind b t) = .ok c) (failed : f b >>= k = .error fault) :
    fault.category = .unfinished ∨ ∃ c', f b = .ok c' ∧ behind c' t = c ∧ k c' = .error fault := by
  rcases Json.error_of_bind failed with broke | ⟨c', begun, failed⟩
  · exact .inl (closed.final.unfinished broke whole)
  · exact .inr ⟨c', begun, Except.ok.inj ((closed.ext begun t).symm.trans whole), failed⟩

/-- **A text that may break off anywhere**: if it is without a fault, nothing is wrong with its
beginnings but that they break off. -/
def Patient (f : List Char → Except Fault γ) (s : List Char) : Prop :=
  ∀ ⦃p t c⦄, s = p ++ t → f s = .ok c → ∀ ⦃fault⦄, f p = .error fault → fault.category = .unfinished

omit [Leaves γ] in
/-- Where faults are final, every text may break off anywhere. -/
theorem patient_of_final {f : List Char → Except Fault γ} (final : ∀ p, FinalAt f p) (s : List Char) :
    Patient f s := by
  rintro p t c rfl found fault failed
  exact (final p).unfinished failed found

end Steps

/-- A reader that goes by the first character, on a text that has one. -/
theorem readFirst_of_begins {α : Type} {read : Char → Reader α} {s t : List Char} {c : Char}
    (begins : skipBlanks s = c :: t) : readFirst read s = read c t := by
  rw [readFirst, begins]

/-- A bracket that closes is no blank. -/
theorem skipBlanks_ne_nil {s : List Char} {bracket : Bracket} (closes : bracket.closing ∈ s) :
    skipBlanks s ≠ [] := by
  intro blank
  have among := List.dropWhile_eq_nil_iff.mp blank _ closes
  rw [isBlank_closing] at among
  cases among

namespace Codec

variable {α : Type} {codec : Codec α}

/-- **A text that breaks off** before something that is not blank is no text of a value that knows where
it ends. -/
theorem parse_beginning (ext : ∀ s, ExtendsAt codec.read s) {text cut : String} {more : List Char}
    {value : α} (parsed : codec.parse text = .ok value) (whole : text.toList = cut.toList ++ more)
    (solid : skipBlanks more ≠ []) :
    ∃ fault, codec.parse cut = .error fault ∧
      (Patient codec.read text.toList → fault.category = .unfinished) := by
  obtain ⟨⟨value', after⟩, read, ended⟩ := exists_ok_of_bind parsed
  have blank : skipBlanks after = [] := by
    change (if (skipBlanks after).isEmpty then _ else _) = _ at ended
    split at ended
    · next empty => exact List.isEmpty_iff.mp empty
    · cases ended
  show ∃ fault, (codec.read cut.toList >>= _) = _ ∧ _
  cases early : codec.read cut.toList with
  | error fault => exact ⟨fault, rfl, fun patient => patient whole read early⟩
  | ok found =>
      -- what is left of the longer text is not blank then
      have later := ext cut.toList early more
      rw [show behind cut.toList more = text.toList from whole.symm, read] at later
      obtain rfl : after = found.2 ++ more := (Prod.mk.inj (Except.ok.inj later)).2
      refine absurd blank ?_
      by_cases left : skipBlanks found.2 = []
      · have blanks : Blanks found.2 := List.dropWhile_eq_nil_iff.mp left
        rwa [skipBlanks_append blanks]
      · rw [skipBlanks_behind left]
        simp [left]

end Codec

/-! ### Single steps -/

namespace Schema

variable {ρ : Type} {schema : Schema ρ}

theorem closed_readKey (first : Bool) : Closed (readKey first) := by
  have asSteps : readKey first = fun s => byFirst .endInObject (fun c rest =>
      if c = '\x7d' then .ok (none, rest)
      else readQuote first c rest >>= fun s =>
        readString s >>= fun found => .ok (some found.1, found.2)) (skipBlanks s) := by
    funext s
    rw [readKey]
    cases skipBlanks s <;> rfl
  have quote (c : Char) : Closed (readQuote first c) := by
    refine closed_ite (fun _ => closed_ite (fun _ => closed_rest) fun _ => closed_error) fun _ => ?_
    refine closed_ite (fun _ => ?_) fun _ => closed_error
    exact closed_skipBlanks rfl fun c => closed_ite (fun _ => closed_rest) fun _ =>
      closed_ite (fun _ => closed_error) fun _ => closed_error
  rw [asSteps]
  refine closed_skipBlanks rfl fun c => closed_ite (fun _ => closed_found none) fun _ => ?_
  exact (quote c).bind (closed_readString.bind (closed_map some))

theorem closed_findElement (first : Bool) : Closed (findElement first) := by
  have asSteps : findElement first = fun s => byFirst .endInList (fun c rest =>
      if c = ']' then .ok (false, rest)
      else readSeparator first c rest >>= fun s => .ok (true, s)) (skipBlanks s) := by
    funext s
    rw [findElement]
    cases skipBlanks s <;> rfl
  have separator (c : Char) : Closed (readSeparator first c) := by
    refine closed_ite (fun _ => closed_ok fun _ _ => rfl) fun _ => ?_
    refine closed_ite (fun _ => ?_) fun _ => closed_error
    exact closed_skipBlanks rfl fun c => closed_ite (fun _ => closed_error) fun _ =>
      closed_ok fun _ _ => rfl
  rw [asSteps]
  refine closed_skipBlanks rfl fun c => closed_ite (fun _ => closed_found false) fun _ => ?_
  exact (separator c).bind (closed_found true)

theorem closed_readEnd : Closed readEnd := by
  have asSteps : readEnd = fun s => byFirst .endInList (fun c rest =>
      if c = ']' then .ok rest
      else .error (if c = ',' && (skipBlanks rest).head? == some ']' then .trailingComma
        else .trailingCharacters)) (skipBlanks s) := by
    funext s
    rw [readEnd]
    cases skipBlanks s with
    | nil => rfl
    | cons c rest =>
        show _ = if _ then _ else _
        dsimp only
        split
        · rfl
        · split <;> rfl
  rw [asSteps]
  exact closed_skipBlanks rfl fun c => closed_ite (fun _ => closed_rest) fun _ => closed_error

/-- **What is needed of the fields** of a record, so that it is known where the record ends. -/
structure Steady (schema : Schema ρ) : Prop where
  /-- A value that ends before the text does ends there on every longer text. -/
  stable : ∀ field ∈ schema.fields, ∀ s, StableAt field.codec.read s
  /-- A value that is read ends where it ends if it is passed over. -/
  alike : ∀ field ∈ schema.fields, field.codec.EndsAlike

theorem stable_readInto {field : Field ρ} {s : List Char} (stable : StableAt field.codec.read s) (r : ρ) :
    StableAt (field.readInto r) s := by
  rintro found known more t
  obtain ⟨⟨value, after⟩, read, given⟩ := exists_ok_of_bind known
  cases given
  show (field.codec.read (s ++ t) >>= _) = _
  rw [show field.codec.read (s ++ t) = _ from stable read more t]
  rfl

theorem stable_readMember (steady : schema.Steady) (seen : List String) (name : String) (r : ρ)
    (s : List Char) : StableAt (schema.readMember seen name r) s := by
  rintro found known more t
  show schema.readMember seen name r (s ++ t) = _
  cases named : schema.find? name with
  | none =>
      rw [readMember, named] at known ⊢
      obtain ⟨v, colon, known⟩ := exists_ok_of_bind known
      obtain ⟨after, skipped, given⟩ := exists_ok_of_bind known
      cases given
      show (skipColon (s ++ t) >>= _) = _
      rw [show skipColon (s ++ t) = _ from (Codec.closed_skipColon s).ext colon t]
      show (skipValue (v ++ t) >>= _) = _
      rw [show skipValue (v ++ t) = _ from stable_skipValue v skipped more t]
      rfl
  | some field =>
      rw [readMember, named] at known ⊢
      dsimp only at known ⊢
      split at known
      · cases known
      · next new =>
        obtain ⟨v, colon, known⟩ := exists_ok_of_bind known
        obtain ⟨read, into, given⟩ := exists_ok_of_bind known
        cases given
        have stable := stable_readInto (steady.stable field (mem_of_find? named).1 v) r
        rw [if_neg new]
        show (skipColon (s ++ t) >>= _) = _
        rw [show skipColon (s ++ t) = _ from (Codec.closed_skipColon s).ext colon t]
        show (field.readInto r (v ++ t) >>= _) = _
        rw [show field.readInto r (v ++ t) = _ from stable into more t]
        rfl

/-! ### Records know where they end -/

/-- **The members of an object end behind the brace that closes it.**  A longer text may take more turns. -/
theorem readMembers_behind (steady : schema.Steady) {turns turns' : Nat} (enough : turns ≤ turns')
    {first : Bool} {seen : List String} {r r' : ρ} {s after : List Char}
    (found : schema.readMembers turns first seen r s = .ok (r', after)) (t : List Char) :
    schema.readMembers turns' first seen r (s ++ t) = .ok (r', after ++ t) := by
  induction turns generalizing turns' first seen r s with
  | zero => cases found
  | succ turns ih =>
      obtain ⟨turns', rfl⟩ : ∃ others, turns' = others + 1 := ⟨turns' - 1, by omega⟩
      rw [readMembers_succ] at found ⊢
      obtain ⟨⟨name?, s₁⟩, key, found⟩ := exists_ok_of_bind found
      rw [show readKey first (s ++ t) = .ok (name?, s₁ ++ t) from (closed_readKey first s).ext key t]
      cases name? with
      | none =>
          cases found
          rfl
      | some name =>
          obtain ⟨⟨⟨seen', r₁⟩, s₂⟩, read, later⟩ := exists_ok_of_bind found
          -- the next turn finds something, so the member does not end where the text does
          have more : s₂ ≠ [] := by
            rintro rfl
            cases turns <;> cases later
          have read' := stable_readMember steady seen name r s₁ read more t
          show (schema.readMember seen name r (s₁ ++ t) >>= _) = _
          rw [show schema.readMember seen name r (s₁ ++ t) = _ from read']
          exact ih (Nat.le_of_succ_le_succ enough) later

/-- **The elements of a list end behind the bracket that closes it.** -/
theorem readElements_behind {fields : List (Field ρ)}
    (stable : ∀ field ∈ fields, ∀ s, StableAt field.codec.read s) {first : Bool} {r r' : ρ}
    {s after : List Char} (found : readElements fields first r s = .ok (r', after)) (t : List Char) :
    readElements fields first r (s ++ t) = .ok (r', after ++ t) := by
  induction fields generalizing first r s with
  | nil =>
      obtain ⟨after', ended, given⟩ := exists_ok_of_bind found
      cases given
      show (readEnd (s ++ t) >>= _) = _
      rw [show readEnd (s ++ t) = _ from (closed_readEnd s).ext ended t]
      rfl
  | cons field fields ih =>
      rw [readElements_cons] at found ⊢
      obtain ⟨⟨more?, s₁⟩, goes, found⟩ := exists_ok_of_bind found
      rw [show findElement first (s ++ t) = .ok (more?, s₁ ++ t) from
        (closed_findElement first s).ext goes t]
      cases more? with
      | false =>
          cases found
          rfl
      | true =>
          obtain ⟨⟨r₁, s₂⟩, read, later⟩ := exists_ok_of_bind found
          -- the list is closed behind the element, so the element does not end where the text does
          have more : s₂ ≠ [] := by
            rintro rfl
            cases fields <;> cases later
          have read' := stable_readInto (stable field List.mem_cons_self s₁) r read more t
          show (field.readInto r (s₁ ++ t) >>= _) = _
          rw [show field.readInto r (s₁ ++ t) = _ from read']
          exact ih (fun other listed => stable other (List.mem_cons_of_mem _ listed)) later

/-- **A record knows where it ends.** -/
theorem extends_read (steady : schema.Steady) (s : List Char) : ExtendsAt schema.codec.read s := by
  rintro ⟨r, after⟩ found t
  obtain ⟨c, u, begins, found⟩ := exists_of_readFirst found
  refine (readFirst_of_begins (skipBlanks_longer begins t)).trans ?_
  cases opens : opening? c with
  | none =>
      rw [opens] at found
      cases found
  | some bracket =>
      rw [opens] at found
      cases bracket with
      | list => exact readElements_behind steady.stable found t
      | object =>
          refine readMembers_behind steady ?_ found t
          rw [List.length_append]
          omega

/-! ### Records that break off -/

theorem unfinished_of_readInto {field : Field ρ} {s t : List Char}
    (patient : Patient field.codec.read (s ++ t)) {r r' : ρ} {found : ρ × List Char} {fault : Fault}
    (whole : field.readInto r (s ++ t) = .ok found) (failed : field.readInto r' s = .error fault) :
    fault.category = .unfinished := by
  obtain ⟨_, read, -⟩ := exists_ok_of_bind whole
  rcases error_of_bind failed with broke | ⟨_, -, impossible⟩
  · exact patient rfl read broke
  · cases impossible

/-- **A member that breaks off**, if there is a field of its name. -/
theorem unfinished_of_readMember {name : String} {field : Field ρ}
    (named : schema.find? name = some field) {s t : List Char}
    (patient : ∀ v, skipColon (s ++ t) = .ok v → Patient field.codec.read v) {seen : List String} {r : ρ}
    {found : (List String × ρ) × List Char} {fault : Fault}
    (whole : schema.readMember seen name r (s ++ t) = .ok found)
    (failed : schema.readMember seen name r s = .error fault) : fault.category = .unfinished := by
  rw [readMember, named] at whole failed
  dsimp only at whole failed
  split at whole
  · cases whole
  · next new =>
    rw [if_neg new] at failed
    obtain ⟨v, colon, whole⟩ := exists_ok_of_bind whole
    obtain ⟨_, into, -⟩ := exists_ok_of_bind whole
    rcases (Codec.closed_skipColon s).error_of_bind colon failed with broke | ⟨v', -, rfl, failed⟩
    · exact broke
    · rcases error_of_bind failed with broke | ⟨_, -, impossible⟩
      · exact unfinished_of_readInto (patient _ colon) into broke
      · cases impossible

/-- **Members that break off**, if each has the name of a field. -/
theorem unfinished_of_readMembers (steady : schema.Steady) {turns turns' : Nat} {first : Bool}
    {seen : List String} {r : ρ} {found : ρ × List Char} {s t : List Char} {fault : Fault}
    (whole : schema.readMembers turns' first seen r (s ++ t) = .ok found)
    (known : ∀ name v, HasMember first (s ++ t) name v →
      ∃ field, schema.find? name = some field ∧ Patient field.codec.read v)
    (failed : schema.readMembers turns first seen r s = .error fault) :
    fault.category = .unfinished := by
  induction turns generalizing turns' first seen r s with
  | zero =>
      cases failed
      rfl
  | succ turns ih =>
      cases turns' with
      | zero => cases whole
      | succ turns' =>
          rw [readMembers_succ] at whole failed
          obtain ⟨⟨name?, s₁⟩, key, whole⟩ := exists_ok_of_bind whole
          rcases (closed_readKey first s).error_of_bind key failed with
            broke | ⟨⟨name?', s₁'⟩, -, same, failed⟩
          · exact broke
          · cases same
            cases name?' with
            | none => cases failed
            | some name =>
                obtain ⟨⟨⟨seen', r₁⟩, s₂⟩, read, later⟩ := exists_ok_of_bind whole
                obtain ⟨v, colon, skipped⟩ := parts_of_readMember steady.alike read
                obtain ⟨field, named, patient⟩ := known name v (.here key colon)
                rcases error_of_bind failed with broke | ⟨⟨⟨seen'', r₂⟩, s₂'⟩, read', failed'⟩
                · refine unfinished_of_readMember named (fun v' colon' => ?_) read broke
                  obtain rfl := Except.ok.inj (colon.symm.trans colon')
                  exact patient
                · cases s₂' with
                  | nil =>
                      -- the text breaks off behind the value
                      cases turns <;> cases failed' <;> rfl
                  | cons c u =>
                      have longer := stable_readMember steady seen name r s₁' read'
                        (List.cons_ne_nil c u) t
                      obtain ⟨⟨rfl, rfl⟩, rfl⟩ : (seen'' = seen' ∧ r₂ = r₁) ∧ c :: u ++ t = s₂ := by
                        simpa [behind] using longer.symm.trans read
                      exact ih later (fun name' v' has => known name' v' (.later key colon skipped has))
                        failed'

/-- **Elements that break off.** -/
theorem unfinished_of_readElements {fields : List (Field ρ)}
    (stable : ∀ field ∈ fields, ∀ s, StableAt field.codec.read s)
    (alike : ∀ field ∈ fields, field.codec.EndsAlike) {first : Bool} {r : ρ} {found : ρ × List Char}
    {s t : List Char} {fault : Fault} (whole : readElements fields first r (s ++ t) = .ok found)
    (known : ∀ field v, HasElement fields first (s ++ t) field v → Patient field.codec.read v)
    (failed : readElements fields first r s = .error fault) : fault.category = .unfinished := by
  induction fields generalizing first r s with
  | nil =>
      obtain ⟨_, ended, -⟩ := exists_ok_of_bind whole
      rcases (closed_readEnd s).error_of_bind ended failed with broke | ⟨_, -, -, impossible⟩
      · exact broke
      · cases impossible
  | cons field fields ih =>
      rw [readElements_cons] at whole failed
      obtain ⟨⟨more?, s₁⟩, goes, whole⟩ := exists_ok_of_bind whole
      rcases (closed_findElement first s).error_of_bind goes failed with
        broke | ⟨⟨more?', s₁'⟩, -, same, failed⟩
      · exact broke
      · cases same
        cases more?' with
        | false => cases failed
        | true =>
            obtain ⟨⟨r₁, s₂⟩, read, later⟩ := exists_ok_of_bind whole
            have skipped := skipValue_of_readInto (alike field List.mem_cons_self) read
            rcases error_of_bind failed with broke | ⟨⟨r₂, s₂'⟩, read', failed'⟩
            · exact unfinished_of_readInto (known field _ (.here goes)) read broke
            · cases s₂' with
              | nil =>
                  -- the text breaks off behind the element
                  cases fields <;> cases failed' <;> rfl
              | cons c u =>
                  have longer := stable_readInto (stable field List.mem_cons_self s₁') r read'
                    (List.cons_ne_nil c u) t
                  obtain ⟨rfl, rfl⟩ : r₂ = r₁ ∧ c :: u ++ t = s₂ := by
                    simpa [behind] using longer.symm.trans read
                  exact ih (fun other listed => stable other (List.mem_cons_of_mem _ listed))
                    (fun other listed => alike other (List.mem_cons_of_mem _ listed)) later
                    (fun field' v' has => known field' v' (.later goes skipped has)) failed'

/-- **A record without unknown keys may break off anywhere**, if the values that it gives its fields
may. -/
theorem patient_read (steady : schema.Steady) {s : List Char} (known : ¬schema.HasUnknownKey s)
    (patient : ∀ field v, schema.Assigns s field v → Patient field.codec.read v) :
    Patient schema.codec.read s := by
  rintro p t found rfl whole fault failed
  cases begins : skipBlanks p with
  | nil =>
      have nothing : schema.codec.read p = .error .endInValue := by
        show readFirst _ p = _
        rw [readFirst, begins]
      cases nothing.symm.trans failed
      rfl
  | cons c u =>
      have begins' := skipBlanks_longer begins t
      replace whole := (readFirst_of_begins begins').symm.trans whole
      replace failed := (readFirst_of_begins begins).symm.trans failed
      cases opens : opening? c with
      | none =>
          rw [opens] at whole
          cases whole
      | some bracket =>
          rw [opens] at whole failed
          obtain rfl := opening_of_opening? opens
          cases bracket with
          | list =>
              exact unfinished_of_readElements steady.stable steady.alike whole
                (fun field v has => patient field v (.placed begins' has)) failed
          | object =>
              refine unfinished_of_readMembers steady whole (fun name v has => ?_) failed
              cases named : schema.find? name with
              | none => exact absurd ⟨u ++ t, name, v, begins', has, named⟩ known
              | some field => exact ⟨field, rfl, patient field v (.named begins' has named)⟩

end Schema

end Scanout.Json
