import Scanout.Proofs.Json.Lawful

/-!
# Readers on longer texts

What a step of a reader makes of a text says something about every longer text.  If the step ends
before the text does, it ends there on the longer text as well; a numeral alone may go on where the text
broke off.  A fault that is not one of breaking off cannot be mended by more text.

## Main definitions

* `Json.Leaves` — what a step ends with, with a rest of the text in it
* `Json.ExtendsAt`, `Json.StableAt`, `Json.FinalAt` — how a step treats a longer text
* `Json.Closed` — a step that knows where it ends
* `Json.Open` — a step that may go on where the text breaks off

## Main results

* `Json.Closed.bind`, `Json.Open.map` — steps one behind the other
* `Json.closed_readFirst`, `Json.open_readFirst` — readers that go by the first character
* `Json.closed_readString`, `Json.closed_skipString` — strings
-/

namespace Scanout.Json

/-! ### Steps -/

/-- **What a step ends with**: it has a rest of the text in it, behind which there may be more. -/
class Leaves (β : Type) where
  rest : β → List Char
  behind : β → List Char → β

instance : Leaves (List Char) := ⟨id, fun s t => s ++ t⟩

instance {α : Type} : Leaves (α × List Char) := ⟨Prod.snd, fun b t => (b.1, b.2 ++ t)⟩

open Leaves (rest behind)

section Steps

variable {β γ δ : Type} [Leaves β] [Leaves γ] [Leaves δ] {f : β → Except Fault γ}
  {k : γ → Except Fault δ} {b : β}

/-- **Where a step ends, it ends on every longer text.** -/
def ExtendsAt (f : β → Except Fault γ) (b : β) : Prop :=
  ∀ ⦃c⦄, f b = .ok c → ∀ t, f (behind b t) = .ok (behind c t)

/-- **Where a step ends before the text does, it ends on every longer text.** -/
def StableAt (f : β → Except Fault γ) (b : β) : Prop :=
  ∀ ⦃c⦄, f b = .ok c → rest c ≠ [] → ∀ t, f (behind b t) = .ok (behind c t)

/-- **A fault is final**: unless the text breaks off, no longer text is without a fault. -/
def FinalAt (f : β → Except Fault γ) (b : β) : Prop :=
  ∀ ⦃fault⦄, f b = .error fault → fault.category ≠ .unfinished → ∀ t c, f (behind b t) ≠ .ok c

structure ClosedAt (f : β → Except Fault γ) (b : β) : Prop where
  ext : ExtendsAt f b
  final : FinalAt f b

structure OpenAt (f : β → Except Fault γ) (b : β) : Prop where
  stable : StableAt f b
  final : FinalAt f b

/-- **A step that knows where it ends.** -/
def Closed (f : β → Except Fault γ) : Prop := ∀ b, ClosedAt f b

/-- **A step that may go on where the text breaks off.** -/
def Open (f : β → Except Fault γ) : Prop := ∀ b, OpenAt f b

theorem ExtendsAt.stable (ext : ExtendsAt f b) : StableAt f b := fun _ found _ => ext found

theorem ClosedAt.open (closed : ClosedAt f b) : OpenAt f b := ⟨closed.ext.stable, closed.final⟩

theorem Closed.open (closed : Closed f) : Open f := fun b => (closed b).open

/-- A step that does on a text, and on every longer one, what another step does. -/
theorem OpenAt.of_eq {β' : Type} [Leaves β'] {g : β' → Except Fault γ} {b' : β'} (opened : OpenAt g b')
    (here : f b = g b') (there : ∀ t, f (behind b t) = g (behind b' t)) : OpenAt f b := by
  constructor
  · intro c found more t
    rw [there]
    exact opened.stable (here ▸ found) more t
  · intro fault failed other t c
    rw [there]
    exact opened.final (here ▸ failed) other t c

/-! ### Steps one behind the other -/

/-- A fault of two steps is one of the first or one of the second. -/
theorem error_of_bind {α β : Type} {step : Except Fault α} {next : α → Except Fault β} {fault : Fault}
    (failed : step >>= next = .error fault) :
    step = .error fault ∨ ∃ a, step = .ok a ∧ next a = .error fault := by
  cases step with
  | error cause => exact .inl (congrArg Except.error (Except.error.inj failed))
  | ok a => exact .inr ⟨a, rfl, failed⟩

theorem ExtendsAt.bind (ext : ExtendsAt f b) (ext' : ∀ c, f b = .ok c → ExtendsAt k c) :
    ExtendsAt (fun b => f b >>= k) b := by
  intro d found t
  obtain ⟨c, first, later⟩ := exists_ok_of_bind found
  show (f (behind b t) >>= k) = _
  rw [ext first t]
  exact ext' c first later t

theorem ExtendsAt.bind_stable (ext : ExtendsAt f b) (stable : ∀ c, f b = .ok c → StableAt k c) :
    StableAt (fun b => f b >>= k) b := by
  intro d found more t
  obtain ⟨c, first, later⟩ := exists_ok_of_bind found
  show (f (behind b t) >>= k) = _
  rw [ext first t]
  exact stable c first later more t

/-- Behind a step that may go on, a step is stable if nothing is left of an ended text. -/
theorem StableAt.bind (stable : StableAt f b) (stable' : ∀ c, f b = .ok c → StableAt k c)
    (ends : ∀ c d, f b = .ok c → k c = .ok d → rest c = [] → rest d = []) :
    StableAt (fun b => f b >>= k) b := by
  intro d found more t
  obtain ⟨c, first, later⟩ := exists_ok_of_bind found
  show (f (behind b t) >>= k) = _
  rw [stable first (fun ended => more (ends c d first later ended)) t]
  exact stable' c first later more t

omit [Leaves δ] in
theorem FinalAt.bind (final : FinalAt f b) (ext : ExtendsAt f b)
    (final' : ∀ c, f b = .ok c → FinalAt k c) : FinalAt (fun b => f b >>= k) b := by
  intro fault failed other t d found
  obtain ⟨c, first, later⟩ := exists_ok_of_bind found
  rcases error_of_bind failed with failed | ⟨c', first', failed⟩
  · exact final failed other t c first
  · obtain rfl := Except.ok.inj ((ext first' t).symm.trans first)
    exact final' c' first' failed other t d later

/-- **Two steps that know where they end** know it together. -/
theorem ClosedAt.bind (closed : ClosedAt f b) (closed' : ∀ c, f b = .ok c → ClosedAt k c) :
    ClosedAt (fun b => f b >>= k) b :=
  ⟨closed.ext.bind fun c first => (closed' c first).ext,
    closed.final.bind closed.ext fun c first => (closed' c first).final⟩

theorem Closed.bind (closed : Closed f) (closed' : Closed k) : Closed fun b => f b >>= k :=
  fun b => (closed b).bind fun c _ => closed' c

/-- **What is found may be put otherwise.** -/
theorem Open.map {α α' : Type} {f : β → Except Fault (α × List Char)} (opened : Open f) (g : α → α') :
    Open fun b => f b >>= fun found => .ok (g found.1, found.2) := by
  refine fun b => ⟨fun c found more t => ?_, fun fault failed other t c found => ?_⟩
  · obtain ⟨⟨a, s⟩, first, later⟩ := exists_ok_of_bind found
    cases later
    show (f (behind b t) >>= _) = _
    rw [(opened b).stable first more t]
    rfl
  · obtain ⟨d, first, -⟩ := exists_ok_of_bind found
    rcases error_of_bind failed with failed | ⟨d', first', failed⟩
    · exact (opened b).final failed other t d first
    · cases failed

/-- What follows may depend on what was found. -/
theorem closedAt_pair {α : Type} {k : α × List Char → Except Fault γ} {a : α} {s : List Char}
    (closed : ClosedAt (fun s => k (a, s)) s) : ClosedAt k (a, s) :=
  ⟨fun _ found t => closed.ext found t, fun _ failed other t c => closed.final failed other t c⟩

theorem closed_pair {α : Type} {k : α × List Char → Except Fault γ}
    (closed : ∀ a, Closed fun s => k (a, s)) : Closed k :=
  fun b => closedAt_pair (closed b.1 b.2)

/-! ### Single steps -/

/-- A step that only notes something knows where it ends. -/
theorem closed_ok {g : β → γ} (leaves : ∀ b t, g (behind b t) = behind (g b) t) :
    Closed fun b => .ok (g b) := by
  refine fun b => ⟨fun c found t => ?_, nofun⟩
  cases found
  exact congrArg Except.ok (leaves b t)

/-- A step that ends at once knows where it ends. -/
theorem closed_rest : Closed fun s : List Char => (.ok s : Except Fault (List Char)) :=
  closed_ok fun _ _ => rfl

/-- A step that ends at once, with something found, knows where it ends. -/
theorem closed_found {α : Type} (a : α) :
    Closed fun s : List Char => (.ok (a, s) : Except Fault (α × List Char)) :=
  closed_ok fun _ _ => rfl

/-- A step that only puts what was found otherwise knows where it ends. -/
theorem closed_map {α α' : Type} (g : α → α') :
    Closed fun b : α × List Char => (.ok (g b.1, b.2) : Except Fault (α' × List Char)) :=
  closed_ok fun _ _ => rfl

/-- A step that fails whatever the text knows where it ends. -/
theorem closed_error {fault : β → Fault} : Closed fun b => (.error (fault b) : Except Fault γ) :=
  fun _ => ⟨nofun, fun _ _ _ _ _ found => nomatch found⟩

/-- A condition that has nothing to do with the text. -/
theorem closedAt_ite {p : Prop} [Decidable p] {f g : β → Except Fault γ} (yes : p → ClosedAt f b)
    (no : ¬p → ClosedAt g b) : ClosedAt (fun b => if p then f b else g b) b := by
  by_cases h : p
  · simp only [if_pos h]
    exact yes h
  · simp only [if_neg h]
    exact no h

theorem closed_ite {p : Prop} [Decidable p] {f g : β → Except Fault γ} (yes : p → Closed f)
    (no : ¬p → Closed g) : Closed fun b => if p then f b else g b :=
  fun b => closedAt_ite (fun h => yes h b) fun h => no h b

theorem open_ite {p : Prop} [Decidable p] {f g : β → Except Fault γ} (yes : p → Open f)
    (no : ¬p → Open g) : Open fun b => if p then f b else g b := by
  by_cases h : p
  · simp only [if_pos h]
    exact yes h
  · simp only [if_neg h]
    exact no h

theorem stableAt_ite {p : Prop} [Decidable p] {f g : β → Except Fault γ} (yes : p → StableAt f b)
    (no : ¬p → StableAt g b) : StableAt (fun b => if p then f b else g b) b := by
  by_cases h : p
  · simp only [if_pos h]
    exact yes h
  · simp only [if_neg h]
    exact no h

end Steps

/-! ### Steps by the first character -/

section First

variable {γ : Type} [Leaves γ] {broken : Fault} {step : Char → List Char → Except Fault γ}
  {s : List Char}

/-- What is done by the first character of a text. -/
def byFirst (broken : Fault) (step : Char → List Char → Except Fault γ) :
    List Char → Except Fault γ
  | [] => .error broken
  | c :: rest => step c rest

theorem closedAt_byFirst (breaks : broken.category = .unfinished)
    (closed : ∀ c t, s = c :: t → ClosedAt (step c) t) : ClosedAt (byFirst broken step) s := by
  cases s with
  | nil =>
      refine ⟨nofun, fun fault failed other => ?_⟩
      cases failed
      exact absurd breaks other
  | cons c s =>
      have here := closed c s rfl
      exact ⟨fun _ found t => here.ext found t, fun _ failed other t => here.final failed other t⟩

theorem stableAt_byFirst (stable : ∀ c t, s = c :: t → StableAt (step c) t) :
    StableAt (byFirst broken step) s := by
  cases s with
  | nil => exact nofun
  | cons c s => exact fun _ found more t => stable c s rfl found more t

theorem closed_byFirst (breaks : broken.category = .unfinished) (closed : ∀ c, Closed (step c)) :
    Closed (byFirst broken step) :=
  fun _ => closedAt_byFirst breaks fun c t _ => closed c t

theorem open_byFirst (breaks : broken.category = .unfinished) (opened : ∀ c, Open (step c)) :
    Open (byFirst broken step) := by
  intro s
  cases s with
  | nil =>
      refine ⟨nofun, fun fault failed other => ?_⟩
      cases failed
      exact absurd breaks other
  | cons c s =>
      exact ⟨fun _ found more t => (opened c s).stable found more t,
        fun _ failed other t => (opened c s).final failed other t⟩

/-- Behind the blanks of a text that has something else in it, more text is behind. -/
theorem skipBlanks_behind {s : List Char} (more : skipBlanks s ≠ []) (t : List Char) :
    skipBlanks (s ++ t) = skipBlanks s ++ t := by
  induction s with
  | nil => exact absurd rfl more
  | cons c s ih =>
      cases blank : isBlank c with
      | false => simp only [skipBlanks, List.cons_append, List.dropWhile_cons, blank]; rfl
      | true =>
          simp only [skipBlanks, List.cons_append, List.dropWhile_cons, blank, if_true] at more ⊢
          exact ih more

/-- A longer text has the same first character behind its blanks. -/
theorem skipBlanks_longer {s u : List Char} {c : Char} (begins : skipBlanks s = c :: u)
    (t : List Char) : skipBlanks (s ++ t) = c :: (u ++ t) := by
  rw [skipBlanks_behind (begins ▸ List.cons_ne_nil c u), begins]
  rfl

omit [Leaves γ] in
/-- Where something is found, there is something. -/
theorem ne_nil_of_byFirst {s : List Char} {found : γ} (known : byFirst broken step s = .ok found) :
    s ≠ [] := by
  rintro rfl
  cases known

omit [Leaves γ] in
/-- A fault other than breaking off has something that it is about. -/
theorem ne_nil_of_byFirst_error {s : List Char} {fault : Fault}
    (breaks : broken.category = .unfinished) (failed : byFirst broken step s = .error fault)
    (other : fault.category ≠ .unfinished) : s ≠ [] := by
  rintro rfl
  cases failed
  exact other breaks

theorem stableAt_skipBlanks (stable : StableAt (byFirst broken step) (skipBlanks s)) :
    StableAt (fun s => byFirst broken step (skipBlanks s)) s := by
  intro found known more t
  show byFirst broken step (skipBlanks (s ++ t)) = _
  rw [skipBlanks_behind (ne_nil_of_byFirst known)]
  exact stable known more t

/-- **Blanks before the first character** make no difference to what is known of longer texts. -/
theorem closed_skipBlanks (breaks : broken.category = .unfinished) (closed : ∀ c, Closed (step c)) :
    Closed fun s => byFirst broken step (skipBlanks s) := by
  refine fun s => ⟨fun found known t => ?_, fun fault failed other t => ?_⟩
  · show byFirst broken step (skipBlanks (s ++ t)) = _
    rw [skipBlanks_behind (ne_nil_of_byFirst known)]
    exact (closed_byFirst breaks closed _).ext known t
  · show ∀ found, byFirst broken step (skipBlanks (s ++ t)) ≠ _
    rw [skipBlanks_behind (ne_nil_of_byFirst_error breaks failed other)]
    exact (closed_byFirst breaks closed _).final failed other t

theorem open_skipBlanks (breaks : broken.category = .unfinished) (opened : ∀ c, Open (step c)) :
    Open fun s => byFirst broken step (skipBlanks s) := by
  refine fun s => ⟨stableAt_skipBlanks (open_byFirst breaks opened _).stable, ?_⟩
  intro fault failed other t
  show ∀ found, byFirst broken step (skipBlanks (s ++ t)) ≠ _
  rw [skipBlanks_behind (ne_nil_of_byFirst_error breaks failed other)]
  exact (open_byFirst breaks opened _).final failed other t

end First

/-- **A reader that goes by the first character** of its value. -/
theorem closed_readFirst {α : Type} {read : Char → Reader α} (closed : ∀ c, Closed (read c)) :
    Closed (readFirst read) := closed_skipBlanks rfl closed

theorem open_readFirst {α : Type} {read : Char → Reader α} (opened : ∀ c, Open (read c)) :
    Open (readFirst read) := open_skipBlanks rfl opened

/-! ### Words -/

theorem skipLetters_cons (letter : Char) (letters : List Char) :
    skipLetters (letter :: letters) = byFirst .endInValue fun c rest =>
      if c = letter then skipLetters letters rest else .error .expectedIdent := by
  funext s
  cases s <;> rfl

theorem closed_skipLetters (letters : List Char) : Closed (skipLetters letters) := by
  induction letters with
  | nil => exact closed_ok fun _ _ => rfl
  | cons letter letters ih =>
      rw [skipLetters_cons]
      exact closed_byFirst rfl fun c => closed_ite (fun _ => ih) fun _ => closed_error

theorem closed_afterLetters {α : Type} (letters : List Char) (value : α) :
    Closed (afterLetters letters value) :=
  (closed_skipLetters letters).bind (closed_found _)

/-! ### Units -/

/-- A hexadecimal digit takes one byte. -/
theorem utf8Size_of_hexDigit? {c : Char} {digit : Nat} (known : Text.hexDigit? c = some digit) :
    c.utf8Size = 1 := by
  have small : c ≤ 'f' := by
    unfold Text.hexDigit? at known
    split at known
    · next range =>
      simp only [Bool.and_eq_true, decide_eq_true_eq] at range
      exact Char.le_trans range.2 (by decide)
    · split at known
      · next range =>
        simp only [Bool.and_eq_true, decide_eq_true_eq] at range
        exact range.2
      · split at known
        · next range =>
          simp only [Bool.and_eq_true, decide_eq_true_eq] at range
          exact Char.le_trans range.2 (by decide)
        · cases known
  have bound : c.val ≤ 127 := UInt32.le_trans small (by decide)
  exact Char.utf8Size_eq_one_iff.mpr bound

/-- The digits of a unit take one byte each. -/
theorem utf8Size_of_hexValue? {a b c d : Char} {unit : Nat}
    (known : Text.hexValue? [a, b, c, d] = some unit) : ∀ x ∈ [a, b, c, d], x.utf8Size = 1 := by
  simp only [Text.hexValue?, List.foldlM_cons, List.foldlM_nil, Option.bind_eq_bind,
    Option.bind_eq_some_iff, Option.map_eq_some_iff] at known
  obtain ⟨_, ⟨_, first, -⟩, _, ⟨_, second, -⟩, _, ⟨_, third, -⟩, _, ⟨_, fourth, -⟩, -⟩ := known
  simp only [List.forall_mem_cons]
  exact ⟨utf8Size_of_hexDigit? first, utf8Size_of_hexDigit? second, utf8Size_of_hexDigit? third,
    utf8Size_of_hexDigit? fourth, List.forall_mem_nil _⟩

/-- Characters of one byte each take as many bytes as they are. -/
theorem byteLength_eq {s : List Char} (single : ∀ c ∈ s, c.utf8Size = 1) :
    byteLength s = s.length := by
  have counted : ∀ bytes, s.foldl (fun bytes c => bytes + c.utf8Size) bytes = bytes + s.length := by
    induction s with
    | nil => exact fun bytes => rfl
    | cons c s ih =>
        intro bytes
        rw [List.foldl_cons, ih fun x among => single x (List.mem_cons_of_mem _ among),
          single c List.mem_cons_self, List.length_cons]
        omega
  exact (counted 0).trans (Nat.zero_add _)

/-- What a unit is read from. -/
theorem exists_of_readUnit {s after : List Char} {unit : Nat}
    (found : readUnit s = .ok (unit, after)) :
    ∃ a b c d, s = a :: b :: c :: d :: after ∧ Text.hexValue? [a, b, c, d] = some unit := by
  unfold readUnit at found
  split at found
  · next a b c d rest =>
    split at found
    · next known =>
      cases found
      exact ⟨a, b, c, d, rfl, known⟩
    · cases found
  · cases found

/-- **The beginning of four digits takes fewer than four bytes.** -/
theorem byteLength_lt_of_begins {a b c d : Char} {unit : Nat}
    (known : Text.hexValue? [a, b, c, d] = some unit) {s t rest : List Char}
    (whole : s ++ t = a :: b :: c :: d :: rest) (few : s.length < 4) : byteLength s < 4 := by
  have begins : s = [a, b, c, d].take s.length := by
    have front := congrArg (List.take s.length) whole
    have within : s.length ≤ [a, b, c, d].length := Nat.le_of_lt few
    rw [List.take_left, show a :: b :: c :: d :: rest = [a, b, c, d] ++ rest from rfl,
      List.take_append_of_le_length within] at front
    exact front
  have single : ∀ x ∈ s, x.utf8Size = 1 := by
    intro x among
    rw [begins] at among
    exact utf8Size_of_hexValue? known x (List.mem_of_mem_take among)
  rwa [byteLength_eq single]

/-- **A unit ends behind its four digits.**  Where fewer characters are left that take four bytes, one of
them is no digit. -/
theorem closed_readUnit : Closed readUnit := by
  intro s
  constructor
  · intro found known t
    obtain ⟨a, b, c, d, rfl, value⟩ := exists_of_readUnit known
    show readUnit (a :: b :: c :: d :: (found.2 ++ t)) = _
    rw [readUnit, value]
    rfl
  · intro fault failed other t found known
    obtain ⟨a, b, c, d, whole, value⟩ := exists_of_readUnit known
    change s ++ t = _ at whole
    unfold readUnit at failed
    split at failed
    · next a' b' c' d' rest =>
      obtain ⟨rfl, rfl, rfl, rfl, -⟩ : a' = a ∧ b' = b ∧ c' = c ∧ d' = d ∧ rest ++ t = found.2 := by
        simpa using whole
      rw [value] at failed
      cases failed
    · next short =>
      have few : s.length < 4 := by
        rcases s with _ | ⟨a, _ | ⟨b, _ | ⟨c, _ | ⟨d, rest⟩⟩⟩⟩
        case cons.cons.cons.cons => exact (short a b c d rest rfl).elim
        all_goals simp
      rw [if_pos (byteLength_lt_of_begins value whole few)] at failed
      cases failed
      exact other rfl

/-! ### Strings -/

/-- **A second half ends behind its unit.** -/
theorem closed_readSecondHalf (first : Nat) : Closed (readSecondHalf first) := by
  have asSteps : readSecondHalf first = byFirst .endInText fun c rest =>
      if c = '\\' then
        byFirst .endInText (fun c rest =>
          if c = 'u' then
            readUnit rest >>= fun found =>
              if isSecondHalf found.1 then .ok (joinHalves first found.1, found.2)
              else .error .loneHalf
          else .error .endOfPair) rest
      else .error .endOfPair := by
    funext s
    rcases s with _ | ⟨c, _ | ⟨c', s⟩⟩ <;> rfl
  rw [asSteps]
  refine closed_byFirst rfl fun c => closed_ite (fun _ => ?_) fun _ => closed_error
  refine closed_byFirst rfl fun c => closed_ite (fun _ => ?_) fun _ => closed_error
  refine closed_readUnit.bind (closed_pair fun second => ?_)
  dsimp only
  refine closed_ite (p := isSecondHalf second = true) (fun _ => ?_) fun _ => ?_
  · exact closed_found (joinHalves first second)
  · exact closed_error

/-- **An escape ends behind its letter**, or behind its units. -/
theorem closed_readEscape : Closed readEscape := by
  have asSteps : readEscape = byFirst .endInText fun c rest =>
      if c = 'u' then
        readUnit rest >>= fun found =>
          if isSecondHalf found.1 then .error .loneHalf
          else if isFirstHalf found.1 then readSecondHalf found.1 found.2
          else .ok (Char.ofNat found.1, found.2)
      else (shortEscape? c).elim (.error .invalidEscape) fun character => .ok (character, rest) := by
    funext s
    cases s with
    | nil => rfl
    | cons c s =>
        rw [readEscape]
        dsimp only [byFirst]
        cases shortEscape? c <;> rfl
  rw [asSteps]
  refine closed_byFirst rfl fun c => closed_ite (fun _ => ?_) fun _ => ?_
  · refine closed_readUnit.bind (closed_pair fun unit => ?_)
    dsimp only
    refine closed_ite (p := isSecondHalf unit = true) (fun _ => ?_) fun _ =>
      closed_ite (p := isFirstHalf unit = true) (fun _ => ?_) fun _ => ?_
    · exact closed_error
    · exact closed_readSecondHalf unit
    · exact closed_found (Char.ofNat unit)
  · cases shortEscape? c with
    | some character => exact closed_found character
    | none => exact closed_error

theorem closed_skipEscape : Closed skipEscape := by
  have asSteps : skipEscape = byFirst .endInText fun c rest =>
      if c = 'u' then readUnit rest >>= fun found => .ok found.2
      else (shortEscape? c).elim (.error .invalidEscape) fun _ => .ok rest := by
    funext s
    cases s with
    | nil => rfl
    | cons c s =>
        rw [skipEscape]
        dsimp only [byFirst]
        cases shortEscape? c <;> rfl
  rw [asSteps]
  refine closed_byFirst rfl fun c => closed_ite (fun _ => ?_) fun _ => ?_
  · exact closed_readUnit.bind (closed_ok fun _ _ => rfl)
  · cases shortEscape? c with
    | some character => exact closed_rest
    | none => exact closed_error

/-- One turn of reading a string. -/
theorem readCharacters_eq : readCharacters = byFirst .endInText fun c rest =>
    if c = '"' then .ok ([], rest)
    else if c = '\\' then
      readEscape rest >>= fun found =>
        readCharacters found.2 >>= fun later => .ok (found.1 :: later.1, later.2)
    else if isControl c then .error .controlCharacter
    else readCharacters rest >>= fun later => .ok (c :: later.1, later.2) := by
  funext s
  rcases s with _ | ⟨c, s⟩
  · rw [readCharacters]
    rfl
  · conv => lhs; rw [readCharacters]
    show _ = if c = '"' then _ else _
    by_cases quote : c = '"'
    · rw [if_pos quote, if_pos quote]
    · rw [if_neg quote, if_neg quote]
      by_cases escape : c = '\\'
      · rw [if_pos escape, if_pos escape]
        split
        · next failed => rw [failed]; rfl
        · next found =>
          conv => rhs; rw [found]
          show _ = (readCharacters _ >>= _)
          split <;> next later => rw [later]; rfl
      · rw [if_neg escape, if_neg escape]
        by_cases control : isControl c = true
        · rw [if_pos control, if_pos control]
        · rw [if_neg control, if_neg control]
          split <;> next later => rw [later]; rfl

/-- One turn of passing over a string. -/
theorem skipString_eq : skipString = byFirst .endInText fun c rest =>
    if c = '"' then .ok rest
    else if c = '\\' then skipEscape rest >>= skipString
    else if isControl c then .error .controlCharacter
    else skipString rest := by
  funext s
  rcases s with _ | ⟨c, s⟩
  · rw [skipString]
    rfl
  · conv => lhs; rw [skipString]
    show _ = if c = '"' then _ else _
    by_cases escape : c = '\\'
    · subst escape
      rw [if_neg (by decide), if_pos rfl, if_neg (by decide), if_pos rfl]
      split
      · next failed => rw [failed]; rfl
      · next found =>
        conv => rhs; rw [found]
        rfl
    · rw [if_neg escape, if_neg escape]

/-- **The characters of a string end behind its closing quote.** -/
theorem closed_readCharacters : Closed readCharacters := by
  intro s
  induction hn : s.length using Nat.strongRecOn generalizing s with
  | ind n ih =>
      have shorter (t : List Char) (less : t.length < s.length) : ClosedAt readCharacters t :=
        ih t.length (hn ▸ less) t rfl
      rw [readCharacters_eq]
      refine closedAt_byFirst rfl fun c rest whole => ?_
      have less : rest.length < s.length := by rw [whole, List.length_cons]; exact Nat.lt_succ_self _
      refine closedAt_ite (fun _ => closed_found _ rest) fun _ => ?_
      refine closedAt_ite (fun _ => ?_) fun _ => ?_
      · refine (closed_readEscape rest).bind fun (character, after) read => closedAt_pair ?_
        have behind := readEscape_length read
        exact (shorter after (Nat.lt_trans behind less)).bind (k := fun later =>
          .ok (character :: later.1, later.2)) fun later _ => closed_map (character :: ·) later
      · refine closedAt_ite (fun _ => closed_error rest) fun _ => ?_
        exact (shorter rest less).bind fun later _ => closed_map (c :: ·) later

/-- **A string ends behind its closing quote.** -/
theorem closed_readString : Closed readString :=
  closed_readCharacters.bind (closed_map String.ofList)

/-- **A string that is passed over ends behind its closing quote.** -/
theorem closed_skipString : Closed skipString := by
  intro s
  induction hn : s.length using Nat.strongRecOn generalizing s with
  | ind n ih =>
      have shorter (t : List Char) (less : t.length < s.length) : ClosedAt skipString t :=
        ih t.length (hn ▸ less) t rfl
      rw [skipString_eq]
      refine closedAt_byFirst rfl fun c rest whole => ?_
      have less : rest.length < s.length := by rw [whole, List.length_cons]; exact Nat.lt_succ_self _
      refine closedAt_ite (fun _ => closed_rest rest) fun _ => ?_
      refine closedAt_ite (fun _ => ?_) fun _ => ?_
      · refine (closed_skipEscape rest).bind fun after skipped => ?_
        exact shorter after (Nat.lt_trans (skipEscape_length skipped) less)
      · exact closedAt_ite (fun _ => closed_error rest) fun _ => shorter rest less

end Scanout.Json
