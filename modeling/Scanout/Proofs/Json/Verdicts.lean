import Scanout.Proofs.Json.NumeralEnds
import Scanout.Proofs.Json.Skipping

/-!
# Verdicts on the beginning of a text

No codec finds fault with the beginning of a text that it accepts as a whole, other than that it breaks
off: numbers may go on there, and every other value knows where it ends.  A value that is passed over
ends where it ends on every longer text, although the fault of a numeral that breaks off is another
there.

## Main results

* `Json.Codec.open_word`, `.open_longWord`, `.open_integer`, `.open_orNull_longWord` — codecs of numbers
* `Json.Codec.closed_truth`, `.closed_text`, `.closed_variant` — the other codecs
* `Json.stable_skipValue` — values that are passed over
-/

namespace Scanout.Json

namespace Codec

/-! ### Codecs -/

theorem open_word : Open word.read :=
  (open_readInteger "u32" (by decide) (by decide)).map fun value => UInt32.ofNat value.toNat

theorem open_longWord : Open longWord.read :=
  (open_readInteger "u64" (by decide) (by decide)).map fun value => UInt64.ofNat value.toNat

theorem open_integer : Open integer.read :=
  (open_readInteger "i32" (by decide) (by decide)).map Int32.ofInt

theorem closed_truth : Closed truth.read :=
  closed_readFirst fun _ => closed_ite (fun _ => closed_afterLetters _ _) fun _ =>
    closed_ite (fun _ => closed_afterLetters _ _) fun _ => closed_error

theorem closed_text : Closed text.read :=
  closed_readFirst fun _ => closed_ite (fun _ => closed_readString) fun _ => closed_error

theorem closed_readNothing : Closed readNothing :=
  closed_readFirst fun _ => closed_ite (fun _ => closed_afterLetters _ _) fun _ => closed_error

theorem closed_skipColon : Closed skipColon :=
  closed_skipBlanks rfl fun _ => closed_ite (fun _ => closed_rest) fun _ => closed_error

section Variants

variable {α : Type} (all : List α) (name : α → String)

theorem closed_readName : Closed (readName all name) := by
  refine closed_readString.bind (closed_pair fun given => ?_)
  show Closed fun s => ofName all name given >>= fun value => .ok (value, s)
  cases ofName all name given with
  | error fault => exact closed_error
  | ok value => exact closed_found value

theorem closed_readTagged : Closed (readTagged all name) := by
  refine closed_readFirst fun c => closed_ite (fun _ => ?_) fun _ =>
    closed_ite (fun _ => closed_error) fun _ => closed_error
  refine (closed_readName all name).bind (closed_pair fun value => ?_)
  refine closed_skipColon.bind ?_
  refine closed_readNothing.bind (closed_pair fun _ => ?_)
  exact closed_skipBlanks rfl fun c => closed_ite (fun _ => closed_found value) fun _ => closed_error

theorem closed_variant : Closed (variant all name).read :=
  closed_readFirst fun _ => closed_ite (fun _ => closed_readName all name) fun _ =>
    closed_ite (fun _ => closed_readTagged all name) fun _ => closed_error

end Variants

/-! ### Values that may be missing -/

/-- What is read where a value may be missing is told by the first character. -/
theorem orNull_read {α : Type} (codec : Codec α) (s : List Char) : (orNull codec).read s =
    if (skipBlanks s).head? = some 'n' then afterLetters nullTail none (skipBlanks s).tail
    else codec.read s >>= fun found => .ok (some found.1, found.2) := by
  unfold orNull
  dsimp only
  split
  · next after begins =>
    rw [begins]
    rfl
  · next other =>
    rw [if_neg]
    · rfl
    · intro begins
      obtain ⟨after, same⟩ := List.head?_eq_some_iff.mp begins
      exact other after same

/-- A value that may be missing may go on where the text breaks off, if the value may. -/
theorem open_orNull {α : Type} {codec : Codec α} (opened : Open codec.read)
    (ends : ∀ s, skipBlanks s = [] →
      ∃ fault, codec.read s = .error fault ∧ fault.category = .unfinished) :
    Open (orNull codec).read := by
  intro s
  cases filled : skipBlanks s with
  | nil =>
      obtain ⟨fault, failed, breaks⟩ := ends s filled
      have here : (orNull codec).read s = .error fault := by
        rw [orNull_read, filled, if_neg (by decide), failed]
        rfl
      refine ⟨fun found known => ?_, fun fault' failed' other => ?_⟩
      · cases here.symm.trans known
      · cases here.symm.trans failed'
        exact absurd breaks other
  | cons c u =>
      have longer := skipBlanks_longer filled
      by_cases null : c = 'n'
      · refine (closed_afterLetters nullTail (none : Option α) u).open.of_eq ?_ fun t => ?_
        · rw [orNull_read, filled, null]
          rfl
        · show (orNull codec).read (s ++ t) = _
          rw [orNull_read, longer, null]
          rfl
      · have given : some c ≠ some 'n' := fun same => null (Option.some.inj same)
        refine (opened.map some s).of_eq ?_ fun t => ?_
        · rw [orNull_read, filled, List.head?_cons, if_neg given]
        · show (orNull codec).read (s ++ t) = _
          rw [orNull_read, longer, List.head?_cons, if_neg given]
          rfl

theorem open_orNull_longWord : Open (orNull longWord).read := by
  refine open_orNull open_longWord fun s blank => ⟨.endInValue, ?_, rfl⟩
  show (readInteger _ _ _ s >>= _) = _
  rw [readInteger, readFirst, blank]
  rfl

end Codec

/-! ### Values that are passed over -/

theorem closed_skipKey : Closed skipKey := by
  refine closed_skipBlanks rfl fun c => closed_ite (fun _ => ?_) fun _ => closed_error
  exact closed_skipString.bind Codec.closed_skipColon

theorem closed_skipBefore (bracket : Bracket) : Closed (skipBefore bracket) := by
  cases bracket with
  | list => exact closed_rest
  | object => exact closed_skipKey

theorem stable_skipScalar (c : Char) (s : List Char) : StableAt (skipScalar c) s := by
  refine stableAt_ite (fun _ => (closed_skipString s).ext.stable) fun _ => ?_
  refine stableAt_ite (fun _ => ?_) fun _ => ?_
  · intro after found more t
    obtain ⟨⟨numeral, after'⟩, read, found⟩ := exists_ok_of_bind found
    cases found
    show (Numeral.read .invalidNumber (c :: (s ++ t)) >>= _) = _
    rw [show Numeral.read .invalidNumber (c :: (s ++ t)) = _ from
      Numeral.stable_read .invalidNumber (c :: s) read more t]
    rfl
  · refine stableAt_ite (fun _ => (closed_skipLetters _ s).ext.stable) fun _ => ?_
    refine stableAt_ite (fun _ => (closed_skipLetters _ s).ext.stable) fun _ => ?_
    refine stableAt_ite (fun _ => (closed_skipLetters _ s).ext.stable) fun _ => ?_
    exact nofun

/-- What the sweep does where a value comes next, by its first character. -/
def sweepValue (brackets : List Bracket) (c : Char) (s : List Char) : Except Fault (List Char) :=
  match opening? c with
  | some bracket =>
      byFirst bracket.broken (fun c inner =>
        if c = bracket.closing then sweep .after brackets inner
        else skipBefore bracket (c :: inner) >>= sweep .before (bracket :: brackets)) (skipBlanks s)
  | none => skipScalar c s >>= sweep .after brackets

/-- What the sweep does behind a value inside a bracket, by the next character. -/
def sweepNext (bracket : Bracket) (brackets : List Bracket) (c : Char) (s : List Char) :
    Except Fault (List Char) :=
  if c = ',' then skipBefore bracket s >>= sweep .before (bracket :: brackets)
  else if c = bracket.closing then sweep .after brackets s
  else .error bracket.unseparated

theorem sweep_before_eq (brackets : List Bracket) : sweep .before brackets =
    fun s => byFirst .endInValue (sweepValue brackets) (skipBlanks s) := by
  funext s
  exact sweep_before brackets s

theorem sweep_after_eq (bracket : Bracket) (brackets : List Bracket) :
    sweep .after (bracket :: brackets) =
      fun s => byFirst bracket.broken (sweepNext bracket brackets) (skipBlanks s) := by
  funext s
  exact sweep_after bracket brackets s

/-- Behind a value, nothing is left of nothing. -/
theorem eq_nil_of_sweep_after {brackets : List Bracket} {after : List Char}
    (swept : sweep .after brackets [] = .ok after) : after = [] := by
  cases brackets with
  | nil =>
      rw [sweep] at swept
      exact (Except.ok.inj swept).symm
  | cons bracket brackets =>
      rw [sweep_after] at swept
      cases swept

section Shorter

variable {s : List Char} {brackets : List Bracket} {bracket : Bracket} {t : List Char}

/-- What the induction knows: on a shorter text, a sweep that ends before the text does ends there on
every longer text. -/
def StableShorter (s : List Char) : Prop :=
  ∀ ⦃t : List Char⦄, t.length < s.length → ∀ place brackets, StableAt (sweep place brackets) t

theorem StableShorter.item (shorter : StableShorter s) (less : t.length < s.length) :
    StableAt (fun t => skipBefore bracket t >>= sweep .before (bracket :: brackets)) t :=
  (closed_skipBefore bracket t).ext.bind_stable fun _ skipped =>
    shorter (Nat.lt_of_le_of_lt (skipBefore_length skipped) less) _ _

theorem StableShorter.value (shorter : StableShorter s) (less : t.length < s.length) (c : Char) :
    StableAt (sweepValue brackets c) t := by
  unfold sweepValue
  cases opening? c with
  | none =>
      refine (stable_skipScalar c t).bind (fun t' skipped => ?_) fun t' t'' _ swept ended => ?_
      · exact shorter (Nat.lt_of_le_of_lt (skipScalar_length skipped) less) _ _
      · obtain rfl : t' = [] := ended
        exact eq_nil_of_sweep_after swept
  | some bracket =>
      refine stableAt_skipBlanks (stableAt_byFirst fun c' t' filled => ?_)
      refine stableAt_ite (fun _ => ?_) fun _ => ?_
      · exact shorter (Nat.lt_trans (length_of_skipBlanks filled) less) _ _
      · have inner : (c' :: t').length < s.length := by
          rw [← filled]
          exact Nat.lt_of_le_of_lt (skipBlanks_length t) less
        exact fun _ swept more t => shorter.item inner swept more t

theorem StableShorter.next (shorter : StableShorter s) (less : t.length < s.length) (c : Char) :
    StableAt (sweepNext bracket brackets c) t := by
  refine stableAt_ite (fun _ => shorter.item less) fun _ => ?_
  refine stableAt_ite (fun _ => shorter less _ _) fun _ => ?_
  intro after found
  cases found

/-- **A sweep that ends before the text does** ends there on every longer text. -/
theorem stable_sweep (place : Place) (brackets : List Bracket) (s : List Char) :
    StableAt (sweep place brackets) s := by
  induction hn : s.length using Nat.strongRecOn generalizing place brackets s with
  | ind n ih =>
      have shorter : StableShorter s :=
        fun t less place brackets => ih t.length (hn ▸ less) place brackets t rfl
      cases place with
      | before =>
          rw [sweep_before_eq]
          exact stableAt_skipBlanks (stableAt_byFirst fun c t begins =>
            shorter.value (length_of_skipBlanks begins) c)
      | after =>
          cases brackets with
          | nil =>
              intro after swept more t
              rw [sweep] at swept ⊢
              cases swept
              rfl
          | cons bracket brackets =>
              rw [sweep_after_eq]
              exact stableAt_skipBlanks (stableAt_byFirst fun c t begins =>
                shorter.next (length_of_skipBlanks begins) c)

end Shorter

/-- **A value that is passed over before the text ends** ends there on every longer text. -/
theorem stable_skipValue (s : List Char) : StableAt skipValue s := stable_sweep .before [] s

end Scanout.Json
