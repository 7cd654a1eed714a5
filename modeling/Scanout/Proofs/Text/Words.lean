import Mathlib.Data.List.Basic
import Scanout.Text.Hex

/-!
# Words and numbers in a text

A number is read back from its hexadecimal digits, so no two numbers are shown alike.  Words that are
joined are known from the text, too, as long as none of them has the character that every separator
begins with.

## Main results

* `Text.hexValue?_hexDigits` — a number is read back from its digits
* `Text.eq_of_intercalate_eq` — words are known from the text that joins them
-/

namespace Scanout.Text

/-! ### Hexadecimal numbers -/

/-- **A number is shown digit by digit**: what holds of one digit, and of a number with one digit more
if it holds of the number, holds of every number. -/
theorem hexDigits_induction {motive : Nat → List Char → Prop}
    (one : ∀ digit < 16, motive digit [digit.digitChar])
    (more : ∀ n, ∀ digit < 16, motive n (hexDigits n) →
      motive (16 * n + digit) (hexDigits n ++ [digit.digitChar])) (n : Nat) :
    motive n (hexDigits n) := by
  induction n using Nat.strongRecOn with
  | ind n ih =>
      have digits : hexDigits n =
          if n < 16 then [n.digitChar] else hexDigits (n / 16) ++ [(n % 16).digitChar] :=
        Nat.toDigits_eq_if (by decide)
      rw [digits]
      split
      · next small => exact one n small
      · next great =>
          have step := more (n / 16) (n % 16) (Nat.mod_lt n (by decide)) (ih (n / 16) (by omega))
          rwa [Nat.div_add_mod] at step

theorem hexDigit?_digitChar : ∀ digit < 16, hexDigit? (Nat.digitChar digit) = some digit := by
  decide

/-- The last digit counts once, and those before it sixteen times. -/
theorem hexValue?_concat {digits : List Char} {c : Char} {n digit : Nat}
    (before : hexValue? digits = some n) (last : hexDigit? c = some digit) :
    hexValue? (digits ++ [c]) = some (16 * n + digit) := by
  unfold hexValue? at before ⊢
  rw [List.foldlM_append, before]
  simp [last]

/-- **A number is read back from its hexadecimal digits.** -/
theorem hexValue?_hexDigits (n : Nat) : hexValue? (hexDigits n) = some n := by
  refine hexDigits_induction (motive := fun n digits => hexValue? digits = some n) ?one ?more n
  case one =>
    intro digit bound
    have value : hexValue? ([] ++ [digit.digitChar]) = some (16 * 0 + digit) :=
      hexValue?_concat rfl (hexDigit?_digitChar digit bound)
    simpa using value
  case more =>
    intro n digit bound before
    exact hexValue?_concat before (hexDigit?_digitChar digit bound)

/-- **No two numbers are shown alike.** -/
theorem hex_injective : Function.Injective hex := by
  intro m n same
  have digits : hexDigits m = hexDigits n := by
    simpa [hex] using congrArg String.toList same
  have value := hexValue?_hexDigits m
  rw [digits, hexValue?_hexDigits] at value
  exact (Option.some.inj value).symm

/-- A number is shown without a blank. -/
theorem blank_notMem_hex (n : Nat) : ' ' ∉ (hex n).toList := by
  have digits : ' ' ∉ hexDigits n := by
    have other (digit : Nat) : ' ' ≠ digit.digitChar := (Nat.digitChar_ne ' ' rfl).symm
    refine hexDigits_induction (motive := fun _ digits => ' ' ∉ digits) ?one ?more n
    case one =>
      intro digit _
      simp [other]
    case more =>
      intro n digit _ before
      simp [other, before]
  simp [hex, digits]

/-! ### Joined words -/

section

variable {mark : Char} {separator word word' rest rest' : List Char} {words words' : List (List Char)}

/-- Joined words are those with a separator behind each of them, but for the last one. -/
theorem intercalate_append (inhabited : words ≠ []) :
    separator.intercalate words ++ separator = words.flatMap (· ++ separator) := by
  induction words with
  | nil => exact absurd rfl inhabited
  | cons word words ih =>
      cases words with
      | nil => simp
      | cons second words =>
          rw [List.intercalate_cons_cons, List.append_assoc, ih (List.cons_ne_nil _ _)]
          simp only [List.flatMap_cons]

/-- A text is known up to a mark in it, and behind the mark. -/
theorem append_mark_inj (free : mark ∉ word) (free' : mark ∉ word') :
    word ++ mark :: rest = word' ++ mark :: rest' ↔ word = word' ∧ rest = rest' := by
  constructor
  · intro same
    have first := congrArg (List.idxOf mark) same
    rw [List.idxOf_append_of_notMem free, List.idxOf_append_of_notMem free', List.idxOf_cons_self,
      List.idxOf_cons_self, Nat.add_zero, Nat.add_zero] at first
    obtain ⟨rfl, behind⟩ := List.append_inj same first
    exact ⟨rfl, List.tail_eq_of_cons_eq behind⟩
  · rintro ⟨rfl, rfl⟩
    rfl

theorem eq_of_flatMap_eq (free : ∀ word ∈ words, mark ∉ word) (free' : ∀ word ∈ words', mark ∉ word)
    (same : words.flatMap (· ++ mark :: separator) = words'.flatMap (· ++ mark :: separator)) :
    words = words' := by
  induction words generalizing words' with
  | nil =>
      cases words' with
      | nil => rfl
      | cons word' words' => simp at same
  | cons word words ih =>
      cases words' with
      | nil => simp at same
      | cons word' words' =>
          obtain ⟨here, later⟩ := List.forall_mem_cons.mp free
          obtain ⟨here', later'⟩ := List.forall_mem_cons.mp free'
          simp only [List.flatMap_cons, List.append_assoc, List.cons_append] at same
          obtain ⟨rfl, behind⟩ := (append_mark_inj here here').mp same
          rw [ih later later' (List.append_cancel_left behind)]

end

/-- **Words are known from the text that joins them**, if there are some and none of them has the
character that the separator begins with. -/
theorem eq_of_intercalate_eq {mark : Char} {separator : String} {behind : List Char}
    {words words' : List String} (begins : separator.toList = mark :: behind) (inhabited : words ≠ [])
    (inhabited' : words' ≠ []) (free : ∀ word ∈ words, mark ∉ word.toList)
    (free' : ∀ word ∈ words', mark ∉ word.toList)
    (same : separator.intercalate words = separator.intercalate words') : words = words' := by
  have joined : separator.toList.intercalate (words.map String.toList) =
      separator.toList.intercalate (words'.map String.toList) := by
    rw [← String.toList_intercalate, ← String.toList_intercalate, same]
  refine List.map_injective_iff.mpr (fun _ _ => String.toList_injective) ?_
  have ended := congrArg (· ++ separator.toList) joined
  rw [intercalate_append (by simpa using inhabited),
    intercalate_append (by simpa using inhabited'), begins] at ended
  exact eq_of_flatMap_eq (List.forall_mem_map.mpr free) (List.forall_mem_map.mpr free') ended

end Scanout.Text
