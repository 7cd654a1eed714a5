import Mathlib.Data.String.Basic

/-!
# The order of bytes

Text is ordered by its code points.  The bytes of a text are those of its code points, one after
the other, and they are ordered alike: a code point that comes earlier has an earlier first byte,
or else the same one and as many bytes behind it, of which each holds six bits.

## Main definitions

* `Text.bytes` — the bytes of a text
* `Text.lead`, `Text.followers` — the bytes of a code point

## Main results

* `Text.bytes_lt_iff` — text is ordered as its bytes are
* `Text.fromUTF8?_eq_some` — the text of some bytes is the one that has them
-/

namespace Scanout.Text

/-! ### Code points -/

/-- The number of bytes behind the first one of a code point. -/
def followerCount (v : Nat) : Nat :=
  if v ≤ 0x7f then 0 else if v ≤ 0x7ff then 1 else if v ≤ 0xffff then 2 else 3

/-- **The first byte of a code point**, as a number: it tells how many follow, and has the bits
that do not go into them. -/
def lead (v : Nat) : Nat :=
  if v ≤ 0x7f then v else if v ≤ 0x7ff then v / 64 + 0xc0
  else if v ≤ 0xffff then v / 4096 + 0xe0 else v / 262144 + 0xf0

/-- **The bytes behind the first one**, each with six bits. -/
def followers (v : Nat) : Nat → List UInt8
  | 0 => []
  | count + 1 => UInt8.ofNat (v / 64 ^ count % 64 + 0x80) :: followers v count

/-- A code point is below the first one that has no character. -/
theorem toNat_lt (c : Char) : c.toNat < 0x110000 := by
  obtain small | ⟨-, small⟩ := c.valid
  · exact Nat.lt_trans small (by decide)
  · exact small

/-- **The bytes of a character** are those of its code point. -/
theorem utf8EncodeChar_eq (c : Char) : String.utf8EncodeChar c =
    UInt8.ofNat (lead c.toNat) :: followers c.toNat (followerCount c.toNat) := by
  have bound := toNat_lt c
  have same : c.val.toNat = c.toNat := rfl
  unfold String.utf8EncodeChar lead followerCount
  rw [same]
  dsimp only
  split
  · rfl
  split
  · rw [Nat.mod_eq_of_lt (show c.toNat / 64 < 0x20 by omega)]
    simp [followers]
  split
  · rw [Nat.mod_eq_of_lt (show c.toNat / 4096 < 0x10 by omega)]
    simp [followers]
  · rw [Nat.mod_eq_of_lt (show c.toNat / 262144 < 0x08 by omega)]
    simp [followers]

/-- A first byte is a byte. -/
theorem lead_lt {v : Nat} (bound : v < 0x110000) : lead v < 256 := by
  unfold lead
  split_ifs <;> omega

/-- **An earlier code point has an earlier first byte**, or the same one and as many bytes behind
it. -/
theorem lead_lt_or {v w : Nat} (before : v < w) (bound : w < 0x110000) :
    lead v < lead w ∨ lead v = lead w ∧ followerCount v = followerCount w ∧
      v / 64 ^ followerCount v = w / 64 ^ followerCount w := by
  unfold lead followerCount
  split_ifs <;> omega

/-- Numbers below 256 are ordered like the bytes they stand for. -/
theorem ofNat_lt_ofNat {m n : Nat} (less : m < n) (bound : n < 256) :
    UInt8.ofNat m < UInt8.ofNat n := by
  rw [UInt8.lt_iff_toNat_lt, UInt8.toNat_ofNat_of_lt' (Nat.lt_trans less bound),
    UInt8.toNat_ofNat_of_lt' bound]
  exact less

/-- **The bytes behind the first one are ordered like the code points** with the same first byte,
whatever comes behind them. -/
theorem followers_append_lt {v w count : Nat} (before : v < w)
    (same : v / 64 ^ count = w / 64 ^ count) (s t : List UInt8) :
    followers v count ++ s < followers w count ++ t := by
  induction count with
  | zero =>
      rw [Nat.pow_zero, Nat.div_one, Nat.div_one] at same
      exact absurd same (Nat.ne_of_lt before)
  | succ count ih =>
      rw [followers, followers, List.cons_append, List.cons_append, List.cons_lt_cons_iff]
      have above : v / 64 ^ count / 64 = w / 64 ^ count / 64 := by
        rwa [Nat.div_div_eq_div_mul, Nat.div_div_eq_div_mul, ← Nat.pow_succ]
      -- the bits above those in this byte are the same, so it decides unless its bits are the same too
      rcases Nat.lt_or_eq_of_le (Nat.div_le_div_right (c := 64 ^ count) before.le) with less | equal
      · refine .inl (ofNat_lt_ofNat ?_ ?_) <;> omega
      · rw [equal]
        exact .inr ⟨rfl, ih equal⟩

/-- **The bytes of an earlier character come first**, whatever comes behind them. -/
theorem utf8EncodeChar_append_lt {c d : Char} (before : c < d) (s t : List UInt8) :
    String.utf8EncodeChar c ++ s < String.utf8EncodeChar d ++ t := by
  have before : c.toNat < d.toNat := before
  rw [utf8EncodeChar_eq, utf8EncodeChar_eq, List.cons_append, List.cons_append,
    List.cons_lt_cons_iff]
  obtain less | ⟨first, count, above⟩ := lead_lt_or before (toNat_lt d)
  · exact .inl (ofNat_lt_ofNat less (lead_lt (toNat_lt d)))
  · rw [← count] at above ⊢
    rw [first]
    exact .inr ⟨rfl, followers_append_lt before above s t⟩

/-! ### Text -/

/-- **The bytes of a text.** -/
def bytes (s : String) : List UInt8 := s.toByteArray.data.toList

/-- The bytes of a text are those of its characters. -/
theorem bytes_eq (s : String) : bytes s = s.toList.flatMap String.utf8EncodeChar := by
  rw [bytes, ← String.utf8Encode_toList, List.utf8Encode, List.data_toByteArray]

/-- **The text of some bytes** is the one that has them. -/
theorem fromUTF8?_eq_some {s : String} {l : List UInt8} :
    String.fromUTF8? ⟨l.toArray⟩ = some s ↔ bytes s = l := by
  unfold String.fromUTF8?
  constructor
  · intro decoded
    split at decoded
    · cases decoded
      rfl
    · cases decoded
  · rintro rfl
    exact dif_pos s.isValidUTF8

/-- **An earlier text has earlier bytes.** -/
theorem bytes_lt {a b : String} (before : a < b) : bytes a < bytes b := by
  rw [bytes_eq, bytes_eq]
  have before : a.toList < b.toList := before
  generalize a.toList = l, b.toList = l' at before
  induction before with
  | @nil d l' =>
      rw [List.flatMap_nil, List.flatMap_cons, utf8EncodeChar_eq]
      exact List.nil_lt_cons _ _
  | rel less => exact utf8EncodeChar_append_lt less _ _
  | cons later ih =>
      rw [List.flatMap_cons, List.flatMap_cons]
      exact List.append_left_lt ih

/-- **Text is ordered as its bytes are.** -/
theorem bytes_lt_iff {a b : String} : bytes a < bytes b ↔ a < b := by
  refine ⟨fun less => ?_, bytes_lt⟩
  rcases lt_trichotomy a b with before | rfl | after
  · exact before
  · exact absurd less (List.lt_irrefl _)
  · exact absurd less (List.lt_asymm (bytes_lt after))

end Scanout.Text
