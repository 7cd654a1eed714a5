import Scanout.Machine.Path
import Scanout.Proofs.Text.ByteOrder

/-!
# How paths are told

A message tells a path by its name where the path is text, letter by letter.  Only where it is not, marks
stand for what is no character.

## Main definitions

* `Path.Told` — what a message tells of a path

## Main results

* `Path.pieces_ofText` — the pieces of a text are its characters
* `Path.told_iff` — what is told of a path is what is shown of it
-/

namespace Scanout.Path

/-- The character at the front of some bytes is read off them, whatever comes behind it. -/
theorem firstChar?_append (c : Char) (rest : List UInt8) :
    firstChar? (String.utf8EncodeChar c ++ rest) = some c := by
  have whole : (⟨(String.utf8EncodeChar c ++ rest).toArray⟩ : ByteArray) =
      (String.utf8EncodeChar c).toByteArray ++ rest.toByteArray := by
    rw [← List.toByteArray_append]
    exact ByteArray.ext List.data_toByteArray.symm
  rw [firstChar?, whole]
  exact ByteArray.utf8DecodeChar?_utf8EncodeChar_append

/-- Bytes of an earlier piece are passed over. -/
theorem piecesBehind_append (earlier rest : List UInt8) :
    piecesBehind earlier.length (earlier ++ rest) = piecesBehind 0 rest := by
  induction earlier with
  | nil => rfl
  | cons byte earlier ih => exact ih

/-- **Where characters stand, they are the pieces.** -/
theorem piecesBehind_flatMap (cs : List Char) :
    piecesBehind 0 (cs.flatMap String.utf8EncodeChar) = cs.map .character := by
  induction cs with
  | nil => rfl
  | cons c cs ih =>
      have first := firstChar?_append c (cs.flatMap String.utf8EncodeChar)
      have length := String.length_utf8EncodeChar c
      rw [List.flatMap_cons, List.map_cons]
      generalize String.utf8EncodeChar c = bytes at first length ⊢
      cases bytes with
      | nil => exact absurd length (Nat.ne_of_lt c.utf8Size_pos)
      | cons byte earlier =>
          rw [List.cons_append] at first ⊢
          rw [piecesBehind, first]
          dsimp only
          -- the bytes behind the first are passed over before the next character
          rw [← length, List.length_cons, Nat.add_sub_cancel, piecesBehind_append, ih]

theorem pieces_ofText (text : String) : (ofText text).pieces = text.toList.map .character := by
  rw [← piecesBehind_flatMap, ← Text.bytes_eq]
  rfl

/-- **A path that is text is shown as it is.** -/
theorem shown_ofText (text : String) : (ofText text).shown = text := by
  rw [shown, pieces_ofText, List.map_map]
  exact (congrArg String.ofList (List.map_id text.toList)).trans String.ofList_toList

/-- **What a message tells of a path**: the text that it is, and what is shown of one that is none. -/
inductive Told : Path → String → Prop
  | text (name : String) : Told (ofText name) name
  | other {path : Path} (noText : ∀ name, ofText name ≠ path) : Told path path.shown

/-- **What is told of a path is what is shown of it.** -/
theorem told_iff {path : Path} {told : String} : path.Told told ↔ path.shown = told := by
  constructor
  · intro tells
    cases tells with
    | text => exact shown_ofText told
    | other => rfl
  · rintro rfl
    by_cases noText : ∀ name, ofText name ≠ path
    · exact .other noText
    · push Not at noText
      obtain ⟨name, rfl⟩ := noText
      rw [shown_ofText]
      exact .text name

/-- What breaks off in the middle of a character has one mark, and each byte that begins none another. -/
example : shown ⟨[0x61, 0xf0, 0x9f, 0x92, 0xe2, 0x82, 0xac, 0xed, 0xa0]⟩ =
    "a\ufffd€\ufffd\ufffd" := by decide +kernel

end Scanout.Path
