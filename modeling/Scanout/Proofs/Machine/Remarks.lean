import Scanout.Machine.Question
import Scanout.Proofs.Transcript

/-!
# Programs that only write to the log

A program that writes records and then ends is as good as its value: the log gives no answer that
could change it.

## Main definitions

* `Machine.remarking` — writes records and ends with a value
-/

namespace Scanout.Machine

variable {α β : Type}

/-- **The program that writes records** and ends with a value. -/
def remarking (records : List Log.Record) (value : α) : Program Question α :=
  records.foldr (fun record rest => .ask (.log record) fun _ => rest) (.done value)

/-- The exchange by which a record is written. -/
def written (record : Log.Record) : Exchange Question := ⟨.log record, ()⟩

/-- What is written are the records, whoever reads them. -/
theorem yields_remarking {records : List Log.Record} {value a : α}
    {exchanges : List (Exchange Question)} :
    (remarking records value).Yields exchanges a ↔
      exchanges = records.map written ∧ a = value := by
  induction records generalizing exchanges with
  | nil => exact Iff.rfl
  | cons record records ih =>
      constructor
      · rintro ⟨⟨⟩, rest, rfl, run⟩
        obtain ⟨rfl, ended⟩ := ih.mp run
        exact ⟨rfl, ended⟩
      · rintro ⟨rfl, ended⟩
        exact ⟨(), records.map written, rfl, ih.mpr ⟨rfl, ended⟩⟩

/-- Writing to the log asks nothing but that. -/
theorem asksOnly_remarking {records : List Log.Record} {value : α} {allowed : Question → Prop}
    (log : ∀ record, allowed (.log record)) : (remarking records value).AsksOnly allowed := by
  induction records with
  | nil => trivial
  | cons record records ih => exact ⟨log record, fun _ => ih⟩

end Scanout.Machine
