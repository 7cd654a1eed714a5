import Scanout.Proofs.Driver.Life

/-!
# The records of the slot

A slot writes records in its own name, and a driver never does.  So leaving out the records of the
slot takes nothing from what a driver asks and writes.

## Main definitions

* `Slot.ownRecord` — the records of the slot
* `Slot.Foreign` — requests that are no such records

## Main result

* `Slot.perform_foreign` — no operation on a driver writes a record of the slot
-/

namespace Scanout.Slot

open Request

/-- **The records of the slot**: they are answered at once, so that what is left is what the slot asks
of others and what others record. -/
def ownRecord : (request : Request) → Option (Answer request)
  | .log record => if record.origin = .slot then some () else none
  | .backend _ | .egl _ | .frontend _ | .probe _ => none

/-- Nothing can be told by the answer to a record. -/
theorem ownRecord_answer (exchange : Exchange Request) {reply : Answer exchange.1}
    (known : ownRecord exchange.1 = some reply) : exchange.2 = reply := by
  obtain ⟨request, answer⟩ := exchange
  cases request with
  | log record => rfl
  | backend | egl | frontend | probe => cases known

/-- A request that is no record of the slot. -/
def Foreign (request : Request) : Prop := ownRecord request = none

/-! ### A driver writes no record of the slot -/

section Driver

open Program (AsksOnly)
open Driver (Remark Course)

/-- A driver remarks in its own name or in that of the input, never in that of the slot. -/
theorem remark_origin (remark : Remark) : remark.record.origin ≠ .slot := by
  cases remark <;> simp [Remark.record]

theorem releasing_foreign (pipeline : Pipeline) :
    ∀ exchange ∈ Driver.releasing pipeline, Foreign exchange.1 := by
  rcases pipeline with ⟨display, presenter, _ | context⟩ <;>
    simp [Driver.releasing, Driver.contextReleasing, Remark.said, Foreign, ownRecord,
      remark_origin]

/-- **No course of an operation writes a record of the slot.** -/
theorem course_foreign {d d' : Driver} {op : Operation} {reply : Reply}
    {exchanges : List (Exchange Request)} (course : Course d op exchanges reply d') :
    ∀ exchange ∈ exchanges, Foreign exchange.1 := by
  cases course with
  | released pipeline held => exact releasing_foreign pipeline
  | _ => simp [Driver.showing, Remark.said, Foreign, ownRecord, remark_origin]

/-- **Whatever a driver is asked for, it writes no record of the slot**: it comes to an end with each
operation, so its courses show all that it can ask. -/
theorem perform_foreign (d : Driver) (op : Operation) : (d.perform op).AsksOnly Foreign :=
  AsksOnly.of_yields (Driver.unposting 0) fun _ _ run => course_foreign (Driver.perform_course run)

theorem destroy_foreign (d : Driver) : d.destroy.AsksOnly Foreign :=
  AsksOnly.of_yields (Driver.unposting 0) fun _ _ run => course_foreign (Driver.destroy_course run)

theorem start_foreign : Driver.start.AsksOnly Foreign := by
  refine ⟨rfl, fun display => ?_⟩
  rcases display with cause | display
  · trivial
  · refine ⟨rfl, fun presenter => ?_⟩
    rcases presenter with cause | presenter
    · exact ⟨rfl, fun _ => trivial⟩
    · exact ⟨rfl, fun _ => trivial⟩

end Driver

end Scanout.Slot
