import Scanout.Bench.Faults
import Scanout.Slot

/-!
# Seats

A seat is a driver with everything that belongs to it alone: the platform under it, the faults in
front of the platform, and what holds the driver.  It is held directly, by a slot, or by nothing.

## Main definitions

* `Bench.Seat` — a driver with its platform, its faults and its holder
* `Bench.Seat.start` — opens the driver of a seat
* `Bench.Seat.operate` — performs an operation
* `Bench.Seat.drop` — gives the driver up
-/

namespace Scanout.Bench

open Machine (Question)

/-- What holds the driver of a seat. -/
inductive Holder where
  | vacant
  | driver (driver : Driver)
  | slot (slot : Slot)
  deriving DecidableEq, Repr

/-- **A driver with everything that belongs to it alone.** -/
structure Seat where
  platform : Platform
  faults : Faults
  holder : Holder

/-- How the driver of a seat is to be held. -/
inductive Via where
  | direct
  /-- By a slot that is told the outcome of opening the driver. -/
  | slotOfStart
  /-- By a slot that is told of an open driver only. -/
  | slotOfDriver
  deriving DecidableEq, Repr

/-- What can be seen of the holder of a seat. -/
inductive View where
  | absent
  | driver (driver : Driver) (flags : Flags)
  | slot (slot : Slot) (flags : Flags)
  deriving DecidableEq, Repr

namespace Seat

variable {α : Type}

/-- Runs a program of the driver on the platform behind the faults. -/
def run (seat : Seat) (program : Program Request α) : Program Question (α × Seat) := do
  let (value, platform) ← (program.run seat.faults.serve).run seat.platform
  return (value, { seat with platform := platform })

/-! ### Opening and giving up -/

/-- How the outcome of opening a driver is held. -/
def hold : Via → Except Failure Driver → Program Request Holder
  | .direct, .ok driver => return .driver driver
  | .direct, .error _ => return .vacant
  | .slotOfStart, outcome => do return .slot (← Slot.ofStart outcome)
  | .slotOfDriver, .ok driver => do return .slot (← Slot.hold driver)
  | .slotOfDriver, .error _ => return .slot Slot.empty

/-- Why a driver was not opened, if it was not. -/
def failure? : Except Failure Driver → Option Failure
  | .ok _ => none
  | .error failure => some failure

/-- **Opens the driver of a seat**, and tells why it could not be opened if that is so. -/
def start (via : Via) (platform : Platform) (faults : Faults) :
    Program Question (Option Failure × Seat) := do
  let opening : Program Request (Option Failure × Holder) := do
    let outcome ← Driver.start
    let holder ← hold via outcome
    return (failure? outcome, holder)
  let ((failure, holder), seat) ← Seat.run ⟨platform, faults, .vacant⟩ opening
  return (failure, { seat with holder := holder })

/-- **Gives the driver of a seat up**; it is released if that has not been done before. -/
def drop (seat : Seat) : Program Question Seat := do
  match seat.holder with
  | .vacant => return seat
  | .driver driver => do
      let (_, seat) ← seat.run driver.destroy
      return { seat with holder := .vacant }
  | .slot slot => do
      let (_, seat) ← seat.run slot.discard
      return { seat with holder := .vacant }

/-! ### Operations -/

/-- **Performs a history**; without a holder there is nothing to perform it. -/
def operateAll (seat : Seat) (ops : List Operation) : Program Question (Option (List Reply) × Seat) :=
  match seat.holder with
  | .vacant => pure (none, seat)
  | .driver driver => do
      let ((replies, driver), seat) ← seat.run (driver.performAll ops)
      return (some replies, { seat with holder := .driver driver })
  | .slot slot => do
      let ((replies, slot), seat) ← seat.run (slot.performAll ops)
      return (some replies, { seat with holder := .slot slot })

/-- **Performs an operation**; without a holder there is nothing to perform it. -/
def operate (seat : Seat) (op : Operation) : Program Question (Option Reply × Seat) := do
  let (replies, seat) ← seat.operateAll [op]
  return (replies.bind List.head?, seat)

/-- The capabilities that a reply tells. -/
def flagsOf : Option Reply → Flags
  | some (.flags flags) => flags
  | _ => Flags.empty

/-- **What can be seen of the holder.** -/
def view (seat : Seat) : Program Question View := do
  let (reply, _) ← seat.operate .getFlags
  return match seat.holder with
    | .vacant => .absent
    | .driver driver => .driver driver (flagsOf reply)
    | .slot slot => .slot slot (flagsOf reply)

end Seat

end Scanout.Bench
