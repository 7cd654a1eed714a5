import Scanout.Bench.Seat
import Scanout.Machine.State

/-!
# Sessions

A session is a machine with several seats.  The drivers are opened one after the other; then one
action follows another, each on one seat; in the end the drivers are given up in order.  After each
action it is observed what is new on the seat and on the machine.

## Main definitions

* `Bench.Action` — what can be done on a seat
* `Bench.Observation` — what is new after an action, and how the seat is left
* `Bench.Session` — a machine with its seats
* `Bench.Session.perform` — performs an action
* `Bench.conduct` — a whole session
-/

namespace Scanout.Bench

/-- **What can be done on a seat.** -/
inductive Action where
  | operation (op : Operation)
  /-- Presents frames, numbered on from the first. -/
  | frames (first : UInt64) (count : Nat)
  | isActive
  | drop
  /-- Changes the faults of the seat. -/
  | injectFaults (change : Faults → Faults)
  /-- Changes what the C functions answer. -/
  | scriptLibrary (change : Native.Script → Native.Script)
  /-- Tells a scripted frontend whether a shutdown is requested. -/
  | requestShutdown (value : Bool)
  /-- Raises a signal in the process. -/
  | raise (signal : Signal)

/-- What came of an action. -/
inductive Answer where
  | reply (reply : Reply)
  | active (value : Bool)
  | silent
  /-- There is no driver to act on. -/
  | noDriver
  deriving DecidableEq, Repr

/-- **What is new after an action**, and how the seat is left. -/
structure Observation where
  acts : List Backend.Act
  events : List Native.Event
  records : List Log.Record
  attempts : List Input.Probe
  view : View
  platform : Platform

/-- **A machine with its seats.** -/
structure Session where
  machine : Machine
  seats : List Seat

namespace Session

/-! ### Observing -/

/-- What is new since a platform was as it was before. -/
def observe (machine : Machine) (before : Platform) (seat : Seat) : Observation × Machine :=
  let (view, machine) := machine.execute seat.view
  let ((events, records), machine) := machine.collect
  ({ acts := seat.platform.backend.acts.drop before.backend.acts.length
     events := events
     records := records
     attempts := seat.platform.prober.attempts.drop before.prober.attempts.length
     view := view
     platform := seat.platform }, machine)

/-! ### Opening -/

/-- How a seat is set up. -/
structure Setup where
  via : Via
  platform : Platform
  faults : Faults
  /-- What is changed in the answers of the C functions before the driver is opened. -/
  script : Native.Script → Native.Script

/-- Changes what the C functions of a machine answer. -/
def scriptMachine (change : Native.Script → Native.Script) (m : Machine) : Machine :=
  { m with library := { m.library with script := change m.library.script } }

/-- **Opens the driver of one more seat.** -/
def addSeat (s : Session) (setup : Setup) : (Option Failure × Observation) × Session :=
  let machine := scriptMachine setup.script s.machine
  let ((failure, seat), machine) :=
    machine.execute (Seat.start setup.via setup.platform setup.faults)
  let (observation, machine) := observe machine setup.platform seat
  ((failure, observation), ⟨machine, s.seats ++ [seat]⟩)

/-- Opens drivers in order. -/
def addSeats (s : Session) :
    List Setup → List (Option Failure × Observation) × Session
  | [] => ([], s)
  | setup :: setups =>
      let (first, s) := s.addSeat setup
      let (others, s) := s.addSeats setups
      (first :: others, s)

/-! ### Acting -/

/-- The answer to an action that a holder replies to. -/
def answerOf : Option Reply → Answer
  | some reply => .reply reply
  | none => .noDriver

/-- The answer to an action on a holder that tells nothing. -/
def silentOf : Option (List Reply) → Answer
  | some _ => .silent
  | none => .noDriver

/-- Whether the holder of a seat has a driver. -/
def activity : Holder → Answer
  | .vacant => .noDriver
  | .driver _ => .active true
  | .slot slot => .active slot.isActive

/-- Tells a scripted frontend whether a shutdown is requested. -/
def tellFrontend (value : Bool) : Platform.Frontend → Platform.Frontend
  | .scripted state => .scripted { state with shutdown := fun _ => value }
  | .system state => .system state

/-- The operations that present frames, numbered on from the first. -/
def framesFrom (first : UInt64) (count : Nat) : List Operation :=
  (List.range count).map fun i => .swapBuffers (first + UInt64.ofNat i)

/-- What an action does on a machine and a seat; nothing is left if a signal ends the process. -/
def act (machine : Machine) (seat : Seat) : Action → Except Signal ((Answer × Seat) × Machine)
  | .operation op =>
      let ((reply, seat), machine) := machine.execute (seat.operate op)
      .ok ((answerOf reply, seat), machine)
  | .frames first count =>
      let ((replies, seat), machine) := machine.execute (seat.operateAll (framesFrom first count))
      .ok ((silentOf replies, seat), machine)
  | .isActive => .ok ((activity seat.holder, seat), machine)
  | .drop =>
      let (seat, machine) := machine.execute seat.drop
      .ok ((.silent, seat), machine)
  | .injectFaults change =>
      .ok ((.silent, { seat with faults := change seat.faults }), machine)
  | .scriptLibrary change => .ok ((.silent, seat), scriptMachine change machine)
  | .requestShutdown value =>
      let frontend := tellFrontend value seat.platform.frontend
      .ok ((.silent, { seat with platform := { seat.platform with frontend := frontend } }), machine)
  | .raise signal =>
      match machine.process.raise signal with
      | some process => .ok ((.silent, seat), { machine with process := process })
      | none => .error signal

/-- **Performs an action** on one of the seats. -/
def perform (s : Session) (place : Nat) (action : Action) :
    Except Signal (Option (Answer × Observation) × Session) :=
  match s.seats[place]? with
  | none => .ok (none, s)
  | some before =>
      match act s.machine before action with
      | .error signal => .error signal
      | .ok ((answer, seat), machine) =>
          let (observation, machine) := observe machine before.platform seat
          .ok (some (answer, observation), ⟨machine, s.seats.set place seat⟩)

/-- Performs actions in order. -/
def performAll (s : Session) :
    List (Nat × Action) → Except Signal (List (Option (Answer × Observation)) × Session)
  | [] => .ok ([], s)
  | (place, action) :: actions =>
      match s.perform place action with
      | .error signal => .error signal
      | .ok (first, s) =>
          match s.performAll actions with
          | .error signal => .error signal
          | .ok (others, s) => .ok (first :: others, s)

/-! ### Closing -/

/-- Gives the drivers of seats up in order. -/
def closeAll (machine : Machine) : List Seat → List Observation
  | [] => []
  | before :: seats =>
      let (seat, machine) := machine.execute before.drop
      let (observation, machine) := observe machine before.platform seat
      observation :: closeAll machine seats

end Session

/-- **What is observed in a whole session.** -/
structure Protocol where
  openings : List (Option Failure × Observation)
  steps : List (Option (Answer × Observation))
  closings : List Observation

/-- **A whole session**, unless a signal ends it. -/
def conduct (machine : Machine) (setups : List Session.Setup) (actions : List (Nat × Action)) :
    Except Signal Protocol :=
  let (openings, s) := Session.addSeats ⟨machine, []⟩ setups
  match s.performAll actions with
  | .error signal => .error signal
  | .ok (steps, s) => .ok ⟨openings, steps, Session.closeAll s.machine s.seats⟩

end Scanout.Bench
