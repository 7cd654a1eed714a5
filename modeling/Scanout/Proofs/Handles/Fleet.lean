import Scanout.Proofs.Driver.Life
import Scanout.Proofs.Handles.Turnover

/-!
# Custody in a fleet of drivers

Several drivers are opened, asked and dropped in any order, and each is given whatever answers its
collaborators like.  They may be served by one library or by several.  As long as no library gives to
one driver what another one holds, each call carries only handles that its driver was given and has
not returned; and when all drivers have been dropped, each handle has been returned once for every
time that it was given out.

## Main definitions

* `Fleet`, `Fleet.Action` — drivers in their places, and what can be done with them
* `Fleet.performAll` — a run of a fleet
* `Custody.deeds` — the backend calls of a run, each with the driver it was made for
* `Custody.Settled` — every call respected custody, and every handle was returned

## Main result

* `Fleet.settled_of_dropped`

## Design notes

A driver keeps its place, so a place stands for one driver during the whole run.  An action on a
place where there is no driver does nothing; it stands for the end of every run that does not use the
place any more.  What differs from driver to driver is the label that its requests bear.
-/

namespace Scanout

/-- **Drivers in their places**: none where a driver could not be opened or has been dropped. -/
abbrev Fleet := List (Option Driver)

namespace Fleet

/-- **What can be done with a fleet**: one more driver is opened, or the driver of a place performs an
operation or is dropped. -/
inductive Action where
  | start
  | operate (place : Nat) (op : Operation)
  | drop (place : Nat)

/-- The driver of a place. -/
def driver? (fleet : Fleet) (place : Nat) : Option Driver := (fleet[place]?).join

/-- **Performs one action**, on behalf of the driver that it is about. -/
def perform (fleet : Fleet) : Action → Program (Nat × Request) Fleet
  | .start => do
      let outcome ← Driver.start.onBehalf fleet.length
      return fleet ++ [outcome.toOption]
  | .operate place op =>
      match fleet.driver? place with
      | none => pure fleet
      | some d => do
          let (_, d) ← (d.perform op).onBehalf place
          return fleet.set place (some d)
  | .drop place =>
      match fleet.driver? place with
      | none => pure fleet
      | some d => do
          let _ ← d.destroy.onBehalf place
          return fleet.set place none

/-- **A run of a fleet.** -/
def performAll (fleet : Fleet) : List Action → Program (Nat × Request) Fleet
  | [] => pure fleet
  | action :: actions => do
      let fleet ← fleet.perform action
      fleet.performAll actions

/-- The stock of the driver of a place. -/
def stock (fleet : Fleet) (place : Nat) : List Handle :=
  Pipeline.stock ((fleet.driver? place).bind Driver.pipeline)

/-! ### Stocks and places -/

section Places

variable {fleet : Fleet} {place : Nat}

theorem stock_of_driver {d : Driver} (here : fleet.driver? place = some d) :
    fleet.stock place = Pipeline.stock d.pipeline := by
  rw [stock, here]
  rfl

theorem stock_of_vacant (vacant : fleet.driver? place = none) : fleet.stock place = [] := by
  rw [stock, vacant]
  rfl

/-- A driver that takes a place at the end brings its stock. -/
theorem stock_concat (d : Option Driver) :
    stock (fleet ++ [d]) =
      Function.update fleet.stock fleet.length (Pipeline.stock (d.bind Driver.pipeline)) := by
  funext place
  unfold stock driver?
  rcases Nat.lt_trichotomy place fleet.length with before | rfl | behind
  · rw [Function.update_of_ne (Nat.ne_of_lt before), List.getElem?_append_left before]
  · rw [Function.update_self, List.getElem?_concat_length]
    rfl
  · rw [Function.update_of_ne (Nat.ne_of_gt behind), List.getElem?_eq_none (by simp; omega),
      List.getElem?_eq_none (Nat.le_of_lt behind)]

/-- A driver that changes in its place changes its stock and no other one. -/
theorem stock_set {d : Driver} (here : fleet.driver? place = some d) (d' : Option Driver) :
    stock (fleet.set place d') =
      Function.update fleet.stock place (Pipeline.stock (d'.bind Driver.pipeline)) := by
  have inside : place < fleet.length := by
    refine Nat.lt_of_not_le fun outside => ?_
    rw [driver?, List.getElem?_eq_none outside] at here
    cases here
  funext other
  unfold stock driver?
  by_cases same : other = place
  · subst same
    rw [Function.update_self, List.getElem?_set_self inside]
    rfl
  · rw [Function.update_of_ne same, List.getElem?_set_ne (Ne.symm same)]

end Places

end Fleet

namespace Custody

/-- The deed of an exchange, if it is a call on the backend. -/
def deed? : Exchange (Nat × Request) → Option Deed
  | ⟨(driver, request), reply⟩ => (backendExchange? ⟨request, reply⟩).map (driver, ·)

/-- **The backend calls of a run**, each with the driver it was made for and its answer. -/
def deeds (exchanges : List (Exchange (Nat × Request))) : List Deed := exchanges.filterMap deed?

theorem deeds_append (first rest : List (Exchange (Nat × Request))) :
    deeds (first ++ rest) = deeds first ++ deeds rest := List.filterMap_append

/-- What is asked on behalf of a driver are deeds of that driver. -/
theorem deeds_onBehalf (driver : Nat) (plain : List (Exchange Request)) :
    deeds (plain.map (Program.labelExchange driver)) = (backendCalls plain).map (driver, ·) := by
  unfold deeds backendCalls
  rw [List.filterMap_map, List.map_filterMap]
  rfl

/-- **Custody has been respected and is over**: every call was allowed when it was made, nobody holds
anything any more, and each handle was returned once for every time that it was given, by the driver
it was given to. -/
structure Settled (source : Nat → Nat) (deeds : List Deed) : Prop where
  orderly : Orderly source deeds
  free : ∀ place handle, holder? source place handle deeds = none
  paired : ∀ place handle, Paired (lifeline source place handle deeds)

end Custody

namespace Fleet

open Custody

/-- **One action turns over the stock of one driver** and leaves the others alone. -/
theorem perform_turnover {fleet fleet' : Fleet} {action : Action}
    {exchanges : List (Exchange (Nat × Request))}
    (run : (fleet.perform action).Yields exchanges fleet') :
    ∃ driver calls stock', deeds exchanges = calls.map (driver, ·) ∧
      Turnover (fleet.stock driver) calls stock' ∧
      fleet'.stock = Function.update fleet.stock driver stock' := by
  have nothing (place : Nat) (vacant : exchanges = [] ∧ fleet' = fleet) :
      ∃ driver calls stock', deeds exchanges = calls.map (driver, ·) ∧
        Turnover (fleet.stock driver) calls stock' ∧
        fleet'.stock = Function.update fleet.stock driver stock' := by
    obtain ⟨rfl, rfl⟩ := vacant
    exact ⟨place, [], _, rfl, .rest _, (Function.update_eq_self _ _).symm⟩
  cases action with
  | start =>
      obtain ⟨first, rest, outcome, rfl, part, rfl, rfl⟩ := Program.yields_bind.mp run
      obtain ⟨plain, rfl, started⟩ := Program.yields_onBehalf.mp part
      have vacant : fleet.stock fleet.length = [] := stock_of_vacant (by simp [driver?])
      refine ⟨fleet.length, backendCalls plain, _, ?_, ?_, stock_concat _⟩
      · rw [List.append_nil, deeds_onBehalf]
      · rw [vacant]
        exact (Driver.start_calls started).turnover
  | operate place op =>
      unfold perform at run
      dsimp only at run
      split at run
      · exact nothing place run
      · next d here =>
        obtain ⟨first, rest, ⟨reply, d'⟩, rfl, part, rfl, rfl⟩ := Program.yields_bind.mp run
        obtain ⟨plain, rfl, asked⟩ := Program.yields_onBehalf.mp part
        refine ⟨place, backendCalls plain, _, ?_, ?_, stock_set here _⟩
        · rw [List.append_nil, deeds_onBehalf]
        · rw [stock_of_driver here]
          exact (Driver.perform_calls asked).turnover
  | drop place =>
      unfold perform at run
      dsimp only at run
      split at run
      · exact nothing place run
      · next d here =>
        obtain ⟨first, rest, d', rfl, part, rfl, rfl⟩ := Program.yields_bind.mp run
        obtain ⟨plain, rfl, asked⟩ := Program.yields_onBehalf.mp part
        refine ⟨place, backendCalls plain, _, ?_, ?_, stock_set here _⟩
        · rw [List.append_nil, deeds_onBehalf]
        · rw [stock_of_driver here, (Driver.destroy_calls asked).1]
          exact Driver.turnover_releases d.pipeline

/-- **A run respects custody**, from any moment on at which the stocks agree with the calls before. -/
theorem performAll_allowed {source : Nat → Nat} {actions : List Action} {fleet fleet' : Fleet}
    {exchanges : List (Exchange (Nat × Request))} {before : List Deed}
    (run : (fleet.performAll actions).Yields exchanges fleet') (agrees : Agrees source before fleet.stock)
    (exclusive : AtEach (Unheld source) before (deeds exchanges)) :
    AtEach (Allowed source) before (deeds exchanges) ∧
      Agrees source (before ++ deeds exchanges) fleet'.stock := by
  induction actions generalizing fleet exchanges before with
  | nil =>
      obtain ⟨rfl, rfl⟩ := run
      refine ⟨trivial, ?_⟩
      show Agrees source (before ++ []) _
      rwa [List.append_nil]
  | cons action actions ih =>
      obtain ⟨first, rest, middle, rfl, one, others⟩ := Program.yields_bind.mp run
      -- one action is a turnover of one stock, so it is allowed and the stocks agree behind it
      obtain ⟨driver, calls, stock', made, turnover, changed⟩ := perform_turnover one
      rw [deeds_append, made] at exclusive ⊢
      obtain ⟨now, later⟩ := atEach_append.mp exclusive
      obtain ⟨allowed, agrees⟩ :=
        turnover.allowed (Driver.ranked_stock _) rfl agrees now
      rw [← changed] at agrees
      obtain ⟨allowedLater, agrees⟩ := ih others agrees later
      rw [← List.append_assoc]
      exact ⟨atEach_append.mpr ⟨allowed, allowedLater⟩, agrees⟩

/-- **Custody is settled when all drivers of a fleet have been dropped.**  Taken by itself each driver
returns what it was given, whatever the answers were; and if drivers are served by common sources,
all of them together do, as long as no source gives to one driver what another one holds. -/
theorem settled_of_dropped {actions : List Action} {exchanges : List (Exchange (Nat × Request))}
    {fleet : Fleet} (run : (performAll [] actions).Yields exchanges fleet)
    (dropped : ∀ place, fleet.driver? place = none) :
    Settled id (deeds exchanges) ∧
      ∀ source, Exclusive source (deeds exchanges) → Settled source (deeds exchanges) := by
  have settled (source : Nat → Nat) (exclusive : Exclusive source (deeds exchanges)) :
      Settled source (deeds exchanges) := by
    have start : stock [] = fun _ => [] := by
      funext place
      exact stock_of_vacant rfl
    obtain ⟨orderly, agrees⟩ := performAll_allowed run (start ▸ agrees_nil source) exclusive
    -- all stocks are empty in the end, and they agree with what is held
    have free (place : Nat) (handle : Handle) :
        holder? source place handle (deeds exchanges) = none := by
      rw [Option.eq_none_iff_forall_ne_some]
      intro driver holds
      have held := ((agrees place handle driver).mp holds).2
      rw [stock_of_vacant (dropped driver)] at held
      cases held
    exact ⟨orderly, free, fun place handle =>
      Orderly.lifeline_paired source orderly (free place handle)⟩
  exact ⟨settled id (exclusive_of_injective id Function.injective_id _), settled⟩

/-- The answers of one library to a fleet: the driver of place 1 finds no presenter, and numbers are
given out again from place 3 on. -/
def reissuing : (request : Nat × Request) → Answer request
  | (1, .backend (.createPresenter _ _ _)) => .error .presenterUnavailable
  | (place, request) => Driver.unposting (place % 3) request

/-- Four drivers of one library: one that is not opened, one that is destroyed twice and asked again,
and one that is given the numbers of a driver dropped before. -/
def fourDrivers : List Action :=
  [.start, .start, .start, .operate 0 (.bindApi .openGlEs ⟨2, 0⟩), .operate 2 (.setVideoMode 0 0 true),
    .operate 0 (.setVideoMode 0 0 true), .operate 0 (.swapBuffers 1), .operate 2 .destroy,
    .operate 2 .destroy, .operate 2 (.setVideoMode 0 0 true), .drop 0, .start,
    .operate 3 (.setVideoMode 0 0 true), .drop 2, .drop 3]

/-- The library is the same for all of them, and the display of place 0 is given to place 3 again. -/
theorem fourDrivers_settled :
    Settled (fun _ => 0) (deeds ((performAll [] fourDrivers).transcribe reissuing).1) ∧
      lifeline (fun _ => 0) 0 (.display ⟨0⟩)
          (deeds ((performAll [] fourDrivers).transcribe reissuing).1) =
        [.given 0, .returned 0, .given 3, .returned 3] := by
  refine ⟨?_, by decide +kernel⟩
  have dropped : ∀ place, driver? ((performAll [] fourDrivers).transcribe reissuing).2 place = none := by
    have vacant : ((performAll [] fourDrivers).transcribe reissuing).2 = [none, none, none, none] := by
      decide +kernel
    intro place
    rw [vacant]
    rcases place with _ | _ | _ | _ | place <;> rfl
  exact (settled_of_dropped (Program.yields_transcribe reissuing _) dropped).2 _ (by decide +kernel)

end Fleet

end Scanout
