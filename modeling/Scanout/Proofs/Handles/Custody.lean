import Mathlib.Data.List.Induction
import Scanout.Proofs.Transcript
import Scanout.Request

/-!
# Custody of handles

A backend gives handles out and takes them back.  Who holds a handle is read off the calls that were
made: the driver it was last given to, unless it was given back since.  Two drivers can be served by
one library, and then a handle means the same to both; or each has a backend of its own, and then
equal numbers mean different handles.  A function from drivers to sources covers both.

## Main definitions

* `Handle`, `Handle.rank` — the handles of the three kinds, and how they rest on one another
* `Deed` — a backend call made for a driver
* `lifeline`, `holder?` — how a handle was given and returned, and who holds it
* `Allowed`, `Orderly` — a call that respects custody, and calls that all do
* `Exclusive` — no source gives to one driver what another one holds
* `Paired` — a lifeline in which every gift is followed by its return

## Main result

* `Orderly.lifeline_paired` — under orderly calls, whatever is held by nobody was returned as often
  as it was given, each time by the driver it was given to

## Design notes

A handle may be given out again once it has been returned, as an allocator does, so handles are not
assumed to be new.  What is asked of a source is only that it does not give to one driver what
another one still holds; with a source for each driver nothing is asked (`exclusive_of_injective`).
-/

namespace Scanout

/-- **A handle of one of the kinds that are given back**; surfaces are a matter of one frame. -/
inductive Handle where
  | display (display : Display)
  | presenter (presenter : Presenter)
  | context (context : RenderContext)
  deriving DecidableEq

/-- How high a handle stands: a presenter rests on a display, and a context on both. -/
def Handle.rank : Handle → Nat
  | display _ => 0
  | presenter _ => 1
  | context _ => 2

namespace Custody

/-- **A backend call made for a driver**, with its answer. -/
abbrev Deed := Nat × Exchange Backend.Call

/-- The handle that a call has given out. -/
def given? : Exchange Backend.Call → Option Handle
  | ⟨.createDisplay, .ok display⟩ => some (.display display)
  | ⟨.createPresenter _ _ _, .ok presenter⟩ => some (.presenter presenter)
  | ⟨.createContext _ _ _ _, .ok context⟩ => some (.context context)
  | _ => none

/-- The handle that a call gives back. -/
def returned? : Backend.Call → Option Handle
  | .destroyDisplay display => some (.display display)
  | .destroyPresenter presenter => some (.presenter presenter)
  | .destroyContext context => some (.context context)
  | _ => none

/-- **The handles that a call carries.** -/
def carried : Backend.Call → List Handle
  | .createDisplay | .clearColorBuffer => []
  | .destroyDisplay display | .refreshRate display | .createPresenter display _ _
  | .createContext display _ _ _ => [.display display]
  | .destroyPresenter presenter | .post presenter _ _ => [.presenter presenter]
  | .destroyContext context | .makeCurrent context | .swapBuffers context | .lockSurface context
  | .unlockSurface context _ => [.context context]

/-- A call that gives a handle back carries it and nothing else. -/
theorem carried_of_returned {call : Backend.Call} {handle : Handle}
    (returned : returned? call = some handle) : carried call = [handle] := by
  cases call <;> simp_all [returned?, carried]

/-- A call that gives a handle out gives none back. -/
theorem returned_of_given {exchange : Exchange Backend.Call} {handle : Handle}
    (given : given? exchange = some handle) : returned? exchange.1 = none := by
  unfold given? at given
  split at given <;> first | rfl | cases given

/-- A call that gives a handle back gives none out. -/
theorem given_of_returned {exchange : Exchange Backend.Call} {handle : Handle}
    (returned : returned? exchange.1 = some handle) : given? exchange = none := by
  cases given : given? exchange with
  | none => rfl
  | some other =>
      rw [returned_of_given given] at returned
      cases returned

/-! ### Lifelines and holders -/

/-- What happens to a handle: it is given to a driver, or returned by one. -/
inductive Mark where
  | given (driver : Nat)
  | returned (driver : Nat)
  deriving DecidableEq

section Source

-- The source that serves a driver; drivers over one library have it in common.
variable (source : Nat → Nat)

/-- What a call does to a handle of a source. -/
def mark? (place : Nat) (handle : Handle) : Deed → Option Mark
  | (driver, exchange) =>
      if source driver = place then
        if given? exchange = some handle then some (.given driver)
        else if returned? exchange.1 = some handle then some (.returned driver)
        else none
      else none

/-- A mark on a handle is a gift of it or its return, by a driver that its source serves. -/
theorem mark?_eq_some {place driver : Nat} {handle : Handle} {exchange : Exchange Backend.Call}
    {mark : Mark} :
    mark? source place handle (driver, exchange) = some mark ↔
      source driver = place ∧
        ((given? exchange = some handle ∧ mark = .given driver) ∨
          (returned? exchange.1 = some handle ∧ mark = .returned driver)) := by
  unfold mark?
  by_cases served : source driver = place
  · by_cases given : given? exchange = some handle
    · have kept : returned? exchange.1 ≠ some handle := by
        rw [returned_of_given given]
        exact nofun
      simp [served, given, kept, eq_comm]
    · by_cases returned : returned? exchange.1 = some handle
      · simp [served, given, returned, eq_comm]
      · simp [served, given, returned]
  · simp [served]

/-- **How a handle of a source was given and returned**, in order. -/
def lifeline (place : Nat) (handle : Handle) (deeds : List Deed) : List Mark :=
  deeds.filterMap (mark? source place handle)

/-- Who holds a handle once it has been marked. -/
def holderOf : Option Mark → Option Nat
  | some (.given driver) => some driver
  | some (.returned _) | none => none

/-- **Who holds a handle of a source**: the driver it was last given to, unless it was returned since. -/
def holder? (place : Nat) (handle : Handle) (deeds : List Deed) : Option Nat :=
  holderOf (lifeline source place handle deeds).getLast?

@[simp] theorem holder?_nil (place : Nat) (handle : Handle) :
    holder? source place handle [] = none := rfl

/-- The holder after one more call: a mark decides, and without one it stays. -/
theorem holder?_concat (place : Nat) (handle : Handle) (deeds : List Deed) (deed : Deed) :
    holder? source place handle (deeds ++ [deed]) =
      match mark? source place handle deed with
      | some mark => holderOf (some mark)
      | none => holder? source place handle deeds := by
  unfold holder? lifeline
  rw [List.filterMap_append]
  cases mark : mark? source place handle deed with
  | none => simp [mark]
  | some value => simp [mark]

/-- Whoever holds a handle of a source is served by it. -/
theorem source_of_holder {place driver : Nat} {handle : Handle} {deeds : List Deed}
    (holds : holder? source place handle deeds = some driver) : source driver = place := by
  induction deeds using List.reverseRecOn with
  | nil => cases holds
  | append_singleton deeds deed ih =>
      rw [holder?_concat] at holds
      obtain ⟨other, exchange⟩ := deed
      cases marked : mark? source place handle (other, exchange) with
      | none =>
          rw [marked] at holds
          exact ih holds
      | some mark =>
          rw [marked] at holds
          obtain ⟨served, ⟨-, rfl⟩ | ⟨-, rfl⟩⟩ := (mark?_eq_some source).mp marked
          · cases holds
            exact served
          · cases holds

/-! ### Orderly calls -/

/-- **A condition on each call, given the calls before it.** -/
def AtEach (condition : List Deed → Deed → Prop) : List Deed → List Deed → Prop
  | _, [] => True
  | before, deed :: after => condition before deed ∧ AtEach condition (before ++ [deed]) after

instance AtEach.decidable (condition : List Deed → Deed → Prop)
    [∀ before deed, Decidable (condition before deed)] :
    ∀ before after, Decidable (AtEach condition before after)
  | _, [] => isTrue trivial
  | before, deed :: after =>
      have := AtEach.decidable condition (before ++ [deed]) after
      inferInstanceAs (Decidable (condition before deed ∧ AtEach condition (before ++ [deed]) after))

theorem atEach_append {condition : List Deed → Deed → Prop} {before first rest : List Deed} :
    AtEach condition before (first ++ rest) ↔
      AtEach condition before first ∧ AtEach condition (before ++ first) rest := by
  induction first generalizing before with
  | nil => simp [AtEach]
  | cons deed first ih => simp [AtEach, ih, and_assoc]

/-- **A call respects custody**, given the calls before it. -/
structure Allowed (before : List Deed) (deed : Deed) : Prop where
  /-- What it carries is held by its driver: given to it, and not returned since.  Among it is the
  display that a presenter or a context is made on. -/
  held : ∀ handle ∈ carried deed.2.1,
    holder? source (source deed.1) handle before = some deed.1
  /-- What it gives out is held by nobody. -/
  free : ∀ handle ∈ given? deed.2, holder? source (source deed.1) handle before = none
  /-- What it gives out stands above all that its driver holds. -/
  above : ∀ handle ∈ given? deed.2, ∀ other,
    holder? source (source deed.1) other before = some deed.1 → other.rank < handle.rank
  /-- What it gives back stands as high as anything its driver holds. -/
  topmost : ∀ handle ∈ returned? deed.2.1, ∀ other,
    holder? source (source deed.1) other before = some deed.1 → other.rank ≤ handle.rank

/-- **Every call respects custody.** -/
def Orderly (deeds : List Deed) : Prop := AtEach (Allowed source) [] deeds

/-- What a call gives out is held by no other driver than its own. -/
def Unheld (before : List Deed) (deed : Deed) : Prop :=
  ∀ handle ∈ given? deed.2, ∀ other ∈ holder? source (source deed.1) handle before, other = deed.1

instance (before : List Deed) (deed : Deed) : Decidable (Unheld source before deed) :=
  inferInstanceAs (Decidable (∀ handle ∈ given? deed.2,
    ∀ other ∈ holder? source (source deed.1) handle before, other = deed.1))

/-- **No source gives to one driver what another one holds.** -/
def Exclusive (deeds : List Deed) : Prop := AtEach (Unheld source) [] deeds

instance (deeds : List Deed) : Decidable (Exclusive source deeds) :=
  inferInstanceAs (Decidable (AtEach _ _ _))

/-- If no two drivers have a source in common, none can be given what another one holds. -/
theorem exclusive_of_injective (apart : Function.Injective source) (deeds : List Deed) :
    Exclusive source deeds := by
  suffices ∀ before, AtEach (Unheld source) before deeds from this []
  induction deeds with
  | nil => exact fun _ => trivial
  | cons deed deeds ih =>
      intro before
      refine ⟨?_, ih _⟩
      intro handle given other holds
      exact apart (source_of_holder source holds)

/-! ### Lifelines under orderly calls -/

/-- **Every gift is followed by its return**, by the driver that it was made to. -/
inductive Paired : List Mark → Prop
  | nil : Paired []
  | cons (driver : Nat) {later : List Mark} (paired : Paired later) :
      Paired (.given driver :: .returned driver :: later)

theorem Paired.concat {marks : List Mark} (paired : Paired marks) (driver : Nat) :
    Paired (marks ++ [.given driver, .returned driver]) := by
  induction paired with
  | nil => exact .cons driver .nil
  | cons other _ ih => exact .cons other ih

/-- A lifeline is paired, but for a last gift while the handle is held. -/
def Tallied (marks : List Mark) : Option Nat → Prop
  | none => Paired marks
  | some driver => ∃ earlier, Paired earlier ∧ marks = earlier ++ [.given driver]

/-- **Under orderly calls a lifeline is paired up to who holds the handle.** -/
theorem Orderly.lifeline_tallied {deeds : List Deed} (orderly : Orderly source deeds) (place : Nat)
    (handle : Handle) :
    Tallied (lifeline source place handle deeds) (holder? source place handle deeds) := by
  induction deeds using List.reverseRecOn with
  | nil => exact .nil
  | append_singleton deeds deed ih =>
      obtain ⟨orderly, ⟨allowed, -⟩⟩ := atEach_append.mp orderly
      rw [List.nil_append] at allowed
      have earlier := ih orderly
      obtain ⟨driver, exchange⟩ := deed
      -- the last call marks the handle or leaves its lifeline as it is
      rw [holder?_concat]
      unfold lifeline at earlier ⊢
      rw [List.filterMap_append]
      cases marked : mark? source place handle (driver, exchange) with
      | none => simpa [marked] using earlier
      | some mark =>
          obtain ⟨rfl, ⟨given, rfl⟩ | ⟨returned, rfl⟩⟩ := (mark?_eq_some source).mp marked
          · rw [allowed.free handle given] at earlier
            exact ⟨_, earlier, by simp [marked]⟩
          · have held := allowed.held handle (by simp [carried_of_returned returned])
            rw [held] at earlier
            obtain ⟨marks, paired, split⟩ := earlier
            show Paired _
            rw [split, List.append_assoc]
            simpa [marked] using paired.concat driver

/-- **A handle that nobody holds was returned once for every time that it was given**, by the driver
it had been given to and before it was given again. -/
theorem Orderly.lifeline_paired {deeds : List Deed} (orderly : Orderly source deeds) {place : Nat}
    {handle : Handle} (free : holder? source place handle deeds = none) :
    Paired (lifeline source place handle deeds) := by
  have tallied := orderly.lifeline_tallied source place handle
  rw [free] at tallied
  exact tallied

end Source

end Custody

end Scanout
