import Scanout.Headless.Backend
import Scanout.Proofs.Machine.Remarks

/-!
# What a headless backend answers

The log aside, a headless backend is a function: its state and a call give the answer and the next
state.  A list of calls, each with its answer, is served if the backend gives these answers one after
the other.

## Main definitions

* `Headless.Backend.answer` — the answer to a call, with the next state
* `Headless.Serves` — the calls of a list are answered one after the other

## Main results

* `Headless.Backend.serve_eq` — serving a call writes to the log and gives the answer
* `Headless.serves_cons`, `Headless.serves_append`
-/

namespace Scanout.Headless

open Machine (Question)

namespace Backend

/-! ### One call -/

/-- The backend once an act is recorded that gives nothing out. -/
def acted (b : Backend) (act : Backend.Act) : Backend := { b with acts := b.acts ++ [act] }

/-- The backend once an act is recorded that gives the next handle out. -/
def gave (b : Backend) (act : Backend.Act) : Backend :=
  { b with acts := b.acts ++ [act], lastHandle := b.nextHandle }

/-- **The answer to a call**, with the state of the backend that gave it. -/
def answer (b : Backend) : (call : Backend.Call) → call.Answer × Backend
  | .createDisplay =>
      if b.refusals.display then (.error .displayUnavailable, b)
      else (.ok ⟨b.nextHandle.toNat⟩, b.gave .createDisplay)
  | .destroyDisplay _ => ((), b.acted .destroyDisplay)
  | .refreshRate _ => (some refreshRate, b)
  | .createPresenter _ format background =>
      if b.refusals.presenter then (.error .presenterUnavailable, b)
      else (.ok ⟨b.nextHandle.toNat⟩, b.gave (.createPresenter format background))
  | .destroyPresenter _ => ((), b.acted .destroyPresenter)
  | .post _ surface placement =>
      if b.locked = some surface.id then
        (.ok (), { b.acted (.post placement) with frames := b.frames + 1 })
      else (.error (.surfaceNotLocked surface.id), b)
  | .createContext _ width height attributes =>
      if b.refusals.context then (.error .contextRefused, b)
      else (.ok ⟨b.nextHandle.toNat⟩, b.gave (.createContext width height attributes))
  | .destroyContext _ => ((), b.acted .destroyContext)
  | .makeCurrent _ => ((), b.acted .makeCurrent)
  | .clearColorBuffer => ((), b.acted .clearColorBuffer)
  | .swapBuffers _ => ((), b.acted .swapBuffers)
  | .lockSurface _ =>
      match b.locked with
      | some surface => (.error (.surfaceStillLocked surface), b)
      | none =>
          (.ok ⟨b.nextHandle.toNat⟩,
            { b.gave .lockSurface with locked := some b.nextHandle.toNat })
  | .unlockSurface _ surface =>
      ((), if b.locked = some surface.id then { b.acted .unlockSurface with locked := none }
        else b.acted .unlockSurface)

/-- **Serving a call writes some records and gives the answer.** -/
theorem serve_eq (b : Backend) (call : Backend.Call) :
    ∃ records, b.serve call = Machine.remarking records (b.answer call) := by
  cases call with
  | destroyDisplay | destroyPresenter | destroyContext | makeCurrent | clearColorBuffer
  | swapBuffers => exact ⟨[_], rfl⟩
  | refreshRate display => exact ⟨[], rfl⟩
  | createDisplay =>
      by_cases refused : b.refusals.display
      · rw [serve, answer, if_pos refused, if_pos refused]
        exact ⟨[], rfl⟩
      · rw [serve, answer, if_neg refused, if_neg refused]
        exact ⟨[_, _], rfl⟩
  | createPresenter display format background =>
      by_cases refused : b.refusals.presenter
      · rw [serve, answer, if_pos refused, if_pos refused]
        exact ⟨[], rfl⟩
      · rw [serve, answer, if_neg refused, if_neg refused]
        exact ⟨[_], rfl⟩
  | createContext display width height attributes =>
      by_cases refused : b.refusals.context
      · rw [serve, answer, if_pos refused, if_pos refused]
        exact ⟨[], rfl⟩
      · rw [serve, answer, if_neg refused, if_neg refused]
        exact ⟨[_, _], rfl⟩
  | post presenter surface placement =>
      by_cases held : b.locked = some surface.id
      · rw [serve, answer, if_pos held, if_pos held]
        exact ⟨[_], rfl⟩
      · rw [serve, answer, if_neg held, if_neg held]
        exact ⟨[], rfl⟩
  | lockSurface context =>
      rw [serve, answer]
      cases b.locked with
      | some surface => exact ⟨[], rfl⟩
      | none => exact ⟨[_], rfl⟩
  | unlockSurface context surface => exact ⟨[_], rfl⟩

theorem ofNat_framesPosted (b : Backend) (n : Nat) :
    UInt64.ofNat (b.framesPosted + n) = b.frames + UInt64.ofNat n := by
  rw [UInt64.ofNat_add, framesPosted, UInt64.ofNat_toNat]

/-- A counter that has counted fewer frames than it has values tells how many. -/
theorem framesPosted_of_frames {b : Backend} {n : Nat} (counted : b.frames = UInt64.ofNat n)
    (small : n < UInt64.size) : b.framesPosted = n := by
  rw [framesPosted, counted, UInt64.toNat_ofNat_of_lt' small]

end Backend

/-! ### A list of calls -/

/-- **The calls of a list are answered one after the other**, and the backend ends in a state. -/
inductive Serves : Backend → List (Exchange Backend.Call) → Backend → Prop
  | idle (b : Backend) : Serves b [] b
  | serve {b b' b'' : Backend} {call : Backend.Call} {reply : Answer call}
      {records : List (Exchange Question)} {later : List (Exchange Backend.Call)}
      (run : (b.serve call).Yields records (reply, b')) (serves : Serves b' later b'') :
      Serves b (⟨call, reply⟩ :: later) b''

section Serves

variable {b b' : Backend} {first later : List (Exchange Backend.Call)}

@[simp] theorem serves_nil : Serves b [] b' ↔ b' = b := by
  constructor
  · rintro ⟨⟩
    rfl
  · rintro rfl
    exact .idle b'

@[simp] theorem serves_cons {exchange : Exchange Backend.Call} :
    Serves b (exchange :: later) b' ↔
      exchange.2 = (b.answer exchange.1).1 ∧ Serves (b.answer exchange.1).2 later b' := by
  obtain ⟨call, reply⟩ := exchange
  obtain ⟨records, served⟩ := b.serve_eq call
  constructor
  · rintro (_ | ⟨run, serves⟩)
    rw [served, Machine.yields_remarking] at run
    rw [← run.2]
    exact ⟨rfl, serves⟩
  · rintro ⟨given, serves⟩
    have run : (b.serve call).Yields (records.map Machine.written)
        (reply, (b.answer call).2) := by
      rw [served, Machine.yields_remarking]
      exact ⟨rfl, Prod.ext given rfl⟩
    exact .serve run serves

theorem serves_append :
    Serves b (first ++ later) b' ↔ ∃ middle, Serves b first middle ∧ Serves middle later b' := by
  induction first generalizing b with
  | nil => simp
  | cons exchange first ih =>
      simp only [List.cons_append, serves_cons, ih]
      constructor
      · rintro ⟨given, middle, begun, ended⟩
        exact ⟨middle, ⟨given, begun⟩, ended⟩
      · rintro ⟨middle, ⟨given, begun⟩, ended⟩
        exact ⟨given, middle, begun, ended⟩

end Serves

end Scanout.Headless
