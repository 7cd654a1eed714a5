import Scanout.Machine.Question

/-!
# The headless backend

A backend without a screen: it records what it is asked to do and keeps to the discipline of
surfaces.  One surface can be locked at a time, and only the locked one can be posted.  Handles are
numbered by one wrapping counter, whatever they are handles of; another one counts the frames.

## Main definitions

* `Headless.Backend` — the state of a headless backend
* `Headless.Backend.serve` — answers a backend call
-/

namespace Scanout.Headless

open Machine

/-- The creations that a headless backend is told to refuse. -/
structure Refusals where
  display : Bool
  presenter : Bool
  context : Bool
  deriving DecidableEq, Repr

/-- **The state of a headless backend.** -/
structure Backend where
  /-- What was done, in order. -/
  acts : List Backend.Act
  /-- The number of the last handle that was given out. -/
  lastHandle : UInt32
  /-- The number of the locked surface, if there is one. -/
  locked : Option Nat
  /-- The counter of the frames that were posted, which wraps. -/
  frames : UInt64
  refusals : Refusals
  deriving DecidableEq, Repr

namespace Backend

/-- A backend that has done nothing yet. -/
def fresh (refusals : Refusals) : Backend := ⟨[], 0, none, 0, refusals⟩

/-- How many frames were posted, as far as the counter tells. -/
def framesPosted (b : Backend) : Nat := b.frames.toNat

/-- The rate of every headless display. -/
def refreshRate : Rate := .finite false ⟨15728640, -18⟩

/-- The number of the next handle. -/
def nextHandle (b : Backend) : UInt32 := b.lastHandle + 1

/-- Records an act. -/
def record (act : Backend.Act) (b : Backend) : Program Question Backend := do
  say .trace .headless ("HeadlessBackend: " ++ act.render)
  return { b with acts := b.acts ++ [act] }

/-- Records an act whose call gives a handle. -/
def recordHandle (act : Backend.Act) (b : Backend) : Program Question (Nat × Backend) := do
  let b ← b.record act
  return (b.nextHandle.toNat, { b with lastHandle := b.nextHandle })

/-- Records an act that always succeeds. -/
def recordOnly (act : Backend.Act) (b : Backend) : Program Question (Unit × Backend) := do
  let b ← b.record act
  return ((), b)

/-- **Answers a backend call.** -/
def serve (b : Backend) : (call : Backend.Call) → Program Question (call.Answer × Backend)
  | .createDisplay =>
      if b.refusals.display then return (.error .displayUnavailable, b)
      else do
        let b ← b.record .createDisplay
        say .info .headless "HeadlessBackend: display created"
        return (.ok ⟨b.nextHandle.toNat⟩, { b with lastHandle := b.nextHandle })
  | .destroyDisplay _ => b.recordOnly .destroyDisplay
  | .refreshRate _ => return (some refreshRate, b)
  | .createPresenter _ format background =>
      if b.refusals.presenter then return (.error .presenterUnavailable, b)
      else do
        let (handle, b) ← b.recordHandle (.createPresenter format background)
        return (.ok ⟨handle⟩, b)
  | .destroyPresenter _ => b.recordOnly .destroyPresenter
  | .post _ surface placement =>
      if b.locked = some surface.id then do
        let b ← b.record (.post placement)
        return (.ok (), { b with frames := b.frames + 1 })
      else return (.error (.surfaceNotLocked surface.id), b)
  | .createContext _ width height attributes =>
      if b.refusals.context then return (.error .contextRefused, b)
      else do
        let b ← b.record (.createContext width height attributes)
        say .debug .headless ("HeadlessBackend: context " ++ toString width.toNat ++ "x" ++
          toString height.toNat ++ " " ++ attributes.render)
        return (.ok ⟨b.nextHandle.toNat⟩, { b with lastHandle := b.nextHandle })
  | .destroyContext _ => b.recordOnly .destroyContext
  | .makeCurrent _ => b.recordOnly .makeCurrent
  | .clearColorBuffer => b.recordOnly .clearColorBuffer
  | .swapBuffers _ => b.recordOnly .swapBuffers
  | .lockSurface _ =>
      match b.locked with
      | some surface => return (.error (.surfaceStillLocked surface), b)
      | none => do
          let (handle, b) ← b.recordHandle .lockSurface
          return (.ok ⟨handle⟩, { b with locked := some handle })
  | .unlockSurface _ surface => do
      let b ← b.record .unlockSurface
      return ((), if b.locked = some surface.id then { b with locked := none } else b)

end Backend

end Scanout.Headless
