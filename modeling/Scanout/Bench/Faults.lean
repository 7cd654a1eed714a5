import Scanout.Platform

/-!
# Injected faults

A fault stands in front of a platform and answers a request in its place, so the platform does not
learn of the request.

## Main definitions

* `Bench.Faults` — the faults in front of a platform
* `Bench.Faults.intercept` — the answer of a fault, if one stands in front of the request
-/

namespace Scanout.Bench

/-- What is told about the refresh rate. -/
inductive Refresh where
  /-- What the backend knows. -/
  | genuine
  | unknown
  | fixed (rate : Rate)
  deriving DecidableEq, Repr

/-- **The faults in front of a platform.** -/
structure Faults where
  /-- The chain of the failure to open a display, if that is to fail; likewise for the others. -/
  display : Option (List String)
  presenter : Option (List String)
  context : Option (List String)
  lock : Option (List String)
  post : Option (List String)
  refresh : Refresh
  /-- Whether binding an API is refused. -/
  refusesBinding : Bool
  deriving DecidableEq, Repr

namespace Faults

/-- No faults at all. -/
def absent : Faults := ⟨none, none, none, none, none, .genuine, false⟩

/-- The result of an operation that is to fail. -/
def failing {α : Type} (chain : Option (List String)) : Option (Except Failure α) :=
  chain.map fun chain => .error (.injected chain)

/-- The answer of a fault to a backend call. -/
def interceptBackend (f : Faults) : (call : Backend.Call) → Option call.Answer
  | .createDisplay => failing f.display
  | .createPresenter _ _ _ => failing f.presenter
  | .createContext _ _ _ _ => failing f.context
  | .lockSurface _ => failing f.lock
  | .post _ _ _ => failing f.post
  | .refreshRate _ =>
      match f.refresh with
      | .genuine => none
      | .unknown => some none
      | .fixed rate => some (some rate)
  | .destroyDisplay _ | .destroyPresenter _ | .destroyContext _ | .makeCurrent _
  | .clearColorBuffer | .swapBuffers _ | .unlockSurface _ _ => none

/-- The answer of a fault to an EGL call. -/
def interceptEgl (f : Faults) : (call : Egl.Call) → Option call.Answer
  | .bindApi _ => if f.refusesBinding then some false else none
  | .supports _ | .hasCreateContext | .procAddress _ | .bindHwRender _ => none

/-- **The answer of a fault**, if one stands in front of the request. -/
def intercept (f : Faults) : (request : Request) → Option request.Answer
  | .backend call => f.interceptBackend call
  | .egl call => f.interceptEgl call
  | .frontend _ | .probe _ | .log _ => none

/-- Answers a request behind the faults. -/
def serve (f : Faults) (request : Request) :
    StateT Platform (Program Machine.Question) request.Answer := fun platform =>
  match f.intercept request with
  | some answer => pure (answer, platform)
  | none => platform.serve request

end Faults

end Scanout.Bench
