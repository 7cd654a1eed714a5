import Scanout.Native.Call

/-!
# A scripted panel library

The C functions as a script answers them: a creation gives the next handle, unless its kind is one
that is refused, and every call is recorded together with its result.

## Main definitions

* `Native.Script` — what the functions answer
* `Native.Library` — the functions with the calls so far
* `Native.Library.answer` — answers a call
-/

namespace Scanout.Native

/-- What a creation gives. -/
inductive Creation where
  | display
  | presenter
  | context
  | surface
  deriving DecidableEq, Repr

/-- **What the functions answer.** -/
structure Script where
  /-- The kinds whose creation gives no handle. -/
  refused : List Creation
  /-- The result of binding an API. -/
  bindResult : UInt32
  /-- The error code of EGL. -/
  eglError : Int32
  /-- The names of the functions that are found. -/
  found : List String
  deriving DecidableEq, Repr

namespace Script

/-- A script in which every creation and every binding succeeds and no function is found. -/
def default : Script := ⟨[], 1, 0x3000, []⟩

end Script

/-- **The functions with the calls so far.** -/
structure Library where
  script : Script
  /-- The number of handles that have been given out. -/
  handles : Nat
  /-- The calls with their results, the newest first. -/
  events : List Event

namespace Library

/-- Functions that nothing has been asked of yet. -/
def fresh (script : Script) : Library := ⟨script, 0, []⟩

/-- The calls with their results, in order. -/
def trace (l : Library) : List Event := l.events.reverse

/-- The number of the next handle, if its kind is not refused. -/
def nextHandle (l : Library) (kind : Creation) : Option Nat :=
  if l.script.refused.contains kind then none else some (l.handles + 1)

/-- The result of a call. -/
def result (l : Library) : (call : Call) → call.Answer
  | .displayCreate => (l.nextHandle .display).map Display.mk
  | .presenterCreate _ _ _ => (l.nextHandle .presenter).map Presenter.mk
  | .contextCreate _ _ _ _ => (l.nextHandle .context).map RenderContext.mk
  | .surfaceLock _ => (l.nextHandle .surface).map Surface.mk
  | .eglBindApi _ => l.script.bindResult
  | .eglGetError => l.script.eglError
  | .eglGetProcAddress name => l.script.found.contains name
  | .displayDestroy _ | .presenterDestroy _ | .presenterPost _ _ _ _ _ | .contextDestroy _
  | .contextMakeCurrent _ | .contextSwapBuffers _ | .surfaceUnlock _ _ | .glClear _ => ()

/-- How many handles a call with its result has given out. -/
def given : Event → Nat
  | ⟨.displayCreate, some _⟩ => 1
  | ⟨.presenterCreate _ _ _, some _⟩ => 1
  | ⟨.contextCreate _ _ _ _, some _⟩ => 1
  | ⟨.surfaceLock _, some _⟩ => 1
  | _ => 0

/-- **Answers a call**, which is recorded. -/
def answer (l : Library) (call : Call) : call.Answer × Library :=
  let event : Event := ⟨call, l.result call⟩
  (l.result call, { l with handles := l.handles + given event, events := event :: l.events })

end Library

end Scanout.Native
