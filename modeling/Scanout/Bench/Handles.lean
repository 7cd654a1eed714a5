import Scanout.Machine.State
import Scanout.Platform

/-!
# Handles by number

Backends are tried out by hand through calls that name their handles by numbers.  The handles of
each kind are numbered from zero in the order in which they were given, and a handle that has been
given back is not there any more.

## Main definitions

* `Bench.Shelf` — things by number
* `Bench.Handles` — the handles of every kind
* `Bench.Handles.resolve` — a call with the handles that its numbers name
* `Bench.Workbench.perform` — performs one call
-/

namespace Scanout.Bench

/-- **Things by number**; what has been taken leaves its place empty. -/
structure Shelf (α : Type) where
  places : List (Option α)

namespace Shelf

variable {α : Type}

def empty : Shelf α := ⟨[]⟩

/-- The thing of a number. -/
def find? (shelf : Shelf α) (number : Nat) : Option α := (shelf.places[number]?).join

/-- Puts a thing on the shelf, under the next number. -/
def put (shelf : Shelf α) (thing : α) : Nat × Shelf α :=
  (shelf.places.length, ⟨shelf.places ++ [some thing]⟩)

/-- Takes the thing of a number off the shelf. -/
def take? (shelf : Shelf α) (number : Nat) : Option (α × Shelf α) :=
  (shelf.find? number).map fun thing => (thing, ⟨shelf.places.set number none⟩)

end Shelf

/-- **The handles of every kind.** -/
structure Handles where
  displays : Shelf Display
  presenters : Shelf Presenter
  contexts : Shelf RenderContext
  surfaces : Shelf Surface

/-- What came of a call. -/
inductive Outcome where
  /-- A handle was given, under a number. -/
  | handle (number : Nat)
  | rate (rate : Option Rate)
  | done
  | failed (failure : Failure)
  /-- A number names no handle, and nothing was called. -/
  | noHandle
  deriving DecidableEq, Repr

namespace Handles

def empty : Handles := ⟨.empty, .empty, .empty, .empty⟩

/-- **The call with the handles that its numbers name**, if there are such handles.  A handle that is
given back is taken. -/
def resolve (h : Handles) : Backend.Call → Option (Backend.Call × Handles)
  | .createDisplay => some (.createDisplay, h)
  | .destroyDisplay display => do
      let (display, displays) ← h.displays.take? display.id
      return (.destroyDisplay display, { h with displays := displays })
  | .refreshRate display => do
      let display ← h.displays.find? display.id
      return (.refreshRate display, h)
  | .createPresenter display format background => do
      let display ← h.displays.find? display.id
      return (.createPresenter display format background, h)
  | .destroyPresenter presenter => do
      let (presenter, presenters) ← h.presenters.take? presenter.id
      return (.destroyPresenter presenter, { h with presenters := presenters })
  | .post presenter surface placement => do
      let presenter ← h.presenters.find? presenter.id
      let surface ← h.surfaces.find? surface.id
      return (.post presenter surface placement, h)
  | .createContext display width height attributes => do
      let display ← h.displays.find? display.id
      return (.createContext display width height attributes, h)
  | .destroyContext context => do
      let (context, contexts) ← h.contexts.take? context.id
      return (.destroyContext context, { h with contexts := contexts })
  | .makeCurrent context => do
      let context ← h.contexts.find? context.id
      return (.makeCurrent context, h)
  | .clearColorBuffer => some (.clearColorBuffer, h)
  | .swapBuffers context => do
      let context ← h.contexts.find? context.id
      return (.swapBuffers context, h)
  | .lockSurface context => do
      let context ← h.contexts.find? context.id
      return (.lockSurface context, h)
  | .unlockSurface context surface => do
      let context ← h.contexts.find? context.id
      let (surface, surfaces) ← h.surfaces.take? surface.id
      return (.unlockSurface context surface, { h with surfaces := surfaces })

/-- What came of a call, and the handles with the one that it gave. -/
def store (h : Handles) : (call : Backend.Call) → call.Answer → Outcome × Handles
  | .createDisplay, .ok display =>
      let (number, displays) := h.displays.put display
      (.handle number, { h with displays := displays })
  | .createPresenter _ _ _, .ok presenter =>
      let (number, presenters) := h.presenters.put presenter
      (.handle number, { h with presenters := presenters })
  | .createContext _ _ _ _, .ok context =>
      let (number, contexts) := h.contexts.put context
      (.handle number, { h with contexts := contexts })
  | .lockSurface _, .ok surface =>
      let (number, surfaces) := h.surfaces.put surface
      (.handle number, { h with surfaces := surfaces })
  | .post _ _ _, .ok () => (.done, h)
  | .createDisplay, .error failure | .createPresenter _ _ _, .error failure
  | .createContext _ _ _ _, .error failure | .lockSurface _, .error failure
  | .post _ _ _, .error failure => (.failed failure, h)
  | .refreshRate _, rate => (.rate rate, h)
  | .destroyDisplay _, _ | .destroyPresenter _, _ | .destroyContext _, _ | .makeCurrent _, _
  | .clearColorBuffer, _ | .swapBuffers _, _ | .unlockSurface _ _, _ => (.done, h)

end Handles

/-- **Backends side by side**, and the handles they have given. -/
structure Workbench where
  backends : List Platform.Backend
  handles : Handles

namespace Workbench

/-- Backends that nothing has been asked of yet. -/
def ofBackends (backends : List Platform.Backend) : Workbench := ⟨backends, .empty⟩

/-- **Performs one call** on one of the backends. -/
def perform (w : Workbench) (place : Nat) (call : Backend.Call) :
    Program Machine.Question (Outcome × Workbench) :=
  match w.backends[place]?, w.handles.resolve call with
  | some backend, some (call, handles) => do
      let (answer, backend) ← backend.serve call
      let (outcome, handles) := handles.store call answer
      return (outcome, ⟨w.backends.set place backend, handles⟩)
  | _, _ => pure (.noHandle, w)

end Workbench

end Scanout.Bench
