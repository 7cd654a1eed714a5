import Scanout.Decimal.Layout
import Scanout.Failure
import Scanout.Graphics.Context
import Scanout.Graphics.Placement
import Scanout.Program

/-!
# Backend calls

A presentation backend opens displays, makes presenters and render contexts on them, and moves
surfaces from a context to the panel.  The driver holds what it is given as handles and gives each
back once.

## Main definitions

* `Display`, `Presenter`, `RenderContext`, `Surface` — handles
* `Backend.Call` — a call, with the type of its answer
* `Backend.Act` — a call with its handles forgotten
-/

namespace Scanout

/-- A display that a backend has opened. -/
structure Display where
  id : Nat
  deriving DecidableEq, Repr

/-- A presenter that a backend has made. -/
structure Presenter where
  id : Nat
  deriving DecidableEq, Repr

/-- A render context that a backend has made. -/
structure RenderContext where
  id : Nat
  deriving DecidableEq, Repr

/-- A surface that a backend has locked. -/
structure Surface where
  id : Nat
  deriving DecidableEq, Repr

/-- A refresh rate in hertz. -/
abbrev Rate := Decimal.Number

namespace Rate

/-- The rate of an unknown display. -/
def zero : Rate := .finite false ⟨0, Decimal.single.least⟩

/-- Rates are written positionally from a ten-thousandth up to ten to the sixteenth. -/
def layout : Decimal.Layout := ⟨-4, 16, false⟩

/-- The text of a rate. -/
def text (rate : Rate) : String := Decimal.Number.render Decimal.single layout rate

end Rate

namespace Backend

/-- **A call on a presentation backend.** -/
inductive Call where
  | createDisplay
  | destroyDisplay (display : Display)
  | refreshRate (display : Display)
  | createPresenter (display : Display) (format : PixelFormat) (background : UInt32)
  | destroyPresenter (presenter : Presenter)
  | post (presenter : Presenter) (surface : Surface) (placement : Placement)
  | createContext (display : Display) (width height : UInt32)
      (attributes : ContextAttributes UInt32)
  | destroyContext (context : RenderContext)
  | makeCurrent (context : RenderContext)
  | clearColorBuffer
  | swapBuffers (context : RenderContext)
  | lockSurface (context : RenderContext)
  | unlockSurface (context : RenderContext) (surface : Surface)
  deriving DecidableEq, Repr

/-- What a call is answered with. -/
abbrev Call.Answer : Call → Type
  | .createDisplay => Except Failure Display
  | .refreshRate _ => Option Rate
  | .createPresenter _ _ _ => Except Failure Presenter
  | .post _ _ _ => Except Failure Unit
  | .createContext _ _ _ _ => Except Failure RenderContext
  | .lockSurface _ => Except Failure Surface
  | .destroyDisplay _ | .destroyPresenter _ | .destroyContext _ | .makeCurrent _
  | .clearColorBuffer | .swapBuffers _ | .unlockSurface _ _ => Unit

instance : Questions Call := ⟨Call.Answer⟩

/-- **What a call does, its handles forgotten.** -/
inductive Act where
  | createDisplay
  | createPresenter (format : PixelFormat) (background : UInt32)
  | createContext (width height : UInt32) (attributes : ContextAttributes UInt32)
  | makeCurrent
  | clearColorBuffer
  | swapBuffers
  | lockSurface
  | post (placement : Placement)
  | unlockSurface
  | destroyContext
  | destroyPresenter
  | destroyDisplay
  deriving DecidableEq, Repr

/-- The act of a call; asking for the refresh rate does nothing. -/
def Call.act? : Call → Option Act
  | .createDisplay => some .createDisplay
  | .destroyDisplay _ => some .destroyDisplay
  | .refreshRate _ => none
  | .createPresenter _ format background => some (.createPresenter format background)
  | .destroyPresenter _ => some .destroyPresenter
  | .post _ _ placement => some (.post placement)
  | .createContext _ width height attributes => some (.createContext width height attributes)
  | .destroyContext _ => some .destroyContext
  | .makeCurrent _ => some .makeCurrent
  | .clearColorBuffer => some .clearColorBuffer
  | .swapBuffers _ => some .swapBuffers
  | .lockSurface _ => some .lockSurface
  | .unlockSurface _ _ => some .unlockSurface

/-- How a message shows an act. -/
def Act.render : Act → String
  | .createDisplay => "CreateDisplay"
  | .createPresenter format background =>
      "CreatePresenter \x7b format: " ++ format.render ++ ", background: " ++
        toString background.toNat ++ " \x7d"
  | .createContext width height attributes =>
      "CreateContext \x7b width: " ++ toString width.toNat ++ ", height: " ++
        toString height.toNat ++ ", attributes: " ++ attributes.render ++ " \x7d"
  | .makeCurrent => "MakeCurrent"
  | .clearColorBuffer => "ClearColorBuffer"
  | .swapBuffers => "SwapBuffers"
  | .lockSurface => "LockSurface"
  | .post placement =>
      "Post \x7b src: " ++ placement.source.render ++ ", dst: " ++ placement.destination.render ++
        ", rotation: " ++ placement.rotation.render ++ " \x7d"
  | .unlockSurface => "UnlockSurface"
  | .destroyContext => "DestroyContext"
  | .destroyPresenter => "DestroyPresenter"
  | .destroyDisplay => "DestroyDisplay"

end Backend

end Scanout
