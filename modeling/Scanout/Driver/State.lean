import Scanout.Backend.Call
import Scanout.Graphics.Flags
import Scanout.Panel

/-!
# The state of a driver

A driver that is open holds a pipeline: a display, a presenter on it and, once a video mode has been
set, a render context.  Display and presenter are there together or not at all, and there is no
context without them; the type of the state says so.  Everything else in it records what the
frontend asked for.

## Main definitions

* `Pipeline` — the handles an open driver holds
* `Driver` — the state of a driver
* `Driver.usesEgl` — whether the recorded API is one that EGL provides
* `Version.needsCreateContext` — which versions need the create-context extension
-/

namespace Scanout

/-- **The handles of an open driver.** -/
structure Pipeline where
  display : Display
  presenter : Presenter
  context : Option RenderContext
  deriving DecidableEq, Repr

/-- A size in pixels. -/
structure Size where
  width : UInt32
  height : UInt32
  deriving DecidableEq, Repr

/-- **The state of a driver**: the handles it holds, none once it is destroyed, and what was asked of
it. -/
structure Driver where
  pipeline : Option Pipeline
  api : GraphicsApi
  version : Version
  interval : Int32
  size : Size
  coreContext : Bool
  deriving DecidableEq, Repr

namespace Driver

/-- A driver that has just opened a display and a presenter. -/
def opened (display : Display) (presenter : Presenter) : Driver where
  pipeline := some ⟨display, presenter, none⟩
  api := .none
  version := ⟨0, 0⟩
  interval := 0
  size := ⟨0, 0⟩
  coreContext := false

/-- The render context, if there is one. -/
def context (d : Driver) : Option RenderContext := d.pipeline.bind Pipeline.context

def hasDisplay (d : Driver) : Bool := d.pipeline.isSome

def hasPresenter (d : Driver) : Bool := d.pipeline.isSome

def hasContext (d : Driver) : Bool := d.context.isSome

/-- Whether the recorded API is one that EGL provides. -/
def usesEgl (d : Driver) : Bool := d.api.client?.isSome

end Driver

/-- The greatest word when a natural does not fit. -/
def saturate (n : Nat) : UInt32 := if n < 4294967296 then n.toUInt32 else 4294967295

namespace Version

/-- A thousand times the major number plus the minor one, both steps held at the greatest word. -/
def weight (v : Version) : UInt32 :=
  saturate ((saturate (v.major.toNat * 1000)).toNat + v.minor.toNat)

/-- **The versions that need the create-context extension**: OpenGL from 3.1 and OpenGL ES from
3.0 on. -/
def needsCreateContext (v : Version) : ClientApi → Bool
  | .openGl => decide (3001 ≤ v.weight)
  | .openGlEs => decide (3 ≤ v.major)
  | .openVg => false

end Version

end Scanout
