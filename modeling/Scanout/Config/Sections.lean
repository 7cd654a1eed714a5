import Scanout.Graphics.Api

/-!
# The configuration

A configuration has four sections: what to bind and show, which input drivers to use, what the EGL
of the platform provides, and how long the demo program runs.  Every section has a default, and the
default of a field is its value there.

## Main definitions

* `Config.Video`, `Config.Input`, `Config.Egl`, `Config.Demo` — the sections
* `Config` — a configuration
* `Config.default` — the configuration of an empty text
-/

namespace Scanout

namespace Config

/-- What is bound and which mode is asked for. -/
structure Video where
  /-- The identifier of the video driver. -/
  driver : String
  api : GraphicsApi
  version : Version
  swapInterval : Int32
  /-- The mode that is asked for; the panel has a mode of its own. -/
  width : UInt32
  height : UInt32
  fullscreen : Bool
  /-- Whether a core context is asked for. -/
  coreContext : Bool
  deriving DecidableEq, Repr

/-- Which input drivers are used. -/
structure Input where
  driver : String
  joypadDriver : String
  deriving DecidableEq, Repr

/-- What the EGL of the platform provides. -/
structure Egl where
  openGl : Bool
  openGlEs : Bool
  openVg : Bool
  /-- Whether the create-context extension is there. -/
  createContext : Bool
  deriving DecidableEq, Repr

/-- How long the demo program runs. -/
structure Demo where
  /-- The number of frames after which it stops; without one it runs until a shutdown signal. -/
  maxFrames : Option UInt64
  /-- The milliseconds between two frames. -/
  frameInterval : UInt64
  deriving DecidableEq, Repr

namespace Video

def default : Video where
  driver := "gl"
  api := .openGlEs
  version := ⟨2, 0⟩
  swapInterval := 1
  width := 640
  height := 480
  fullscreen := true
  coreContext := false

end Video

namespace Input

def default : Input := ⟨"udev", "udev"⟩

end Input

namespace Egl

def default : Egl := ⟨false, true, false, true⟩

/-- Whether a client API is provided. -/
def provides (egl : Egl) : ClientApi → Bool
  | .openGl => egl.openGl
  | .openGlEs => egl.openGlEs
  | .openVg => egl.openVg

end Egl

namespace Demo

def default : Demo := ⟨none, 16⟩

end Demo

end Config

/-- **A configuration.** -/
structure Config where
  video : Config.Video
  input : Config.Input
  egl : Config.Egl
  demo : Config.Demo
  deriving DecidableEq, Repr

/-- **The configuration of an empty text.** -/
def Config.default : Config := ⟨.default, .default, .default, .default⟩

end Scanout
