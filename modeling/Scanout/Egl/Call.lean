import Scanout.Graphics.Api
import Scanout.Program

/-!
# EGL calls

The EGL layer knows which client APIs a platform provides, binds one, looks up its functions and is
told when a core renders by hardware.
-/

namespace Scanout.Egl

/-- **A call on the EGL layer.** -/
inductive Call where
  /-- Whether the platform provides a client API at all. -/
  | supports (api : ClientApi)
  /-- Whether contexts of recent versions can be created. -/
  | hasCreateContext
  | bindApi (api : ClientApi)
  /-- Whether a function of the given name is found. -/
  | procAddress (symbol : String)
  | bindHwRender (enable : Bool)
  deriving DecidableEq, Repr

/-- What a call is answered with. -/
abbrev Call.Answer : Call → Type
  | .supports _ | .hasCreateContext | .bindApi _ | .procAddress _ => Bool
  | .bindHwRender _ => Unit

instance : Questions Call := ⟨Call.Answer⟩

end Scanout.Egl
