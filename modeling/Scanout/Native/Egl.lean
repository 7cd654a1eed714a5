import Scanout.Config.Sections
import Scanout.Egl.Call
import Scanout.Machine.Question
import Scanout.Text.Hex

/-!
# The EGL layer of the system

An EGL layer over the C functions of EGL.  What it provides is told by the configuration.  Binding
succeeds exactly if the function gives one; whatever else it gives, the error code is read once and
written to the log.

## Main definitions

* `Native.Egl` — the state of the system's EGL layer
* `Native.Egl.serve` — answers an EGL call
-/

namespace Scanout.Native

open Machine

/-- **The state of the system's EGL layer.** -/
structure Egl where
  provided : Config.Egl
  /-- Whether a core is known to render by hardware. -/
  hwRender : Bool
  deriving DecidableEq, Repr

namespace Egl

/-- A layer that provides what the configuration tells. -/
def ofConfig (provided : Config.Egl) : Egl := ⟨provided, false⟩

/-- The result code of a successful binding. -/
def bound : UInt32 := 1

/-- Binds a client API by its code. -/
def bind (api : ClientApi) : Program Question Bool := do
  if (← call (.eglBindApi api.code)) == bound then return true
  else do
    let code ← call .eglGetError
    say .warn .systemEgl ("SystemEgl: eglBindAPI(" ++ api.label ++ ") failed, error " ++
      Text.hex code.toUInt32.toNat)
    return false

/-- Looks up a function.  A name with a NUL in it cannot be handed over and is not looked up. -/
def procAddress (symbol : String) : Program Question Bool :=
  if symbol.toList.contains '\x00' then pure false else call (.eglGetProcAddress symbol)

/-- **Answers an EGL call.** -/
def serve (e : Egl) : (call : Egl.Call) → Program Question (call.Answer × Egl)
  | .supports api => return (e.provided.provides api, e)
  | .hasCreateContext => return (e.provided.createContext, e)
  | .bindApi api => do return (← bind api, e)
  | .procAddress symbol => do return (← procAddress symbol, e)
  | .bindHwRender enable => do
      if e.hwRender != enable then
        say .debug .systemEgl ("SystemEgl: hardware render context " ++ toString enable)
      return ((), { e with hwRender := enable })

end Egl

end Scanout.Native
