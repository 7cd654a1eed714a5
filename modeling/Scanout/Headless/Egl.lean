import Scanout.Egl.Call

/-!
# The headless EGL layer

An EGL layer with capabilities of choice.  It remembers the client API that was bound last and what
it was last told about hardware rendering, and finds the functions whose names begin with `gl` once
an API is bound.

## Main definitions

* `Headless.Egl` — the state of a headless EGL layer
* `Headless.Egl.serve` — answers an EGL call
-/

namespace Scanout.Headless

/-- **The state of a headless EGL layer.** -/
structure Egl where
  supported : List ClientApi
  createContext : Bool
  /-- The client API that was bound last. -/
  bound : Option ClientApi
  /-- What was last said about hardware rendering. -/
  hwRender : Option Bool
  deriving DecidableEq, Repr

namespace Egl

/-- A layer that nothing has been bound on. -/
def fresh (supported : List ClientApi) (createContext : Bool) : Egl :=
  ⟨supported, createContext, none, none⟩

/-- A layer with every capability. -/
def full : Egl := fresh [.openGl, .openGlEs, .openVg] true

/-- How the names of the functions begin that can be found. -/
def symbolStart : List Char := ['g', 'l']

/-- **Answers an EGL call.** -/
def serve (e : Egl) : (call : Egl.Call) → call.Answer × Egl
  | .supports api => (e.supported.contains api, e)
  | .hasCreateContext => (e.createContext, e)
  | .bindApi api =>
      if e.supported.contains api then (true, { e with bound := some api }) else (false, e)
  | .procAddress symbol => (e.bound.isSome && symbolStart.isPrefixOf symbol.toList, e)
  | .bindHwRender enable => ((), { e with hwRender := some enable })

end Egl

end Scanout.Headless
