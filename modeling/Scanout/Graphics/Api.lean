/-!
# Rendering APIs

A frontend names a rendering API and a version.  Three of the APIs are client APIs of EGL and can be
bound on the panel; the other two are known by name only.

## Main definitions

* `GraphicsApi` — an API a frontend may ask for
* `ClientApi` — an API that EGL can bind, with its EGL code
* `GraphicsApi.client?` — the client API behind a rendering API, if there is one
-/

namespace Scanout

/-- A rendering API that a frontend may ask a driver to bind. -/
inductive GraphicsApi where
  | none
  | openGl
  | openGlEs
  | openVg
  | vulkan
  deriving DecidableEq, Repr

namespace GraphicsApi

/-- Every API, in declaration order. -/
def all : List GraphicsApi := [none, openGl, openGlEs, openVg, vulkan]

/-- The name of an API in a configuration text. -/
def name : GraphicsApi → String
  | none => "none"
  | openGl => "opengl"
  | openGlEs => "opengl_es"
  | openVg => "openvg"
  | vulkan => "vulkan"

/-- The API of a given name. -/
def ofName? (name : String) : Option GraphicsApi := all.find? fun api => api.name == name

/-- How a message shows an API. -/
def label : GraphicsApi → String
  | none => "None"
  | openGl => "OpenGl"
  | openGlEs => "OpenGlEs"
  | openVg => "OpenVg"
  | vulkan => "Vulkan"

end GraphicsApi

/-- A client API that EGL can bind. -/
inductive ClientApi where
  | openGl
  | openGlEs
  | openVg
  deriving DecidableEq, Repr

namespace ClientApi

/-- The code by which EGL knows a client API. -/
def code : ClientApi → UInt32
  | openGlEs => 0x30A0
  | openVg => 0x30A1
  | openGl => 0x30A2

/-- The rendering API that a client API provides. -/
def graphics : ClientApi → GraphicsApi
  | openGl => .openGl
  | openGlEs => .openGlEs
  | openVg => .openVg

/-- The name of a client API, that of its rendering API. -/
def name (api : ClientApi) : String := api.graphics.name

/-- How a message shows a client API. -/
def label (api : ClientApi) : String := api.graphics.label

end ClientApi

/-- The client API behind a rendering API, if there is one. -/
def GraphicsApi.client? : GraphicsApi → Option ClientApi
  | .openGl => some .openGl
  | .openGlEs => some .openGlEs
  | .openVg => some .openVg
  | .none | .vulkan => Option.none

theorem ClientApi.client?_graphics (api : ClientApi) : api.graphics.client? = some api := by
  cases api <;> rfl

/-- Client APIs that provide the same rendering API are the same. -/
theorem ClientApi.eq_of_graphics_eq {client other : ClientApi}
    (same : client.graphics = other.graphics) : client = other := by
  have behind := client.client?_graphics
  rw [same, other.client?_graphics] at behind
  exact (Option.some.inj behind).symm

/-- The client API behind a rendering API is the one that provides it. -/
theorem GraphicsApi.client?_eq_some {api : GraphicsApi} {client : ClientApi} :
    api.client? = some client ↔ client.graphics = api := by
  constructor
  · intro behind
    cases api <;> cases behind <;> rfl
  · rintro rfl
    exact client.client?_graphics

/-- The version of an API. -/
structure Version where
  major : UInt32
  minor : UInt32
  deriving DecidableEq, Repr

/-- A version is shown as its two numbers with a point between. -/
def Version.text (v : Version) : String :=
  toString v.major.toNat ++ "." ++ toString v.minor.toNat

end Scanout
