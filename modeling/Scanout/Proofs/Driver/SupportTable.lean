import Mathlib.Data.Prod.Lex
import Scanout.Proofs.Egl.Layer

/-!
# The support table of a binding

A driver binds an API if it is one of EGL, if the layer provides it, if the layer has the
create-context extension or the version does without, and if the layer then binds it.  It asks the
layer to bind once these conditions hold and never otherwise.  Which versions do without the extension
is reckoned in words that are held at the greatest one, and comes out as in the naturals.

## Main definitions

* `Version.Plain` — the versions that do without the create-context extension
* `Egl.Layer.Admits` — whether a layer lets a version of a client API be bound
* `Driver.BindingDecided` — how a binding is decided

## Main results

* `Version.needsCreateContext_iff` — holding words at the greatest one decides nothing
* `Driver.bindApi_decided` — a binding is decided by its support table
-/

namespace Scanout

/-! ### Versions -/

/-- A natural that does not fit a word is held at the greatest one. -/
theorem toNat_saturate (n : Nat) : (saturate n).toNat = min n 4294967295 := by
  unfold saturate
  split
  · next fits =>
    rw [Nat.toUInt32_eq, UInt32.toNat_ofNat_of_lt' fits]
    omega
  · next great =>
    have greatest : (4294967295 : UInt32).toNat = 4294967295 := rfl
    omega

namespace Version

/-- **The versions that do without the create-context extension**, reckoned in the naturals. -/
def Plain (v : Version) : ClientApi → Prop
  | .openGl => 1000 * v.major.toNat + v.minor.toNat < 3001
  | .openGlEs => v.major.toNat < 3
  | .openVg => True

/-- Holding both steps at the greatest word is the same as holding the outcome there. -/
theorem toNat_weight (v : Version) :
    v.weight.toNat = min (1000 * v.major.toNat + v.minor.toNat) 4294967295 := by
  rw [weight, toNat_saturate, toNat_saturate]
  omega

/-- **Holding words at the greatest one decides nothing**: the threshold lies below it. -/
theorem needsCreateContext_iff (v : Version) (client : ClientApi) :
    v.needsCreateContext client = true ↔ ¬v.Plain client := by
  cases client with
  | openGl =>
      have least : (3001 : UInt32).toNat = 3001 := rfl
      rw [needsCreateContext, decide_eq_true_iff, UInt32.le_iff_toNat_le, toNat_weight, least, Plain]
      omega
  | openGlEs =>
      have least : (3 : UInt32).toNat = 3 := rfl
      rw [needsCreateContext, decide_eq_true_iff, UInt32.le_iff_toNat_le, least, Plain, Nat.not_lt]
  | openVg => simp [needsCreateContext, Plain]

/-- A product that wraps would be small again. -/
example : (⟨4294968, 0⟩ : Version).needsCreateContext .openGl = true := by decide

/-- **As long as the minor number has three digits** OpenGL needs the extension from version 3.1 on. -/
theorem needsCreateContext_openGl_iff (v : Version) (short : v.minor.toNat < 1000) :
    v.needsCreateContext .openGl = true ↔
      toLex (3, 1) ≤ toLex (v.major.toNat, v.minor.toNat) := by
  rw [needsCreateContext_iff, Prod.Lex.toLex_le_toLex, Plain]
  omega

end Version

/-! ### Layers -/

namespace Egl.Layer

variable {σ : Type} (layer : Layer σ)

/-- **Whether a layer lets a version of a client API be bound**, if it is asked in a state: it provides
the API, and it has the create-context extension or the version does without. -/
structure Admits (s : σ) (client : ClientApi) (version : Version) : Prop where
  provided : (layer s (.supports client)).1 = true
  enough : (layer (layer s (.supports client)).2 .hasCreateContext).1 = true ∨ version.Plain client

/-- The state of a layer that has been asked for its support and for the extension. -/
def consulted (s : σ) (client : ClientApi) : σ :=
  (layer (layer s (.supports client)).2 .hasCreateContext).2

/-- Whether a layer that has been consulted binds a client API. -/
def binds (s : σ) (client : ClientApi) : Bool :=
  (layer (layer.consulted s client) (.bindApi client)).1

end Egl.Layer

namespace Driver

/-- Whether a call asks a layer to bind. -/
def asksToBind : Egl.Call → Bool
  | .bindApi _ => true
  | .supports _ | .hasCreateContext | .procAddress _ | .bindHwRender _ => false

/-- **The bindings that are asked of the layer** in a transcript, each with its answer. -/
def bindings (exchanges : List (Exchange Request)) : List (Exchange Egl.Call) :=
  (eglCalls exchanges).filter fun exchange => asksToBind exchange.1

section

variable {σ : Type} {layer : Egl.Layer σ} {s s' : σ} {d d' : Driver} {api : GraphicsApi}
  {version : Version} {bound : Bool} {exchanges : List (Exchange Request)}

/-- **How a binding is decided** over a layer in a state. -/
structure BindingDecided (layer : Egl.Layer σ) (s : σ) (d : Driver) (api : GraphicsApi)
    (version : Version) (exchanges : List (Exchange Request)) (bound : Bool) (d' : Driver) :
    Prop where
  /-- It succeeds just if the API is one of EGL that the layer admits in this version and binds. -/
  bound_iff : bound = true ↔
    ∃ client, client.graphics = api ∧ layer.Admits s client version ∧ layer.binds s client = true
  /-- What the layer admits it is asked to bind, once. -/
  once : ∀ client, client.graphics = api → layer.Admits s client version →
    bindings exchanges = [⟨.bindApi client, layer.binds s client⟩]
  /-- Otherwise it is not asked. -/
  never : (∀ client, client.graphics = api → ¬layer.Admits s client version) →
    bindings exchanges = []
  /-- API and version are recorded, and the rest of the driver stays as it is. -/
  recorded : d' = { d with api := api, version := version }

/-- What the layer does not admit it is not asked to bind. -/
theorem bindingDecided_of_not_admits
    (refused : ∀ client, client.graphics = api → ¬layer.Admits s client version)
    (silent : bindings exchanges = []) :
    BindingDecided layer s d api version exchanges false (d.binding api version) where
  bound_iff := by
    constructor
    · exact nofun
    · rintro ⟨client, provides, admits, -⟩
      exact absurd admits (refused client provides)
  once client provides admits := absurd admits (refused client provides)
  never _ := silent
  recorded := rfl

/-- What the layer admits it is asked to bind, and its answer is the outcome. -/
theorem bindingDecided_of_admits {client : ClientApi} (behind : client.graphics = api)
    (admits : layer.Admits s client version)
    (asked : bindings exchanges = [⟨.bindApi client, layer.binds s client⟩]) :
    BindingDecided layer s d api version exchanges (layer.binds s client)
      (d.binding api version) where
  bound_iff := by
    constructor
    · intro binds
      exact ⟨client, behind, admits, binds⟩
    · rintro ⟨other, provides, -, binds⟩
      obtain rfl := ClientApi.eq_of_graphics_eq (provides.trans behind.symm)
      exact binds
  once other provides _ := by
    obtain rfl := ClientApi.eq_of_graphics_eq (provides.trans behind.symm)
    exact asked
  never refused := absurd admits (refused client behind)
  recorded := rfl

/-- **Every course of a binding is decided so**, over the layer that answers it. -/
theorem Course.bindingDecided
    (course : Course d (.bindApi api version) exchanges (.truth bound) d')
    (serves : layer.Serves s (eglCalls exchanges) s') :
    BindingDecided layer s d api version exchanges bound d' := by
  cases course with
  | unbindable _ _ foreign =>
      refine bindingDecided_of_not_admits ?_ rfl
      intro client provides
      rw [← provides, client.client?_graphics] at foreign
      cases foreign
  | unprovided _ _ client known =>
      have behind : client.graphics = api := GraphicsApi.client?_eq_some.mp known
      obtain ⟨unprovided, -⟩ := serves
      refine bindingDecided_of_not_admits ?_ rfl
      intro other provides admits
      obtain rfl := ClientApi.eq_of_graphics_eq (provides.trans behind.symm)
      exact Bool.false_ne_true (unprovided.trans admits.provided)
  | extensionMissing _ _ client known needed =>
      have behind : client.graphics = api := GraphicsApi.client?_eq_some.mp known
      obtain ⟨-, missing, -⟩ := serves
      refine bindingDecided_of_not_admits ?_ rfl
      intro other provides admits
      obtain rfl := ClientApi.eq_of_graphics_eq (provides.trans behind.symm)
      rcases admits.enough with creates | plain
      · exact Bool.false_ne_true (missing.trans creates)
      · exact (version.needsCreateContext_iff _).mp needed plain
  | bindingTried _ _ client creates _ known enough =>
      have behind : client.graphics = api := GraphicsApi.client?_eq_some.mp known
      obtain ⟨provided, answered, accepted, -⟩ := serves
      obtain rfl : bound = layer.binds s client := accepted
      refine bindingDecided_of_admits behind ⟨provided.symm, ?_⟩ rfl
      rcases enough with rfl | unneeded
      · exact Or.inl answered.symm
      · refine Or.inr (by_contra fun needed => ?_)
        rw [(version.needsCreateContext_iff client).mpr needed] at unneeded
        cases unneeded

end

/-- **A binding is decided by its support table**, over any layer in any state and for any driver; and
what the table says of versions is what the naturals say. -/
theorem bindApi_decided {σ : Type} (layer : Egl.Layer σ)
    (others : (request : Request) → Answer request) (s : σ) (d : Driver) (api : GraphicsApi)
    (version : Version) :
    let run := (d.bindApi api version).converse (layer.answering others) s
    BindingDecided layer s d api version run.1 run.2.1.1 run.2.1.2 ∧
      (∀ client, version.needsCreateContext client = true ↔ ¬version.Plain client) ∧
      (version.minor.toNat < 1000 → (version.needsCreateContext .openGl = true ↔
        toLex (3, 1) ≤ toLex (version.major.toNat, version.minor.toNat))) := by
  intro run
  have yields := Program.yields_converse (layer.answering others) (d.bindApi api version) s
  have serves := layer.serves_converse others (d.bindApi api version) s
  exact ⟨(bindApi_course yields).bindingDecided serves, version.needsCreateContext_iff,
    version.needsCreateContext_openGl_iff⟩

end Driver

end Scanout
