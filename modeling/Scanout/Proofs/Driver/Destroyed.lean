import Scanout.Proofs.Driver.History

/-!
# What a destroyed driver still does

Once a driver was destroyed it holds no handle, and what needs one is a no-op: no backend call is
made, no handler is installed and no mode is set.  The EGL layer is not behind a handle.  It is asked
whenever the API it is asked about is one of EGL, be the driver destroyed or not, so a binding can
still succeed on a driver that can never show anything again.

## Main definitions

* `eglCalls` — the calls of a transcript on the EGL layer, each with its answer
* `Driver.Dead` — an episode that leaves every collaborator alone
* `Operation.reachesLayer` — the operations that go to the EGL layer

## Main results

* `Driver.Course.layer_iff` — which operations call the EGL layer, on any driver
* `Driver.lives_destroyed` — what every operation behind a destruction does
-/

namespace Scanout

/-! ### Calls on the EGL layer -/

/-- The call on the EGL layer of an exchange, if it is one. -/
def eglExchange? : Exchange Request → Option (Exchange Egl.Call)
  | ⟨.egl call, reply⟩ => some ⟨call, reply⟩
  | _ => none

/-- **The calls of a transcript on the EGL layer**, each with its answer. -/
def eglCalls (exchanges : List (Exchange Request)) : List (Exchange Egl.Call) :=
  exchanges.filterMap eglExchange?

section EglCalls

variable {rest : List (Exchange Request)}

@[simp] theorem eglCalls_nil : eglCalls [] = [] := rfl

@[simp] theorem eglCalls_egl {call : Egl.Call} {reply : Answer (Request.egl call)} :
    eglCalls (⟨.egl call, reply⟩ :: rest) = ⟨call, reply⟩ :: eglCalls rest := rfl

@[simp] theorem eglCalls_backend {call : Backend.Call} {reply : Answer (Request.backend call)} :
    eglCalls (⟨.backend call, reply⟩ :: rest) = eglCalls rest := rfl

@[simp] theorem eglCalls_said {remark : Driver.Remark} :
    eglCalls (remark.said :: rest) = eglCalls rest := rfl

@[simp] theorem eglCalls_append {first : List (Exchange Request)} :
    eglCalls (first ++ rest) = eglCalls first ++ eglCalls rest :=
  List.filterMap_append

end EglCalls

/-- The calls of an episode on the EGL layer. -/
def Episode.eglCalls (episode : Episode) : List (Exchange Egl.Call) :=
  Scanout.eglCalls episode.exchanges

/-- The calls of a history on the EGL layer are those of its episodes. -/
theorem eglCalls_flatMap (episodes : List Episode) :
    eglCalls (episodes.flatMap Episode.exchanges) = episodes.flatMap Episode.eglCalls :=
  List.filterMap_flatMap

/-- **Whether an operation goes to the EGL layer** of a driver on which `bound` was bound last: a
binding does if the layer could provide the API, the rest if it could provide the one bound. -/
def Operation.reachesLayer (bound : GraphicsApi) : Operation → Bool
  | .bindApi api _ => api.client?.isSome
  | .getProcAddress _ | .bindHwRender _ => bound.client?.isSome
  | _ => false

namespace Driver

open Operation

/-! ### Dead episodes -/

/-- **An episode of a dead driver**: neither the backend nor the EGL layer is called, no handler is
installed, and neither a binding nor a mode succeeds. -/
structure Dead (episode : Episode) : Prop where
  calls : episode.calls = []
  eglCalls : episode.eglCalls = []
  uninstalled : episode.exchanges.countP (makes (.frontend .installSignalHandler)) = 0
  unbound : ∀ api version, episode.op = .bindApi api version → episode.reply = .truth false
  modeless : ∀ width height fullscreen, episode.op = .setVideoMode width height fullscreen →
    episode.reply = .truth false

section Course

variable {d d' : Driver} {op : Operation} {reply : Reply} {exchanges : List (Exchange Request)}

/-- **Which operations call the EGL layer** does not depend on the handles of the driver. -/
theorem Course.layer_iff (course : Course d op exchanges reply d') :
    eglCalls exchanges = [] ↔ op.reachesLayer d.api = false := by
  -- the courses that may ask the layer come first; the others have no exchange with it
  cases course with
  | unbindable api version foreign => simp [reachesLayer, foreign]
  | unprovided api version client known => simp [reachesLayer, known]
  | extensionMissing api version client known => simp [reachesLayer, known]
  | bindingTried api version client creates bound known => simp [reachesLayer, known]
  | symbolUnbound symbol unbound | renderUnbound enable unbound => exact iff_of_true rfl unbound
  | symbolSought symbol found bound =>
      have reaches : (Operation.getProcAddress symbol).reachesLayer d.api = true := bound
      simp [reaches]
  | renderTold enable bound =>
      have reaches : (Operation.bindHwRender enable).reachesLayer d.api = true := bound
      simp [reaches]
  | released pipeline =>
      rcases pipeline with ⟨display, presenter, _ | context⟩ <;> exact iff_of_true rfl rfl
  | _ => exact iff_of_true rfl rfl

/-- **A binding succeeds** just if the EGL layer was asked to bind and did. -/
theorem Course.bound_iff {api : GraphicsApi} {version : Version}
    (course : Course d (.bindApi api version) exchanges reply d') :
    ∃ bound, reply = .truth bound ∧ (bound = true ↔
      ∃ client, api.client? = some client ∧ ⟨.bindApi client, true⟩ ∈ eglCalls exchanges) := by
  cases course with
  | unbindable _ _ foreign => exact ⟨false, rfl, by simp [foreign]⟩
  | unprovided _ _ client known => exact ⟨false, rfl, by simp [known]⟩
  | extensionMissing _ _ client known => exact ⟨false, rfl, by simp [known]⟩
  | bindingTried _ _ client creates bound known => exact ⟨bound, rfl, by simp [known, eq_comm]⟩

/-- Without handles the backend is not called. -/
theorem Course.calls_of_gone (course : Course d op exchanges reply d') (gone : d.pipeline = none) :
    backendCalls exchanges = [] := by
  cases course with
  | released _ held | contextKept _ _ _ _ _ held | contextRefused _ _ _ _ _ held
  | contextMade _ _ _ _ _ held | frameDropped _ _ _ _ _ held | frameUnposted _ _ _ _ _ _ held
  | framePresented _ _ _ _ _ held | rateAsked _ _ held => cases gone.symm.trans held
  | _ => rfl

/-- Without handles no mode is set. -/
theorem Course.modeless_of_gone {width height : UInt32} {fullscreen : Bool}
    (course : Course d (.setVideoMode width height fullscreen) exchanges reply d')
    (gone : d.pipeline = none) : reply = .truth false := by
  cases course with
  | modeWithoutDisplay => rfl
  | contextRefused => rfl
  | contextKept _ _ _ _ _ held | contextMade _ _ _ _ _ held => cases gone.symm.trans held

end Course

/-! ### Behind a destruction -/

/-- A driver holds no display just if it holds no handle. -/
theorem hasDisplay_eq_false {d : Driver} : d.hasDisplay = false ↔ d.pipeline = none := by
  rw [hasDisplay, Option.isSome_eq_false_iff, Option.isNone_iff_eq_none]

/-- **What an operation does on a driver that was destroyed**, on which `bound` was bound last. -/
structure Spent (bound : GraphicsApi) (episode : Episode) : Prop where
  calls : episode.calls = []
  uninstalled : episode.exchanges.countP (makes (.frontend .installSignalHandler)) = 0
  modeless : ∀ width height fullscreen, episode.op = .setVideoMode width height fullscreen →
    episode.reply = .truth false
  layer : episode.eglCalls = [] ↔ episode.op.reachesLayer bound = false
  binds : ∀ api version, episode.op = .bindApi api version →
    ∃ bound, episode.reply = .truth bound ∧ (bound = true ↔
      ∃ client, api.client? = some client ∧ ⟨.bindApi client, true⟩ ∈ episode.eglCalls)

/-- **One step without handles** is spent. -/
theorem Course.spent {d d' : Driver} {op : Operation} {reply : Reply}
    {exchanges : List (Exchange Request)} (course : Course d op exchanges reply d')
    (gone : d.pipeline = none) : Spent d.api ⟨op, reply, exchanges⟩ where
  calls := course.calls_of_gone gone
  uninstalled := by
    rw [course.countP_installs, hasDisplay_eq_false.mpr gone, Bool.and_false]
    rfl
  modeless := by
    rintro width height fullscreen rfl
    exact course.modeless_of_gone gone
  layer := course.layer_iff
  binds := by
    rintro api version rfl
    exact course.bound_iff

/-- **A spent episode is dead** unless it goes to the EGL layer. -/
theorem Spent.dead_iff {bound : GraphicsApi} {episode : Episode} (spent : Spent bound episode) :
    Dead episode ↔ episode.op.reachesLayer bound = false := by
  constructor
  · intro dead
    exact spent.layer.mp dead.eglCalls
  · intro unreached
    have silent := spent.layer.mpr unreached
    refine ⟨spent.calls, silent, spent.uninstalled, fun api version asked => ?_, spent.modeless⟩
    obtain ⟨bound, replied, accepted⟩ := spent.binds api version asked
    have refused : bound ≠ true := by
      rw [Ne, accepted, silent]
      rintro ⟨client, -, among⟩
      exact List.not_mem_nil among
    rw [replied, Bool.eq_false_iff.mpr refused]

/-- A driver that holds nothing is destroyed at once. -/
theorem destroy_of_gone {d : Driver} (gone : d.pipeline = none) : d.destroy = pure d := by
  rw [destroy, gone]

/-- **What comes behind a destruction**: each operation is spent, hence dead unless it goes to the EGL
layer, and the driver that is left holds nothing that giving it up could release. -/
theorem lives_destroyed {d d' : Driver} {before after : List Episode} {episode : Episode}
    (lives : Lives d (before ++ episode :: after) d')
    (destroyed : ∃ earlier ∈ before, earlier.op = .destroy) :
    let bound := (latest binding? (d.api, d.version) (before.map Episode.op)).1
    Spent bound episode ∧ (Dead episode ↔ episode.op.reachesLayer bound = false) ∧
      d'.pipeline = none ∧ d'.destroy = pure d' := by
  have asked : (before.map Episode.op).any destroys = true := by
    obtain ⟨earlier, among, op⟩ := destroyed
    exact List.any_eq_true.mpr ⟨.destroy, List.mem_map.mpr ⟨earlier, among, op⟩, rfl⟩
  obtain ⟨middle, earlier, later⟩ := lives.split
  have gone : middle.pipeline = none := by
    rw [← hasDisplay_eq_false, earlier.hasDisplay_eq, asked, Bool.not_true, Bool.and_false]
  have still : d'.pipeline = none := by
    rw [← hasDisplay_eq_false, later.hasDisplay_eq, hasDisplay_eq_false.mpr gone, Bool.false_and]
  have bound : middle.api = (latest binding? (d.api, d.version) (before.map Episode.op)).1 :=
    congrArg Prod.fst earlier.binding_eq
  cases later with
  | step run _ =>
      have spent := (perform_course run).spent gone
      rw [bound] at spent
      exact ⟨spent, spent.dead_iff, still, destroy_of_gone still⟩

/-- A driver that is bound once more after it was destroyed: the EGL layer is asked, and binds. -/
def reboundEpisode : Episode :=
  ⟨.bindApi .openGlEs ⟨2, 0⟩, .truth true,
    [⟨.egl (.supports .openGlEs), true⟩, ⟨.egl .hasCreateContext, true⟩,
      ⟨.egl (.bindApi .openGlEs), true⟩, (Remark.bindingTried .openGlEs ⟨2, 0⟩ true).said]⟩

/-- The binding of a driver that was opened and destroyed. -/
theorem lives_rebound : Lives (opened ⟨7⟩ ⟨7⟩)
    ([⟨.destroy, .done, releasing ⟨⟨7⟩, ⟨7⟩, none⟩⟩] ++ reboundEpisode :: [])
    ⟨none, .openGlEs, ⟨2, 0⟩, 0, ⟨0, 0⟩, false⟩ :=
  lives_rehearse (unposting 7) (opened ⟨7⟩ ⟨7⟩) [.destroy, .bindApi .openGlEs ⟨2, 0⟩]

/-- It is spent, but not dead. -/
theorem rebound_spent : Spent .none reboundEpisode ∧ ¬ Dead reboundEpisode := by
  obtain ⟨spent, dead, -⟩ := lives_destroyed lives_rebound ⟨_, List.mem_singleton_self _, rfl⟩
  refine ⟨spent, fun absent => ?_⟩
  cases dead.mp absent

/-- **A destroyed driver is not dead.** -/
theorem not_dead_of_destroyed : ¬ ∀ (opening : List (Exchange Request)) (d d' : Driver)
    (before after : List Episode) (episode : Episode), start.Yields opening (.ok d) →
    Lives d (before ++ episode :: after) d' → (∃ earlier ∈ before, earlier.op = .destroy) →
    Dead episode := by
  intro dead
  have alive := dead _ _ _ _ _ _ (Program.yields_transcribe (unposting 7) start) lives_rebound
    ⟨_, List.mem_singleton_self _, rfl⟩
  exact absurd (alive.unbound _ _ rfl) (by decide)

end Driver

end Scanout
