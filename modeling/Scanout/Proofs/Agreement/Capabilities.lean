import Scanout.Proofs.Headless.Frames
import Scanout.Proofs.Platform.Runs

/-!
# Capabilities of a platform

Which creations fail on a platform and which APIs it provides settles how most of a driver's requests
are answered.  A headless backend with a headless EGL layer and the panel library with the EGL of the
system both answer in this way, and what they do on the panel are the calls that succeed.

## Main definitions

* `Capabilities` — the creations that fail and the APIs that are provided
* `Capabilities.Grants` — what the C functions give under these capabilities
* `Capabilities.Settles` — how a request is answered under these capabilities
* `performed` — what is done during a transcript

## Main results

* `Platform.Answers.headless`, `Platform.Answers.native` — either platform settles the requests, and
  does what is performed
-/

namespace Scanout

/-- **What a platform is capable of**: the creations that fail on it, the client APIs that it provides,
and whether the create-context extension is there. -/
structure Capabilities where
  refusals : Headless.Refusals
  supported : List ClientApi
  createContext : Bool

namespace Capabilities

variable (c : Capabilities)

/-- The section of a configuration that provides the same APIs. -/
def configured : Config.Egl where
  openGl := c.supported.contains .openGl
  openGlEs := c.supported.contains .openGlEs
  openVg := c.supported.contains .openVg
  createContext := c.createContext

/-- **What the C functions give**: no handle exactly for the creations that fail, always a surface, and
every binding. -/
def Grants : Native.Event → Prop
  | ⟨.displayCreate, made⟩ => made.isSome = !c.refusals.display
  | ⟨.presenterCreate _ _ _, made⟩ => made.isSome = !c.refusals.presenter
  | ⟨.contextCreate _ _ _ _, made⟩ => made.isSome = !c.refusals.context
  | ⟨.surfaceLock _, made⟩ => made.isSome
  | ⟨.eglBindApi _, code⟩ => code = Native.Egl.bound
  | _ => True

/-- **How a request is settled** under the capabilities, as far as they tell. -/
def Settles : Exchange Request → Prop
  | ⟨.backend .createDisplay, reply⟩ => Except.isOk reply = !c.refusals.display
  | ⟨.backend (.createPresenter _ _ _), reply⟩ => Except.isOk reply = !c.refusals.presenter
  | ⟨.backend (.createContext _ _ _ _), reply⟩ => Except.isOk reply = !c.refusals.context
  | ⟨.backend (.lockSurface _), reply⟩ => Except.isOk reply
  | ⟨.backend (.post _ _ _), reply⟩ => Except.isOk reply
  | ⟨.egl (.supports api), reply⟩ => reply = c.supported.contains api
  | ⟨.egl .hasCreateContext, reply⟩ => reply = c.createContext
  | ⟨.egl (.bindApi _), reply⟩ => reply = true
  | _ => True

end Capabilities

/-- **What is done during a transcript**: the acts of the backend calls that succeeded. -/
def performed (exchanges : List (Exchange Request)) : List Backend.Act :=
  (backendCalls exchanges).filterMap Backend.performed?

/-- What a call has done comes before what is done later. -/
theorem performed_backend {call : Backend.Call} {reply : call.Answer}
    {later : List (Exchange Request)} :
    performed (⟨.backend call, reply⟩ :: later) =
      (Backend.performed? ⟨call, reply⟩).toList ++ performed later := by
  unfold performed
  rw [backendCalls_backend, List.filterMap_cons]
  cases Backend.performed? ⟨call, reply⟩ <;> rfl

/-- An EGL call that does not look for a function has one answer. -/
theorem Capabilities.Settles.egl_unique {c : Capabilities} {call : Egl.Call}
    {reply reply' : call.Answer} (settled : c.Settles ⟨.egl call, reply⟩)
    (settled' : c.Settles ⟨.egl call, reply'⟩) (told : ∀ symbol, call ≠ .procAddress symbol) :
    reply = reply' := by
  cases call with
  | supports | hasCreateContext | bindApi => exact settled.trans settled'.symm
  | procAddress symbol => exact absurd rfl (told symbol)
  | bindHwRender => rfl

/-! ### The headless platform -/

namespace Headless

/-- What a headless backend records is what is performed. -/
theorem answer_acts (b : Backend) (call : Backend.Call) :
    (b.answer call).2.acts =
      b.acts ++ (Backend.performed? ⟨call, (b.answer call).1⟩).toList := by
  cases call with
  | destroyDisplay | destroyPresenter | destroyContext | makeCurrent | clearColorBuffer
  | swapBuffers => rfl
  | refreshRate => exact (List.append_nil _).symm
  | unlockSurface context surface =>
      rw [Backend.answer]
      split <;> rfl
  | createDisplay =>
      rw [Backend.answer]
      split
      · exact (List.append_nil _).symm
      · rfl
  | createPresenter =>
      rw [Backend.answer]
      split
      · exact (List.append_nil _).symm
      · rfl
  | createContext =>
      rw [Backend.answer]
      split
      · exact (List.append_nil _).symm
      · rfl
  | post =>
      rw [Backend.answer]
      split
      · rfl
      · exact (List.append_nil _).symm
  | lockSurface =>
      rw [Backend.answer]
      split
      · exact (List.append_nil _).symm
      · rfl

/-- The creations that are refused are always the same. -/
theorem answer_refusals (b : Backend) (call : Backend.Call) :
    (b.answer call).2.refusals = b.refusals := by
  cases call with
  | destroyDisplay | destroyPresenter | destroyContext | makeCurrent | clearColorBuffer
  | swapBuffers | refreshRate => rfl
  | unlockSurface | createDisplay | createPresenter | createContext | post | lockSurface =>
      rw [Backend.answer]
      split <;> rfl

/-- **A headless backend settles a call** that moves no surface in vain. -/
theorem settles_answer {c : Capabilities} {b : Backend} {call : Backend.Call}
    (same : b.refusals = c.refusals)
    (granted : ¬ Driver.SurfaceRefused ⟨call, (b.answer call).1⟩) :
    c.Settles ⟨.backend call, (b.answer call).1⟩ := by
  cases call with
  | destroyDisplay | destroyPresenter | destroyContext | makeCurrent | clearColorBuffer
  | swapBuffers | refreshRate | unlockSurface => trivial
  | createDisplay =>
      rw [Capabilities.Settles, Backend.answer, ← same]
      cases b.refusals.display <;> rfl
  | createPresenter =>
      rw [Capabilities.Settles, Backend.answer, ← same]
      cases b.refusals.presenter <;> rfl
  | createContext =>
      rw [Capabilities.Settles, Backend.answer, ← same]
      cases b.refusals.context <;> rfl
  | post presenter surface placement =>
      rw [Capabilities.Settles]
      cases outcome : (b.answer (.post presenter surface placement)).1 with
      | ok => rfl
      | error cause =>
          rw [outcome] at granted
          exact absurd (.post ..) granted
  | lockSurface context =>
      rw [Capabilities.Settles]
      cases outcome : (b.answer (.lockSurface context)).1 with
      | ok => rfl
      | error cause =>
          rw [outcome] at granted
          exact absurd (.lock ..) granted

/-- **What a headless backend records are the calls that succeed.** -/
theorem Serves.acts_eq {b b' : Backend} {calls : List (Exchange Backend.Call)}
    (serves : Serves b calls b') : b'.acts = b.acts ++ calls.filterMap Backend.performed? := by
  induction calls generalizing b with
  | nil =>
      obtain rfl := serves_nil.mp serves
      exact (List.append_nil _).symm
  | cons exchange calls ih =>
      obtain ⟨call, reply⟩ := exchange
      obtain ⟨given, serves⟩ := serves_cons.mp serves
      obtain rfl : reply = (b.answer call).1 := given
      rw [ih serves, answer_acts, List.append_assoc, List.filterMap_cons]
      cases Backend.performed? ⟨call, (b.answer call).1⟩ <;> rfl

/-- **A headless backend settles the calls of a list** if it refuses no surface. -/
theorem Serves.settles {c : Capabilities} {b b' : Backend} {calls : List (Exchange Backend.Call)}
    (serves : Serves b calls b') (same : b.refusals = c.refusals)
    (granted : ∀ call ∈ calls, ¬ Driver.SurfaceRefused call) :
    ∀ call ∈ calls, c.Settles ⟨.backend call.1, call.2⟩ := by
  induction calls generalizing b with
  | nil => exact nofun
  | cons exchange calls ih =>
      obtain ⟨call, reply⟩ := exchange
      obtain ⟨given, serves⟩ := serves_cons.mp serves
      obtain rfl : reply = (b.answer call).1 := given
      obtain ⟨here, others⟩ := List.forall_mem_cons.mp granted
      refine List.forall_mem_cons.mpr ⟨settles_answer same here, ?_⟩
      exact ih serves ((answer_refusals b call).trans same) others

end Headless

namespace Platform

open Machine (Question)

/-- What a headless EGL layer tells of its capabilities; a binding succeeds if the API is provided. -/
def Tells (supported : List ClientApi) (createContext : Bool) : (call : Egl.Call) → call.Answer → Prop
  | .supports api, reply => reply = supported.contains api
  | .hasCreateContext, reply => reply = createContext
  | .bindApi api, reply => reply = supported.contains api
  | .procAddress _, _ | .bindHwRender _, _ => True

theorem tells_serve (e : Headless.Egl) (call : Egl.Call) :
    Tells e.supported e.createContext call (e.serve call).1 ∧
      (e.serve call).2.supported = e.supported ∧
      (e.serve call).2.createContext = e.createContext := by
  cases call with
  | supports | hasCreateContext | procAddress | bindHwRender => exact ⟨by trivial, rfl, rfl⟩
  | bindApi api =>
      rw [Headless.Egl.serve]
      split
      · next provided => exact ⟨provided.symm, rfl, rfl⟩
      · next missing => exact ⟨(Bool.eq_false_iff.mpr missing).symm, rfl, rfl⟩

/-- **A headless platform serves the backend calls of its driver**, and tells what it is capable of. -/
theorem Answers.headless {p p' : Platform} {requests : List (Exchange Request)}
    {asked : List (Exchange Question)} {b : Headless.Backend} {e : Headless.Egl}
    (answers : Answers p requests asked p') (hb : p.backend = .headless b)
    (he : p.egl = .headless e) :
    (∃ b', p'.backend = .headless b' ∧ Headless.Serves b (backendCalls requests) b') ∧
      ∀ call reply, ⟨.egl call, reply⟩ ∈ requests →
        Tells e.supported e.createContext call reply := by
  induction answers generalizing b e with
  | idle p => exact ⟨⟨b, hb, .idle b⟩, nofun⟩
  | backend run answers ih =>
      rw [hb] at run
      obtain ⟨result, one, ended⟩ := Program.yields_bind_done.mp run
      obtain ⟨rfl, rfl⟩ := Prod.mk.inj ended
      obtain ⟨⟨b', after, serves⟩, told⟩ := ih rfl he
      refine ⟨⟨b', after, .serve one serves⟩, fun call reply among => ?_⟩
      exact told call reply (by simpa using among)
  | egl run answers ih =>
      rw [he] at run
      obtain ⟨-, ended⟩ := run
      obtain ⟨rfl, rfl⟩ := Prod.mk.inj ended
      obtain ⟨here, supported, creates⟩ := tells_serve e _
      obtain ⟨served, told⟩ := ih hb rfl
      refine ⟨served, fun call reply among => ?_⟩
      rcases List.mem_cons.mp among with same | among
      · cases same
        exact here
      · rw [← supported, ← creates]
        exact told call reply among
  | frontend run answers ih =>
      obtain ⟨served, told⟩ := ih hb he
      exact ⟨served, fun call reply among => told call reply (by simpa using among)⟩
  | probe run answers ih =>
      obtain ⟨served, told⟩ := ih hb he
      exact ⟨served, fun call reply among => told call reply (by simpa using among)⟩
  | log answers ih =>
      obtain ⟨served, told⟩ := ih hb he
      exact ⟨served, fun call reply among => told call reply (by simpa using among)⟩

end Platform

/-! ### The panel library -/

/-- **A call whose numbers are those of the panel**, which are all integers of the panel library. -/
def Backend.Call.ForPanel : Backend.Call → Prop
  | .post _ _ placement => placement = Panel.placement
  | .createContext _ width height attributes =>
      width = Panel.width ∧ height = Panel.height ∧ attributes = Panel.attributes
  | _ => True

namespace Native

open Machine (Question)

/-- The results of the C functions of a transcript are those of the capabilities. -/
def Granted (c : Capabilities) (exchanges : List (Exchange Question)) : Prop :=
  ∀ (call : Call) (reply : call.Answer), ⟨.native call, reply⟩ ∈ exchanges → c.Grants ⟨call, reply⟩

theorem Granted.append {c : Capabilities} {first later : List (Exchange Question)}
    (granted : Granted c (first ++ later)) : Granted c first ∧ Granted c later :=
  ⟨fun call reply among => granted call reply (List.mem_append_left _ among),
    fun call reply among => granted call reply (List.mem_append_right _ among)⟩

/-- **The panel library settles a call for the panel.** -/
theorem settles_serveBackend {c : Capabilities} {call : Backend.Call} {reply : call.Answer}
    {exchanges : List (Exchange Question)} (run : (serveBackend call).Yields exchanges reply)
    (granted : Granted c exchanges) (fits : call.ForPanel) : c.Settles ⟨.backend call, reply⟩ := by
  cases call with
  | destroyDisplay | destroyPresenter | destroyContext | makeCurrent | clearColorBuffer
  | swapBuffers | refreshRate | unlockSurface => trivial
  | createDisplay =>
      obtain ⟨made, rest, rfl, run⟩ := run
      have given := granted .displayCreate made List.mem_cons_self
      cases made with
      | none =>
          obtain ⟨-, rfl⟩ := run
          exact given
      | some display =>
          obtain ⟨-, rest, -, -, rfl⟩ := run
          exact given
  | createPresenter display format background =>
      obtain ⟨made, rest, rfl, run⟩ := run
      have given := granted (.presenterCreate display format.code background) made
        List.mem_cons_self
      cases made with
      | none =>
          obtain ⟨-, rfl⟩ := run
          exact given
      | some presenter =>
          obtain ⟨-, rest, -, -, rfl⟩ := run
          exact given
  | createContext display width height attributes =>
      obtain ⟨rfl, rfl, rfl⟩ := fits
      obtain ⟨made, rest, rfl, run⟩ := run
      have given := granted (.contextCreate display _ _ _) made List.mem_cons_self
      cases made with
      | none =>
          obtain ⟨-, rfl⟩ := run
          exact given
      | some context =>
          obtain ⟨-, rest, -, -, rfl⟩ := run
          exact given
  | lockSurface context =>
      obtain ⟨made, rest, rfl, -, rfl⟩ := run
      have given := granted (.surfaceLock context) made List.mem_cons_self
      cases made with
      | none => cases given
      | some surface => rfl
  | post presenter surface placement =>
      obtain rfl := fits
      obtain ⟨-, rest, rfl, -, rfl⟩ := run
      rfl

/-- **The EGL of the system settles a call** as it is configured, since every binding is given. -/
theorem settles_serve {c : Capabilities} {e e' : Egl} {call : Egl.Call} {reply : call.Answer}
    {exchanges : List (Exchange Question)} (run : (e.serve call).Yields exchanges (reply, e'))
    (granted : Granted c exchanges) (same : e.provided = c.configured) :
    c.Settles ⟨.egl call, reply⟩ ∧ e'.provided = c.configured := by
  cases call with
  | supports api =>
      obtain ⟨-, ended⟩ := run
      obtain ⟨rfl, rfl⟩ := Prod.mk.inj ended
      refine ⟨?_, same⟩
      rw [Capabilities.Settles, same]
      cases api <;> rfl
  | hasCreateContext =>
      obtain ⟨-, ended⟩ := run
      obtain ⟨rfl, rfl⟩ := Prod.mk.inj ended
      refine ⟨?_, same⟩
      rw [Capabilities.Settles, same]
      rfl
  | bindApi api =>
      obtain ⟨bound, one, ended⟩ := Program.yields_bind_done.mp run
      obtain ⟨rfl, rfl⟩ := Prod.mk.inj ended
      obtain ⟨code, rest, rfl, one⟩ := one
      obtain rfl : code = Egl.bound := granted (.eglBindApi api.code) code List.mem_cons_self
      obtain ⟨-, rfl⟩ := one
      exact ⟨rfl, same⟩
  | procAddress symbol =>
      obtain ⟨found, one, ended⟩ := Program.yields_bind_done.mp run
      obtain ⟨rfl, rfl⟩ := Prod.mk.inj ended
      exact ⟨trivial, same⟩
  | bindHwRender enable =>
      rw [Egl.serve] at run
      split at run
      · obtain ⟨-, rest, -, -, ended⟩ := run
        obtain ⟨rfl, rfl⟩ := Prod.mk.inj ended
        exact ⟨trivial, same⟩
      · obtain ⟨-, ended⟩ := run
        obtain ⟨rfl, rfl⟩ := Prod.mk.inj ended
        exact ⟨trivial, same⟩

end Native

namespace Platform

open Machine (Question)

/-- Whoever calls no C function of the panel does nothing on it. -/
theorem acts_of_apart {α : Type} {program : Program Question α} {a : α}
    {asked : List (Exchange Question)}
    (apart : program.AsksOnly fun question => ∀ reply, Native.actOf? ⟨question, reply⟩ = none)
    (run : program.Yields asked a) : Native.acts asked = [] :=
  List.filterMap_eq_nil_iff.mpr fun exchange among => apart.of_mem run exchange among exchange.2

/-- What is no C function does nothing on the panel. -/
theorem actOf?_of_not_native {question : Question} (other : ∀ call, question ≠ .native call)
    (reply : Answer question) : Native.actOf? ⟨question, reply⟩ = none := by
  cases question with
  | native call => exact absurd rfl (other call)
  | _ => rfl

/-- **A platform over the panel library settles the requests of its driver** and does on the panel what
is performed. -/
theorem Answers.native {c : Capabilities} {p p' : Platform} {requests : List (Exchange Request)}
    {asked : List (Exchange Question)} {e : Native.Egl} (answers : Answers p requests asked p')
    (hb : p.backend = .native) (he : p.egl = .native e) (same : e.provided = c.configured)
    (granted : Native.Granted c asked)
    (fits : ∀ call ∈ backendCalls requests, Backend.Call.ForPanel call.1) :
    (∀ exchange ∈ requests, c.Settles exchange) ∧
      Native.acts asked = (performed requests).map Backend.Act.native := by
  induction answers generalizing e with
  | idle p => exact ⟨nofun, rfl⟩
  | backend run answers ih =>
      rw [hb] at run
      obtain ⟨reply, one, ended⟩ := Program.yields_bind_done.mp run
      obtain ⟨rfl, rfl⟩ := Prod.mk.inj ended
      obtain ⟨first, later⟩ := granted.append
      rw [backendCalls_backend, List.forall_mem_cons] at fits
      obtain ⟨settled, acts⟩ := ih rfl he same later fits.2
      refine ⟨List.forall_mem_cons.mpr
        ⟨Native.settles_serveBackend one first fits.1, settled⟩, ?_⟩
      rw [Native.acts_append, Native.acts_serveBackend one, acts, performed_backend,
        List.map_append]
      cases Backend.performed? _ <;> rfl
  | egl run answers ih =>
      rw [he] at run
      obtain ⟨result, one, ended⟩ := Program.yields_bind_done.mp run
      obtain ⟨rfl, rfl⟩ := Prod.mk.inj ended
      obtain ⟨first, later⟩ := granted.append
      obtain ⟨here, same⟩ := Native.settles_serve one first same
      obtain ⟨settled, acts⟩ := ih hb rfl same later fits
      refine ⟨List.forall_mem_cons.mpr ⟨here, settled⟩, ?_⟩
      have quiet := acts_of_apart ((e.asksOnly_serve _).mono fun _ both => both.2) one
      rw [Native.acts_append, quiet, acts]
      rfl
  | frontend run answers ih =>
      obtain ⟨settled, acts⟩ := ih hb he same granted.append.2 fits
      refine ⟨List.forall_mem_cons.mpr ⟨trivial, settled⟩, ?_⟩
      have quiet := acts_of_apart
        ((Frontend.asksOnly_serve _ _).mono fun _ => actOf?_of_not_native) run
      rw [Native.acts_append, quiet, acts]
      rfl
  | probe run answers ih =>
      obtain ⟨settled, acts⟩ := ih hb he same granted.append.2 fits
      refine ⟨List.forall_mem_cons.mpr ⟨trivial, settled⟩, ?_⟩
      have quiet := acts_of_apart
        ((Prober.asksOnly_serve _ _).mono fun _ => actOf?_of_not_native) run
      rw [Native.acts_append, quiet, acts]
      rfl
  | log answers ih =>
      have later : Native.Granted c _ :=
        fun call reply among => granted call reply (List.mem_cons_of_mem _ among)
      obtain ⟨settled, acts⟩ := ih hb he same later fits
      exact ⟨List.forall_mem_cons.mpr ⟨trivial, settled⟩, acts⟩

end Platform

end Scanout
