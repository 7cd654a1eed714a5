import Scanout.Proofs.Driver.SupportTable
import Scanout.Proofs.Headless.Bindings
import Scanout.Proofs.Headless.Frames
import Scanout.Proofs.Native.Conversion

/-!
# How the functions of EGL are called

Over the EGL layer of the system a driver calls three functions of EGL.  An API is bound only if
the configuration provides it and the version may be bound; an error is read right after a binding
that failed and at no other time; a function is looked up by the very name that was asked for, if
the API that was asked for last is one of EGL and the name can be handed over.  Whatever else a
driver is asked for, and whatever the other collaborators are, no function of EGL is called.

## Main definitions

* `Native.ErrorsRead` — a transcript in which errors are read when they should be
* `Native.Admitted` — the bindings that a configuration admits
* `Native.Conduct` — the C functions that an operation calls
* `Native.Conducted` — how the functions of EGL are called in the life of a driver

## Main results

* `Native.Egl.errand_of_serve` — one call on the layer
* `Driver.Course.conduct` — one operation of a driver
* `Driver.life_conducted` — the life of a driver
-/

namespace Scanout

open Machine (Question)

namespace Native

/-! ### When errors are read -/

/-- Whether a question asks EGL to bind or for an error. -/
def bindsOrReads : Question → Bool
  | .native (.eglBindApi _) | .native .eglGetError => true
  | _ => false

/-- **A transcript in which errors are read when they should be**: once and right after each binding
that failed, and at no other time. -/
inductive ErrorsRead : List (Exchange Question) → Prop
  | idle : ErrorsRead []
  | bound (code : UInt32) {later : List (Exchange Question)} (others : ErrorsRead later) :
      ErrorsRead (⟨.native (.eglBindApi code), Egl.bound⟩ :: later)
  | failed (code result : UInt32) (error : Int32) {later : List (Exchange Question)}
      (unbound : result ≠ Egl.bound) (others : ErrorsRead later) :
      ErrorsRead (⟨.native (.eglBindApi code), result⟩ :: ⟨.native .eglGetError, error⟩ :: later)
  | apart {exchange : Exchange Question} {later : List (Exchange Question)}
      (other : bindsOrReads exchange.1 = false) (others : ErrorsRead later) :
      ErrorsRead (exchange :: later)

theorem ErrorsRead.append {first later : List (Exchange Question)} (one : ErrorsRead first)
    (others : ErrorsRead later) : ErrorsRead (first ++ later) := by
  induction one with
  | idle => exact others
  | bound code _ ih => exact .bound code ih
  | failed code result error unbound _ ih => exact .failed code result error unbound ih
  | apart other _ ih => exact .apart other ih

/-- What is no call of a function of EGL asks it neither to bind nor for an error. -/
theorem bindsOrReads_of_apart {question : Question} (apart : question.callsEgl = false) :
    bindsOrReads question = false := by
  cases question with
  | native call =>
      cases call with
      | eglBindApi | eglGetError => cases apart
      | _ => rfl
  | _ => rfl

/-- **A transcript in which no function of EGL is called.** -/
def Apart (exchanges : List (Exchange Question)) : Prop :=
  ∀ exchange ∈ exchanges, exchange.1.callsEgl = false

theorem Apart.errorsRead {exchanges : List (Exchange Question)} (apart : Apart exchanges) :
    ErrorsRead exchanges := by
  induction exchanges with
  | nil => exact .idle
  | cons exchange later ih =>
      obtain ⟨here, others⟩ := List.forall_mem_cons.mp apart
      exact .apart (bindsOrReads_of_apart here) (ih others)

theorem Apart.append {first later : List (Exchange Question)} (one : Apart first)
    (others : Apart later) : Apart (first ++ later) :=
  List.forall_mem_append.mpr ⟨one, others⟩

/-- No function of EGL is among the C functions that are called. -/
theorem Apart.ofEgl {exchanges : List (Exchange Question)} (apart : Apart exchanges) :
    ∀ event ∈ functionCalls exchanges, event.1.ofEgl = false := by
  intro event among
  obtain ⟨⟨question, reply⟩, inside, called⟩ := List.mem_filterMap.mp among
  cases question with
  | native call =>
      cases called
      exact apart _ inside
  | _ => cases called

theorem functionCalls_append (first later : List (Exchange Question)) :
    functionCalls (first ++ later) = functionCalls first ++ functionCalls later :=
  List.filterMap_append

/-! ### One call on the layer -/

/-- **What the layer asks the machine** to answer a call, under a configuration. -/
inductive Errand (provided : Config.Egl) :
    (call : Egl.Call) → call.Answer → List (Exchange Question) → Prop
  | supports (api : ClientApi) (told : Bool) (provides : told = provided.provides api) :
      Errand provided (.supports api) told []
  | hasCreateContext (told : Bool) (provides : told = provided.createContext) :
      Errand provided .hasCreateContext told []
  | bound (api : ClientApi) :
      Errand provided (.bindApi api) true [⟨.native (.eglBindApi api.code), Egl.bound⟩]
  | failed (api : ClientApi) (result : UInt32) (error : Int32) (record : Log.Record)
      (unbound : result ≠ Egl.bound) :
      Errand provided (.bindApi api) false
        [⟨.native (.eglBindApi api.code), result⟩, ⟨.native .eglGetError, error⟩,
          ⟨.log record, ()⟩]
  | sought (symbol : String) (found : Bool) (clean : '\x00' ∉ symbol.toList) :
      Errand provided (.procAddress symbol) found
        [⟨.native (.eglGetProcAddress symbol), found⟩]
  | unsought (symbol : String) (cut : '\x00' ∈ symbol.toList) :
      Errand provided (.procAddress symbol) false []
  | told (enable : Bool) (records : List Log.Record) :
      Errand provided (.bindHwRender enable) () (records.map Machine.written)

/-- **A call on the layer is answered by its errand**, and what is provided stays the same. -/
theorem Egl.errand_of_serve {e e' : Egl} {call : Egl.Call} {reply : call.Answer}
    {asked : List (Exchange Question)} (run : (e.serve call).Yields asked (reply, e')) :
    Errand e.provided call reply asked ∧ e'.provided = e.provided := by
  cases call with
  | supports api =>
      obtain ⟨rfl, ended⟩ := run
      obtain ⟨rfl, rfl⟩ := Prod.mk.inj ended
      exact ⟨.supports api _ rfl, rfl⟩
  | hasCreateContext =>
      obtain ⟨rfl, ended⟩ := run
      obtain ⟨rfl, rfl⟩ := Prod.mk.inj ended
      exact ⟨.hasCreateContext _ rfl, rfl⟩
  | bindApi api =>
      change ((bind api).bind fun bound => .done (bound, e)).Yields asked (reply, e') at run
      obtain ⟨result, one, ended⟩ := Program.yields_bind_done.mp run
      obtain ⟨rfl, rfl⟩ := Prod.mk.inj ended
      obtain ⟨(code : UInt32), rest, rfl, decided⟩ := one
      change Program.Yields (if code == bound then _ else _) rest reply at decided
      refine ⟨?_, rfl⟩
      split at decided
      · next succeeded =>
        obtain rfl := beq_iff_eq.mp succeeded
        obtain ⟨rfl, rfl⟩ := decided
        exact .bound api
      · next unbound =>
        obtain ⟨error, rest, rfl, -, rest, rfl, rfl, rfl⟩ := decided
        exact .failed api code error _ fun same => unbound (beq_iff_eq.mpr same)
  | procAddress symbol =>
      change ((procAddress symbol).bind fun found => .done (found, e)).Yields asked (reply, e')
        at run
      obtain ⟨result, one, ended⟩ := Program.yields_bind_done.mp run
      obtain ⟨rfl, rfl⟩ := Prod.mk.inj ended
      refine ⟨?_, rfl⟩
      unfold procAddress at one
      split at one
      · next cut =>
        obtain ⟨rfl, rfl⟩ := one
        exact .unsought symbol (List.contains_iff_mem.mp cut)
      · next clean =>
        obtain ⟨found, rest, rfl, rfl, rfl⟩ := one
        exact .sought symbol _ fun cut => clean (List.contains_iff_mem.mpr cut)
  | bindHwRender enable =>
      rw [serve] at run
      split at run
      · obtain ⟨-, rest, rfl, rfl, ended⟩ := run
        obtain ⟨rfl, rfl⟩ := Prod.mk.inj ended
        exact ⟨.told enable [_], rfl⟩
      · obtain ⟨rfl, ended⟩ := run
        obtain ⟨rfl, rfl⟩ := Prod.mk.inj ended
        exact ⟨.told enable [], rfl⟩

/-- What is written calls no function of EGL. -/
theorem apart_written (records : List Log.Record) : Apart (records.map Machine.written) := by
  intro exchange among
  obtain ⟨record, -, rfl⟩ := List.mem_map.mp among
  rfl

/-- **An errand reads errors** when it should. -/
theorem Errand.errorsRead {provided : Config.Egl} {call : Egl.Call} {reply : call.Answer}
    {asked : List (Exchange Question)} (errand : Errand provided call reply asked) :
    ErrorsRead asked := by
  cases errand with
  | supports | hasCreateContext | unsought => exact .idle
  | bound api => exact .bound api.code .idle
  | failed api result error record unbound =>
      exact .failed api.code result error unbound (.apart rfl .idle)
  | sought => exact .apart rfl .idle
  | told enable records => exact (apart_written records).errorsRead

end Native

/-! ### The requests of a driver -/

/-- Whether a request can lead to a call of a function of EGL. -/
def Request.reachesEgl : Request → Bool
  | .egl (.bindApi _) | .egl (.procAddress _) => true
  | _ => false

namespace Platform

open Native (Apart Errand ErrorsRead)

section Answers

variable {p p' : Platform} {requests later : List (Exchange Request)}
  {asked : List (Exchange Question)}

/-- **Requests that are cut in two** are answered one part after the other. -/
theorem Answers.split (answers : p.Answers (requests ++ later) asked p') :
    ∃ first rest q, asked = first ++ rest ∧ p.Answers requests first q ∧
      q.Answers later rest p' := by
  induction requests generalizing p asked with
  | nil => exact ⟨[], asked, p, rfl, .idle p, answers⟩
  | cons exchange requests ih =>
      cases answers with
      | backend run answers =>
          obtain ⟨first, rest, q, rfl, one, others⟩ := ih answers
          exact ⟨_ ++ first, rest, q, (List.append_assoc _ _ _).symm, .backend run one, others⟩
      | egl run answers =>
          obtain ⟨first, rest, q, rfl, one, others⟩ := ih answers
          exact ⟨_ ++ first, rest, q, (List.append_assoc _ _ _).symm, .egl run one, others⟩
      | frontend run answers =>
          obtain ⟨first, rest, q, rfl, one, others⟩ := ih answers
          exact ⟨_ ++ first, rest, q, (List.append_assoc _ _ _).symm, .frontend run one, others⟩
      | probe run answers =>
          obtain ⟨first, rest, q, rfl, one, others⟩ := ih answers
          exact ⟨_ ++ first, rest, q, (List.append_assoc _ _ _).symm, .probe run one, others⟩
      | log answers =>
          obtain ⟨first, rest, q, rfl, one, others⟩ := ih answers
          exact ⟨_ :: first, rest, q, rfl, .log one, others⟩

/-- An EGL layer that is not asked to bind or for a function calls none of EGL. -/
theorem EglLayer.asksOnly_serve_of_quiet (e : Platform.EglLayer) {call : Egl.Call}
    (quiet : (Request.egl call).reachesEgl = false) :
    (e.serve call).AsksOnly fun question => question.callsEgl = false := by
  cases e with
  | headless state => trivial
  | native state =>
      refine Program.AsksOnly.bind ?_ fun _ => trivial
      cases call with
      | supports | hasCreateContext => trivial
      | bindApi | procAddress => cases quiet
      | bindHwRender enable =>
          rw [Native.Egl.serve]
          split
          · exact ⟨rfl, fun _ => trivial⟩
          · trivial

/-- A question that is no call of a C function is no call of a function of EGL. -/
theorem callsEgl_of_not_native {question : Question} (other : ∀ call, question ≠ .native call) :
    question.callsEgl = false := by
  cases question with
  | native call => exact absurd rfl (other call)
  | _ => rfl

/-- **Requests that cannot lead to a function of EGL** lead to none. -/
theorem Answers.apart (answers : p.Answers requests asked p')
    (quiet : ∀ exchange ∈ requests, exchange.1.reachesEgl = false) : Apart asked := by
  induction answers with
  | idle p => exact nofun
  | backend run answers ih =>
      refine .append ?_ (ih fun exchange among => quiet exchange (.tail _ among))
      exact ((Backend.asksOnly_serve _ _).mono fun _ both => both.2).of_mem run
  | egl run answers ih =>
      refine .append ?_ (ih fun exchange among => quiet exchange (.tail _ among))
      exact (EglLayer.asksOnly_serve_of_quiet _ (quiet _ (.head _))).of_mem run
  | frontend run answers ih =>
      refine .append ?_ (ih fun exchange among => quiet exchange (.tail _ among))
      exact ((Frontend.asksOnly_serve _ _).mono fun _ => callsEgl_of_not_native).of_mem run
  | probe run answers ih =>
      refine .append ?_ (ih fun exchange among => quiet exchange (.tail _ among))
      exact ((Prober.asksOnly_serve _ _).mono fun _ => callsEgl_of_not_native).of_mem run
  | log answers ih =>
      have others := ih fun exchange among => quiet exchange (.tail _ among)
      exact List.forall_mem_cons.mpr ⟨rfl, others⟩

/-- **A call on the EGL layer of the system** is answered by its errand. -/
theorem Answers.egl_cons {e : Native.Egl} {call : Egl.Call} {reply : call.Answer}
    (answers : p.Answers (⟨.egl call, reply⟩ :: requests) asked p') (native : p.egl = .native e) :
    ∃ (first rest : List (Exchange Question)) (q : Platform) (e' : Native.Egl),
      asked = first ++ rest ∧ Errand e.provided call reply first ∧
        q.egl = .native e' ∧ e'.provided = e.provided ∧ q.Answers requests rest p' := by
  cases answers with
  | egl run answers =>
      rw [native] at run
      change ((e.serve call).bind fun result =>
        .done (result.1, Platform.EglLayer.native result.2)).Yields _ _ at run
      obtain ⟨⟨answer, e'⟩, one, ended⟩ := Program.yields_bind_done.mp run
      obtain ⟨rfl, rfl⟩ := Prod.mk.inj ended
      obtain ⟨errand, same⟩ := Native.Egl.errand_of_serve one
      exact ⟨_, _, _, e', rfl, errand, rfl, same, answers⟩

/-- Without calls on the EGL layer it stays as it is. -/
theorem Answers.egl_eq (answers : p.Answers requests asked p') (silent : eglCalls requests = []) :
    p'.egl = p.egl := by
  induction answers with
  | idle p => rfl
  | egl run answers ih => cases silent
  | backend run answers ih | frontend run answers ih | probe run answers ih | log answers ih =>
      exact ih silent

/-- **The EGL layer of the system stays one**, what it provides stays the same, and its errors are
read when they should be. -/
theorem Answers.errorsRead {e : Native.Egl} (answers : p.Answers requests asked p')
    (native : p.egl = .native e) :
    (∃ e', p'.egl = .native e' ∧ e'.provided = e.provided) ∧ ErrorsRead asked := by
  induction requests generalizing p asked e with
  | nil =>
      cases answers
      exact ⟨⟨e, native, rfl⟩, .idle⟩
  | cons exchange requests ih =>
      obtain ⟨request, reply⟩ := exchange
      cases request with
      | egl call =>
          obtain ⟨first, rest, q, e', rfl, errand, native', same, others⟩ := answers.egl_cons native
          obtain ⟨⟨e'', kept, same'⟩, read⟩ := ih others native'
          exact ⟨⟨e'', kept, same'.trans same⟩, errand.errorsRead.append read⟩
      | backend | frontend | probe | log =>
          -- whoever else is asked calls no function of EGL
          have answers : p.Answers ([⟨_, reply⟩] ++ requests) asked p' := answers
          obtain ⟨first, rest, q, rfl, one, others⟩ := answers.split
          have apart := one.apart (List.forall_mem_singleton.mpr rfl)
          obtain ⟨kept, read⟩ := ih others ((one.egl_eq rfl).trans native)
          exact ⟨kept, apart.errorsRead.append read⟩

/-- A record is no C function. -/
theorem Answers.functionCalls_said {remark : Driver.Remark}
    (answers : p.Answers [remark.said] asked p') : Native.functionCalls asked = [] := by
  cases answers with
  | log idle =>
      cases idle
      rfl

end Answers

end Platform

namespace Native

/-! ### One operation -/

/-- **The bindings that a configuration admits**: it provides the API, and it has the create-context
extension or the version does without. -/
structure Admitted (provided : Config.Egl) (client : ClientApi) (version : Version) : Prop where
  enabled : provided.provides client = true
  enough : provided.createContext = true ∨ version.Plain client

/-- Whether an operation is about the functions of EGL: a binding, or a question for one of them. -/
def concernsEgl : Operation → Bool
  | .bindApi _ _ | .getProcAddress _ => true
  | _ => false

/-- **The C functions that an operation calls**, each with its result, if the API `attempted` was
asked for last before it.  Operations that are not about EGL may call any functions but those of
EGL. -/
inductive Conduct (provided : Config.Egl) (attempted : GraphicsApi) :
    Operation → Reply → List Event → Prop
  | bound (client : ClientApi) (version : Version) (admitted : Admitted provided client version) :
      Conduct provided attempted (.bindApi client.graphics version) (.truth true)
        [⟨.eglBindApi client.code, Egl.bound⟩]
  | failed (client : ClientApi) (version : Version) (result : UInt32) (error : Int32)
      (admitted : Admitted provided client version) (unbound : result ≠ Egl.bound) :
      Conduct provided attempted (.bindApi client.graphics version) (.truth false)
        [⟨.eglBindApi client.code, result⟩, ⟨.eglGetError, error⟩]
  | refused (api : GraphicsApi) (version : Version)
      (foreign : ∀ client, client.graphics = api → ¬Admitted provided client version) :
      Conduct provided attempted (.bindApi api version) (.truth false) []
  | sought (symbol : String) (found : Bool)
      (recorded : attempted ∈ [GraphicsApi.openGl, .openGlEs, .openVg])
      (clean : '\x00' ∉ symbol.toList) :
      Conduct provided attempted (.getProcAddress symbol) (.truth found)
        [⟨.eglGetProcAddress symbol, found⟩]
  | unsought (symbol : String)
      (barred : attempted ∉ [GraphicsApi.openGl, .openGlEs, .openVg] ∨ '\x00' ∈ symbol.toList) :
      Conduct provided attempted (.getProcAddress symbol) (.truth false) []
  | apart (op : Operation) (reply : Reply) (events : List Event) (other : concernsEgl op = false)
      (silent : ∀ event ∈ events, event.1.ofEgl = false) :
      Conduct provided attempted op reply events

end Native

namespace Driver

open Native (Admitted Conduct concernsEgl functionCalls functionCalls_append)

section Course

variable {d d' : Driver} {op : Operation} {reply : Reply} {exchanges : List (Exchange Request)}
  {p p' : Platform} {e : Native.Egl} {asked : List (Exchange Question)}

/-- An operation that is not about EGL makes no request that could lead to one of its functions. -/
theorem Course.quiet (course : Course d op exchanges reply d') (other : concernsEgl op = false) :
    ∀ exchange ∈ exchanges, exchange.1.reachesEgl = false := by
  cases course with
  | unbindable | unprovided | extensionMissing | bindingTried | symbolUnbound | symbolSought =>
      cases other
  | released pipeline =>
      rcases pipeline with ⟨display, presenter, _ | context⟩ <;>
        simp [releasing, contextReleasing, Remark.said, Request.reachesEgl]
  | _ => simp [showing, Remark.said, Request.reachesEgl]

/-- The APIs of EGL are those that a driver uses EGL for. -/
theorem usesEgl_iff : d.usesEgl = true ↔ d.api ∈ [GraphicsApi.openGl, .openGlEs, .openVg] := by
  rw [usesEgl, isSome_client, List.contains_iff_mem]

/-- **One operation of a driver** over the EGL layer of the system calls the C functions that it
should. -/
theorem Course.conduct (course : Course d op exchanges reply d')
    (answers : p.Answers exchanges asked p') (native : p.egl = .native e) :
    Conduct e.provided d.api op reply (functionCalls asked) := by
  by_cases other : concernsEgl op = false
  · exact .apart op reply _ other (answers.apart (course.quiet other)).ofEgl
  -- the courses of a binding and of a symbol are left; each request is answered by its errand
  cases course with
  | unbindable api version foreign =>
      rw [answers.functionCalls_said]
      refine .refused api version fun client behind => ?_
      rw [← behind, client.client?_graphics] at foreign
      cases foreign
  | unprovided api version client known =>
      obtain ⟨first, rest, q, e₁, rfl, told, -, -, later⟩ := answers.egl_cons native
      cases told with
      | supports _ _ disabled =>
          rw [List.nil_append, later.functionCalls_said]
          refine .refused api version fun other behind admitted => ?_
          obtain rfl := Option.some.inj
            ((GraphicsApi.client?_eq_some.mpr behind).symm.trans known)
          exact Bool.false_ne_true (disabled.trans admitted.enabled)
  | extensionMissing api version client known needed =>
      obtain ⟨first, rest, q, e₁, rfl, told, native₁, same, later⟩ := answers.egl_cons native
      cases told with
      | supports =>
          obtain ⟨first, rest, q, e₂, rfl, told, -, -, last⟩ := later.egl_cons native₁
          cases told with
          | hasCreateContext _ missing =>
              rw [List.nil_append, List.nil_append, last.functionCalls_said]
              refine .refused api version fun other behind admitted => ?_
              obtain rfl := Option.some.inj
                ((GraphicsApi.client?_eq_some.mpr behind).symm.trans known)
              rw [same] at missing
              rcases admitted.enough with creates | plain
              · exact Bool.false_ne_true (missing.trans creates)
              · exact (version.needsCreateContext_iff _).mp needed plain
  | bindingTried api version client creates bound known enough =>
      obtain rfl := GraphicsApi.client?_eq_some.mp known
      obtain ⟨first, rest, q, e₁, rfl, told, native₁, same, later⟩ := answers.egl_cons native
      cases told with
      | supports _ _ enabled =>
          obtain ⟨first, rest, q, e₂, rfl, told, native₂, -, tried⟩ := later.egl_cons native₁
          cases told with
          | hasCreateContext _ created =>
              obtain ⟨first, rest, q, e₃, rfl, told, -, -, last⟩ := tried.egl_cons native₂
              have admitted : Admitted e.provided client version := by
                refine ⟨enabled.symm, ?_⟩
                rcases enough with rfl | unneeded
                · rw [same] at created
                  exact .inl created.symm
                · refine .inr (by_contra fun needed => ?_)
                  rw [(version.needsCreateContext_iff client).mpr needed] at unneeded
                  cases unneeded
              rw [List.nil_append, List.nil_append, functionCalls_append,
                last.functionCalls_said, List.append_nil]
              cases told with
              | bound => exact .bound client version admitted
              | failed _ result error record unbound =>
                  exact .failed client version result error admitted unbound
  | symbolUnbound symbol unbound =>
      cases answers
      refine .unsought symbol (.inl ?_)
      rw [← usesEgl_iff, unbound]
      exact Bool.false_ne_true
  | symbolSought symbol found bound =>
      have recorded := usesEgl_iff.mp bound
      obtain ⟨first, rest, q, e₁, rfl, told, -, -, idle⟩ := answers.egl_cons native
      cases idle
      rw [List.append_nil]
      cases told with
      | sought _ _ clean => exact .sought symbol found recorded clean
      | unsought _ cut => exact .unsought symbol (.inr cut)
  | _ => exact absurd rfl other

/-- Opening a driver makes no request that could lead to a function of EGL. -/
theorem start_quiet {outcome : Except Failure Driver} (run : start.Yields exchanges outcome) :
    ∀ exchange ∈ exchanges, exchange.1.reachesEgl = false := by
  obtain ⟨display, rest, rfl, run⟩ := run
  rcases display with cause | display
  · obtain ⟨rfl, -⟩ := run
    simp [Request.reachesEgl]
  · obtain ⟨presenter, rest, rfl, run⟩ := run
    rcases presenter with cause | presenter
    · obtain ⟨-, rest, rfl, rfl, -⟩ := run
      simp [Request.reachesEgl]
    · obtain ⟨-, rest, rfl, rfl, -⟩ := run
      simp [Request.reachesEgl]

end Course

end Driver

/-! ### The life of a driver -/

namespace Native

/-- **How the functions of EGL are called** in a history on a platform, if the API `attempted` was
asked for last before it: each operation calls those that it should, and a binding is remembered
whatever came of it. -/
inductive Conducted (provided : Config.Egl) :
    GraphicsApi → Platform → List Episode → List (Exchange Question) → Platform → Prop
  | idle (attempted : GraphicsApi) (p : Platform) : Conducted provided attempted p [] [] p
  | step {attempted : GraphicsApi} {p q p' : Platform} {episode : Episode} {later : List Episode}
      {during asked : List (Exchange Question)} (answers : p.Answers episode.exchanges during q)
      (conduct : Conduct provided attempted episode.op episode.reply (functionCalls during))
      (others : Conducted provided (episode.op.api?.getD attempted) q later asked p') :
      Conducted provided attempted p (episode :: later) (during ++ asked) p'

end Native

namespace Driver

open Machine (Surroundings)
open Native (Apart Conducted ErrorsRead functionCalls)

section Life

variable {p p' : Platform} {e : Native.Egl} {asked : List (Exchange Question)}

/-- **A history** over the EGL layer of the system is conducted. -/
theorem Lives.conducted {d d' : Driver} {episodes : List Episode} (lives : Lives d episodes d')
    (answers : p.Answers (episodes.flatMap Episode.exchanges) asked p')
    (native : p.egl = .native e) : Conducted e.provided d.api p episodes asked p' := by
  induction lives generalizing p e asked with
  | idle d =>
      cases answers
      exact .idle _ _
  | step run lives ih =>
      have course := perform_course run
      obtain ⟨during, rest, q, rfl, one, others⟩ := answers.split
      obtain ⟨⟨e', native', same⟩, -⟩ := one.errorsRead native
      have later := ih others native'
      rw [same, course.api_eq] at later
      exact .step one (course.conduct one native) later

end Life

/-- **A session that could begin** is an opening and a history. -/
theorem lives_of_session {ops : List Operation} {exchanges : List (Exchange Request)}
    {replies : List Reply} {d : Driver}
    (run : (session ops).Yields exchanges (.ok (replies, d))) :
    ∃ opening episodes d₁, start.Yields opening (.ok d₁) ∧ Lives d₁ episodes d ∧
      episodes.map Episode.op = ops ∧ episodes.map Episode.reply = replies ∧
      exchanges = opening ++ episodes.flatMap Episode.exchanges := by
  obtain ⟨opening, later, started, rfl, opened, run⟩ := Program.yields_bind.mp run
  rcases started with failure | d₁
  · obtain ⟨-, ended⟩ := run
    cases ended
  · obtain ⟨⟨replies', d'⟩, run, ended⟩ := Program.yields_bind_done.mp run
    cases ended
    obtain ⟨episodes, lives, rfl, rfl, rfl⟩ := yields_performAll.mp run
    exact ⟨opening, episodes, d₁, opened, lives, rfl, rfl, rfl⟩

/-- A machine whose first binding fails with a result that is not nought. -/
def fickle : Surroundings where
  world _ question := (secluded ⟨⟨false, false, false⟩, [], false⟩).world [] question
  library past call :=
    match call with
    | .eglBindApi _ => if past.any fun exchange => exchange.1.callsEgl then 1 else 2
    | .eglGetError => 0x3000
    | call => obliging ⟨⟨false, false, false⟩, [], false⟩ call

end Driver

end Scanout
