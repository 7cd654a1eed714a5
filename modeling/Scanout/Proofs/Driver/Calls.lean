import Scanout.Proofs.Driver.Courses

/-!
# The backend calls of an entry point

What an entry point asks of its backend depends on nothing but the handles that its driver holds and
the answers it is given.  `Driver.Stretch` lists all that an operation can ask of it, as what is left
of the courses of the operation once everything but the backend calls is forgotten.

## Main definitions

* `backendCalls` — the backend calls of a transcript, each with its answer
* `Backend.Failed` — a call that failed
* `Driver.Opening` — what opening a driver can ask
* `Driver.Stretch` — what an operation can ask, and the handles that its driver holds afterwards

## Main results

* `Driver.perform_calls` — every operation asks no more of the backend than its stretch says

## Design notes

The records of the log and the questions to the other collaborators are forgotten, so these
statements are about the order of the backend calls and not about their place among the others.
-/

namespace Scanout

/-- The backend call of an exchange, if it is one. -/
def backendExchange? : Exchange Request → Option (Exchange Backend.Call)
  | ⟨.backend call, reply⟩ => some ⟨call, reply⟩
  | _ => none

/-- **The backend calls of a transcript**, each with its answer. -/
def backendCalls (exchanges : List (Exchange Request)) : List (Exchange Backend.Call) :=
  exchanges.filterMap backendExchange?

section BackendCalls

variable {rest : List (Exchange Request)}

@[simp] theorem backendCalls_nil : backendCalls [] = [] := rfl

@[simp] theorem backendCalls_backend {call : Backend.Call} {reply : Answer (Request.backend call)} :
    backendCalls (⟨.backend call, reply⟩ :: rest) = ⟨call, reply⟩ :: backendCalls rest := rfl

@[simp] theorem backendCalls_egl {call : Egl.Call} {reply : Answer (Request.egl call)} :
    backendCalls (⟨.egl call, reply⟩ :: rest) = backendCalls rest := rfl

@[simp] theorem backendCalls_frontend {call : Frontend.Call}
    {reply : Answer (Request.frontend call)} :
    backendCalls (⟨.frontend call, reply⟩ :: rest) = backendCalls rest := rfl

@[simp] theorem backendCalls_probe {probe : Input.Probe} {reply : Answer (Request.probe probe)} :
    backendCalls (⟨.probe probe, reply⟩ :: rest) = backendCalls rest := rfl

@[simp] theorem backendCalls_log {record : Log.Record} {reply : Answer (Request.log record)} :
    backendCalls (⟨.log record, reply⟩ :: rest) = backendCalls rest := rfl

@[simp] theorem backendCalls_append {first : List (Exchange Request)} :
    backendCalls (first ++ rest) = backendCalls first ++ backendCalls rest :=
  List.filterMap_append

end BackendCalls

/-- **A call that failed**, with the failure that it was answered with. -/
inductive Backend.Failed : Exchange Backend.Call → Failure → Prop
  | createDisplay (cause : Failure) : Failed ⟨.createDisplay, .error cause⟩ cause
  | createPresenter (display : Display) (format : PixelFormat) (background : UInt32)
      (cause : Failure) : Failed ⟨.createPresenter display format background, .error cause⟩ cause
  | createContext (display : Display) (width height : UInt32)
      (attributes : ContextAttributes UInt32) (cause : Failure) :
      Failed ⟨.createContext display width height attributes, .error cause⟩ cause
  | lockSurface (context : RenderContext) (cause : Failure) :
      Failed ⟨.lockSurface context, .error cause⟩ cause
  | post (presenter : Presenter) (surface : Surface) (placement : Placement) (cause : Failure) :
      Failed ⟨.post presenter surface placement, .error cause⟩ cause

namespace Driver

open Request

/-! ### Opening and releasing -/

/-- **What opening a driver can ask of the backend.**  A presenter that is refused takes the display
with it. -/
inductive Opening : List (Exchange Backend.Call) → Except Failure Driver → Prop
  | noDisplay (cause : Failure) :
      Opening [⟨.createDisplay, .error cause⟩] (.error (.noDisplay cause))
  | noPresenter (display : Display) (cause : Failure) :
      Opening
        [⟨.createDisplay, .ok display⟩,
          ⟨.createPresenter display Panel.format Panel.background, .error cause⟩,
          ⟨.destroyDisplay display, ()⟩]
        (.error (.noPresenter cause))
  | opened (display : Display) (presenter : Presenter) :
      Opening
        [⟨.createDisplay, .ok display⟩,
          ⟨.createPresenter display Panel.format Panel.background, .ok presenter⟩]
        (.ok (opened display presenter))

theorem start_calls {exchanges : List (Exchange Request)} {outcome : Except Failure Driver}
    (run : start.Yields exchanges outcome) : Opening (backendCalls exchanges) outcome := by
  obtain ⟨display, rest, rfl, run⟩ := run
  rcases display with cause | display
  · obtain ⟨rfl, rfl⟩ := run
    exact .noDisplay cause
  · obtain ⟨presenter, rest, rfl, run⟩ := run
    rcases presenter with cause | presenter
    · obtain ⟨-, rest, rfl, rfl, rfl⟩ := run
      exact .noPresenter display cause
    · obtain ⟨-, rest, rfl, rfl, rfl⟩ := run
      exact .opened display presenter

/-- The calls that give a render context back, if there is one. -/
def contextReleases : Option RenderContext → List (Exchange Backend.Call)
  | none => []
  | some context => [⟨.destroyContext context, ()⟩]

/-- The calls that give back what a driver holds. -/
def releases : Option Pipeline → List (Exchange Backend.Call)
  | none => []
  | some pipeline =>
      contextReleases pipeline.context ++
        [⟨.destroyPresenter pipeline.presenter, ()⟩, ⟨.destroyDisplay pipeline.display, ()⟩]

/-- What giving back a pipeline asks of the backend. -/
theorem backendCalls_releasing (pipeline : Pipeline) :
    backendCalls (releasing pipeline) = releases (some pipeline) := by
  rcases pipeline with ⟨display, presenter, _ | context⟩ <;> rfl

/-- **Destroying a driver gives back all it holds**, and leaves nothing else changed. -/
theorem destroy_calls {d d' : Driver} {exchanges : List (Exchange Request)}
    (run : d.destroy.Yields exchanges d') :
    backendCalls exchanges = releases d.pipeline ∧ d' = { d with pipeline := none } := by
  cases destroy_course run with
  | releasedBefore gone =>
      rw [gone]
      exact ⟨rfl, by rw [← gone]⟩
  | released pipeline held =>
      rw [held]
      exact ⟨backendCalls_releasing pipeline, rfl⟩

/-! ### Setting a video mode -/

/-- The creation of the render context, with an answer. -/
def contextCreation (display : Display) (reply : Except Failure RenderContext) :
    Exchange Backend.Call :=
  ⟨.createContext display Panel.width Panel.height Panel.attributes, reply⟩

/-- The calls that show a render context. -/
def shows (context : RenderContext) : List (Exchange Backend.Call) :=
  [⟨.makeCurrent context, ()⟩, ⟨.clearColorBuffer, ()⟩]

/-! ### Presenting a frame -/

/-- The calls of a frame whose surface cannot be locked. -/
def droppedFrame (context : RenderContext) (cause : Failure) : List (Exchange Backend.Call) :=
  [⟨.swapBuffers context, ()⟩, ⟨.lockSurface context, .error cause⟩]

/-- The calls of a frame that is presented, whether or not it could be posted. -/
def presentedFrame (context : RenderContext) (presenter : Presenter) (surface : Surface)
    (posted : Except Failure Unit) : List (Exchange Backend.Call) :=
  [⟨.swapBuffers context, ()⟩, ⟨.lockSurface context, .ok surface⟩,
    ⟨.post presenter surface Panel.placement, posted⟩, ⟨.unlockSurface context surface, ()⟩]

/-! ### Any operation -/

theorem setFlags_pipeline (flags : Flags) (d : Driver) :
    (d.setFlags flags).pipeline = d.pipeline := by
  unfold setFlags
  split <;> rfl

/-- **What an operation can ask of the backend**, given the handles that its driver holds, and the
handles that it holds afterwards. -/
inductive Stretch : Operation → Option Pipeline → List (Exchange Backend.Call) →
    Option Pipeline → Prop
  | silent (op : Operation) (held : Option Pipeline) : Stretch op held [] held
  | released (held : Option Pipeline) : Stretch .destroy held (releases held) none
  | asked (pipeline : Pipeline) (known : Option Rate) :
      Stretch .getRefreshRate (some pipeline) [⟨.refreshRate pipeline.display, known⟩]
        (some pipeline)
  | kept (width height : UInt32) (fullscreen : Bool) (pipeline : Pipeline)
      (context : RenderContext) (made : pipeline.context = some context) :
      Stretch (.setVideoMode width height fullscreen) (some pipeline) (shows context)
        (some pipeline)
  | refused (width height : UInt32) (fullscreen : Bool) (pipeline : Pipeline) (cause : Failure)
      (unmade : pipeline.context = none) :
      Stretch (.setVideoMode width height fullscreen) (some pipeline)
        [contextCreation pipeline.display (.error cause)] (some pipeline)
  | created (width height : UInt32) (fullscreen : Bool) (pipeline : Pipeline)
      (context : RenderContext) (unmade : pipeline.context = none) :
      Stretch (.setVideoMode width height fullscreen) (some pipeline)
        (contextCreation pipeline.display (.ok context) :: shows context)
        (some { pipeline with context := some context })
  | dropped (frame : UInt64) (pipeline : Pipeline) (context : RenderContext) (cause : Failure)
      (made : pipeline.context = some context) :
      Stretch (.swapBuffers frame) (some pipeline) (droppedFrame context cause) (some pipeline)
  | presented (frame : UInt64) (pipeline : Pipeline) (context : RenderContext)
      (surface : Surface) (posted : Except Failure Unit)
      (made : pipeline.context = some context) :
      Stretch (.swapBuffers frame) (some pipeline)
        (presentedFrame context pipeline.presenter surface posted) (some pipeline)

/-- **Every operation asks no more of the backend than its stretch says.** -/
theorem perform_calls {op : Operation} {d d' : Driver} {reply : Reply}
    {exchanges : List (Exchange Request)} (run : (d.perform op).Yields exchanges (reply, d')) :
    Stretch op d.pipeline (backendCalls exchanges) d'.pipeline := by
  -- the courses that reach the backend come first, then those that only record or look
  cases perform_course run with
  | released pipeline held =>
      rw [held, backendCalls_releasing]
      exact .released (some pipeline)
  | contextKept width height fullscreen pipeline context held made =>
      show Stretch _ d.pipeline _ d.pipeline
      rw [held]
      exact .kept width height fullscreen pipeline context made
  | contextRefused width height fullscreen pipeline cause held unmade =>
      show Stretch _ d.pipeline _ d.pipeline
      rw [held]
      exact .refused width height fullscreen pipeline cause unmade
  | contextMade width height fullscreen pipeline context held unmade =>
      rw [held]
      exact .created width height fullscreen pipeline context unmade
  | frameDropped frame pipeline context cause bound held made =>
      rw [held]
      exact .dropped frame pipeline context cause made
  | frameUnposted frame pipeline context surface cause bound held made =>
      rw [held]
      exact .presented frame pipeline context surface (.error cause) made
  | framePresented frame pipeline context surface bound held made =>
      rw [held]
      exact .presented frame pipeline context surface (.ok ()) made
  | rateAsked pipeline known held =>
      rw [held]
      exact .asked pipeline known
  | flagsSet flags =>
      rw [setFlags_pipeline]
      exact .silent _ _
  | _ => exact .silent _ _

end Driver

end Scanout
