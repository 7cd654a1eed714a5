import Scanout.Proofs.Driver.Life

/-!
# Surfaces are locked, posted and unlocked within one frame

A surface that a driver locks belongs to one frame: it is posted once and unlocked once before the
entry point that locked it returns, also if it could not be posted, and the buffers of its context
were swapped once before.  So no surface is locked while the frontend has its turn, and a frame that
fails does not block the next one.

## Main definitions

* `Driver.Bracketed` — what may happen to surfaces during one operation
* `Driver.lockedAfter` — the surfaces that are locked after a list of calls
* `Driver.SurfacesInOrder` — the surfaces of a driver over its whole life

## Main result

* `Driver.life_surfaces_inOrder`
-/

namespace Scanout.Driver

/-- Whether a call brings a surface into being, shows it or gives it back. -/
def movesSurface : Backend.Call → Bool
  | .swapBuffers _ | .lockSurface _ | .post _ _ _ | .unlockSurface _ _ => true
  | .createDisplay | .destroyDisplay _ | .refreshRate _ | .createPresenter _ _ _
  | .destroyPresenter _ | .createContext _ _ _ _ | .destroyContext _ | .makeCurrent _
  | .clearColorBuffer => false

/-- The calls among others that move a surface, each with its answer. -/
def surfaceCalls (calls : List (Exchange Backend.Call)) : List (Exchange Backend.Call) :=
  calls.filter fun exchange => movesSurface exchange.1

/-- **What may happen to surfaces during one operation**: nothing at all, or, if the operation
presents a frame, a swap and a lock on one context that is refused, or a swap and a lock on one context
followed by one post of the locked surface, whatever comes of it, and one unlock on that context. -/
inductive Bracketed : Operation → List (Exchange Backend.Call) → Prop
  | untouched (op : Operation) : Bracketed op []
  | dropped (frame : UInt64) (context : RenderContext) (cause : Failure) :
      Bracketed (.swapBuffers frame)
        [⟨.swapBuffers context, ()⟩, ⟨.lockSurface context, .error cause⟩]
  | presented (frame : UInt64) (context : RenderContext) (presenter : Presenter)
      (surface : Surface) (placement : Placement) (posted : Except Failure Unit) :
      Bracketed (.swapBuffers frame)
        [⟨.swapBuffers context, ()⟩, ⟨.lockSurface context, .ok surface⟩,
          ⟨.post presenter surface placement, posted⟩, ⟨.unlockSurface context surface, ()⟩]

/-- The locked surfaces after one more call. -/
def lockedStep (locked : List Surface) : Exchange Backend.Call → List Surface
  | ⟨.lockSurface _, .ok surface⟩ => surface :: locked
  | ⟨.unlockSurface _ surface, _⟩ => locked.erase surface
  | _ => locked

/-- **The surfaces that are locked after a list of calls**, if some were before. -/
def lockedAfter (locked : List Surface) (calls : List (Exchange Backend.Call)) : List Surface :=
  calls.foldl lockedStep locked

/-! ### One entry point -/

theorem lockedAfter_append {locked : List Surface} {first rest : List (Exchange Backend.Call)} :
    lockedAfter locked (first ++ rest) = lockedAfter (lockedAfter locked first) rest :=
  List.foldl_append

/-- Releasing a driver moves no surface. -/
theorem surfaceCalls_releases (held : Option Pipeline) : surfaceCalls (releases held) = [] := by
  rcases held with _ | ⟨display, presenter, _ | context⟩ <;> rfl

theorem lockedAfter_releases (held : Option Pipeline) (locked : List Surface) :
    lockedAfter locked (releases held) = locked := by
  rcases held with _ | ⟨display, presenter, _ | context⟩ <;> rfl

/-- **Surfaces are moved within a bracket only**, whatever an operation asks of the backend. -/
theorem Stretch.bracketed {op : Operation} {held held' : Option Pipeline}
    {calls : List (Exchange Backend.Call)} (stretch : Stretch op held calls held') :
    Bracketed op (surfaceCalls calls) := by
  cases stretch with
  | silent => exact .untouched op
  | released =>
      rw [surfaceCalls_releases]
      exact .untouched _
  | asked | kept | refused | created => exact .untouched _
  | dropped frame pipeline context cause => exact .dropped frame context cause
  | presented frame pipeline context surface posted =>
      exact .presented frame context pipeline.presenter surface Panel.placement posted

/-- **An operation leaves the locked surfaces as they were.** -/
theorem Stretch.lockedAfter_eq {op : Operation} {held held' : Option Pipeline}
    {calls : List (Exchange Backend.Call)} (stretch : Stretch op held calls held')
    (locked : List Surface) : lockedAfter locked calls = locked := by
  cases stretch with
  | released => exact lockedAfter_releases held locked
  | presented frame pipeline context surface posted => exact List.erase_cons_head surface locked
  | silent | asked | kept | refused | created | dropped => rfl

/-- Opening a driver moves no surface. -/
theorem Opening.surfaceCalls_eq {calls : List (Exchange Backend.Call)}
    {outcome : Except Failure Driver} (opening : Opening calls outcome) :
    surfaceCalls calls = [] := by
  cases opening <;> rfl

theorem Opening.lockedAfter_eq {calls : List (Exchange Backend.Call)}
    {outcome : Except Failure Driver} (opening : Opening calls outcome) :
    lockedAfter [] calls = [] := by
  cases opening <;> rfl

/-! ### A whole life -/

/-- The episodes of a life are bracketed one by one. -/
theorem Lives.bracketed {d d' : Driver} {episodes : List Episode} (lives : Lives d episodes d') :
    ∀ episode ∈ episodes, Bracketed episode.op (surfaceCalls episode.calls) := by
  induction lives with
  | idle => exact fun _ member => by cases member
  | step run lives ih =>
      intro episode member
      rcases List.mem_cons.mp member with rfl | member
      · exact (perform_calls run).bracketed
      · exact ih episode member

/-- Between two episodes the same surfaces are locked as before the first of them. -/
theorem Lives.lockedAfter_eq {d d' : Driver} {before after : List Episode} {locked : List Surface}
    (lives : Lives d (before ++ after) d') :
    lockedAfter locked (before.flatMap Episode.calls) = locked := by
  induction before generalizing d with
  | nil => rfl
  | cons episode before ih =>
      cases lives with
      | step run lives =>
          -- the first episode leaves the surfaces as they were, so the others begin from the same
          have same := (perform_calls run).lockedAfter_eq locked
          rw [List.flatMap_cons, lockedAfter_append, Episode.calls, same]
          exact ih lives

/-- **The surfaces of a driver are in order over its whole life.** -/
structure SurfacesInOrder (opening : List (Exchange Request)) (episodes : List Episode)
    (closing : List (Exchange Request)) : Prop where
  /-- Opening the driver moves no surface. -/
  untouchedFirst : surfaceCalls (backendCalls opening) = []
  /-- Each operation moves surfaces within one bracket, if at all. -/
  bracketed : ∀ episode ∈ episodes, Bracketed episode.op (surfaceCalls episode.calls)
  /-- Whenever the frontend has its turn, no surface is locked. -/
  unlocked : ∀ before after, episodes = before ++ after →
    lockedAfter [] (backendCalls opening ++ before.flatMap Episode.calls) = []
  /-- Releasing the driver moves no surface. -/
  untouchedLast : surfaceCalls (backendCalls closing) = []

/-- **Surfaces are locked, posted and unlocked within one frame, over the whole life of a driver**,
whatever it is asked for and whatever its requests are answered with. -/
theorem life_surfaces_inOrder {opening closing : List (Exchange Request)} {episodes : List Episode}
    (life : Life opening episodes closing) : SurfacesInOrder opening episodes closing := by
  cases life with
  | refused run =>
      refine ⟨(start_calls run).surfaceCalls_eq, ?_, ?_, rfl⟩
      · intro episode member
        cases member
      · intro before after split
        obtain ⟨rfl, rfl⟩ := List.nil_eq_append_iff.mp split
        rw [List.flatMap_nil, List.append_nil]
        exact (start_calls run).lockedAfter_eq
  | lived opened lives released =>
      refine ⟨(start_calls opened).surfaceCalls_eq, lives.bracketed, ?_, ?_⟩
      · rintro before after rfl
        rw [lockedAfter_append, (start_calls opened).lockedAfter_eq]
        exact lives.lockedAfter_eq
      · rw [(destroy_calls released).1]
        exact surfaceCalls_releases _

/-- Two frames that cannot be posted: the surface of the first is unlocked before the second. -/
theorem unposted_surfaces_inOrder :
    let d := opened ⟨7⟩ ⟨7⟩
    let frames := [.bindApi .openGlEs ⟨2, 0⟩, .setVideoMode 0 0 true, .swapBuffers 1, .swapBuffers 2]
    let unposted := presentedFrame ⟨7⟩ ⟨7⟩ ⟨7⟩ (.error .displayUnavailable)
    SurfacesInOrder (start.transcribe (unposting 7)).1 (rehearse (unposting 7) d frames).1
        ((rehearse (unposting 7) d frames).2.destroy.transcribe (unposting 7)).1 ∧
      (rehearse (unposting 7) d frames).1.map Episode.calls =
        [[], contextCreation ⟨7⟩ (.ok ⟨7⟩) :: shows ⟨7⟩, unposted, unposted] :=
  ⟨life_surfaces_inOrder (life_rehearse (unposting 7) rfl _), rfl⟩

end Scanout.Driver
