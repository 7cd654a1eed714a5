import Scanout.Proofs.Driver.History
import Scanout.Proofs.Driver.SurfaceBracket
import Scanout.Proofs.Headless.Service

/-!
# No frame is lost or invented

Over a headless backend a driver shows a frame whenever it has an API that EGL provides and a context
to show it from, and never otherwise: each of these frames is swapped, locked, posted and unlocked, and
the backend counts it.  The backend numbers its surfaces with a counter that wraps; since no surface is
locked between two operations, it does not matter from where the counter began.  The frames are counted
in a word, which tells how many they are as long as they are fewer than it has values.

## Main definitions

* `Driver.showsFrames` — whether a history ends with a driver that shows frames
* `Headless.Framed` — what a stretch with a number of frames leaves of a backend
* `Driver.FramesKept` — the frames of a driver over a headless backend

## Main results

* `Driver.perform_framed` — one operation
* `Driver.lives_framesKept` — a whole history
-/

namespace Scanout

/-- Whether an act posts a surface. -/
def Backend.Act.posts : Backend.Act → Bool
  | .post _ => true
  | _ => false

/-- Whether an operation asks for a frame to be shown. -/
def Operation.swaps : Operation → Bool
  | .swapBuffers _ => true
  | _ => false

namespace Headless

open Driver (movesSurface surfaceCalls)

/-- A backend that has done nothing yet and counts its handles on from a number. -/
def Backend.freshAt (refusals : Refusals) (counter : UInt32) : Backend :=
  { Backend.fresh refusals with lastHandle := counter }

/-! ### What a stretch of calls leaves -/

/-- **What a stretch with `n` frames leaves of a backend**: no surface is locked, the counter has gone
on by as many, and they are what was posted, each in its place on the panel. -/
structure Framed (n : Nat) (b b' : Backend) : Prop where
  free : b'.locked = none
  counted : b'.frames = b.frames + UInt64.ofNat n
  posted : ∃ acts, b'.acts = b.acts ++ acts ∧
    acts.filter Backend.Act.posts = List.replicate n (.post Panel.placement)

theorem Framed.trans {m n : Nat} {b b' b'' : Backend} (first : Framed m b b')
    (later : Framed n b' b'') : Framed (m + n) b b'' := by
  obtain ⟨acts, begun, posted⟩ := first.posted
  obtain ⟨acts', ended, posted'⟩ := later.posted
  refine ⟨later.free, ?_, acts ++ acts', ?_, ?_⟩
  · rw [later.counted, first.counted, UInt64.ofNat_add, UInt64.add_assoc]
  · rw [ended, begun, List.append_assoc]
  · rw [List.filter_append, posted, posted', List.replicate_append_replicate]

section Still

variable {b b' : Backend}

/-- Nothing that is done shows no frame. -/
theorem Framed.refl (free : b.locked = none) : Framed 0 b b :=
  ⟨free, (UInt64.add_zero _).symm, [], (List.append_nil _).symm, rfl⟩

/-- An act that posts nothing shows no frame. -/
theorem framed_acted (free : b.locked = none) {act : Backend.Act} (other : act.posts = false) :
    Framed 0 b (b.acted act) :=
  ⟨free, (UInt64.add_zero _).symm, [act], rfl, by simp [other]⟩

theorem framed_gave (free : b.locked = none) {act : Backend.Act} (other : act.posts = false) :
    Framed 0 b (b.gave act) :=
  ⟨free, (UInt64.add_zero _).symm, [act], rfl, by simp [other]⟩

/-- A call that moves no surface shows no frame. -/
theorem framed_answer {call : Backend.Call} (still : movesSurface call = false)
    (free : b.locked = none) : Framed 0 b (b.answer call).2 := by
  cases call with
  | swapBuffers | lockSurface | post | unlockSurface => cases still
  | destroyDisplay | destroyPresenter | destroyContext | makeCurrent | clearColorBuffer =>
      exact framed_acted free rfl
  | refreshRate => exact .refl free
  | createDisplay =>
      rw [Backend.answer]
      split
      · exact .refl free
      · exact framed_gave free rfl
  | createPresenter =>
      rw [Backend.answer]
      split
      · exact .refl free
      · exact framed_gave free rfl
  | createContext =>
      rw [Backend.answer]
      split
      · exact .refl free
      · exact framed_gave free rfl

/-- Calls that move no surface show no frame. -/
theorem framed_of_still {calls : List (Exchange Backend.Call)} (still : surfaceCalls calls = [])
    (free : b.locked = none) (serves : Serves b calls b') : Framed 0 b b' := by
  induction calls generalizing b with
  | nil =>
      obtain rfl := serves_nil.mp serves
      exact .refl free
  | cons exchange calls ih =>
      have each := List.filter_eq_nil_iff.mp still
      have one := framed_answer (Bool.eq_false_iff.mpr (each exchange List.mem_cons_self)) free
      have others : surfaceCalls calls = [] :=
        List.filter_eq_nil_iff.mpr fun other among => each other (List.mem_cons_of_mem _ among)
      exact one.trans (ih others one.free (serves_cons.mp serves).2)

end Still

end Headless

namespace Driver

open Headless (Framed Serves serves_cons serves_nil framed_of_still)
open Operation

/-- Whether a driver shows the frames it is asked for. -/
def presents (d : Driver) : Bool := d.usesEgl && d.hasContext

/-- **The acts of a frame**: it is swapped, locked, posted over the whole panel and unlocked. -/
def frameActs : List Backend.Act :=
  [.swapBuffers, .lockSurface, .post ⟨⟨0, 0, 480, 320⟩, ⟨0, 0, 320, 480⟩, .degrees270⟩,
    .unlockSurface]

/-- A lock or a post that did not succeed. -/
inductive SurfaceRefused : Exchange Backend.Call → Prop
  | lock (context : RenderContext) (cause : Failure) :
      SurfaceRefused ⟨.lockSurface context, .error cause⟩
  | post (presenter : Presenter) (surface : Surface) (placement : Placement) (cause : Failure) :
      SurfaceRefused ⟨.post presenter surface placement, .error cause⟩

/-- Calls that move no surface refuse none. -/
theorem not_surfaceRefused_of_still {calls : List (Exchange Backend.Call)}
    (still : surfaceCalls calls = []) : ∀ call ∈ calls, ¬ SurfaceRefused call := by
  intro call among refused
  have moves := List.filter_eq_nil_iff.mp still call among
  cases refused <;> exact moves rfl

section Operations

variable {d d' : Driver} {b b' : Headless.Backend} {exchanges : List (Exchange Request)}
  {reply : Reply}

/-- An operation that presents no frame moves no surface. -/
theorem surfaceCalls_of_not_swaps {op : Operation}
    (run : (d.perform op).Yields exchanges (reply, d')) (other : op.swaps = false) :
    surfaceCalls (backendCalls exchanges) = [] := by
  have bracketed := (perform_calls run).bracketed
  generalize surfaceCalls (backendCalls exchanges) = moved at bracketed
  cases bracketed with
  | untouched => rfl
  | dropped => cases other
  | presented => cases other

/-- A swap is always granted. -/
theorem serves_swap {context : RenderContext} {later : List (Exchange Backend.Call)} :
    Serves b (⟨.swapBuffers context, ()⟩ :: later) b' ↔ Serves (b.acted .swapBuffers) later b' := by
  rw [serves_cons]
  exact and_iff_right rfl

/-- Where no surface is locked, a lock is granted. -/
theorem serves_lock (free : b.locked = none) {context : RenderContext}
    {locked : Except Failure Surface} {later : List (Exchange Backend.Call)} :
    Serves b (⟨.lockSurface context, locked⟩ :: later) b' ↔
      locked = .ok ⟨b.nextHandle.toNat⟩ ∧
        Serves { b.gave .lockSurface with locked := some b.nextHandle.toNat } later b' := by
  rw [serves_cons, Headless.Backend.answer, free]

/-- The surface that is locked can be posted. -/
theorem serves_post {surface : Surface} (held : b.locked = some surface.id) {presenter : Presenter}
    {placement : Placement} {posted : Except Failure Unit} {later : List (Exchange Backend.Call)} :
    Serves b (⟨.post presenter surface placement, posted⟩ :: later) b' ↔
      posted = .ok () ∧
        Serves { b.acted (.post placement) with frames := b.frames + 1 } later b' := by
  rw [serves_cons, Headless.Backend.answer, if_pos held]

/-- The surface that is locked is unlocked. -/
theorem serves_unlock {surface : Surface} (held : b.locked = some surface.id)
    {context : RenderContext} {later : List (Exchange Backend.Call)} :
    Serves b (⟨.unlockSurface context surface, ()⟩ :: later) b' ↔
      Serves { b.acted .unlockSurface with locked := none } later b' := by
  rw [serves_cons, Headless.Backend.answer, if_pos held]
  exact and_iff_right rfl

/-- The backend once it has shown one more frame. -/
def shown (b : Headless.Backend) : Headless.Backend :=
  { b with acts := b.acts ++ frameActs, lastHandle := b.nextHandle,
           frames := b.frames + 1 }

theorem framed_shown (free : b.locked = none) : Framed 1 b (shown b) :=
  ⟨free, rfl, frameActs, rfl, rfl⟩

/-- **A frame is served** if and only if its surface is the next one and can be posted. -/
theorem serves_presentedFrame (free : b.locked = none) {context : RenderContext}
    {presenter : Presenter} {surface : Surface} {posted : Except Failure Unit} :
    Serves b (presentedFrame context presenter surface posted) b' ↔
      surface = ⟨b.nextHandle.toNat⟩ ∧ posted = .ok () ∧ b' = shown b := by
  have unlocked : (b.acted .swapBuffers).locked = none := free
  rw [presentedFrame, serves_swap, serves_lock unlocked, Except.ok.injEq]
  refine and_congr_right ?_
  rintro rfl
  rw [serves_post rfl, serves_unlock rfl, serves_nil]
  refine and_congr_right fun _ => ?_
  simp [shown, frameActs, Headless.Backend.acted, Headless.Backend.gave,
    Headless.Backend.nextHandle, free]
  exact Iff.rfl

/-- A frame that is shown refuses no surface. -/
theorem not_surfaceRefused_presentedFrame {context : RenderContext} {presenter : Presenter}
    {surface : Surface} :
    ∀ call ∈ presentedFrame context presenter surface (.ok ()), ¬ SurfaceRefused call := by
  intro call among refused
  cases refused <;> simp [presentedFrame] at among

/-- **A frame that is asked for is shown if the driver presents**: over a backend on which no surface
is locked neither the lock nor the post is refused. -/
theorem swapBuffers_framed {frame : UInt64}
    (run : (d.perform (.swapBuffers frame)).Yields exchanges (reply, d'))
    (free : b.locked = none) (serves : Serves b (backendCalls exchanges) b') :
    Framed (if d.presents then 1 else 0) b b' ∧
      (b'.acts = b.acts ++ if d.presents then frameActs else []) ∧
      ∀ call ∈ backendCalls exchanges, ¬ SurfaceRefused call := by
  cases perform_course run with
  | frameUnhandled frame unbound =>
      obtain rfl := serves_nil.mp serves
      rw [presents, unbound]
      exact ⟨.refl free, (List.append_nil _).symm, List.forall_mem_nil _⟩
  | frameTooEarly frame bound unmade =>
      obtain rfl := serves_nil.mp serves
      rw [presents, hasContext, unmade, Option.isSome_none, Bool.and_false]
      exact ⟨.refl free, (List.append_nil _).symm, List.forall_mem_nil _⟩
  | frameDropped frame pipeline context cause bound held made =>
      -- a backend with no locked surface does not refuse to lock one
      have served : Serves b (droppedFrame context cause) b' := serves
      have unlocked : (b.acted .swapBuffers).locked = none := free
      rw [droppedFrame, serves_swap, serves_lock unlocked] at served
      cases served.1
  | frameUnposted frame pipeline context surface cause bound held made =>
      obtain ⟨-, given, -⟩ := (serves_presentedFrame free).mp serves
      cases given
  | framePresented frame pipeline context surface bound held made =>
      obtain ⟨-, -, rfl⟩ := (serves_presentedFrame free).mp serves
      have presents : d.presents = true := by
        rw [Driver.presents, bound, hasContext, Driver.context, held, Option.bind_some, made]
        rfl
      rw [presents]
      exact ⟨framed_shown free, rfl, not_surfaceRefused_presentedFrame⟩

/-- **What an operation does with frames** over a backend on which no surface is locked: it shows one
if it asks for one and the driver presents, and none otherwise. -/
theorem perform_framed {op : Operation} (run : (d.perform op).Yields exchanges (reply, d'))
    (free : b.locked = none) (serves : Serves b (backendCalls exchanges) b') :
    Framed (if op.swaps && d.presents then 1 else 0) b b' ∧
      ∀ call ∈ backendCalls exchanges, ¬ SurfaceRefused call := by
  cases swaps : op.swaps with
  | false =>
      have still := surfaceCalls_of_not_swaps run swaps
      exact ⟨framed_of_still still free serves, not_surfaceRefused_of_still still⟩
  | true =>
      cases op with
      | swapBuffers frame =>
          obtain ⟨framed, -, granted⟩ := swapBuffers_framed run free serves
          exact ⟨framed, granted⟩
      | _ => cases swaps

end Operations

/-! ### A history -/

/-- **Whether a history ends with a driver that shows frames**: the last binding named an API that EGL
provides, the driver was not destroyed, and some mode was set. -/
def showsFrames (before : List Episode) : Bool :=
  [GraphicsApi.openGl, .openGlEs, .openVg].contains
      (latest binding? (.none, ⟨0, 0⟩) (before.map Episode.op)).1 &&
    (!(before.map Episode.op).any destroys &&
      before.any fun episode => episode.op.setsMode && episode.reply == .truth true)

/-- **The number of frames that are shown** during episodes with others before them. -/
def framesShown (before : List Episode) : List Episode → Nat
  | [] => 0
  | episode :: later =>
      (if episode.op.swaps && showsFrames before then 1 else 0) +
        framesShown (before ++ [episode]) later

/-- The APIs that EGL provides are three. -/
theorem isSome_client (api : GraphicsApi) :
    api.client?.isSome = [GraphicsApi.openGl, .openGlEs, .openVg].contains api := by
  cases api <;> rfl

/-- **What a history tells about the frames of a driver is so.** -/
theorem presents_eq {opening : List (Exchange Request)} {before : List Episode} {d₁ d : Driver}
    (opened : start.Yields opening (.ok d₁)) (lives : Lives d₁ before d) :
    d.presents = showsFrames before := by
  obtain ⟨⟨display, presenter, rfl⟩, -⟩ := start_opened opened
  have api : d.api = _ := congrArg Prod.fst lives.binding_eq
  have context := lives.hasContext_eq
  rw [presents, usesEgl, isSome_client, context, api]
  rfl

/-- **The frames of a history** over a headless backend: as many as the history tells. -/
theorem lives_framed {opening : List (Exchange Request)} {before episodes : List Episode}
    {d₁ d d' : Driver} {b b' : Headless.Backend} (opened : start.Yields opening (.ok d₁))
    (earlier : Lives d₁ before d) (lives : Lives d episodes d') (free : b.locked = none)
    (serves : Serves b (episodes.flatMap Episode.calls) b') :
    Framed (framesShown before episodes) b b' ∧
      ∀ call ∈ episodes.flatMap Episode.calls, ¬ SurfaceRefused call := by
  induction lives generalizing before b with
  | idle d =>
      obtain rfl := serves_nil.mp serves
      exact ⟨.refl free, nofun⟩
  | @step d₁ d₂ d₃ op reply exchanges later run lives ih =>
      rw [List.flatMap_cons, Headless.serves_append] at serves
      obtain ⟨middle, first, serves⟩ := serves
      obtain ⟨framed, granted⟩ := perform_framed run free first
      obtain ⟨framed', granted'⟩ := ih (earlier.concat run) framed.free serves
      rw [presents_eq opened earlier] at framed
      refine ⟨framed.trans framed', ?_⟩
      intro call among
      rcases List.mem_append.mp among with among | among
      · exact granted call among
      · exact granted' call among

/-! ### Warnings -/

/-- Whether a remark is that a frame was lost. -/
def Remark.losesFrame : Remark → Bool
  | .frameDropped _ _ | .postFailed _ _ => true
  | _ => false

/-- **A record that a frame was lost**: it could not be locked or not be posted. -/
def LostFrame (exchange : Exchange Request) : Prop :=
  ∃ remark : Remark, remark.losesFrame = true ∧ exchange = remark.said

/-- How a record that a frame was lost begins. -/
theorem Remark.start_of_losesFrame {remark : Remark} (loses : remark.losesFrame = true) :
    remark.record.level = .warn ∧ remark.record.origin = .driver ∧
      remark.record.text.toList.take 14 ∈ ["KmsContext: fr".toList, "KmsContext: po".toList] := by
  cases remark with
  | frameDropped | postFailed => exact ⟨rfl, rfl, by simp [Remark.record, String.toList_append]⟩
  | _ => cases loses

/-- **A record tells whether a frame was lost**: no other remark begins in the same way. -/
theorem Remark.losesFrame_of_record {remark other : Remark} (same : remark.record = other.record)
    (loses : other.losesFrame = true) : remark.losesFrame = true := by
  obtain ⟨level, origin, begins⟩ := start_of_losesFrame loses
  rw [← same] at level origin begins
  cases remark with
  | frameDropped | postFailed => rfl
  | contextReleased | presenterReleased | displayClosed | unbindable | bindingTried
  | modeRequested | framePresented => cases level
  | fallbackFound | fallbackMissing => cases origin
  | intervalHeld | modeWithoutDisplay | contextRefused | frameTooEarly | unprovided
  | frameUnhandled => simp [Remark.record, String.toList_append] at begins
  | extensionMissing api version =>
      cases api <;> simp [Remark.record, GraphicsApi.label, String.toList_append] at begins

/-- A remark is a record that a frame was lost only if it says so. -/
theorem lostFrame_said {remark : Remark} : LostFrame remark.said ↔ remark.losesFrame = true := by
  constructor
  · rintro ⟨other, loses, same⟩
    have record : remark.record = other.record :=
      Request.log.inj (congrArg Sigma.fst same)
    exact Remark.losesFrame_of_record record loses
  · intro loses
    exact ⟨remark, loses, rfl⟩

/-- Only records are about lost frames. -/
theorem not_lostFrame {request : Request} {reply : Answer request}
    (other : ∀ record, request ≠ .log record) : ¬ LostFrame ⟨request, reply⟩ := by
  rintro ⟨remark, -, same⟩
  exact other remark.record (congrArg Sigma.fst same)

/-- **A frame is lost only where a surface was refused.** -/
theorem Course.not_lostFrame {d d' : Driver} {op : Operation} {exchanges : List (Exchange Request)}
    {reply : Reply} (course : Course d op exchanges reply d')
    (granted : ∀ call ∈ backendCalls exchanges, ¬ SurfaceRefused call) :
    ∀ exchange ∈ exchanges, ¬ LostFrame exchange := by
  cases course with
  | frameDropped frame pipeline context cause =>
      exact absurd (.lock context cause) (granted _ (by simp))
  | frameUnposted frame pipeline context surface cause =>
      exact absurd (.post pipeline.presenter surface Panel.placement cause) (granted _ (by simp))
  | released pipeline =>
      rcases pipeline with ⟨display, presenter, _ | context⟩ <;>
        simp [releasing, contextReleasing, lostFrame_said, Driver.not_lostFrame, Remark.losesFrame]
  | _ => simp [showing, lostFrame_said, Driver.not_lostFrame, Remark.losesFrame]

/-- Opening a driver loses no frame. -/
theorem start_not_lostFrame {opening : List (Exchange Request)} {d : Driver}
    (run : start.Yields opening (.ok d)) : ∀ exchange ∈ opening, ¬ LostFrame exchange := by
  obtain ⟨display, rest, rfl, run⟩ := run
  rcases display with cause | display
  · obtain ⟨-, ended⟩ := run
    cases ended
  · obtain ⟨presenter, rest, rfl, run⟩ := run
    rcases presenter with cause | presenter
    · obtain ⟨-, rest, rfl, -, ended⟩ := run
      cases ended
    · obtain ⟨-, rest, rfl, rfl, ended⟩ := run
      intro exchange among
      simp only [List.mem_cons, List.not_mem_nil, or_false] at among
      rcases among with rfl | rfl | rfl
      · exact Driver.not_lostFrame nofun
      · exact Driver.not_lostFrame nofun
      · -- that the driver is ready is no warning
        rintro ⟨remark, loses, same⟩
        have record := Request.log.inj (congrArg Sigma.fst same)
        have level := (Remark.start_of_losesFrame loses).1
        rw [← record] at level
        cases level

/-- No frame is lost while no surface is refused. -/
theorem Lives.not_lostFrame {d d' : Driver} {episodes : List Episode} (lives : Lives d episodes d')
    (granted : ∀ call ∈ episodes.flatMap Episode.calls, ¬ SurfaceRefused call) :
    ∀ exchange ∈ episodes.flatMap Episode.exchanges, ¬ LostFrame exchange := by
  induction lives with
  | idle => exact nofun
  | step run lives ih =>
      rw [List.flatMap_cons] at granted
      intro exchange among
      rcases List.mem_append.mp among with among | among
      · exact (perform_course run).not_lostFrame
          (fun call here => granted call (List.mem_append_left _ here)) exchange among
      · exact ih (fun call here => granted call (List.mem_append_right _ here)) exchange among

/-! ### A driver over a headless backend -/

/-- **No frame is lost or invented** between a state of a headless backend and a later one. -/
structure FramesKept (b₀ : Headless.Backend) (opening : List (Exchange Request))
    (episodes : List Episode) (b : Headless.Backend) : Prop where
  /-- A frame that is asked for appends its acts if the driver shows frames, and nothing otherwise. -/
  appended : ∀ before frame reply exchanges after,
    episodes = before ++ ⟨.swapBuffers frame, reply, exchanges⟩ :: after →
      ∃ b₁ b₂, Serves b₀ (backendCalls opening ++ before.flatMap Episode.calls) b₁ ∧
        Serves b₁ (backendCalls exchanges) b₂ ∧ Serves b₂ (after.flatMap Episode.calls) b ∧
        b₂.acts = b₁.acts ++ if showsFrames before then frameActs else []
  /-- Every frame is turned by three quarters and fills the panel. -/
  placed : ∀ placement, .post placement ∈ b.acts →
    placement = ⟨⟨0, 0, 480, 320⟩, ⟨0, 0, 320, 480⟩, .degrees270⟩
  /-- What is posted are the frames that are shown. -/
  posted : b.acts.countP Backend.Act.posts = framesShown [] episodes
  /-- The counter tells them, as long as they are fewer than it has values. -/
  counted : framesShown [] episodes < UInt64.size → b.framesPosted = framesShown [] episodes
  granted : ∀ call ∈ backendCalls opening ++ episodes.flatMap Episode.calls, ¬ SurfaceRefused call
  unlost : ∀ exchange ∈ opening ++ episodes.flatMap Episode.exchanges, ¬ LostFrame exchange

/-- **A driver over a headless backend keeps all frames**, whatever creations are refused and from
wherever the backend counts its handles. -/
theorem lives_framesKept {opening : List (Exchange Request)} {episodes : List Episode}
    {d₁ d₂ : Driver} {refusals : Headless.Refusals} {counter : UInt32} {b : Headless.Backend}
    (opened : start.Yields opening (.ok d₁)) (lives : Lives d₁ episodes d₂)
    (serves : Serves (Headless.Backend.freshAt refusals counter)
      (backendCalls opening ++ episodes.flatMap Episode.calls) b) :
    FramesKept (Headless.Backend.freshAt refusals counter) opening episodes b := by
  obtain ⟨b₁, begun, served⟩ := Headless.serves_append.mp serves
  have still := (start_calls opened).surfaceCalls_eq
  have first := framed_of_still still rfl begun
  obtain ⟨framed, granted⟩ := lives_framed opened (.idle d₁) lives first.free served
  obtain ⟨acts, all, posts⟩ := (first.trans framed).posted
  have filtered : b.acts.filter Backend.Act.posts =
      List.replicate (framesShown [] episodes) (.post Panel.placement) := by
    rw [all, ← Nat.zero_add (framesShown [] episodes), ← posts]
    rfl
  refine
    { appended := ?appended, placed := ?placed, posted := ?posted, counted := fun small => ?counted,
      granted := ?granted, unlost := ?unlost }
  case appended =>
    rintro before frame reply exchanges after rfl
    obtain ⟨middle, earlier, later⟩ := lives.split
    rw [List.flatMap_append, List.flatMap_cons, Headless.serves_append] at served
    obtain ⟨b₂, before', served⟩ := served
    obtain ⟨b₃, swapped, after'⟩ := Headless.serves_append.mp served
    have free := (lives_framed opened (.idle d₁) earlier first.free before').1.free
    cases later with
    | step run _ =>
        obtain ⟨-, appended, -⟩ := swapBuffers_framed run free swapped
        rw [presents_eq opened earlier] at appended
        exact ⟨b₂, b₃, Headless.serves_append.mpr ⟨b₁, begun, before'⟩, swapped, after', appended⟩
  case placed =>
    intro placement among
    have kept : .post placement ∈ b.acts.filter Backend.Act.posts :=
      List.mem_filter.mpr ⟨among, rfl⟩
    rw [filtered] at kept
    exact Backend.Act.post.inj (List.eq_of_mem_replicate kept)
  case posted =>
    rw [List.countP_eq_length_filter, filtered, List.length_replicate]
  case counted =>
    refine Headless.Backend.framesPosted_of_frames ?_ small
    rw [(first.trans framed).counted, Nat.zero_add]
    exact UInt64.zero_add _
  case granted =>
    intro call among
    rcases List.mem_append.mp among with among | among
    · exact not_surfaceRefused_of_still still call among
    · exact granted call among
  case unlost =>
    intro exchange among
    rcases List.mem_append.mp among with among | among
    · exact start_not_lostFrame opened exchange among
    · exact lives.not_lostFrame granted exchange among

/-! ### Answers of a headless backend -/

/-- **Answers over a headless backend**: its calls are answered by the backend, everything else by
fixed answers. -/
def answering (others : (request : Request) → Answer request) (b : Headless.Backend) :
    (request : Request) → Answer request × Headless.Backend
  | .backend call => b.answer call
  | .egl call => (others (.egl call), b)
  | .frontend call => (others (.frontend call), b)
  | .probe probe => (others (.probe probe), b)
  | .log record => (others (.log record), b)

/-- What is answered over a headless backend is served by it. -/
theorem serves_converse (others : (request : Request) → Answer request) {α : Type}
    (p : Program Request α) (b : Headless.Backend) :
    Serves b (backendCalls (p.converse (answering others) b).1)
      (p.converse (answering others) b).2.2 := by
  induction p generalizing b with
  | done value => exact .idle b
  | ask request next ih =>
      cases request with
      | backend call => exact serves_cons.mpr ⟨rfl, ih _ _⟩
      | egl | frontend | probe | log => exact ih _ _

/-- **Every history can be lived over a headless backend** that a driver could be opened on. -/
theorem lives_converse (others : (request : Request) → Answer request) (b₀ : Headless.Backend)
    (d : Driver) (started : (start.converse (answering others) b₀).2.1 = .ok d)
    (ops : List Operation) :
    let opening := start.converse (answering others) b₀
    let run := (d.performAll ops).converse (answering others) opening.2.2
    start.Yields opening.1 (.ok d) ∧ ∃ episodes d', episodes.map Episode.op = ops ∧
      Lives d episodes d' ∧
      Serves b₀ (backendCalls opening.1 ++ episodes.flatMap Episode.calls) run.2.2 := by
  intro opening run
  obtain ⟨episodes, lives, asked, -, exchanges⟩ := yields_performAll.mp
    (Program.yields_converse (answering others) (d.performAll ops) opening.2.2)
  have calls : backendCalls run.1 = episodes.flatMap Episode.calls :=
    (congrArg backendCalls exchanges).trans (backendCalls_flatMap episodes)
  refine ⟨?_, episodes, _, asked.symm, lives, ?_⟩
  · rw [← started]
    exact Program.yields_converse (answering others) start b₀
  · rw [← calls]
    exact Headless.serves_append.mpr
      ⟨opening.2.2, serves_converse others start b₀, serves_converse others _ _⟩

/-- Two frames while the counter of the handles wraps: the first surface has the number zero. -/
theorem wrapped_framesKept :
    let b₀ := Headless.Backend.freshAt ⟨false, false, false⟩ 0xfffffffc
    let opening := start.converse (answering (unposting 0)) b₀
    let frames := [.bindApi .openGlEs ⟨2, 0⟩, .setVideoMode 0 0 true, .swapBuffers 1, .swapBuffers 2]
    let run := ((opened ⟨0xfffffffd⟩ ⟨0xfffffffe⟩).performAll frames).converse
      (answering (unposting 0)) opening.2.2
    run.2.2.lastHandle = 1 ∧ run.2.2.framesPosted = 2 ∧
      ∃ episodes, episodes.map Episode.op = frames ∧
        FramesKept b₀ opening.1 episodes run.2.2 := by
  intro b₀ opening frames run
  obtain ⟨opens, episodes, d, asked, lives, serves⟩ :=
    lives_converse (unposting 0) b₀ (opened ⟨0xfffffffd⟩ ⟨0xfffffffe⟩) rfl frames
  have kept := lives_framesKept opens lives serves
  refine ⟨by decide +kernel, by decide +kernel, episodes, asked, ?_⟩
  -- the names are put in before the types are compared, or the runs would be unfolded
  dsimp only [opening, run, b₀, frames] at kept ⊢
  exact kept

end Driver

end Scanout
