import Scanout.Proofs.Driver.Calls

/-!
# Parallel runs

Two drivers that differ in nothing but their handles go the same way as long as they are answered
alike: a call succeeds for both or for neither, and everything that the frontend, the prober and the
EGL layer tell is the same.  What they are given as handles, the refresh rate of their displays and the
functions that are found may differ.

## Main definitions

* `Parallel` — programs that go the same way
* `Driver.Twins` — drivers that differ in their handles only

## Main results

* `Driver.perform_parallel`, `Driver.start_parallel`
-/

namespace Scanout

/-- **Calls that only use handles**, made with other handles; what they are answered with is of no
consequence. -/
inductive Backend.Call.Used : Backend.Call → Backend.Call → Prop
  | destroyDisplay (display display' : Display) :
      Used (.destroyDisplay display) (.destroyDisplay display')
  | destroyPresenter (presenter presenter' : Presenter) :
      Used (.destroyPresenter presenter) (.destroyPresenter presenter')
  | destroyContext (context context' : RenderContext) :
      Used (.destroyContext context) (.destroyContext context')
  | refreshRate (display display' : Display) : Used (.refreshRate display) (.refreshRate display')
  | makeCurrent (context context' : RenderContext) :
      Used (.makeCurrent context) (.makeCurrent context')
  | clearColorBuffer : Used .clearColorBuffer .clearColorBuffer
  | swapBuffers (context context' : RenderContext) :
      Used (.swapBuffers context) (.swapBuffers context')
  | unlockSurface (context context' : RenderContext) (surface surface' : Surface) :
      Used (.unlockSurface context surface) (.unlockSurface context' surface')

variable {α β γ δ : Type}

/-- **Programs that go the same way** to related values while they are answered alike.  A surface is
always locked and posted. -/
inductive Parallel (R : α → β → Prop) : Program Request α → Program Request β → Prop
  | done {a : α} {b : β} (related : R a b) : Parallel R (.done a) (.done b)
  | say {record record' : Log.Record} {next : Unit → Program Request α}
      {next' : Unit → Program Request β} (rest : Parallel R (next ()) (next' ())) :
      Parallel R (.ask (.log record) next) (.ask (.log record') next')
  | use {call call' : Backend.Call} {next : call.Answer → Program Request α}
      {next' : call'.Answer → Program Request β} (used : call.Used call')
      (rest : ∀ reply reply', Parallel R (next reply) (next' reply')) :
      Parallel R (.ask (.backend call) next) (.ask (.backend call') next')
  | createDisplay {next : Except Failure Display → Program Request α}
      {next' : Except Failure Display → Program Request β}
      (made : ∀ display display', Parallel R (next (.ok display)) (next' (.ok display')))
      (refused : ∀ cause cause', Parallel R (next (.error cause)) (next' (.error cause'))) :
      Parallel R (.ask (.backend .createDisplay) next) (.ask (.backend .createDisplay) next')
  | createPresenter {display display' : Display} {format : PixelFormat} {background : UInt32}
      {next : Except Failure Presenter → Program Request α}
      {next' : Except Failure Presenter → Program Request β}
      (made : ∀ presenter presenter', Parallel R (next (.ok presenter)) (next' (.ok presenter')))
      (refused : ∀ cause cause', Parallel R (next (.error cause)) (next' (.error cause'))) :
      Parallel R (.ask (.backend (.createPresenter display format background)) next)
        (.ask (.backend (.createPresenter display' format background)) next')
  | createContext {display display' : Display} {width height : UInt32}
      {attributes : ContextAttributes UInt32}
      {next : Except Failure RenderContext → Program Request α}
      {next' : Except Failure RenderContext → Program Request β}
      (made : ∀ context context', Parallel R (next (.ok context)) (next' (.ok context')))
      (refused : ∀ cause cause', Parallel R (next (.error cause)) (next' (.error cause'))) :
      Parallel R (.ask (.backend (.createContext display width height attributes)) next)
        (.ask (.backend (.createContext display' width height attributes)) next')
  | lockSurface {context context' : RenderContext}
      {next : Except Failure Surface → Program Request α}
      {next' : Except Failure Surface → Program Request β}
      (locked : ∀ surface surface', Parallel R (next (.ok surface)) (next' (.ok surface'))) :
      Parallel R (.ask (.backend (.lockSurface context)) next)
        (.ask (.backend (.lockSurface context')) next')
  | post {presenter presenter' : Presenter} {surface surface' : Surface} {placement : Placement}
      {next : Except Failure Unit → Program Request α}
      {next' : Except Failure Unit → Program Request β}
      (posted : Parallel R (next (.ok ())) (next' (.ok ()))) :
      Parallel R (.ask (.backend (.post presenter surface placement)) next)
        (.ask (.backend (.post presenter' surface' placement)) next')
  | egl {call : Egl.Call} {next : call.Answer → Program Request α}
      {next' : call.Answer → Program Request β} (told : ∀ symbol, call ≠ .procAddress symbol)
      (rest : ∀ reply, Parallel R (next reply) (next' reply)) :
      Parallel R (.ask (.egl call) next) (.ask (.egl call) next')
  | symbol {symbol : String} {next : Bool → Program Request α} {next' : Bool → Program Request β}
      (rest : ∀ found found', Parallel R (next found) (next' found')) :
      Parallel R (.ask (.egl (.procAddress symbol)) next) (.ask (.egl (.procAddress symbol)) next')
  | frontend {call : Frontend.Call} {next : call.Answer → Program Request α}
      {next' : call.Answer → Program Request β}
      (rest : ∀ reply, Parallel R (next reply) (next' reply)) :
      Parallel R (.ask (.frontend call) next) (.ask (.frontend call) next')
  | probe {probe : Input.Probe} {next : Option InputDriver → Program Request α}
      {next' : Option InputDriver → Program Request β}
      (rest : ∀ reply, Parallel R (next reply) (next' reply)) :
      Parallel R (.ask (.probe probe) next) (.ask (.probe probe) next')

/-- **Programs that go the same way can be put one behind the other.** -/
theorem Parallel.bind {R : α → β → Prop} {S : γ → δ → Prop} {p : Program Request α}
    {q : Program Request β} {f : α → Program Request γ} {g : β → Program Request δ}
    (first : Parallel R p q) (rest : ∀ a b, R a b → Parallel S (f a) (g b)) :
    Parallel S (p.bind f) (q.bind g) := by
  induction first with
  | done related => exact rest _ _ related
  | say _ ih => exact .say ih
  | use used _ ih => exact .use used ih
  | createDisplay _ _ made refused => exact .createDisplay made refused
  | createPresenter _ _ made refused => exact .createPresenter made refused
  | createContext _ _ made refused => exact .createContext made refused
  | lockSurface _ ih => exact .lockSurface ih
  | post _ ih => exact .post ih
  | egl told _ ih => exact .egl told ih
  | symbol _ ih => exact .symbol ih
  | frontend _ ih => exact .frontend ih
  | probe _ ih => exact .probe ih

namespace Driver

/-! ### Twins -/

/-- The handles of twins: none, or handles of the same kinds. -/
inductive PipelineTwins : Option Pipeline → Option Pipeline → Prop
  | gone : PipelineTwins none none
  | unmade (display display' : Display) (presenter presenter' : Presenter) :
      PipelineTwins (some ⟨display, presenter, none⟩) (some ⟨display', presenter', none⟩)
  | made (display display' : Display) (presenter presenter' : Presenter)
      (context context' : RenderContext) :
      PipelineTwins (some ⟨display, presenter, some context⟩)
        (some ⟨display', presenter', some context'⟩)

/-- **Drivers that differ in their handles only.** -/
inductive Twins : Driver → Driver → Prop
  | mk {held held' : Option Pipeline} (pipelines : PipelineTwins held held') (api : GraphicsApi)
      (version : Version) (interval : Int32) (size : Size) (coreContext : Bool) :
      Twins ⟨held, api, version, interval, size, coreContext⟩
        ⟨held', api, version, interval, size, coreContext⟩

/-- Two openings with the same end: no display, no presenter, or a driver. -/
inductive OpenedAlike : Except Failure Driver → Except Failure Driver → Prop
  | noDisplay (cause cause' : Failure) :
      OpenedAlike (.error (.noDisplay cause)) (.error (.noDisplay cause'))
  | noPresenter (cause cause' : Failure) :
      OpenedAlike (.error (.noPresenter cause)) (.error (.noPresenter cause'))
  | opened {d d' : Driver} (twins : Twins d d') : OpenedAlike (.ok d) (.ok d')

/-- **Twins are opened.** -/
theorem start_parallel : Parallel OpenedAlike start start := by
  refine .createDisplay (fun display display' => ?_) fun cause cause' => .done (.noDisplay cause cause')
  refine .createPresenter (fun presenter presenter' => ?_) fun cause cause' => ?_
  · exact .say (.done (.opened (.mk (.unmade display display' presenter presenter') _ _ _ _ _)))
  · exact .use (.destroyDisplay display display') fun _ _ => .done (.noPresenter cause cause')

section EntryPoints

variable {d d' : Driver}

theorem destroy_parallel (twins : Twins d d') : Parallel Twins d.destroy d'.destroy := by
  obtain ⟨pipelines, api, version, interval, size, core⟩ := twins
  cases pipelines with
  | gone => exact .done (.mk .gone _ _ _ _ _)
  | unmade display display' presenter presenter' =>
      refine .use (.destroyPresenter presenter presenter') fun _ _ => .say ?_
      refine .use (.destroyDisplay display display') fun _ _ => .say ?_
      exact .done (.mk .gone _ _ _ _ _)
  | made display display' presenter presenter' context context' =>
      refine .use (.destroyContext context context') fun _ _ => .say ?_
      refine .use (.destroyPresenter presenter presenter') fun _ _ => .say ?_
      refine .use (.destroyDisplay display display') fun _ _ => .say ?_
      exact .done (.mk .gone _ _ _ _ _)

theorem bindApi_parallel (twins : Twins d d') (api : GraphicsApi) (version : Version) :
    Parallel (fun r r' => r.1 = r'.1 ∧ Twins r.2 r'.2) (d.bindApi api version)
      (d'.bindApi api version) := by
  obtain ⟨pipelines, -, -, interval, size, core⟩ := twins
  unfold bindApi
  dsimp only
  cases api.client? with
  | none => exact .say (.done ⟨rfl, .mk pipelines _ _ _ _ _⟩)
  | some client =>
      refine .egl nofun fun supported => ?_
      cases supported with
      | false => exact .say (.done ⟨rfl, .mk pipelines _ _ _ _ _⟩)
      | true =>
          refine .egl nofun fun (creates : Bool) => ?_
          dsimp only [pure, Program.bind]
          split
          · exact .say (.done ⟨rfl, .mk pipelines _ _ _ _ _⟩)
          · refine .egl nofun fun bound => .say (.done ⟨rfl, .mk pipelines _ _ _ _ _⟩)

theorem swapInterval_parallel (twins : Twins d d') (interval : Int32) :
    Parallel Twins (d.swapInterval interval) (d'.swapInterval interval) := by
  obtain ⟨pipelines, api, version, -, size, core⟩ := twins
  unfold swapInterval
  split
  · exact .say (.done (.mk pipelines _ _ _ _ _))
  · exact .done (.mk pipelines _ _ _ _ _)

theorem showContext_parallel (context context' : RenderContext) :
    Parallel (fun _ _ => True) (showContext context) (showContext context') :=
  .use (.makeCurrent context context') fun _ _ => .use .clearColorBuffer fun _ _ => .done trivial

theorem setVideoMode_parallel (twins : Twins d d') (width height : UInt32) (fullscreen : Bool) :
    Parallel (fun r r' => r.1 = r'.1 ∧ Twins r.2 r'.2) (d.setVideoMode width height fullscreen)
      (d'.setVideoMode width height fullscreen) := by
  obtain ⟨pipelines, api, version, interval, size, core⟩ := twins
  cases pipelines with
  | gone => exact .say (.done ⟨rfl, .mk .gone _ _ _ _ _⟩)
  | unmade display display' presenter presenter' =>
      refine .frontend fun _ => .say (.createContext (fun context context' => ?_) fun _ _ => ?_)
      · refine (showContext_parallel context context').bind fun _ _ _ => ?_
        exact .done ⟨rfl, .mk (.made ..) _ _ _ _ _⟩
      · exact .say (.done ⟨rfl, .mk (.unmade ..) _ _ _ _ _⟩)
  | made display display' presenter presenter' context context' =>
      refine .frontend fun _ => .say ?_
      refine (showContext_parallel context context').bind fun _ _ _ => ?_
      exact .done ⟨rfl, .mk (.made ..) _ _ _ _ _⟩

theorem present_parallel (frame : UInt64) (presenter presenter' : Presenter)
    (context context' : RenderContext) :
    Parallel (fun _ _ => True) (present frame presenter context)
      (present frame presenter' context') := by
  refine .use (.swapBuffers context context') fun _ _ => .lockSurface fun surface surface' => ?_
  refine .post ?_
  exact .use (.unlockSurface context context' surface surface') fun _ _ => .say (.done trivial)

theorem swapBuffers_parallel (twins : Twins d d') (frame : UInt64) :
    Parallel (fun _ _ => True) (d.swapBuffers frame) (d'.swapBuffers frame) := by
  obtain ⟨pipelines, api, version, interval, size, core⟩ := twins
  unfold swapBuffers usesEgl
  dsimp only
  split
  · cases pipelines with
    | gone => exact .say (.done trivial)
    | unmade => exact .say (.done trivial)
    | made => exact present_parallel frame _ _ _ _
  · exact .say (.done trivial)

theorem getRefreshRate_parallel (twins : Twins d d') :
    Parallel (fun _ _ => True) d.getRefreshRate d'.getRefreshRate := by
  obtain ⟨pipelines, api, version, interval, size, core⟩ := twins
  cases pipelines with
  | gone => exact .done trivial
  | unmade display display' | made display display' =>
      refine .use (.refreshRate display display') fun (known known' : Option Rate) => ?_
      cases known <;> cases known' <;> exact .done trivial

theorem getProcAddress_parallel (twins : Twins d d') (symbol : String) :
    Parallel (fun _ _ => True) (d.getProcAddress symbol) (d'.getProcAddress symbol) := by
  obtain ⟨pipelines, api, version, interval, size, core⟩ := twins
  unfold getProcAddress usesEgl
  dsimp only
  split
  · exact .symbol fun _ _ => .done trivial
  · exact .done trivial

theorem bindHwRender_parallel (twins : Twins d d') (enable : Bool) :
    Parallel (fun _ _ => True) (d.bindHwRender enable) (d'.bindHwRender enable) := by
  obtain ⟨pipelines, api, version, interval, size, core⟩ := twins
  unfold bindHwRender usesEgl
  dsimp only
  split
  · exact .egl nofun fun _ => .done trivial
  · exact .done trivial

theorem inputFallback_parallel (joypad : String) :
    Parallel Eq (inputFallback joypad) (inputFallback joypad) := by
  refine .frontend fun configured => ?_
  change Parallel Eq (Input.selectFallback configured joypad) (Input.selectFallback configured joypad)
  unfold Input.selectFallback
  split
  · exact .done rfl
  · refine .probe fun udev => ?_
    cases udev with
    | some driver => exact .say (.done rfl)
    | none =>
        refine .probe fun linuxraw => ?_
        cases linuxraw with
        | some driver => exact .say (.done rfl)
        | none => exact .say (.done rfl)

theorem setFlags_twins (twins : Twins d d') (flags : Flags) :
    Twins (d.setFlags flags) (d'.setFlags flags) := by
  obtain ⟨pipelines, api, version, interval, size, core⟩ := twins
  unfold setFlags
  split
  · exact .mk pipelines _ _ _ _ _
  · exact .mk pipelines _ _ _ _ _

end EntryPoints

/-! ### Operations -/

end Driver

/-- Whether an operation tells something of its platform: a refresh rate or a function. -/
def Operation.tellsPlatform : Operation → Bool
  | .getRefreshRate | .getProcAddress _ => true
  | _ => false

namespace Driver

/-- Two results of an operation that twins may have: the replies are equal unless they tell something
of the platform, and twins are left. -/
def RepliedAlike (op : Operation) (r r' : Reply × Driver) : Prop :=
  (op.tellsPlatform = false → r.1 = r'.1) ∧ Twins r.2 r'.2

/-- **Twins perform an operation in the same way.** -/
theorem perform_parallel {d d' : Driver} (twins : Twins d d') (op : Operation) :
    Parallel (RepliedAlike op) (d.perform op) (d'.perform op) := by
  cases op with
  | destroy => exact (destroy_parallel twins).bind fun _ _ left => .done ⟨fun _ => rfl, left⟩
  | bindApi api version =>
      refine (bindApi_parallel twins api version).bind fun r r' same => .done ⟨fun _ => ?_, same.2⟩
      exact congrArg Reply.truth same.1
  | swapInterval interval =>
      exact (swapInterval_parallel twins interval).bind fun _ _ left => .done ⟨fun _ => rfl, left⟩
  | setVideoMode width height fullscreen =>
      refine (setVideoMode_parallel twins width height fullscreen).bind fun r r' same =>
        .done ⟨fun _ => ?_, same.2⟩
      exact congrArg Reply.truth same.1
  | swapBuffers frame =>
      exact (swapBuffers_parallel twins frame).bind fun _ _ _ => .done ⟨fun _ => rfl, twins⟩
  | getRefreshRate =>
      exact (getRefreshRate_parallel twins).bind fun _ _ _ => .done ⟨nofun, twins⟩
  | getProcAddress symbol =>
      exact (getProcAddress_parallel twins symbol).bind fun _ _ _ => .done ⟨nofun, twins⟩
  | bindHwRender enable =>
      exact (bindHwRender_parallel twins enable).bind fun _ _ _ => .done ⟨fun _ => rfl, twins⟩
  | inputFallback joypad =>
      refine (inputFallback_parallel joypad).bind fun _ _ same => .done ⟨fun _ => ?_, twins⟩
      exact congrArg Reply.input same
  | checkWindow => exact .frontend fun _ => .done ⟨fun _ => rfl, twins⟩
  | getFlags =>
      refine .frontend fun videoDriver => .done ⟨fun _ => ?_, twins⟩
      obtain ⟨pipelines, api, version, interval, size, core⟩ := twins
      rfl
  | getApi | getVideoSize =>
      refine .done ⟨fun _ => ?_, twins⟩
      obtain ⟨pipelines, api, version, interval, size, core⟩ := twins
      rfl
  | setFlags flags => exact .done ⟨fun _ => rfl, setFlags_twins twins flags⟩
  | hasFocus | suppressScreensaver | hasWindowed | ident => exact .done ⟨fun _ => rfl, twins⟩

/-- **Two lists of replies to the same operations**: equal but for what tells of the platform. -/
inductive AllRepliedAlike : List Operation → List Reply → List Reply → Prop
  | nil : AllRepliedAlike [] [] []
  | cons {op : Operation} {ops : List Operation} {reply reply' : Reply} {replies replies' : List Reply}
      (same : op.tellsPlatform = false → reply = reply')
      (others : AllRepliedAlike ops replies replies') :
      AllRepliedAlike (op :: ops) (reply :: replies) (reply' :: replies')

/-- **Twins perform a history in the same way.** -/
theorem performAll_parallel {d d' : Driver} (twins : Twins d d') (ops : List Operation) :
    Parallel (fun r r' => AllRepliedAlike ops r.1 r'.1 ∧ Twins r.2 r'.2) (d.performAll ops)
      (d'.performAll ops) := by
  induction ops generalizing d d' with
  | nil => exact .done ⟨.nil, twins⟩
  | cons op ops ih =>
      refine (perform_parallel twins op).bind fun r r' first => ?_
      exact (ih first.2).bind fun s s' later => .done ⟨.cons first.1 later.1, later.2⟩

end Driver

end Scanout
