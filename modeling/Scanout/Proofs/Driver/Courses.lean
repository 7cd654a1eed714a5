import Scanout.Driver.Operation
import Scanout.Proofs.Transcript

/-!
# The courses of an operation

An operation on a driver takes one of a few courses, depending on the state of the driver and on the
answers it is given.  Each of them is a fixed row of requests and records with a reply and a new state.
What an operation does is said here once and for all; what it leaves alone is read off from it.

## Main definitions

* `Driver.Remark` — what a driver writes to the log
* `Driver.Course` — the courses of an operation

## Main results

* `Driver.perform_course` — an operation takes one of its courses
-/

namespace Scanout.Driver

open Request

/-! ### Records -/

/-- **What a driver remarks** about an operation, as data; the wording is one function of it. -/
inductive Remark where
  | contextReleased
  | presenterReleased
  | displayClosed
  | unbindable (api : GraphicsApi)
  | unprovided (api : GraphicsApi)
  | extensionMissing (api : GraphicsApi) (version : Version)
  | bindingTried (api : GraphicsApi) (version : Version) (bound : Bool)
  | intervalHeld
  | modeWithoutDisplay
  | modeRequested (width height : UInt32) (fullscreen : Bool)
  | contextRefused (cause : Failure)
  | frameDropped (frame : UInt64) (cause : Failure)
  | postFailed (frame : UInt64) (cause : Failure)
  | framePresented (frame : UInt64)
  | frameTooEarly (frame : UInt64)
  | frameUnhandled (api : GraphicsApi)
  | fallbackFound (configured : String) (kind : Input.Kind)
  | fallbackMissing (configured : String)

namespace Remark

/-- **The record of a remark.** -/
def record : Remark → Log.Record
  | contextReleased => ⟨.debug, .driver, "KmsContext: render context destroyed"⟩
  | presenterReleased => ⟨.debug, .driver, "KmsContext: presenter destroyed"⟩
  | displayClosed => ⟨.info, .driver, "KmsContext: display closed"⟩
  | unbindable api => ⟨.debug, .driver, "KmsContext: " ++ api.label ++ " cannot be bound on KMS"⟩
  | unprovided api => ⟨.warn, .driver, "KmsContext: EGL does not provide " ++ api.label⟩
  | extensionMissing api version =>
      ⟨.warn, .driver, "KmsContext: " ++ api.label ++ " " ++ version.text ++
        " requires EGL_KHR_create_context"⟩
  | bindingTried api version bound =>
      ⟨.info, .driver, "KmsContext: bind " ++ api.label ++ " " ++ version.text ++ " -> " ++
        toString bound⟩
  | intervalHeld =>
      ⟨.warn, .driver, "[KMS]: Swap intervals > " ++ toString Panel.greatestInterval.toInt ++
        " currently not supported. Will use swap interval of " ++
        toString Panel.greatestInterval.toInt ++ "."⟩
  | modeWithoutDisplay => ⟨.warn, .driver, "KmsContext: set_video_mode on a destroyed context"⟩
  | modeRequested width height fullscreen =>
      ⟨.debug, .driver, "KmsContext: mode " ++ toString width.toNat ++ "x" ++
        toString height.toNat ++ " (fullscreen=" ++ toString fullscreen ++ ") requested, using " ++
        toString Panel.width.toNat ++ "x" ++ toString Panel.height.toNat⟩
  | contextRefused cause =>
      ⟨.warn, .driver, "KmsContext: failed to create render context: " ++ cause.message⟩
  | frameDropped frame cause =>
      ⟨.warn, .driver, "KmsContext: frame " ++ toString frame.toNat ++ " dropped: " ++
        cause.message⟩
  | postFailed frame cause =>
      ⟨.warn, .driver, "KmsContext: post failed for frame " ++ toString frame.toNat ++ ": " ++
        cause.message⟩
  | framePresented frame =>
      ⟨.trace, .driver, "KmsContext: presented frame " ++ toString frame.toNat⟩
  | frameTooEarly frame =>
      ⟨.warn, .driver, "KmsContext: swap_buffers before a context exists (frame " ++
        toString frame.toNat ++ ")"⟩
  | frameUnhandled api => ⟨.warn, .driver, "KmsContext: unhandled swap_buffers for " ++ api.label⟩
  | fallbackFound configured kind =>
      ⟨.info, .input, Input.unusable configured ++
        match kind with
        | .udev => ", using udev"
        | .linuxraw => ", using linuxraw"⟩
  | fallbackMissing configured =>
      ⟨.warn, .input, Input.unusable configured ++ " and no fallback initialized"⟩

/-- The exchange by which a remark is written. -/
def said (remark : Remark) : Exchange Request := ⟨.log remark.record, ()⟩

end Remark

/-! ### Courses -/

/-- The exchanges that give a render context back, if there is one. -/
def contextReleasing : Option RenderContext → List (Exchange Request)
  | none => []
  | some context => [⟨.backend (.destroyContext context), ()⟩, Remark.contextReleased.said]

/-- The exchanges that give back what a driver holds. -/
def releasing (pipeline : Pipeline) : List (Exchange Request) :=
  contextReleasing pipeline.context ++
    [⟨.backend (.destroyPresenter pipeline.presenter), ()⟩, Remark.presenterReleased.said,
      ⟨.backend (.destroyDisplay pipeline.display), ()⟩, Remark.displayClosed.said]

/-- The exchanges that show a render context. -/
def showing (context : RenderContext) : List (Exchange Request) :=
  [⟨.backend (.makeCurrent context), ()⟩, ⟨.backend .clearColorBuffer, ()⟩]

/-- The driver once a binding has been asked for: API and version are recorded. -/
def binding (d : Driver) (api : GraphicsApi) (version : Version) : Driver :=
  { d with api := api, version := version }

/-- The driver once a mode has been asked for: its size is that of the panel. -/
def sized (d : Driver) : Driver := { d with size := ⟨Panel.width, Panel.height⟩ }

/-- **A course of an operation** on the driver `d`: the exchanges it makes, its reply and the driver it
leaves. -/
inductive Course (d : Driver) : Operation → List (Exchange Request) → Reply → Driver → Prop
  -- releasing
  | released (pipeline : Pipeline) (held : d.pipeline = some pipeline) :
      Course d .destroy (releasing pipeline) .done { d with pipeline := none }
  | releasedBefore (gone : d.pipeline = none) : Course d .destroy [] .done d
  -- binding
  | unbindable (api : GraphicsApi) (version : Version) (foreign : api.client? = none) :
      Course d (.bindApi api version) [(Remark.unbindable api).said] (.truth false)
        (d.binding api version)
  | unprovided (api : GraphicsApi) (version : Version) (client : ClientApi)
      (known : api.client? = some client) :
      Course d (.bindApi api version)
        [⟨.egl (.supports client), false⟩, (Remark.unprovided api).said] (.truth false)
        (d.binding api version)
  | extensionMissing (api : GraphicsApi) (version : Version) (client : ClientApi)
      (known : api.client? = some client) (needed : version.needsCreateContext client = true) :
      Course d (.bindApi api version)
        [⟨.egl (.supports client), true⟩, ⟨.egl .hasCreateContext, false⟩,
          (Remark.extensionMissing api version).said] (.truth false)
        (d.binding api version)
  | bindingTried (api : GraphicsApi) (version : Version) (client : ClientApi)
      (creates bound : Bool) (known : api.client? = some client)
      (enough : creates = true ∨ version.needsCreateContext client = false) :
      Course d (.bindApi api version)
        [⟨.egl (.supports client), true⟩, ⟨.egl .hasCreateContext, creates⟩,
          ⟨.egl (.bindApi client), bound⟩, (Remark.bindingTried api version bound).said]
        (.truth bound) (d.binding api version)
  -- showing frames
  | intervalKept (interval : Int32) (honoured : ¬ Panel.greatestInterval < interval) :
      Course d (.swapInterval interval) [] .done { d with interval := interval }
  | intervalHeld (interval : Int32) (great : Panel.greatestInterval < interval) :
      Course d (.swapInterval interval) [Remark.intervalHeld.said] .done
        { d with interval := Panel.greatestInterval }
  | modeWithoutDisplay (width height : UInt32) (fullscreen : Bool) (gone : d.pipeline = none) :
      Course d (.setVideoMode width height fullscreen) [Remark.modeWithoutDisplay.said]
        (.truth false) d
  | contextKept (width height : UInt32) (fullscreen : Bool) (pipeline : Pipeline)
      (context : RenderContext) (held : d.pipeline = some pipeline)
      (made : pipeline.context = some context) :
      Course d (.setVideoMode width height fullscreen)
        (⟨.frontend .installSignalHandler, ()⟩ ::
          (Remark.modeRequested width height fullscreen).said :: showing context)
        (.truth true) d.sized
  | contextRefused (width height : UInt32) (fullscreen : Bool) (pipeline : Pipeline)
      (cause : Failure) (held : d.pipeline = some pipeline) (unmade : pipeline.context = none) :
      Course d (.setVideoMode width height fullscreen)
        [⟨.frontend .installSignalHandler, ()⟩,
          (Remark.modeRequested width height fullscreen).said,
          ⟨.backend (.createContext pipeline.display Panel.width Panel.height Panel.attributes),
            .error cause⟩, (Remark.contextRefused cause).said]
        (.truth false) d.sized
  | contextMade (width height : UInt32) (fullscreen : Bool) (pipeline : Pipeline)
      (context : RenderContext) (held : d.pipeline = some pipeline)
      (unmade : pipeline.context = none) :
      Course d (.setVideoMode width height fullscreen)
        (⟨.frontend .installSignalHandler, ()⟩ ::
          (Remark.modeRequested width height fullscreen).said ::
          ⟨.backend (.createContext pipeline.display Panel.width Panel.height Panel.attributes),
            .ok context⟩ :: showing context)
        (.truth true) { d.sized with pipeline := some { pipeline with context := some context } }
  | frameUnhandled (frame : UInt64) (unbound : d.usesEgl = false) :
      Course d (.swapBuffers frame) [(Remark.frameUnhandled d.api).said] .done d
  | frameTooEarly (frame : UInt64) (bound : d.usesEgl = true) (unmade : d.context = none) :
      Course d (.swapBuffers frame) [(Remark.frameTooEarly frame).said] .done d
  | frameDropped (frame : UInt64) (pipeline : Pipeline) (context : RenderContext)
      (cause : Failure) (bound : d.usesEgl = true) (held : d.pipeline = some pipeline)
      (made : pipeline.context = some context) :
      Course d (.swapBuffers frame)
        [⟨.backend (.swapBuffers context), ()⟩, ⟨.backend (.lockSurface context), .error cause⟩,
          (Remark.frameDropped frame cause).said] .done d
  | frameUnposted (frame : UInt64) (pipeline : Pipeline) (context : RenderContext)
      (surface : Surface) (cause : Failure) (bound : d.usesEgl = true)
      (held : d.pipeline = some pipeline) (made : pipeline.context = some context) :
      Course d (.swapBuffers frame)
        [⟨.backend (.swapBuffers context), ()⟩, ⟨.backend (.lockSurface context), .ok surface⟩,
          ⟨.backend (.post pipeline.presenter surface Panel.placement), .error cause⟩,
          (Remark.postFailed frame cause).said,
          ⟨.backend (.unlockSurface context surface), ()⟩, (Remark.framePresented frame).said]
        .done d
  | framePresented (frame : UInt64) (pipeline : Pipeline) (context : RenderContext)
      (surface : Surface) (bound : d.usesEgl = true) (held : d.pipeline = some pipeline)
      (made : pipeline.context = some context) :
      Course d (.swapBuffers frame)
        [⟨.backend (.swapBuffers context), ()⟩, ⟨.backend (.lockSurface context), .ok surface⟩,
          ⟨.backend (.post pipeline.presenter surface Panel.placement), .ok ()⟩,
          ⟨.backend (.unlockSurface context surface), ()⟩, (Remark.framePresented frame).said]
        .done d
  -- questions to a collaborator
  | rateMissing (gone : d.pipeline = none) : Course d .getRefreshRate [] (.rate Rate.zero) d
  | rateAsked (pipeline : Pipeline) (known : Option Rate) (held : d.pipeline = some pipeline) :
      Course d .getRefreshRate [⟨.backend (.refreshRate pipeline.display), known⟩]
        (.rate (known.getD Rate.zero)) d
  | windowChecked (requested : Bool) :
      Course d .checkWindow [⟨.frontend .shutdownRequested, requested⟩]
        (.window ⟨requested, false⟩) d
  | symbolUnbound (symbol : String) (unbound : d.usesEgl = false) :
      Course d (.getProcAddress symbol) [] (.truth false) d
  | symbolSought (symbol : String) (found : Bool) (bound : d.usesEgl = true) :
      Course d (.getProcAddress symbol) [⟨.egl (.procAddress symbol), found⟩] (.truth found) d
  | renderUnbound (enable : Bool) (unbound : d.usesEgl = false) :
      Course d (.bindHwRender enable) [] .done d
  | renderTold (enable : Bool) (bound : d.usesEgl = true) :
      Course d (.bindHwRender enable) [⟨.egl (.bindHwRender enable), ()⟩] .done d
  | flagsTold (videoDriver : String) :
      Course d .getFlags [⟨.frontend .videoDriver, videoDriver⟩]
        (.flags ((Flags.customizableSwapchainImages.union
          (if d.coreContext then Flags.glCoreContext else Flags.empty)).union
          (if videoDriver == Panel.slangVideoDriver then Flags.shadersSlang
            else Flags.shadersGlsl))) d
  | inputLeft (joypad configured : String) (usable : configured ≠ Panel.windowedInputDriver) :
      Course d (.inputFallback joypad) [⟨.frontend .inputDriver, configured⟩] (.input none) d
  | inputUdev (joypad configured : String) (driver : InputDriver)
      (unusable : configured = Panel.windowedInputDriver) :
      Course d (.inputFallback joypad)
        [⟨.frontend .inputDriver, configured⟩, ⟨.probe ⟨.udev, joypad⟩, some driver⟩,
          (Remark.fallbackFound configured .udev).said]
        (.input (some driver)) d
  | inputLinuxraw (joypad configured : String) (driver : InputDriver)
      (unusable : configured = Panel.windowedInputDriver) :
      Course d (.inputFallback joypad)
        [⟨.frontend .inputDriver, configured⟩, ⟨.probe ⟨.udev, joypad⟩, none⟩,
          ⟨.probe ⟨.linuxraw, joypad⟩, some driver⟩,
          (Remark.fallbackFound configured .linuxraw).said]
        (.input (some driver)) d
  | inputMissing (joypad configured : String)
      (unusable : configured = Panel.windowedInputDriver) :
      Course d (.inputFallback joypad)
        [⟨.frontend .inputDriver, configured⟩, ⟨.probe ⟨.udev, joypad⟩, none⟩,
          ⟨.probe ⟨.linuxraw, joypad⟩, none⟩, (Remark.fallbackMissing configured).said]
        (.input none) d
  -- what the driver knows by itself
  | apiTold : Course d .getApi [] (.api d.api) d
  | sizeTold : Course d .getVideoSize [] (.size (some d.size)) d
  | focused : Course d .hasFocus [] (.truth true) d
  | unblanked (enable : Bool) : Course d (.suppressScreensaver enable) [] (.truth false) d
  | unwindowed : Course d .hasWindowed [] (.truth false) d
  | named : Course d .ident [] (.ident (some Panel.ident)) d
  | flagsSet (flags : Flags) : Course d (.setFlags flags) [] .done (d.setFlags flags)

/-! ### Each entry point takes its courses -/

section EntryPoints

variable {d d' : Driver} {exchanges : List (Exchange Request)}

theorem destroy_course (run : d.destroy.Yields exchanges d') :
    Course d .destroy exchanges .done d' := by
  unfold destroy at run
  split at run
  · next gone =>
    obtain ⟨rfl, rfl⟩ := run
    exact .releasedBefore gone
  · next pipeline held =>
    obtain ⟨first, rest, _, rfl, part, run⟩ := Program.yields_bind.mp run
    obtain ⟨-, rest, rfl, -, rest, rfl, -, rest, rfl, -, rest, rfl, rfl, rfl⟩ := run
    have releases : first = contextReleasing pipeline.context := by
      cases made : pipeline.context with
      | none =>
          rw [made] at part
          exact part.1
      | some context =>
          rw [made] at part
          obtain ⟨-, rest, rfl, -, rest, rfl, rfl, -⟩ := part
          rfl
    subst releases
    exact .released pipeline held

theorem bindApi_course {api : GraphicsApi} {version : Version} {bound : Bool}
    (run : (d.bindApi api version).Yields exchanges (bound, d')) :
    Course d (.bindApi api version) exchanges (.truth bound) d' := by
  unfold bindApi at run
  dsimp only at run
  split at run
  · next foreign =>
    obtain ⟨-, rest, rfl, rfl, ended⟩ := run
    obtain ⟨rfl, rfl⟩ := Prod.mk.inj ended
    exact .unbindable api version foreign
  · next client known =>
    obtain ⟨supported, rest, rfl, run⟩ := run
    cases supported with
    | false =>
        obtain ⟨-, rest, rfl, rfl, ended⟩ := run
        obtain ⟨rfl, rfl⟩ := Prod.mk.inj ended
        exact .unprovided api version client known
    | true =>
        obtain ⟨creates, rest, rfl, run⟩ := run
        dsimp only [pure, Program.bind] at run
        split at run
        · next needed =>
          obtain ⟨-, rest, rfl, rfl, ended⟩ := run
          obtain ⟨rfl, rfl⟩ := Prod.mk.inj ended
          simp only [Bool.and_eq_true, Bool.not_eq_true'] at needed
          obtain ⟨rfl, needed⟩ := needed
          exact .extensionMissing api version client known needed
        · next enough =>
          obtain ⟨accepted, rest, rfl, -, rest, rfl, rfl, ended⟩ := run
          obtain ⟨rfl, rfl⟩ := Prod.mk.inj ended
          refine .bindingTried api version client creates bound known ?_
          cases creates with
          | true => exact Or.inl rfl
          | false => exact Or.inr (by simpa using enough)

theorem swapInterval_course {interval : Int32}
    (run : (d.swapInterval interval).Yields exchanges d') :
    Course d (.swapInterval interval) exchanges .done d' := by
  unfold swapInterval at run
  split at run
  · next great =>
    obtain ⟨-, rest, rfl, rfl, rfl⟩ := run
    exact .intervalHeld interval great
  · next honoured =>
    obtain ⟨rfl, rfl⟩ := run
    exact .intervalKept interval honoured

theorem setVideoMode_course {width height : UInt32} {fullscreen set : Bool}
    (run : (d.setVideoMode width height fullscreen).Yields exchanges (set, d')) :
    Course d (.setVideoMode width height fullscreen) exchanges (.truth set) d' := by
  unfold setVideoMode at run
  split at run
  · next gone =>
    obtain ⟨-, rest, rfl, rfl, ended⟩ := run
    obtain ⟨rfl, rfl⟩ := Prod.mk.inj ended
    exact .modeWithoutDisplay width height fullscreen gone
  · next pipeline held =>
    obtain ⟨_, rest, rfl, _, rest, rfl, run⟩ := run
    dsimp only at run
    split at run
    · next context made =>
      obtain ⟨-, rest, rfl, -, rest, rfl, rfl, ended⟩ := run
      obtain ⟨rfl, rfl⟩ := Prod.mk.inj ended
      exact .contextKept width height fullscreen pipeline context held made
    · next unmade =>
      obtain ⟨reply, rest, rfl, run⟩ := run
      rcases reply with cause | context
      · obtain ⟨-, rest, rfl, rfl, ended⟩ := run
        obtain ⟨rfl, rfl⟩ := Prod.mk.inj ended
        exact .contextRefused width height fullscreen pipeline cause held unmade
      · obtain ⟨-, rest, rfl, -, rest, rfl, rfl, ended⟩ := run
        obtain ⟨rfl, rfl⟩ := Prod.mk.inj ended
        exact .contextMade width height fullscreen pipeline context held unmade

theorem swapBuffers_course {frame : UInt64} {value : Unit}
    (run : (d.swapBuffers frame).Yields exchanges value) :
    Course d (.swapBuffers frame) exchanges .done d := by
  unfold swapBuffers at run
  split at run
  · next bound =>
    split at run
    · next display presenter context held =>
      obtain ⟨-, rest, rfl, surface, rest, rfl, run⟩ := run
      rcases surface with cause | surface
      · obtain ⟨-, rest, rfl, rfl, -⟩ := run
        exact .frameDropped frame _ context cause bound held rfl
      · obtain ⟨posted, rest, rfl, run⟩ := run
        rcases posted with cause | done
        · obtain ⟨-, rest, rfl, -, rest, rfl, -, rest, rfl, rfl, -⟩ := run
          exact .frameUnposted frame _ context surface cause bound held rfl
        · obtain ⟨-, rest, rfl, -, rest, rfl, rfl, -⟩ := run
          exact .framePresented frame _ context surface bound held rfl
    · next unready =>
      obtain ⟨-, rest, rfl, rfl, -⟩ := run
      refine .frameTooEarly frame bound ?_
      -- a pipeline with a context would have been presented from
      rcases held : d.pipeline with _ | ⟨display, presenter, _ | context⟩
      · rw [Driver.context, held]
        rfl
      · rw [Driver.context, held]
        rfl
      · exact absurd held (unready display presenter context)
  · next unbound =>
    obtain ⟨-, rest, rfl, rfl, -⟩ := run
    exact .frameUnhandled frame (Bool.eq_false_iff.mpr unbound)

theorem getRefreshRate_course {rate : Rate} (run : d.getRefreshRate.Yields exchanges rate) :
    Course d .getRefreshRate exchanges (.rate rate) d := by
  unfold getRefreshRate at run
  split at run
  · next gone =>
    obtain ⟨rfl, rfl⟩ := run
    exact .rateMissing gone
  · next pipeline held =>
    obtain ⟨known, rest, rfl, run⟩ := run
    cases known with
    | none =>
        obtain ⟨rfl, rfl⟩ := run
        exact .rateAsked pipeline none held
    | some known =>
        obtain ⟨rfl, rfl⟩ := run
        exact .rateAsked pipeline (some rate) held

theorem inputFallback_course {joypad : String} {chosen : Option InputDriver}
    (run : (inputFallback joypad).Yields exchanges chosen) :
    Course d (.inputFallback joypad) exchanges (.input chosen) d := by
  obtain ⟨configured, rest, rfl, run⟩ := run
  change (Input.selectFallback configured joypad).Yields rest chosen at run
  unfold Input.selectFallback at run
  split at run
  · next usable =>
    obtain ⟨rfl, rfl⟩ := run
    exact .inputLeft joypad configured (by simpa using usable)
  · next unusable =>
    have unusable : configured = Panel.windowedInputDriver := by simpa using unusable
    obtain ⟨udev, rest, rfl, run⟩ := run
    cases udev with
    | some driver =>
        obtain ⟨-, rest, rfl, rfl, rfl⟩ := run
        exact .inputUdev joypad configured driver unusable
    | none =>
        obtain ⟨linuxraw, rest, rfl, run⟩ := run
        cases linuxraw with
        | some driver =>
            obtain ⟨-, rest, rfl, rfl, rfl⟩ := run
            exact .inputLinuxraw joypad configured driver unusable
        | none =>
            obtain ⟨-, rest, rfl, rfl, rfl⟩ := run
            exact .inputMissing joypad configured unusable

theorem getProcAddress_course {symbol : String} {found : Bool}
    (run : (d.getProcAddress symbol).Yields exchanges found) :
    Course d (.getProcAddress symbol) exchanges (.truth found) d := by
  unfold getProcAddress at run
  split at run
  · next bound =>
    obtain ⟨answer, rest, rfl, rfl, rfl⟩ := run
    exact .symbolSought symbol found bound
  · next unbound =>
    obtain ⟨rfl, rfl⟩ := run
    exact .symbolUnbound symbol (Bool.eq_false_iff.mpr unbound)

theorem bindHwRender_course {enable : Bool} {value : Unit}
    (run : (d.bindHwRender enable).Yields exchanges value) :
    Course d (.bindHwRender enable) exchanges .done d := by
  unfold bindHwRender at run
  split at run
  · next bound =>
    obtain ⟨-, rest, rfl, rfl, -⟩ := run
    exact .renderTold enable bound
  · next unbound =>
    obtain ⟨rfl, -⟩ := run
    exact .renderUnbound enable (Bool.eq_false_iff.mpr unbound)

end EntryPoints

/-- **An operation takes one of its courses**, whatever its requests are answered with. -/
theorem perform_course {op : Operation} {d d' : Driver} {reply : Reply}
    {exchanges : List (Exchange Request)} (run : (d.perform op).Yields exchanges (reply, d')) :
    Course d op exchanges reply d' := by
  cases op with
  | destroy =>
      obtain ⟨after, part, ended⟩ := Program.yields_bind_done.mp run
      obtain ⟨rfl, rfl⟩ := Prod.mk.inj ended
      exact destroy_course part
  | bindApi api version =>
      obtain ⟨⟨bound, after⟩, part, ended⟩ := Program.yields_bind_done.mp run
      obtain ⟨rfl, rfl⟩ := Prod.mk.inj ended
      exact bindApi_course part
  | swapInterval interval =>
      obtain ⟨after, part, ended⟩ := Program.yields_bind_done.mp run
      obtain ⟨rfl, rfl⟩ := Prod.mk.inj ended
      exact swapInterval_course part
  | setVideoMode width height fullscreen =>
      obtain ⟨⟨set, after⟩, part, ended⟩ := Program.yields_bind_done.mp run
      obtain ⟨rfl, rfl⟩ := Prod.mk.inj ended
      exact setVideoMode_course part
  | swapBuffers frame =>
      obtain ⟨value, part, ended⟩ := Program.yields_bind_done.mp run
      obtain ⟨rfl, rfl⟩ := Prod.mk.inj ended
      exact swapBuffers_course part
  | getRefreshRate =>
      obtain ⟨rate, part, ended⟩ := Program.yields_bind_done.mp run
      obtain ⟨rfl, rfl⟩ := Prod.mk.inj ended
      exact getRefreshRate_course part
  | inputFallback joypad =>
      obtain ⟨chosen, part, ended⟩ := Program.yields_bind_done.mp run
      obtain ⟨rfl, rfl⟩ := Prod.mk.inj ended
      exact inputFallback_course part
  | getProcAddress symbol =>
      obtain ⟨found, part, ended⟩ := Program.yields_bind_done.mp run
      obtain ⟨rfl, rfl⟩ := Prod.mk.inj ended
      exact getProcAddress_course part
  | bindHwRender enable =>
      obtain ⟨value, part, ended⟩ := Program.yields_bind_done.mp run
      obtain ⟨rfl, rfl⟩ := Prod.mk.inj ended
      exact bindHwRender_course part
  | checkWindow =>
      obtain ⟨requested, rest, rfl, rfl, ended⟩ := run
      obtain ⟨rfl, rfl⟩ := Prod.mk.inj ended
      exact .windowChecked requested
  | getFlags =>
      obtain ⟨videoDriver, rest, rfl, rfl, ended⟩ := run
      obtain ⟨rfl, rfl⟩ := Prod.mk.inj ended
      exact .flagsTold videoDriver
  | setFlags flags =>
      obtain ⟨rfl, ended⟩ := run
      obtain ⟨rfl, rfl⟩ := Prod.mk.inj ended
      exact .flagsSet flags
  | getApi =>
      obtain ⟨rfl, ended⟩ := run
      obtain ⟨rfl, rfl⟩ := Prod.mk.inj ended
      exact .apiTold
  | getVideoSize =>
      obtain ⟨rfl, ended⟩ := run
      obtain ⟨rfl, rfl⟩ := Prod.mk.inj ended
      exact .sizeTold
  | hasFocus =>
      obtain ⟨rfl, ended⟩ := run
      obtain ⟨rfl, rfl⟩ := Prod.mk.inj ended
      exact .focused
  | suppressScreensaver enable =>
      obtain ⟨rfl, ended⟩ := run
      obtain ⟨rfl, rfl⟩ := Prod.mk.inj ended
      exact .unblanked enable
  | hasWindowed =>
      obtain ⟨rfl, ended⟩ := run
      obtain ⟨rfl, rfl⟩ := Prod.mk.inj ended
      exact .unwindowed
  | ident =>
      obtain ⟨rfl, ended⟩ := run
      obtain ⟨rfl, rfl⟩ := Prod.mk.inj ended
      exact .named

end Scanout.Driver
