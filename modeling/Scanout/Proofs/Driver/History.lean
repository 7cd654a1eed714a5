import Scanout.Proofs.Driver.Courses
import Scanout.Proofs.Driver.Life

/-!
# What a driver shows is told by its history

Whatever can be seen of a driver is a function of the operations it was asked for and of the replies
it gave: the last binding, the last swap interval, whether a mode was ever asked for, whether a core
context was, and whether it was destroyed.  Each of these depends on the operations that are about it
and on no others.

## Main definitions

* `Operation.latest` — what the last operation that says something says
* `Operation.beforeDestroy` — the operations before the first destruction
* `Driver.Observed` — what is seen of a driver after a history

## Main results

* `Driver.Course.binding_eq`, `.interval_eq`, `.size_eq`, `.coreContext_eq`, `.hasDisplay_eq`,
  `.hasContext_eq` — what one operation does to each field
* `Driver.lives_observed` — what is seen is what the history tells
-/

namespace Scanout

namespace Operation

/-! ### What operations say -/

/-- The API and the version that an operation asks to bind. -/
def binding? : Operation → Option (GraphicsApi × Version)
  | .bindApi api version => some (api, version)
  | _ => none

/-- The swap interval that an operation asks for. -/
def interval? : Operation → Option Int32
  | .swapInterval interval => some interval
  | _ => none

/-- Whether an operation asks for more than the greatest interval that is honoured. -/
def exceeds (op : Operation) : Bool := op.interval?.any fun interval => decide (1 < interval)

/-- Whether an operation asks for the destruction of the driver. -/
def destroys : Operation → Bool
  | .destroy => true
  | _ => false

/-- Whether an operation asks for a video mode. -/
def setsMode : Operation → Bool
  | .setVideoMode _ _ _ => true
  | _ => false

/-- Whether an operation asks for a core context. -/
def asksCore : Operation → Bool
  | .setFlags flags => flags.contains Flags.glCoreContext
  | _ => false

/-- **What the last operation that says something says**, or `initial` if none of them does. -/
def latest {β : Type} (asked? : Operation → Option β) (initial : β) (ops : List Operation) : β :=
  (ops.filterMap asked?).getLast?.getD initial

/-- **The operations before the first destruction.** -/
def beforeDestroy (ops : List Operation) : List Operation := ops.takeWhile fun op => !op.destroys

@[simp] theorem latest_nil {β : Type} (asked? : Operation → Option β) (initial : β) :
    latest asked? initial [] = initial := rfl

/-- What the first operation says is forgotten as soon as a later one says something. -/
theorem latest_cons {β : Type} (asked? : Operation → Option β) (initial : β) (op : Operation)
    (ops : List Operation) :
    latest asked? initial (op :: ops) = latest asked? ((asked? op).getD initial) ops := by
  unfold latest
  rw [List.filterMap_cons]
  cases asked? op with
  | none => rfl
  | some said => rw [List.getLast?_cons, Option.getD_some, Option.getD_some]

/-- Nothing stands before a destruction that comes first. -/
theorem beforeDestroy_cons (op : Operation) (ops : List Operation) :
    beforeDestroy (op :: ops) = if op.destroys then [] else op :: beforeDestroy ops := by
  unfold beforeDestroy
  rw [List.takeWhile_cons]
  cases op.destroys <;> rfl

end Operation

namespace Driver

open Operation

/-! ### Records and requests that are counted -/

/-- **The warning that a swap interval is not honoured.** -/
def intervalWarning : Log.Record :=
  ⟨.warn, .driver,
    "[KMS]: Swap intervals > 1 currently not supported. Will use swap interval of 1."⟩

/-- Whether an exchange makes a request. -/
def makes (request : Request) (exchange : Exchange Request) : Bool := exchange.1 == request

theorem makes_mk (request other : Request) (reply : Answer other) :
    makes request ⟨other, reply⟩ = (other == request) := rfl

/-- **Only one remark of a driver is the warning about swap intervals**: no other warning begins with
the same character. -/
theorem Remark.makes_warning_said {remark : Remark} (other : remark ≠ .intervalHeld) :
    makes (.log intervalWarning) remark.said = false := by
  rw [Bool.eq_false_iff]
  intro same
  have record : remark.record = intervalWarning := Request.log.inj (eq_of_beq same)
  have level : remark.record.level = .warn := by rw [record]; rfl
  have origin : remark.record.origin = .driver := by rw [record]; rfl
  have first : remark.record.text.toList.head? = some '[' := by rw [record]; rfl
  cases remark with
  | intervalHeld => exact other rfl
  | contextReleased | presenterReleased | displayClosed | unbindable | bindingTried
  | modeRequested | framePresented => cases level
  | fallbackFound | fallbackMissing => cases origin
  | unprovided | extensionMissing | modeWithoutDisplay | contextRefused | frameDropped
  | postFailed | frameTooEarly | frameUnhandled =>
      simp [Remark.record, String.toList_append] at first

/-! ### What one operation does -/

section Course

variable {d d' : Driver} {op : Operation} {reply : Reply} {exchanges : List (Exchange Request)}

/-- **API and version are those of the last binding**, whatever came of it. -/
theorem Course.binding_eq (course : Course d op exchanges reply d') :
    (d'.api, d'.version) = op.binding?.getD (d.api, d.version) := by
  cases course with
  | flagsSet flags =>
      unfold setFlags
      split <;> rfl
  | _ => rfl

/-- **The interval is the last one asked for**, held at one. -/
theorem Course.interval_eq (course : Course d op exchanges reply d') :
    d'.interval = (op.interval?.map fun interval => min interval 1).getD d.interval := by
  cases course with
  | intervalKept interval honoured =>
      show interval = if interval ≤ 1 then interval else 1
      exact (if_pos (Int32.not_lt.mp honoured)).symm
  | intervalHeld interval great =>
      show Panel.greatestInterval = if interval ≤ 1 then interval else 1
      exact (if_neg (Int32.not_le.mpr great)).symm
  | flagsSet flags =>
      unfold setFlags
      split <;> rfl
  | _ => rfl

/-- **The size is that of the panel once a mode was asked for** while there was a display. -/
theorem Course.size_eq (course : Course d op exchanges reply d') :
    d'.size = if op.setsMode && d.hasDisplay then ⟨Panel.width, Panel.height⟩ else d.size := by
  cases course with
  | modeWithoutDisplay width height fullscreen gone => simp [hasDisplay, gone]
  | contextKept width height fullscreen pipeline context held =>
      simp [hasDisplay, held, setsMode, sized]
  | contextRefused width height fullscreen pipeline cause held =>
      simp [hasDisplay, held, setsMode, sized]
  | contextMade width height fullscreen pipeline context held =>
      simp [hasDisplay, held, setsMode, sized]
  | flagsSet flags =>
      unfold setFlags
      split <;> rfl
  | _ => rfl

/-- **A core context is asked for once and for all.** -/
theorem Course.coreContext_eq (course : Course d op exchanges reply d') :
    d'.coreContext = (d.coreContext || op.asksCore) := by
  cases course with
  | flagsSet flags =>
      show (setFlags flags d).coreContext = (d.coreContext || flags.contains Flags.glCoreContext)
      unfold setFlags
      split
      · next core => rw [core, Bool.or_true]
      · next core => rw [Bool.eq_false_iff.mpr core, Bool.or_false]
  | _ => exact (Bool.or_false _).symm

/-- **Only a destruction takes the display.** -/
theorem Course.hasDisplay_eq (course : Course d op exchanges reply d') :
    d'.hasDisplay = (!op.destroys && d.hasDisplay) := by
  cases course with
  | releasedBefore gone => simp [hasDisplay, gone]
  | contextMade width height fullscreen pipeline context held => simp [hasDisplay, held, destroys]
  | flagsSet flags =>
      unfold setFlags
      split <;> rfl
  | _ => rfl

/-- **A mode that was set leaves a context**, and only a destruction takes it. -/
theorem Course.hasContext_eq (course : Course d op exchanges reply d') :
    d'.hasContext =
      (!op.destroys && (d.hasContext || (op.setsMode && reply == .truth true))) := by
  cases course with
  | releasedBefore gone => simp [hasContext, Driver.context, gone]
  | modeWithoutDisplay width height fullscreen gone =>
      simp [hasContext, Driver.context, gone]
  | contextKept width height fullscreen pipeline context held made =>
      simp [hasContext, Driver.context, held, made, destroys, setsMode, sized]
  | contextRefused width height fullscreen pipeline cause held unmade =>
      simp [hasContext, Driver.context, held, unmade, setsMode, sized]
  | contextMade width height fullscreen pipeline context held unmade =>
      simp [hasContext, Driver.context, destroys, setsMode]
  | flagsSet flags =>
      unfold setFlags
      split <;> exact (Bool.or_false _).symm
  | _ => first | rfl | exact (Bool.or_false _).symm

/-- **The handler is installed once for each mode that is asked for** while there is a display. -/
theorem Course.countP_installs (course : Course d op exchanges reply d') :
    exchanges.countP (makes (.frontend .installSignalHandler)) =
      if op.setsMode && d.hasDisplay then 1 else 0 := by
  cases course with
  | released pipeline => rcases pipeline with ⟨display, presenter, _ | context⟩ <;> rfl
  | modeWithoutDisplay width height fullscreen gone =>
      rw [hasDisplay, gone]
      rfl
  | contextKept width height fullscreen pipeline context held
  | contextRefused width height fullscreen pipeline cause held
  | contextMade width height fullscreen pipeline context held =>
      rw [hasDisplay, held]
      rfl
  | _ => rfl

/-- **The warning is written once for each interval that is not honoured.** -/
theorem Course.countP_warns (course : Course d op exchanges reply d') :
    exchanges.countP (makes (.log intervalWarning)) = if op.exceeds then 1 else 0 := by
  cases course with
  | intervalKept interval honoured =>
      have within : decide (1 < interval) = false := decide_eq_false honoured
      simp [exceeds, interval?, within]
  | intervalHeld interval great =>
      have beyond : decide (1 < interval) = true := decide_eq_true great
      simp [exceeds, interval?, beyond, makes, Remark.said]
      decide
  | released pipeline =>
      rcases pipeline with ⟨display, presenter, _ | context⟩ <;>
        simp [releasing, contextReleasing, Remark.makes_warning_said, makes_mk, exceeds, interval?]
  | _ =>
      simp [Remark.makes_warning_said, makes_mk, exceeds, interval?, showing]

end Course

/-! ### What a history leaves -/

section Lives

variable {d d' : Driver} {episodes : List Episode}

theorem Lives.binding_eq (lives : Lives d episodes d') :
    (d'.api, d'.version) = latest binding? (d.api, d.version) (episodes.map Episode.op) := by
  induction lives with
  | idle d => rfl
  | step run lives ih => rw [ih, (perform_course run).binding_eq, List.map_cons, latest_cons]

theorem Lives.interval_eq (lives : Lives d episodes d') :
    d'.interval = latest (fun op => op.interval?.map fun interval => min interval 1) d.interval
      (episodes.map Episode.op) := by
  induction lives with
  | idle d => rfl
  | step run lives ih => rw [ih, (perform_course run).interval_eq, List.map_cons, latest_cons]

theorem Lives.coreContext_eq (lives : Lives d episodes d') :
    d'.coreContext = (d.coreContext || (episodes.map Episode.op).any asksCore) := by
  induction lives with
  | idle d => exact (Bool.or_false _).symm
  | step run lives ih =>
      rw [ih, (perform_course run).coreContext_eq, List.map_cons, List.any_cons, Bool.or_assoc]

theorem Lives.hasDisplay_eq (lives : Lives d episodes d') :
    d'.hasDisplay = (d.hasDisplay && !(episodes.map Episode.op).any destroys) := by
  induction lives with
  | idle d => exact (Bool.and_true _).symm
  | @step d₁ d₂ d₃ op reply exchanges later run lives ih =>
      rw [ih, (perform_course run).hasDisplay_eq, List.map_cons, List.any_cons, Bool.not_or,
        Bool.and_comm (!op.destroys), Bool.and_assoc]

theorem Lives.size_eq (lives : Lives d episodes d') :
    d'.size = if d.hasDisplay && (beforeDestroy (episodes.map Episode.op)).any setsMode then
      ⟨Panel.width, Panel.height⟩ else d.size := by
  induction lives with
  | idle d => simp [beforeDestroy]
  | @step d₁ d₂ d₃ op reply exchanges later run lives ih =>
      have course := perform_course run
      rw [ih, course.size_eq, course.hasDisplay_eq, List.map_cons, beforeDestroy_cons]
      cases destroyed : op.destroys with
      | true =>
          -- behind a destruction no mode counts any more
          cases op <;> simp_all [destroys, setsMode]
      | false =>
          cases d₁.hasDisplay <;> cases sets : op.setsMode <;> simp [sets]

/-- Without a display there is no context. -/
theorem hasContext_of_not_hasDisplay (gone : d.hasDisplay = false) : d.hasContext = false := by
  cases held : d.pipeline with
  | none => simp [hasContext, Driver.context, held]
  | some pipeline => simp [hasDisplay, held] at gone

theorem Lives.hasContext_eq (lives : Lives d episodes d') :
    d'.hasContext = (!(episodes.map Episode.op).any destroys && (d.hasContext ||
      episodes.any fun episode => episode.op.setsMode && episode.reply == .truth true)) := by
  induction lives with
  | idle d => simp
  | @step d₁ d₂ d₃ op reply exchanges later run lives ih =>
      have course := perform_course run
      cases destroyed : op.destroys with
      | true =>
          -- what comes behind a destruction makes no context
          have gone : d₃.hasDisplay = false := by
            rw [lives.hasDisplay_eq, course.hasDisplay_eq, destroyed]
            rfl
          rw [hasContext_of_not_hasDisplay gone, List.map_cons, List.any_cons, destroyed]
          rfl
      | false =>
          rw [ih, course.hasContext_eq, List.map_cons, List.any_cons, List.any_cons, destroyed,
            Bool.not_false, Bool.true_and, Bool.false_or, Bool.or_assoc]

end Lives

/-! ### What is seen -/

/-- **What is seen of a driver** that was opened and went through a history: everything is told by
the operations of the history and by their replies. -/
structure Observed (opening : List (Exchange Request)) (episodes : List Episode) (d : Driver) :
    Prop where
  api : d.perform .getApi =
    pure (.api (latest binding? (.none, ⟨0, 0⟩) (episodes.map Episode.op)).1, d)
  version : d.version = (latest binding? (.none, ⟨0, 0⟩) (episodes.map Episode.op)).2
  interval : d.interval =
    latest (fun op => op.interval?.map fun interval => min interval 1) 0 (episodes.map Episode.op)
  warned : ∀ episode ∈ episodes,
    episode.exchanges.countP (makes (.log intervalWarning)) = if episode.op.exceeds then 1 else 0
  size : d.perform .getVideoSize = pure (.size (some
    (if (beforeDestroy (episodes.map Episode.op)).any setsMode then ⟨480, 320⟩ else ⟨0, 0⟩)), d)
  core : d.coreContext = (episodes.map Episode.op).any asksCore
  flags : ∀ exchanges reply after, (d.perform .getFlags).Yields exchanges (reply, after) →
    after = d ∧ ∃ (videoDriver : String) (flags : Flags),
      exchanges = [⟨.frontend .videoDriver, videoDriver⟩] ∧ reply = .flags flags ∧
      flags.unnamed = .empty ∧
      flags.names = (if d.coreContext then ["GL_CORE_CONTEXT"] else []) ++
        "CUSTOMIZABLE_SWAPCHAIN_IMAGES" ::
        if videoDriver = "glcore" then ["SHADERS_SLANG"] else ["SHADERS_GLSL"]
  display : d.hasDisplay = !(episodes.map Episode.op).any destroys
  presenter : d.hasPresenter = !(episodes.map Episode.op).any destroys
  context : d.hasContext = (!(episodes.map Episode.op).any destroys &&
    episodes.any fun episode => episode.op.setsMode && episode.reply == .truth true)
  installed : ∀ before episode after, episodes = before ++ episode :: after →
    episode.exchanges.countP (makes (.frontend .installSignalHandler)) =
      if episode.op.setsMode && !(before.map Episode.op).any destroys then 1 else 0
  quiet : opening.countP (makes (.frontend .installSignalHandler)) = 0 ∧
    opening.countP (makes (.log intervalWarning)) = 0

/-- **A driver that was opened** has a display and nothing was asked of it yet; its opening neither
installs a handler nor warns. -/
theorem start_opened {opening : List (Exchange Request)} {d : Driver}
    (run : start.Yields opening (.ok d)) :
    (∃ display presenter, d = opened display presenter) ∧
      opening.countP (makes (.frontend .installSignalHandler)) = 0 ∧
      opening.countP (makes (.log intervalWarning)) = 0 := by
  obtain ⟨display, rest, rfl, run⟩ := run
  rcases display with cause | display
  · obtain ⟨-, ended⟩ := run
    cases ended
  · obtain ⟨presenter, rest, rfl, run⟩ := run
    rcases presenter with cause | presenter
    · obtain ⟨-, rest, rfl, -, ended⟩ := run
      cases ended
    · obtain ⟨-, rest, rfl, rfl, ended⟩ := run
      cases ended
      exact ⟨⟨display, presenter, rfl⟩, rfl, by simp [makes_mk, intervalWarning]⟩

/-- **The capabilities of a driver**, by name. -/
theorem capabilities_names (core : Bool) (videoDriver : String) :
    let flags := (Flags.customizableSwapchainImages.union
      (if core then Flags.glCoreContext else Flags.empty)).union
      (if videoDriver == Panel.slangVideoDriver then Flags.shadersSlang else Flags.shadersGlsl)
    flags.unnamed = .empty ∧
      flags.names = (if core then ["GL_CORE_CONTEXT"] else []) ++
        "CUSTOMIZABLE_SWAPCHAIN_IMAGES" ::
        if videoDriver = "glcore" then ["SHADERS_SLANG"] else ["SHADERS_GLSL"] := by
  by_cases slang : videoDriver = "glcore"
  · rw [if_pos slang, slang]
    cases core <;> decide
  · have other : (videoDriver == Panel.slangVideoDriver) = false := beq_eq_false_iff_ne.mpr slang
    rw [if_neg slang, other]
    cases core <;> decide

/-- **What is seen of a driver is told by its history**, whatever its requests were answered with. -/
theorem lives_observed {opening : List (Exchange Request)} {episodes : List Episode}
    {d₁ d₂ : Driver} (run : start.Yields opening (.ok d₁)) (lives : Lives d₁ episodes d₂) :
    Observed opening episodes d₂ := by
  obtain ⟨⟨display, presenter, rfl⟩, quiet⟩ := start_opened run
  have bound := lives.binding_eq
  have shown := lives.hasDisplay_eq
  rw [show (opened display presenter).hasDisplay = true from rfl, Bool.true_and] at shown
  refine
    { api := ?api, version := congrArg Prod.snd bound, interval := lives.interval_eq,
      warned := ?warned, size := ?size, core := lives.coreContext_eq, flags := ?flags,
      display := shown, presenter := shown, context := lives.hasContext_eq,
      installed := ?installed, quiet := quiet }
  case api =>
    rw [perform, show d₂.api = _ from congrArg Prod.fst bound]
    rfl
  case warned =>
    intro episode among
    obtain ⟨before, after, rfl⟩ := List.append_of_mem among
    obtain ⟨middle, -, later⟩ := lives.split
    cases later with
    | step run _ => exact (perform_course run).countP_warns
  case size =>
    rw [perform, lives.size_eq]
    rfl
  case flags =>
    intro exchanges reply after run
    cases perform_course run with
    | flagsTold videoDriver =>
        obtain ⟨known, named⟩ := capabilities_names d₂.coreContext videoDriver
        exact ⟨rfl, videoDriver, _, rfl, rfl, known, named⟩
  case installed =>
    rintro before episode after rfl
    obtain ⟨middle, earlier, later⟩ := lives.split
    have held := earlier.hasDisplay_eq
    rw [show (opened display presenter).hasDisplay = true from rfl, Bool.true_and] at held
    cases later with
    | step run _ =>
        rw [← held]
        exact (perform_course run).countP_installs

/-- A driver that is asked for more after it was destroyed: the last binding counts, and the mode that
was set before. -/
theorem destroyed_observed :
    let asked := [.bindApi .openGlEs ⟨3, 0⟩, .swapInterval 5, .setVideoMode 640 480 true,
      .setFlags .glCoreContext, .destroy, .bindApi .vulkan ⟨1, 3⟩, .setVideoMode 640 480 true,
      .swapInterval (-2)]
    Observed (start.transcribe (unposting 7)).1
      (rehearse (unposting 7) (opened ⟨7⟩ ⟨7⟩) asked).1
      ⟨none, .vulkan, ⟨1, 3⟩, -2, ⟨480, 320⟩, true⟩ :=
  lives_observed (Program.yields_transcribe (unposting 7) start)
    (lives_rehearse (unposting 7) (opened ⟨7⟩ ⟨7⟩) _)

end Driver

end Scanout
