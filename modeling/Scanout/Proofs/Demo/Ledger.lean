import Scanout.Demo
import Scanout.Proofs.Agreement.Capabilities
import Scanout.Proofs.Platform.Reach
import Scanout.Proofs.Slot.Refinement

/-!
# What is kept of a run of the demo program

Of all that the demo program asks, four things are kept: what is done on the panel, the answers to its
polls for a shutdown, the frames that the driver says it has presented, and the warnings of the program
itself.  Each operation adds a fixed entry as long as a headless platform answers that refuses nothing.

## Main definitions

* `Demo.Ledger`, `Demo.ledger` — what is kept of a transcript
* `Demo.Hosted` — a transcript that is answered by a headless platform
* `Demo.Ready` — a headless backend that refuses nothing and has no surface locked
* `Demo.Enters` — what a program enters over a host that refuses nothing

## Main results

* `Demo.Enters.bind` — programs one behind the other enter one behind the other
* `Demo.perform_enters` — an operation takes one of its courses, and in it nothing is refused
* `Demo.aside_enters`, `Demo.bindApi_enters`, `Demo.setVideoMode_enters`, `Demo.checkWindow_enters`,
  `Demo.swapBuffers_enters`, `Demo.destroy_enters` — what each operation of the program enters
-/

namespace Scanout.Demo

open Driver (Remark Course)
open Headless (Serves)

/-! ### Ledgers -/

/-- The answer of an exchange, if it is a poll for a shutdown. -/
def poll? : Exchange Request → Option Bool
  | ⟨.frontend .shutdownRequested, reply⟩ => some reply
  | _ => none

/-- **The answers to the polls** of a transcript. -/
def polls (exchanges : List (Exchange Request)) : List Bool := exchanges.filterMap poll?

/-- The records of a level and an origin that a transcript writes. -/
def remarks (level : Log.Level) (origin : Log.Origin) (exchanges : List (Exchange Request)) :
    List Log.Record :=
  (recordsFrom Request.record? origin exchanges).filter fun record => record.level == level

/-- **What is kept of a transcript.** -/
structure Ledger where
  acts : List Backend.Act
  polls : List Bool
  /-- What the driver writes about the frames it presented. -/
  frames : List Log.Record
  /-- What the program warns of. -/
  warnings : List Log.Record

/-- The ledger of a transcript. -/
def ledger (exchanges : List (Exchange Request)) : Ledger :=
  ⟨performed exchanges, polls exchanges, remarks .trace .driver exchanges,
    remarks .warn .program exchanges⟩

namespace Ledger

/-- A ledger without entries. -/
def blank : Ledger := ⟨[], [], [], []⟩

/-- A ledger with acts only. -/
def ofActs (acts : List Backend.Act) : Ledger := ⟨acts, [], [], []⟩

instance : Append Ledger where
  append first later :=
    ⟨first.acts ++ later.acts, first.polls ++ later.polls, first.frames ++ later.frames,
      first.warnings ++ later.warnings⟩

theorem append_def (first later : Ledger) : first ++ later =
    ⟨first.acts ++ later.acts, first.polls ++ later.polls, first.frames ++ later.frames,
      first.warnings ++ later.warnings⟩ := rfl

@[simp] theorem blank_append (later : Ledger) : blank ++ later = later := rfl

@[simp] theorem append_blank (first : Ledger) : first ++ blank = first := by
  simp [append_def, blank]

theorem append_assoc (first second third : Ledger) :
    first ++ second ++ third = first ++ (second ++ third) := by
  simp only [append_def, List.append_assoc]

@[simp] theorem ofActs_append (first later : List Backend.Act) :
    ofActs first ++ ofActs later = ofActs (first ++ later) := rfl

end Ledger

section Append

variable {first later : List (Exchange Request)}

theorem polls_append : polls (first ++ later) = polls first ++ polls later := List.filterMap_append

theorem remarks_append {level : Log.Level} {origin : Log.Origin} :
    remarks level origin (first ++ later) =
      remarks level origin first ++ remarks level origin later := by
  rw [remarks, recordsFrom_append, List.filter_append]
  rfl

theorem performed_append : performed (first ++ later) = performed first ++ performed later := by
  rw [performed, backendCalls_append, List.filterMap_append]
  rfl

/-- Transcripts are entered one behind the other. -/
theorem ledger_append : ledger (first ++ later) = ledger first ++ ledger later := by
  rw [ledger, performed_append, polls_append, remarks_append, remarks_append]
  rfl

end Append

/-! ### Hosts -/

/-- What a headless platform is capable of that refuses nothing. -/
def willing : Capabilities := ⟨⟨false, false, false⟩, [.openGl, .openGlEs, .openVg], true⟩

/-- **A headless backend that refuses nothing** and has no surface locked. -/
structure Ready (b : Headless.Backend) : Prop where
  free : b.locked = none
  willing : b.refusals = willing.refusals

/-- **A transcript that is answered by a headless platform**, whose backend goes from one state to
another and whose EGL layer provides everything. -/
structure Hosted (b : Headless.Backend) (exchanges : List (Exchange Request))
    (b' : Headless.Backend) : Prop where
  serves : Serves b (backendCalls exchanges) b'
  told : ∀ call reply, ⟨.egl call, reply⟩ ∈ exchanges →
    Platform.Tells willing.supported willing.createContext call reply

section Hosted

variable {b b' : Headless.Backend} {exchanges first later : List (Exchange Request)}

theorem Hosted.split (hosted : Hosted b (first ++ later) b') :
    ∃ middle, Hosted b first middle ∧ Hosted middle later b' := by
  have serves := hosted.serves
  rw [backendCalls_append, Headless.serves_append] at serves
  obtain ⟨middle, begun, ended⟩ := serves
  exact ⟨middle, ⟨begun, fun call reply among => hosted.told call reply (List.mem_append_left _ among)⟩,
    ⟨ended, fun call reply among => hosted.told call reply (List.mem_append_right _ among)⟩⟩

/-- What refuses nothing goes on to do so. -/
theorem serves_refusals {calls : List (Exchange Backend.Call)} (serves : Serves b calls b') :
    b'.refusals = b.refusals := by
  induction calls generalizing b with
  | nil => rw [Headless.serves_nil.mp serves]
  | cons exchange calls ih =>
      rw [ih (Headless.serves_cons.mp serves).2, Headless.answer_refusals]

/-- **A host without a backend call** leaves its backend as it is. -/
theorem Hosted.unmoved (hosted : Hosted b exchanges b') (silent : backendCalls exchanges = []) :
    b' = b := by
  have serves := hosted.serves
  rw [silent] at serves
  exact Headless.serves_nil.mp serves

/-- Every EGL call is settled by what the EGL layer tells. -/
theorem settles_of_tells {call : Egl.Call} {reply : call.Answer}
    (told : Platform.Tells willing.supported willing.createContext call reply) :
    willing.Settles ⟨.egl call, reply⟩ := by
  cases call with
  | supports api => exact told
  | hasCreateContext => exact told
  | bindApi api =>
      rw [Capabilities.Settles, show reply = _ from told]
      cases api <;> rfl
  | procAddress | bindHwRender => trivial

/-- **A ready host settles every request** in which no surface is refused. -/
theorem Hosted.settles (hosted : Hosted b exchanges b') (ready : Ready b)
    (granted : ∀ call ∈ backendCalls exchanges, ¬ Driver.SurfaceRefused call) :
    ∀ exchange ∈ exchanges, willing.Settles exchange := by
  rintro ⟨request, answer⟩ among
  cases request with
  | backend call =>
      have here : ⟨call, answer⟩ ∈ backendCalls exchanges :=
        List.mem_filterMap.mpr ⟨⟨.backend call, answer⟩, among, rfl⟩
      exact hosted.serves.settles ready.willing granted ⟨call, answer⟩ here
  | egl call => exact settles_of_tells (hosted.told call answer among)
  | frontend | probe | log => trivial

/-- **What moves no surface** leaves a ready host ready, and nothing is refused. -/
theorem still_hosted (still : Driver.surfaceCalls (backendCalls exchanges) = []) (ready : Ready b)
    (hosted : Hosted b exchanges b') :
    Ready b' ∧ ∀ exchange ∈ exchanges, willing.Settles exchange := by
  have framed := Headless.framed_of_still still ready.free hosted.serves
  refine ⟨⟨framed.free, (serves_refusals hosted.serves).trans ready.willing⟩, ?_⟩
  exact hosted.settles ready (Driver.not_surfaceRefused_of_still still)

/-- **An operation over a ready host** leaves the host ready, and nothing is refused. -/
theorem perform_hosted {d d' : Driver} {op : Operation} {reply : Reply}
    (run : (d.perform op).Yields exchanges (reply, d')) (ready : Ready b)
    (hosted : Hosted b exchanges b') :
    Ready b' ∧ Course d op exchanges reply d' ∧ ∀ exchange ∈ exchanges, willing.Settles exchange := by
  obtain ⟨framed, granted⟩ := Driver.perform_framed run ready.free hosted.serves
  have refusals := (serves_refusals hosted.serves).trans ready.willing
  exact ⟨⟨framed.free, refusals⟩, Driver.perform_course run, hosted.settles ready granted⟩

end Hosted

/-! ### What a program enters -/

/-- **What a program enters** over a host that refuses nothing: the host is left ready, and the value of
the program and its ledger satisfy `post`. -/
def Enters {α : Type} (program : Program Request α) (post : α → Ledger → Prop) : Prop :=
  ∀ ⦃b b' : Headless.Backend⦄ ⦃exchanges : List (Exchange Request)⦄ ⦃value : α⦄,
    program.Yields exchanges value → Ready b → Hosted b exchanges b' →
      Ready b' ∧ post value (ledger exchanges)

section Enters

variable {α β : Type} {program : Program Request α} {post mid : α → Ledger → Prop}

/-- What is entered may be said less precisely. -/
theorem Enters.mono {weaker : α → Ledger → Prop} (enters : Enters program post)
    (weaken : ∀ value entry, post value entry → weaker value entry) : Enters program weaker := by
  intro b b' exchanges value run ready hosted
  obtain ⟨ready', holds⟩ := enters run ready hosted
  exact ⟨ready', weaken _ _ holds⟩

/-- A program that asks nothing enters nothing. -/
theorem enters_done {value : α} (holds : post value .blank) :
    Enters (.done value : Program Request α) post := by
  rintro b b' exchanges _ ⟨rfl, rfl⟩ ready hosted
  obtain rfl := hosted.unmoved rfl
  exact ⟨ready, holds⟩

/-- **Programs one behind the other** enter one behind the other. -/
theorem Enters.bind {rest : α → Program Request β} {post : β → Ledger → Prop}
    (begins : Enters program mid)
    (ends : ∀ value entry, mid value entry →
      Enters (rest value) fun result later => post result (entry ++ later)) :
    Enters (program.bind rest) post := by
  intro b b' exchanges result run ready hosted
  obtain ⟨first, later, value, rfl, begun, ended⟩ := Program.yields_bind.mp run
  obtain ⟨middle, beginning, ending⟩ := hosted.split
  obtain ⟨ready', holds⟩ := begins begun ready beginning
  obtain ⟨ready'', holds'⟩ := ends _ _ holds ended ready' ending
  exact ⟨ready'', by rwa [ledger_append]⟩

/-- Behind a program that enters nothing, only what follows is entered. -/
theorem Enters.bind_blank {rest : α → Program Request β} {post : β → Ledger → Prop}
    {holds : α → Prop} (begins : Enters program fun value entry => holds value ∧ entry = .blank)
    (ends : ∀ value, holds value → Enters (rest value) post) : Enters (program.bind rest) post := by
  refine begins.bind ?_
  rintro value _ ⟨held, rfl⟩
  exact ends value held

/-- Whether a record is entered in a ledger. -/
def isEntered (record : Log.Record) : Bool :=
  (record.origin == .driver && record.level == .trace) ||
    (record.origin == .program && record.level == .warn)

/-- **A record** that is not entered. -/
theorem enters_say {level : Log.Level} {origin : Log.Origin} {text : String}
    (other : isEntered ⟨level, origin, text⟩ = false) :
    Enters (Request.say level origin text) fun _ entry => True ∧ entry = .blank := by
  rintro b b' exchanges _ ⟨_, rest, rfl, rfl, rfl⟩ ready hosted
  obtain rfl := hosted.unmoved rfl
  refine ⟨ready, trivial, ?_⟩
  cases level <;> cases origin <;> first | rfl | cases other

/-- **A warning of the program**, which is entered. -/
theorem enters_warning {text : String} :
    Enters (tell .warn text) fun _ entry => entry = ⟨[], [], [], [⟨.warn, .program, text⟩]⟩ := by
  rintro b b' exchanges _ ⟨_, rest, rfl, rfl, rfl⟩ ready hosted
  obtain rfl := hosted.unmoved rfl
  exact ⟨ready, rfl⟩

end Enters

/-! ### Operations of the program -/

/-- What a slot does with an operation that leaves the driver in it. -/
theorem slot_perform {op : Operation} {d : Driver} {slot : Slot} {reply : Reply}
    {exchanges : List (Exchange Request)}
    (run : ((Slot.mk (some d)).perform op).Yields exchanges (reply, slot)) (other : op ≠ .destroy) :
    ∃ d', slot = ⟨some d'⟩ ∧ (d.perform op).Yields exchanges (reply, d') := by
  rw [Slot.perform_held other] at run
  obtain ⟨⟨reply', d'⟩, performed, ended⟩ := Program.yields_bind_done.mp run
  obtain ⟨rfl, rfl⟩ := Prod.mk.inj ended
  exact ⟨d', rfl, performed⟩

/-- Whether an operation neither moves anything on the panel nor polls for a shutdown. -/
def isAside : Operation → Bool
  | .destroy | .setVideoMode _ _ _ | .checkWindow | .swapBuffers _ => false
  | _ => true

section Operations

variable {d : Driver}

/-- **An operation takes one of its courses**, and in it nothing is refused. -/
theorem perform_enters {op : Operation} {post : Reply × Slot → Ledger → Prop} (other : op ≠ .destroy)
    (covers : ∀ exchanges reply d', Course d op exchanges reply d' →
      (∀ exchange ∈ exchanges, willing.Settles exchange) →
        post (reply, ⟨some d'⟩) (ledger exchanges)) :
    Enters ((Slot.mk (some d)).perform op) post := by
  rintro b b' exchanges ⟨reply, slot⟩ run ready hosted
  obtain ⟨d', rfl, performed⟩ := slot_perform run other
  obtain ⟨ready', course, settled⟩ := perform_hosted performed ready hosted
  exact ⟨ready', covers _ _ _ course settled⟩

/-- **An aside enters nothing** and leaves the handles of the driver alone. -/
theorem ledger_aside {op : Operation} {exchanges : List (Exchange Request)} {reply : Reply}
    {d' : Driver} (course : Course d op exchanges reply d') (aside : isAside op = true) :
    ledger exchanges = .blank ∧ d'.pipeline = d.pipeline := by
  cases course with
  | released | releasedBefore | modeWithoutDisplay | contextKept | contextRefused | contextMade
  | windowChecked | frameUnhandled | frameTooEarly | frameDropped | frameUnposted
  | framePresented => cases aside
  | flagsSet flags => exact ⟨rfl, Driver.setFlags_pipeline flags d⟩
  | _ => exact ⟨rfl, rfl⟩

/-- **An aside** of the driver in a slot. -/
theorem aside_enters {op : Operation} (aside : isAside op = true) :
    Enters ((Slot.mk (some d)).perform op) fun result entry =>
      (∃ d', result.2 = ⟨some d'⟩ ∧ d'.pipeline = d.pipeline ∧
        (d'.api, d'.version) = op.binding?.getD (d.api, d.version)) ∧ entry = .blank := by
  refine perform_enters (by rintro rfl; cases aside) fun exchanges reply d' course _ => ?_
  obtain ⟨entry, same⟩ := ledger_aside course aside
  exact ⟨⟨d', rfl, same, course.binding_eq⟩, entry⟩

/-- **A binding succeeds** if EGL could provide the API at all. -/
theorem bindApi_enters {api : GraphicsApi} {version : Version} :
    Enters ((Slot.mk (some d)).perform (.bindApi api version)) fun result entry =>
      (∃ d', result = (.truth api.client?.isSome, ⟨some d'⟩) ∧ d'.pipeline = d.pipeline ∧
        d'.api = api) ∧ entry = .blank := by
  refine perform_enters nofun fun exchanges reply d' course settled => ?_
  obtain ⟨entry, same⟩ := ledger_aside course rfl
  refine ⟨⟨d', ?_, same, congrArg Prod.fst course.binding_eq⟩, entry⟩
  cases course with
  | unbindable _ _ foreign => rw [foreign]; rfl
  | unprovided _ _ client known =>
      -- a layer that provides everything provides this API
      have provided : false = willing.supported.contains client := settled _ List.mem_cons_self
      cases client <;> cases provided
  | extensionMissing _ _ client known needed =>
      have missing : false = true :=
        settled ⟨.egl .hasCreateContext, false⟩ (List.mem_cons_of_mem _ List.mem_cons_self)
      cases missing
  | bindingTried _ _ client creates bound known enough =>
      have accepted : bound = true := settled ⟨.egl (.bindApi client), bound⟩ (by simp)
      rw [accepted, known]
      rfl

/-- What setting the first video mode does on the panel. -/
def showingActs : List Backend.Act :=
  [.createContext Panel.width Panel.height Panel.attributes, .makeCurrent, .clearColorBuffer]

/-- **The first video mode** makes a render context and shows it. -/
theorem setVideoMode_enters {width height : UInt32} {fullscreen : Bool} {display : Display}
    {presenter : Presenter} (unmade : d.pipeline = some ⟨display, presenter, none⟩) :
    Enters ((Slot.mk (some d)).perform (.setVideoMode width height fullscreen)) fun result entry =>
      (∃ d' context, result = (.truth true, ⟨some d'⟩) ∧ d'.api = d.api ∧
        d'.pipeline = some ⟨display, presenter, some context⟩) ∧ entry = .ofActs showingActs := by
  refine perform_enters nofun fun exchanges reply d' course settled => ?_
  cases course with
  | modeWithoutDisplay _ _ _ gone => cases unmade.symm.trans gone
  | contextKept _ _ _ pipeline context held made =>
      obtain rfl := Option.some.inj (unmade.symm.trans held)
      cases made
  | contextRefused _ _ _ pipeline cause held unmade =>
      have granted : Except.isOk (.error cause : Except Failure RenderContext) = true :=
        settled ⟨.backend (.createContext pipeline.display Panel.width Panel.height
          Panel.attributes), .error cause⟩ (by simp)
      cases granted
  | contextMade _ _ _ pipeline context held made =>
      obtain rfl := Option.some.inj (unmade.symm.trans held)
      exact ⟨⟨_, context, rfl, rfl, rfl⟩, rfl⟩

/-- **A poll** enters its answer. -/
theorem checkWindow_enters :
    Enters ((Slot.mk (some d)).perform .checkWindow) fun result entry =>
      ∃ requested, result = (.window ⟨requested, false⟩, ⟨some d⟩) ∧
        entry = ⟨[], [requested], [], []⟩ := by
  refine perform_enters nofun fun exchanges reply d' course _ => ?_
  cases course with
  | windowChecked requested => exact ⟨requested, rfl, rfl⟩

/-- **A driver in motion**: its API is bound through EGL, and it has a render context. -/
structure Running (d : Driver) (pipeline : Pipeline) : Prop where
  bound : d.usesEgl = true
  held : d.pipeline = some pipeline
  made : pipeline.context.isSome = true

/-- **A frame** is shown by a driver in motion. -/
theorem swapBuffers_enters {frame : UInt64} {pipeline : Pipeline} (running : Running d pipeline) :
    Enters ((Slot.mk (some d)).perform (.swapBuffers frame)) fun result entry =>
      result.2 = ⟨some d⟩ ∧
        entry = ⟨Driver.frameActs, [], [(Remark.framePresented frame).record], []⟩ := by
  refine perform_enters nofun fun exchanges reply d' course settled => ?_
  cases course with
  | frameUnhandled _ unbound => cases unbound.symm.trans running.bound
  | frameTooEarly _ _ unmade =>
      have made := running.made
      rw [Driver.context, running.held] at unmade
      rw [show pipeline.context = none from unmade] at made
      cases made
  | frameDropped _ pipeline context cause _ held made =>
      have granted : Except.isOk (.error cause : Except Failure Surface) = true :=
        settled ⟨.backend (.lockSurface context), .error cause⟩ (by simp)
      cases granted
  | frameUnposted _ pipeline context surface cause _ held made =>
      have granted : Except.isOk (.error cause : Except Failure Unit) = true :=
        settled ⟨.backend (.post pipeline.presenter surface Panel.placement), .error cause⟩ (by simp)
      cases granted
  | framePresented => exact ⟨rfl, rfl⟩

/-- The acts that give a pipeline back. -/
def releaseActs (pipeline : Pipeline) : List Backend.Act :=
  (if pipeline.context.isSome then [.destroyContext] else []) ++ [.destroyPresenter, .destroyDisplay]

/-- **A destruction** gives everything back once and empties the slot: the driver that leaves the slot
has nothing left to release. -/
theorem destroy_enters {pipeline : Pipeline} (held : d.pipeline = some pipeline) :
    Enters ((Slot.mk (some d)).perform .destroy) fun _ entry =>
      entry = .ofActs (releaseActs pipeline) := by
  rintro b b' exchanges ⟨reply, slot⟩ run ready hosted
  obtain ⟨slot', destroyed, -⟩ := Program.yields_bind_done.mp run
  obtain ⟨first, rest, d₁, rfl, once, left⟩ := Program.yields_bind.mp destroyed
  obtain ⟨w, tail, rfl, again⟩ := left
  change (d₁.destroy.bind fun _ => .done Slot.empty).Yields tail slot' at again
  obtain ⟨d₂, twice, rfl⟩ := Program.yields_bind_done.mp again
  have gone : d₁.pipeline = none := by rw [(Driver.destroy_calls once).2]
  rw [Driver.destroy, gone] at twice
  obtain ⟨rfl, -⟩ := twice
  cases Driver.destroy_course once with
  | releasedBefore gone => cases held.symm.trans gone
  | released pipeline' held' =>
      obtain rfl := Option.some.inj (held.symm.trans held')
      have still : Driver.surfaceCalls
          (backendCalls (Driver.releasing pipeline ++ [⟨.log _, w⟩])) = [] := by
        rw [backendCalls_append, Driver.backendCalls_releasing, backendCalls_log, backendCalls_nil,
          List.append_nil, Driver.surfaceCalls_releases]
      refine ⟨(still_hosted still ready hosted).1, ?_⟩
      rcases pipeline with ⟨display, presenter, _ | context⟩ <;> rfl

end Operations

end Scanout.Demo
