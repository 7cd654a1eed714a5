import Scanout.Proofs.Platform.Runs

/-!
# What a headless platform asks the machine

A headless backend and a headless EGL layer never leave the platform they belong to: all they ask the
machine is to write to the log.  What else a headless platform asks comes from its frontend or from
its prober, and only from those of the system.

## Main definitions

* `Platform.isHeadless` — the platforms with a headless backend and a headless EGL layer
* `Platform.mayAsk` — what a headless platform may ask the machine

## Main results

* `Platform.Answers.confined` — a headless platform asks nothing else, and stays headless
* `Platform.Answers.recordsFrom_eq` — what the driver writes to the log stands in it as it was written
-/

namespace Scanout

open Machine (Question written)

/-! ### Records of one origin -/

/-- The record that an exchange with the machine writes. -/
def Machine.record? : Exchange Question → Option Log.Record
  | ⟨.log record, _⟩ => some record
  | _ => none

/-- The record that a request writes. -/
def Request.record? : Exchange Request → Option Log.Record
  | ⟨.log record, _⟩ => some record
  | _ => none

/-- **The records of one origin** that a transcript writes. -/
def recordsFrom {Q : Type} [Questions Q] (record? : Exchange Q → Option Log.Record)
    (origin : Log.Origin) (exchanges : List (Exchange Q)) : List Log.Record :=
  (exchanges.filterMap record?).filter fun record => record.origin == origin

section RecordsFrom

variable {Q : Type} [Questions Q] {record? : Exchange Q → Option Log.Record} {origin : Log.Origin}

@[simp] theorem recordsFrom_nil : recordsFrom record? origin [] = [] := rfl

@[simp] theorem recordsFrom_append {first later : List (Exchange Q)} :
    recordsFrom record? origin (first ++ later) =
      recordsFrom record? origin first ++ recordsFrom record? origin later := by
  rw [recordsFrom, List.filterMap_append, List.filter_append]
  rfl

end RecordsFrom

theorem Machine.record?_eq_some {exchange : Exchange Question} {record : Log.Record} :
    Machine.record? exchange = some record ↔ exchange.1 = .log record := by
  rcases exchange with ⟨_ | _ | _ | _ | _ | _, reply⟩ <;> simp [Machine.record?]

/-- **Whether records of an origin may come from the parts of a headless platform.** -/
def Log.Origin.isOfPlatform : Log.Origin → Bool
  | .headless | .signals | .input => true
  | .program | .configuration | .driver | .slot | .panelLibrary | .systemEgl => false

/-- What the parts of a headless platform write is of no other origin. -/
theorem recordsFrom_of_platform {origin : Log.Origin} {exchanges : List (Exchange Question)}
    (own : origin.isOfPlatform = false)
    (ofPlatform : ∀ exchange ∈ exchanges, ∀ record : Log.Record, exchange.1 = .log record →
      record.origin.isOfPlatform = true) : recordsFrom Machine.record? origin exchanges = [] := by
  refine List.filter_eq_nil_iff.mpr fun record among => ?_
  obtain ⟨exchange, here, written⟩ := List.mem_filterMap.mp among
  have known := ofPlatform exchange here record (Machine.record?_eq_some.mp written)
  rw [beq_iff_eq]
  rintro rfl
  exact absurd known (Bool.eq_false_iff.mp own)

namespace Platform

/-! ### The parts of a platform -/

/-- Whether a backend is headless. -/
def Backend.isHeadless : Platform.Backend → Bool
  | .headless _ => true
  | .native => false

/-- Whether an EGL layer is headless. -/
def EglLayer.isHeadless : Platform.EglLayer → Bool
  | .headless _ => true
  | .native _ => false

/-- **What a frontend may ask.** -/
def Frontend.mayAsk : Platform.Frontend → Question → Bool
  | .system _, .installShutdownHandler | .system _, .shutdownRequested => true
  | .system _, .log record => record.origin == .signals
  | _, _ => false

/-- **What a prober may ask.** -/
def Prober.mayAsk : Platform.Prober → Question → Bool
  | .system _, .isTerminal | .system _, .listDirectory _ => true
  | .system _, .log record => record.origin == .input
  | _, _ => false

theorem Frontend.mayAsk_log {f : Platform.Frontend} {record : Log.Record}
    (may : f.mayAsk (.log record) = true) : record.origin = .signals := by
  cases f with
  | scripted state => cases may
  | system state => exact eq_of_beq may

theorem Prober.mayAsk_log {prober : Platform.Prober} {record : Log.Record}
    (may : prober.mayAsk (.log record) = true) : record.origin = .input := by
  cases prober with
  | scripted state => cases may
  | system state => exact eq_of_beq may

section Parts

variable {asked : List (Exchange Question)}

/-- All a headless backend asks is to write to the log. -/
theorem Backend.asksOnly_headless (b : Headless.Backend) (call : Backend.Call) :
    (b.serve call).AsksOnly fun question =>
      ∃ record : Log.Record, question = .log record ∧ record.origin = .headless := by
  cases call with
  | destroyDisplay | destroyPresenter | destroyContext | makeCurrent | clearColorBuffer
  | swapBuffers | unlockSurface => exact ⟨⟨_, rfl, rfl⟩, fun _ => trivial⟩
  | refreshRate => trivial
  | createDisplay =>
      rw [Headless.Backend.serve]
      split
      · trivial
      · exact ⟨⟨_, rfl, rfl⟩, fun _ => ⟨⟨_, rfl, rfl⟩, fun _ => trivial⟩⟩
  | createPresenter =>
      rw [Headless.Backend.serve]
      split
      · trivial
      · exact ⟨⟨_, rfl, rfl⟩, fun _ => trivial⟩
  | createContext =>
      rw [Headless.Backend.serve]
      split
      · trivial
      · exact ⟨⟨_, rfl, rfl⟩, fun _ => ⟨⟨_, rfl, rfl⟩, fun _ => trivial⟩⟩
  | post =>
      rw [Headless.Backend.serve]
      split
      · exact ⟨⟨_, rfl, rfl⟩, fun _ => trivial⟩
      · trivial
  | lockSurface =>
      rw [Headless.Backend.serve]
      split
      · trivial
      · exact ⟨⟨_, rfl, rfl⟩, fun _ => trivial⟩

/-- **A headless backend** only writes to the log, and stays headless. -/
theorem Backend.asked_of_headless {b b' : Platform.Backend} {call : Backend.Call}
    {reply : call.Answer} (headless : b.isHeadless = true)
    (run : (b.serve call).Yields asked (reply, b')) :
    b'.isHeadless = true ∧
      ∀ exchange ∈ asked, ∃ record : Log.Record, exchange.1 = .log record ∧
        record.origin = .headless := by
  cases b with
  | native => cases headless
  | headless state =>
      obtain ⟨result, one, ended⟩ := Program.yields_bind_done.mp run
      obtain ⟨rfl, rfl⟩ := Prod.mk.inj ended
      exact ⟨rfl, (asksOnly_headless state call).of_mem one⟩

/-- **A headless EGL layer** asks nothing, and stays headless. -/
theorem EglLayer.asked_of_headless {e e' : Platform.EglLayer} {call : Egl.Call}
    {reply : call.Answer} (headless : e.isHeadless = true)
    (run : (e.serve call).Yields asked (reply, e')) : e'.isHeadless = true ∧ asked = [] := by
  cases e with
  | native => cases headless
  | headless state =>
      obtain ⟨nothing, ended⟩ := run
      obtain ⟨-, rfl⟩ := Prod.mk.inj ended
      exact ⟨rfl, nothing⟩

/-- **A frontend** asks what it may, and stays of its kind. -/
theorem Frontend.asked_mayAsk {f f' : Platform.Frontend} {call : Frontend.Call}
    {reply : call.Answer} (run : (f.serve call).Yields asked (reply, f')) :
    f'.mayAsk = f.mayAsk ∧ ∀ exchange ∈ asked, f.mayAsk exchange.1 = true := by
  cases f with
  | scripted state =>
      obtain ⟨rfl, ended⟩ := run
      obtain ⟨-, rfl⟩ := Prod.mk.inj ended
      exact ⟨rfl, nofun⟩
  | system state =>
      obtain ⟨result, one, ended⟩ := Program.yields_bind_done.mp run
      obtain ⟨rfl, rfl⟩ := Prod.mk.inj ended
      suffices only : (state.serve call).AsksOnly fun question =>
          (Platform.Frontend.system state).mayAsk question = true from ⟨rfl, only.of_mem one⟩
      cases call with
      | installSignalHandler => exact ⟨rfl, fun _ => ⟨rfl, fun _ => trivial⟩⟩
      | shutdownRequested => exact ⟨rfl, fun _ => trivial⟩
      | videoDriver | inputDriver => trivial

/-- **A prober** asks what it may, and stays of its kind. -/
theorem Prober.asked_mayAsk {prober prober' : Platform.Prober} {probe : Input.Probe}
    {reply : Option InputDriver} (run : (prober.serve probe).Yields asked (reply, prober')) :
    prober'.mayAsk = prober.mayAsk ∧ ∀ exchange ∈ asked, prober.mayAsk exchange.1 = true := by
  cases prober with
  | scripted state =>
      obtain ⟨rfl, ended⟩ := run
      obtain ⟨-, rfl⟩ := Prod.mk.inj ended
      exact ⟨rfl, nofun⟩
  | system state =>
      obtain ⟨result, one, ended⟩ := Program.yields_bind_done.mp run
      obtain ⟨rfl, rfl⟩ := Prod.mk.inj ended
      suffices only : (state.serve probe).AsksOnly fun question =>
          (Platform.Prober.system state).mayAsk question = true from ⟨rfl, only.of_mem one⟩
      obtain ⟨_ | _, joypad⟩ := probe
      · refine Program.AsksOnly.bind (f := fun up => .done _) ?_ fun _ => trivial
        refine Program.AsksOnly.bind ?_ fun names => ?_
        · refine ⟨rfl, fun listed => ?_⟩
          cases listed with
          | ok entries => trivial
          | error cause => exact ⟨rfl, fun _ => trivial⟩
        · split
          · exact ⟨rfl, fun _ => trivial⟩
          · exact ⟨rfl, fun _ => trivial⟩
      · refine ⟨rfl, fun terminal => ?_⟩
        rcases terminal with cause | (_ | _)
        · exact ⟨rfl, fun _ => trivial⟩
        · exact ⟨rfl, fun _ => trivial⟩
        · trivial

end Parts

/-! ### The whole platform -/

/-- Whether backend and EGL layer of a platform are headless. -/
def isHeadless (p : Platform) : Bool := p.backend.isHeadless && p.egl.isHeadless

/-- **What a headless platform may ask the machine**: its frontend and its prober may ask for
themselves, and anyone may write to the log. -/
def mayAsk (p : Platform) : Question → Bool
  | .log _ => true
  | question => p.frontend.mayAsk question || p.prober.mayAsk question

/-- **A transcript confined to what a headless platform may ask**, while the platform stays what it
is. -/
structure Confined (p : Platform) (asked : List (Exchange Question)) (p' : Platform) : Prop where
  headless : p'.isHeadless = true
  mayAsk : p'.mayAsk = p.mayAsk
  within : ∀ exchange ∈ asked, p.mayAsk exchange.1 = true

variable {p p' p'' : Platform} {requests : List (Exchange Request)}
  {asked first later : List (Exchange Question)}

theorem mayAsk_of_frontend {question : Question} (may : p.frontend.mayAsk question = true) :
    p.mayAsk question = true := by
  cases question <;> simp_all [mayAsk]

theorem mayAsk_of_prober {question : Question} (may : p.prober.mayAsk question = true) :
    p.mayAsk question = true := by
  cases question <;> simp_all [mayAsk]

/-- A headless platform calls no C function. -/
theorem mayAsk_native (call : Native.Call) : p.mayAsk (.native call) = false := by
  rcases p with ⟨b, e, _ | _, _ | _⟩ <;> rfl

/-- **A headless platform asked through its backend** stays headless, and only logs. -/
theorem backend_of_isHeadless {b : Platform.Backend} {call : Backend.Call} {reply : call.Answer}
    (headless : p.isHeadless = true) (run : (p.backend.serve call).Yields asked (reply, b)) :
    isHeadless { p with backend := b } = true ∧
      ∀ exchange ∈ asked, ∃ record : Log.Record, exchange.1 = .log record ∧
        record.origin = .headless := by
  obtain ⟨hb, he⟩ := Bool.and_eq_true_iff.mp headless
  obtain ⟨still, logs⟩ := Backend.asked_of_headless hb run
  exact ⟨Bool.and_eq_true_iff.mpr ⟨still, he⟩, logs⟩

/-- **A headless platform asked through its EGL layer** stays headless, and asks nothing. -/
theorem egl_of_isHeadless {e : Platform.EglLayer} {call : Egl.Call} {reply : call.Answer}
    (headless : p.isHeadless = true) (run : (p.egl.serve call).Yields asked (reply, e)) :
    isHeadless { p with egl := e } = true ∧ asked = [] := by
  obtain ⟨hb, he⟩ := Bool.and_eq_true_iff.mp headless
  obtain ⟨still, nothing⟩ := EglLayer.asked_of_headless he run
  exact ⟨Bool.and_eq_true_iff.mpr ⟨hb, still⟩, nothing⟩

theorem Confined.idle (headless : p.isHeadless = true) : Confined p [] p := ⟨headless, rfl, nofun⟩

/-- Confined transcripts can be put together. -/
theorem Confined.append (begun : Confined p first p') (ended : Confined p' later p'') :
    Confined p (first ++ later) p'' := by
  refine ⟨ended.headless, ended.mayAsk.trans begun.mayAsk, fun exchange among => ?_⟩
  rcases List.mem_append.mp among with among | among
  · exact begun.within exchange among
  · rw [← begun.mayAsk]
    exact ended.within exchange among

/-- **A headless platform asks nothing but what it may**, and stays what it is. -/
theorem Answers.confined (answers : Answers p requests asked p') (headless : p.isHeadless = true) :
    Confined p asked p' := by
  induction answers with
  | idle p => exact .idle headless
  | @backend p p' call reply b requests first later run answers ih =>
      obtain ⟨still, logs⟩ := backend_of_isHeadless headless run
      refine .append ⟨still, rfl, fun exchange among => ?_⟩ (ih still)
      obtain ⟨record, log, -⟩ := logs exchange among
      rw [log]
      rfl
  | @egl p p' call reply e requests first later run answers ih =>
      obtain ⟨still, rfl⟩ := egl_of_isHeadless headless run
      exact .append ⟨still, rfl, nofun⟩ (ih still)
  | @frontend p p' call reply f requests first later run answers ih =>
      obtain ⟨kind, may⟩ := Frontend.asked_mayAsk run
      have one : Confined p first { p with frontend := f } := by
        refine ⟨headless, ?_, fun exchange among => mayAsk_of_frontend (may exchange among)⟩
        funext question
        cases question <;> simp only [Platform.mayAsk, kind]
      exact one.append (ih headless)
  | @probe p p' probe reply prober requests first later run answers ih =>
      obtain ⟨kind, may⟩ := Prober.asked_mayAsk run
      have one : Confined p first { p with prober := prober } := by
        refine ⟨headless, ?_, fun exchange among => mayAsk_of_prober (may exchange among)⟩
        funext question
        cases question <;> simp only [Platform.mayAsk, kind]
      exact one.append (ih headless)
  | @log p p' record requests later answers ih =>
      have one : Confined p [⟨.log record, ()⟩] p := by
        refine ⟨headless, rfl, fun exchange among => ?_⟩
        rw [List.mem_singleton.mp among]
        rfl
      exact one.append (ih headless)

/-- **What the driver writes to the log stands in it as it was written**: the parts of a headless
platform write under origins of their own. -/
theorem Answers.recordsFrom_eq {origin : Log.Origin} (answers : Answers p requests asked p')
    (headless : p.isHeadless = true) (own : origin.isOfPlatform = false) :
    recordsFrom Machine.record? origin asked = recordsFrom Request.record? origin requests := by
  induction answers with
  | idle p => rfl
  | @backend p p' call reply b requests first later run answers ih =>
      obtain ⟨still, logs⟩ := backend_of_isHeadless headless run
      have quiet : recordsFrom Machine.record? origin first = [] := by
        refine recordsFrom_of_platform own fun exchange among record log => ?_
        obtain ⟨record', log', headless⟩ := logs exchange among
        obtain rfl : record' = record := Question.log.inj (log'.symm.trans log)
        rw [headless]
        rfl
      rw [recordsFrom_append, quiet, ih still]
      rfl
  | @egl p p' call reply e requests first later run answers ih =>
      obtain ⟨still, rfl⟩ := egl_of_isHeadless headless run
      exact ih still
  | @frontend p p' call reply f requests first later run answers ih =>
      obtain ⟨-, may⟩ := Frontend.asked_mayAsk run
      have quiet : recordsFrom Machine.record? origin first = [] := by
        refine recordsFrom_of_platform own fun exchange among record log => ?_
        rw [Frontend.mayAsk_log (log ▸ may exchange among)]
        rfl
      rw [recordsFrom_append, quiet, ih headless]
      rfl
  | @probe p p' probe reply prober requests first later run answers ih =>
      obtain ⟨-, may⟩ := Prober.asked_mayAsk run
      have quiet : recordsFrom Machine.record? origin first = [] := by
        refine recordsFrom_of_platform own fun exchange among record log => ?_
        rw [Prober.mayAsk_log (log ▸ may exchange among)]
        rfl
      rw [recordsFrom_append, quiet, ih headless]
      rfl
  | @log p p' record requests later answers ih =>
      change List.filter _ (record :: later.filterMap Machine.record?) =
        List.filter _ (record :: requests.filterMap Request.record?)
      rw [List.filter_cons, List.filter_cons]
      split
      · exact congrArg (record :: ·) (ih headless)
      · exact ih headless

end Platform

end Scanout
