import Scanout.Platform
import Scanout.Proofs.Headless.Service
import Scanout.Proofs.Native.Acts

/-!
# Runs of a driver on a platform

A program of the driver that runs on a platform has two transcripts: the requests it makes, and the
questions that its platform asks the machine to answer them.

## Main definitions

* `Platform.Answers` — a platform answers the requests of one transcript along another

## Main results

* `Platform.answers_of_run` — a run on a platform has both transcripts
* `Platform.Answers.seen`, `Platform.Seen.frontend_unique`, `Platform.Seen.probe_unique` — frontend
  and prober answer alike on two platforms
-/

namespace Scanout.Platform

open Machine (Question shared Follows)

/-- **A platform answers the requests of a transcript** along one of questions to the machine. -/
inductive Answers : Platform → List (Exchange Request) → List (Exchange Question) → Platform → Prop
  | idle (p : Platform) : Answers p [] [] p
  | backend {p p' : Platform} {call : Backend.Call} {reply : call.Answer} {b : Platform.Backend}
      {requests : List (Exchange Request)} {asked later : List (Exchange Question)}
      (run : (p.backend.serve call).Yields asked (reply, b))
      (answers : Answers { p with backend := b } requests later p') :
      Answers p (⟨.backend call, reply⟩ :: requests) (asked ++ later) p'
  | egl {p p' : Platform} {call : Egl.Call} {reply : call.Answer} {e : Platform.EglLayer}
      {requests : List (Exchange Request)} {asked later : List (Exchange Question)}
      (run : (p.egl.serve call).Yields asked (reply, e))
      (answers : Answers { p with egl := e } requests later p') :
      Answers p (⟨.egl call, reply⟩ :: requests) (asked ++ later) p'
  | frontend {p p' : Platform} {call : Frontend.Call} {reply : call.Answer} {f : Platform.Frontend}
      {requests : List (Exchange Request)} {asked later : List (Exchange Question)}
      (run : (p.frontend.serve call).Yields asked (reply, f))
      (answers : Answers { p with frontend := f } requests later p') :
      Answers p (⟨.frontend call, reply⟩ :: requests) (asked ++ later) p'
  | probe {p p' : Platform} {probe : Input.Probe} {reply : Option InputDriver}
      {prober : Platform.Prober} {requests : List (Exchange Request)}
      {asked later : List (Exchange Question)}
      (run : (p.prober.serve probe).Yields asked (reply, prober))
      (answers : Answers { p with prober := prober } requests later p') :
      Answers p (⟨.probe probe, reply⟩ :: requests) (asked ++ later) p'
  | log {p p' : Platform} {record : Log.Record} {requests : List (Exchange Request)}
      {later : List (Exchange Question)} (answers : Answers p requests later p') :
      Answers p (⟨.log record, ()⟩ :: requests) (⟨.log record, ()⟩ :: later) p'

section Runs

variable {α : Type} {p p' : Platform}

@[simp] theorem run_done (value : α) : p.run (.done value) = .done (value, p) := rfl

/-- A request is answered before the rest of a program runs. -/
theorem run_ask (request : Request) (next : Answer request → Program Request α) :
    p.run (.ask request next) = (p.serve request).bind fun result => result.2.run (next result.1) :=
  rfl

/-- **A run on a platform has two transcripts**, of its requests and of the questions behind them. -/
theorem answers_of_run {program : Program Request α} {a : α} {asked : List (Exchange Question)}
    (run : (p.run program).Yields asked (a, p')) :
    ∃ requests, program.Yields requests a ∧ Answers p requests asked p' := by
  induction program generalizing p asked with
  | done value =>
      obtain ⟨rfl, ended⟩ := run
      obtain ⟨rfl, rfl⟩ := Prod.mk.inj ended
      exact ⟨[], ⟨rfl, rfl⟩, .idle _⟩
  | ask request next ih =>
      obtain ⟨first, later, ⟨reply, q⟩, rfl, served, run⟩ := Program.yields_bind.mp run
      obtain ⟨requests, yields, answers⟩ := ih reply run
      refine ⟨⟨request, reply⟩ :: requests, ⟨reply, requests, rfl, yields⟩, ?_⟩
      cases request with
      | backend call =>
          change ((p.backend.serve call).bind fun result =>
            .done (result.1, { p with backend := result.2 })).Yields first (reply, q) at served
          obtain ⟨result, one, ended⟩ := Program.yields_bind_done.mp served
          obtain ⟨rfl, rfl⟩ := Prod.mk.inj ended
          exact .backend one answers
      | egl call =>
          change ((p.egl.serve call).bind fun result =>
            .done (result.1, { p with egl := result.2 })).Yields first (reply, q) at served
          obtain ⟨result, one, ended⟩ := Program.yields_bind_done.mp served
          obtain ⟨rfl, rfl⟩ := Prod.mk.inj ended
          exact .egl one answers
      | frontend call =>
          change ((p.frontend.serve call).bind fun result =>
            .done (result.1, { p with frontend := result.2 })).Yields first (reply, q) at served
          obtain ⟨result, one, ended⟩ := Program.yields_bind_done.mp served
          obtain ⟨rfl, rfl⟩ := Prod.mk.inj ended
          exact .frontend one answers
      | probe probe =>
          change ((p.prober.serve probe).bind fun result =>
            .done (result.1, { p with prober := result.2 })).Yields first (reply, q) at served
          obtain ⟨result, one, ended⟩ := Program.yields_bind_done.mp served
          obtain ⟨rfl, rfl⟩ := Prod.mk.inj ended
          exact .probe one answers
      | log record =>
          obtain ⟨-, rest, rfl, rfl, ended⟩ := served
          obtain ⟨rfl, rfl⟩ := Prod.mk.inj ended
          exact .log answers

end Runs

/-! ### Bystanders -/

/-- Whether a request goes to the frontend or to the prober, which stand by while a frame is shown. -/
def toBystander : Request → Bool
  | .frontend _ | .probe _ => true
  | .backend _ | .egl _ | .log _ => false

/-- **A transcript whose frontend calls and probes are answered by a frontend and a prober** in their
surroundings, if others were asked before. -/
inductive Seen (world : List (Exchange Question) → (question : Question) → Answer question) :
    Platform.Frontend → Platform.Prober → List (Exchange Question) → List (Exchange Request) → Prop
  | idle (f : Platform.Frontend) (prober : Platform.Prober) (past : List (Exchange Question)) :
      Seen world f prober past []
  | apart {f : Platform.Frontend} {prober : Platform.Prober} {past : List (Exchange Question)}
      {requests : List (Exchange Request)} {request : Request} {reply : Answer request}
      (other : toBystander request = false) (later : Seen world f prober past requests) :
      Seen world f prober past (⟨request, reply⟩ :: requests)
  | frontend {f f' : Platform.Frontend} {prober : Platform.Prober}
      {past asked : List (Exchange Question)} {requests : List (Exchange Request)}
      {call : Frontend.Call} {reply : call.Answer}
      (run : (f.serve call).Yields asked (reply, f')) (follows : Follows world past asked)
      (later : Seen world f' prober (past ++ shared asked) requests) :
      Seen world f prober past (⟨.frontend call, reply⟩ :: requests)
  | probe {f : Platform.Frontend} {prober prober' : Platform.Prober}
      {past asked : List (Exchange Question)} {requests : List (Exchange Request)}
      {probe : Input.Probe} {reply : Option InputDriver}
      (run : (prober.serve probe).Yields asked (reply, prober')) (follows : Follows world past asked)
      (later : Seen world f prober' (past ++ shared asked) requests) :
      Seen world f prober past (⟨.probe probe, reply⟩ :: requests)

section Bystanders

variable {world : List (Exchange Question) → (question : Question) → Answer question}
  {past : List (Exchange Question)} {requests requests' : List (Exchange Request)}
  {f : Platform.Frontend} {prober : Platform.Prober}

/-- A backend asks nothing of the surroundings and calls no function of EGL. -/
theorem Backend.asksOnly_serve (b : Platform.Backend) (call : Backend.Call) :
    (b.serve call).AsksOnly fun question =>
      question.isShared = false ∧ question.callsEgl = false := by
  cases b with
  | headless state =>
      refine Program.AsksOnly.bind ?_ fun _ => trivial
      obtain ⟨records, served⟩ := state.serve_eq call
      rw [served]
      exact Machine.asksOnly_remarking fun _ => ⟨rfl, rfl⟩
  | native =>
      refine Program.AsksOnly.bind ?_ fun _ => trivial
      exact Native.asksOnly_serveBackend call

/-- An EGL layer asks nothing of the surroundings. -/
theorem EglLayer.asksOnly_serve (e : Platform.EglLayer) (call : Egl.Call) :
    (e.serve call).AsksOnly fun question => question.isShared = false := by
  cases e with
  | headless state => trivial
  | native state =>
      refine Program.AsksOnly.bind ?_ fun _ => trivial
      exact (state.asksOnly_serve call).mono fun _ both => both.1

/-- A frontend calls no C function. -/
theorem Frontend.asksOnly_serve (f : Platform.Frontend) (call : Frontend.Call) :
    (f.serve call).AsksOnly fun question => ∀ call, question ≠ .native call := by
  cases f with
  | scripted state => trivial
  | system state =>
      refine Program.AsksOnly.bind ?_ fun _ => trivial
      cases call with
      | installSignalHandler => exact ⟨nofun, fun _ => ⟨nofun, fun _ => trivial⟩⟩
      | shutdownRequested => exact ⟨nofun, fun _ => trivial⟩
      | videoDriver | inputDriver => trivial

/-- A prober calls no C function. -/
theorem Prober.asksOnly_serve (prober : Platform.Prober) (probe : Input.Probe) :
    (prober.serve probe).AsksOnly fun question => ∀ call, question ≠ .native call := by
  cases prober with
  | scripted state => trivial
  | system state =>
      refine Program.AsksOnly.bind ?_ fun _ => trivial
      obtain ⟨_ | _, joypad⟩ := probe
      · refine Program.AsksOnly.bind (f := fun up => .done _) ?_ fun _ => trivial
        refine Program.AsksOnly.bind ?_ fun names => ?_
        · refine ⟨nofun, fun listed => ?_⟩
          cases listed with
          | ok entries => trivial
          | error cause => exact ⟨nofun, fun _ => trivial⟩
        · split
          · exact ⟨nofun, fun _ => trivial⟩
          · exact ⟨nofun, fun _ => trivial⟩
      · refine ⟨nofun, fun terminal => ?_⟩
        rcases terminal with cause | (_ | _)
        · exact ⟨nofun, fun _ => trivial⟩
        · exact ⟨nofun, fun _ => trivial⟩
        · trivial

/-- What asks nothing of the surroundings leaves them as they were. -/
theorem follows_of_apart {α : Type} {program : Program Question α} {a : α}
    {asked later : List (Exchange Question)}
    (apart : program.AsksOnly fun question => question.isShared = false)
    (run : program.Yields asked a) (follows : Follows world past (asked ++ later)) :
    Follows world past later := by
  have none : shared asked = [] := by
    refine List.filter_eq_nil_iff.mpr fun exchange among => ?_
    rw [apart.of_mem run exchange among]
    exact Bool.false_ne_true
  have rest := (Machine.follows_append.mp follows).2
  rwa [none, List.append_nil] at rest

/-- **Frontend and prober see the requests of a platform.** -/
theorem Answers.seen {p p' : Platform} {asked : List (Exchange Question)}
    (answers : Answers p requests asked p') (follows : Follows world past asked) :
    Seen world p.frontend p.prober past requests := by
  induction answers generalizing past with
  | idle p => exact .idle _ _ _
  | backend run answers ih =>
      refine .apart rfl (ih (follows_of_apart ?_ run follows))
      exact (Backend.asksOnly_serve _ _).mono fun _ both => both.1
  | egl run answers ih =>
      exact .apart rfl (ih (follows_of_apart (EglLayer.asksOnly_serve _ _) run follows))
  | frontend run answers ih =>
      obtain ⟨first, later⟩ := Machine.follows_append.mp follows
      exact .frontend run first (ih later)
  | probe run answers ih =>
      obtain ⟨first, later⟩ := Machine.follows_append.mp follows
      exact .probe run first (ih later)
  | log answers ih =>
      have later := follows.2
      rw [show shared [⟨Question.log _, ()⟩] = [] from rfl, List.append_nil] at later
      exact .apart rfl (ih later)

/-- What is asked of anyone else is not seen. -/
theorem Seen.later {request : Request} {reply : Answer request}
    (seen : Seen world f prober past (⟨request, reply⟩ :: requests))
    (other : toBystander request = false) : Seen world f prober past requests := by
  cases seen with
  | apart _ later => exact later
  | frontend | probe => cases other

/-- **A frontend answers a call alike** wherever it has seen the same. -/
theorem Seen.frontend_unique {call : Frontend.Call} {reply reply' : call.Answer}
    (seen : Seen world f prober past (⟨.frontend call, reply⟩ :: requests))
    (seen' : Seen world f prober past (⟨.frontend call, reply'⟩ :: requests')) :
    reply = reply' ∧ ∃ f past, Seen world f prober past requests ∧
      Seen world f prober past requests' := by
  cases seen with
  | apart other => cases other
  | frontend run follows later =>
      cases seen' with
      | apart other => cases other
      | frontend run' follows' later' =>
          obtain ⟨rfl, same⟩ := follows.unique (f.asksOnly_serve call) run run' follows'
          obtain ⟨rfl, rfl⟩ := Prod.mk.inj same
          exact ⟨rfl, _, _, later, later'⟩

/-- **A prober makes an attempt alike** wherever it has seen the same. -/
theorem Seen.probe_unique {probe : Input.Probe} {reply reply' : Option InputDriver}
    (seen : Seen world f prober past (⟨.probe probe, reply⟩ :: requests))
    (seen' : Seen world f prober past (⟨.probe probe, reply'⟩ :: requests')) :
    reply = reply' ∧ ∃ prober past, Seen world f prober past requests ∧
      Seen world f prober past requests' := by
  cases seen with
  | apart other => cases other
  | probe run follows later =>
      cases seen' with
      | apart other => cases other
      | probe run' follows' later' =>
          obtain ⟨rfl, same⟩ := follows.unique (prober.asksOnly_serve probe) run run' follows'
          obtain ⟨rfl, rfl⟩ := Prod.mk.inj same
          exact ⟨rfl, _, _, later, later'⟩

end Bystanders

end Scanout.Platform
