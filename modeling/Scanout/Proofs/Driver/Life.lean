import Scanout.Proofs.Driver.Calls

/-!
# The life of a driver

A driver is opened, is asked for one operation after another, and is destroyed once more when it is
given up.  Its life is that run cut into episodes, one for each operation, so that a statement can
tell what was asked during one entry point from what was asked during another.

## Main definitions

* `Episode` — an operation with its reply and the exchanges made for it
* `Driver.Lives` — episodes that lead from one state of a driver to another
* `Driver.Life` — the whole life of a driver, from its opening to its release
* `Driver.rehearse` — the episodes of a driver whose requests have fixed answers
-/

namespace Scanout

/-- **One operation of a run**, with its reply and the exchanges that were made for it. -/
structure Episode where
  op : Operation
  reply : Reply
  exchanges : List (Exchange Request)

/-- The backend calls of an episode. -/
def Episode.calls (episode : Episode) : List (Exchange Backend.Call) :=
  backendCalls episode.exchanges

/-- The backend calls of a history are those of its episodes. -/
theorem backendCalls_flatMap (episodes : List Episode) :
    backendCalls (episodes.flatMap Episode.exchanges) = episodes.flatMap Episode.calls :=
  List.filterMap_flatMap

namespace Driver

/-- **Episodes that lead from one state of a driver to another**, each begun where the one before it
ended. -/
inductive Lives : Driver → List Episode → Driver → Prop
  | idle (d : Driver) : Lives d [] d
  | step {d₁ d₂ d₃ : Driver} {op : Operation} {reply : Reply} {exchanges : List (Exchange Request)}
      {later : List Episode} (run : (d₁.perform op).Yields exchanges (reply, d₂))
      (lives : Lives d₂ later d₃) : Lives d₁ (⟨op, reply, exchanges⟩ :: later) d₃

/-- One more episode can be lived at the end. -/
theorem Lives.concat {d d' d'' : Driver} {episodes : List Episode} {op : Operation} {reply : Reply}
    {exchanges : List (Exchange Request)} (lives : Lives d episodes d')
    (run : (d'.perform op).Yields exchanges (reply, d'')) :
    Lives d (episodes ++ [⟨op, reply, exchanges⟩]) d'' := by
  induction lives with
  | idle d => exact .step run (.idle d'')
  | step first lives ih => exact .step first (ih run)

/-- Episodes that are cut in two lead to a state in between. -/
theorem Lives.split {d d' : Driver} {before after : List Episode}
    (lives : Lives d (before ++ after) d') :
    ∃ middle, Lives d before middle ∧ Lives middle after d' := by
  induction before generalizing d with
  | nil => exact ⟨d, .idle d, lives⟩
  | cons episode before ih =>
      cases lives with
      | step run lives =>
          obtain ⟨middle, first, last⟩ := ih lives
          exact ⟨middle, .step run first, last⟩

/-- A history is performed one operation after the other. -/
theorem performAll_cons (d : Driver) (op : Operation) (ops : List Operation) :
    d.performAll (op :: ops) = (d.perform op).bind fun first =>
      (first.2.performAll ops).bind fun later => pure (first.1 :: later.1, later.2) := rfl

/-- **A history is performed by living through its operations**: its transcripts are those of its
episodes, one behind the other. -/
theorem yields_performAll {ops : List Operation} {d d' : Driver} {replies : List Reply}
    {exchanges : List (Exchange Request)} :
    (d.performAll ops).Yields exchanges (replies, d') ↔
      ∃ episodes, Lives d episodes d' ∧ ops = episodes.map Episode.op ∧
        replies = episodes.map Episode.reply ∧ exchanges = episodes.flatMap Episode.exchanges := by
  constructor
  · intro run
    induction ops generalizing d replies exchanges with
    | nil =>
        obtain ⟨rfl, ended⟩ := run
        obtain ⟨rfl, rfl⟩ := Prod.mk.inj ended
        exact ⟨[], .idle _, rfl, rfl, rfl⟩
    | cons op ops ih =>
        obtain ⟨first, rest, ⟨reply, middle⟩, rfl, one, others⟩ := Program.yields_bind.mp run
        obtain ⟨rest, last, ⟨later, final⟩, rfl, others, rfl, ended⟩ :=
          Program.yields_bind.mp others
        obtain ⟨rfl, rfl⟩ := Prod.mk.inj ended
        obtain ⟨episodes, lives, rfl, rfl, rfl⟩ := ih others
        exact ⟨⟨op, reply, first⟩ :: episodes, .step one lives, rfl, rfl,
          by rw [List.append_nil, List.flatMap_cons]⟩
  · rintro ⟨episodes, lives, rfl, rfl, rfl⟩
    induction lives with
    | idle d => exact ⟨rfl, rfl⟩
    | @step d₁ d₂ d₃ op reply exchanges later run lives ih =>
        refine Program.yields_bind.mpr
          ⟨exchanges, later.flatMap Episode.exchanges, (reply, d₂), rfl, run, ?_⟩
        exact Program.yields_bind.mpr ⟨_, [], _, (List.append_nil _).symm, ih, rfl, rfl⟩

/-- **The life of a driver**: how it was opened, what it was asked for, and how it was released when it
was given up.  A driver that could not be opened has nothing more in its life. -/
inductive Life : List (Exchange Request) → List Episode → List (Exchange Request) → Prop
  | refused {opening : List (Exchange Request)} {failure : Failure}
      (run : start.Yields opening (.error failure)) : Life opening [] []
  | lived {opening closing : List (Exchange Request)} {episodes : List Episode} {d₁ d₂ d₃ : Driver}
      (opened : start.Yields opening (.ok d₁)) (lives : Lives d₁ episodes d₂)
      (released : d₂.destroy.Yields closing d₃) : Life opening episodes closing

/-! ### Fixed answers -/

section Rehearsal

variable (answer : (request : Request) → Answer request)

/-- **The episodes of a driver whose requests have fixed answers**, with the state it ends in. -/
def rehearse (d : Driver) : List Operation → List Episode × Driver
  | [] => ([], d)
  | op :: ops =>
      let (exchanges, reply, after) := (d.perform op).transcribe answer
      let (later, final) := rehearse after ops
      (⟨op, reply, exchanges⟩ :: later, final)

/-- What is rehearsed can be lived. -/
theorem lives_rehearse (d : Driver) (ops : List Operation) :
    Lives d (rehearse answer d ops).1 (rehearse answer d ops).2 := by
  induction ops generalizing d with
  | nil => exact .idle d
  | cons op ops ih => exact .step (Program.yields_transcribe answer (d.perform op)) (ih _)

/-- **A driver that could be opened can be asked for anything**, however its requests are answered. -/
theorem life_rehearse {d : Driver} (opened : (start.transcribe answer).2 = .ok d)
    (ops : List Operation) :
    Life (start.transcribe answer).1 (rehearse answer d ops).1
      ((rehearse answer d ops).2.destroy.transcribe answer).1 := by
  refine .lived ?_ (lives_rehearse answer d ops) (Program.yields_transcribe answer _)
  rw [← opened]
  exact Program.yields_transcribe answer start

end Rehearsal

/-- **Answers that grant whatever is asked for**, each handle with the same number, except that no
surface is ever posted. -/
def unposting (number : Nat) : (request : Request) → Answer request
  | .backend call =>
      match call with
      | .createDisplay => .ok ⟨number⟩
      | .refreshRate _ => none
      | .createPresenter _ _ _ => .ok ⟨number⟩
      | .createContext _ _ _ _ => .ok ⟨number⟩
      | .lockSurface _ => .ok ⟨number⟩
      | .post _ _ _ => .error .displayUnavailable
      | .destroyDisplay _ | .destroyPresenter _ | .destroyContext _ | .makeCurrent _
      | .clearColorBuffer | .swapBuffers _ | .unlockSurface _ _ => ()
  | .egl call =>
      match call with
      | .supports _ | .hasCreateContext | .bindApi _ | .procAddress _ => true
      | .bindHwRender _ => ()
  | .frontend call =>
      match call with
      | .installSignalHandler => ()
      | .shutdownRequested => false
      | .videoDriver | .inputDriver => ""
  | .probe probe => some probe.driver
  | .log _ => ()

end Driver

end Scanout
