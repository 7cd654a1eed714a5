import Scanout.Proofs.Driver.Life
import Scanout.Proofs.Slot.Records
import Scanout.Slot

/-!
# A slot stands for its driver

Up to the first destruction a slot does what its driver does: it gives the same replies and makes the
same requests, except for the records that it writes in its own name.  Destroying the driver in a slot
releases it once, although it is given up as well.  From then on, and from the beginning if the driver
could not be opened, the slot gives neutral replies and asks nobody anything.

## Main definitions

* `Operation.upToDestroy`, `Operation.afterDestroy` — a history, cut behind its first destruction
* `Slot.direct` — what a slot amounts to: its driver, asked directly
* `Reply.blank` — the neutral reply of the kind of a reply
* `Slot.Faithful` — a slot and its driver agree on a history

## Main result

* `Slot.faithful`

## Design notes

Programs are compared as they are, so the statements hold for every answer of every collaborator.
The records of the driver are compared with its other requests; only those of the slot are left out.
-/

namespace Scanout

namespace Operation

/-- **The operations of a history up to its first destruction**, which is the last of them. -/
def upToDestroy : List Operation → List Operation
  | [] => []
  | .destroy :: _ => [.destroy]
  | op :: ops => op :: upToDestroy ops

/-- **The operations of a history behind its first destruction.** -/
def afterDestroy : List Operation → List Operation
  | [] => []
  | .destroy :: ops => ops
  | _ :: ops => afterDestroy ops

/-- Nothing is lost where a history is cut. -/
theorem upToDestroy_append_afterDestroy (ops : List Operation) :
    upToDestroy ops ++ afterDestroy ops = ops := by
  induction ops with
  | nil => rfl
  | cons op ops ih =>
      cases op <;> first | rfl | exact congrArg (List.cons _) ih

theorem upToDestroy_cons {op : Operation} (other : op ≠ .destroy) (ops : List Operation) :
    upToDestroy (op :: ops) = op :: upToDestroy ops := by
  cases op <;> first | rfl | contradiction

theorem afterDestroy_cons {op : Operation} (other : op ≠ .destroy) (ops : List Operation) :
    afterDestroy (op :: ops) = afterDestroy ops := by
  cases op <;> first | rfl | contradiction

end Operation

/-- **The neutral reply of the kind of a reply**: false, nothing, no API, zero, no flags, and a window
that is neither closed nor resized. -/
def Reply.blank : Reply → Reply
  | .done => .done
  | .truth _ => .truth false
  | .api _ => .api .none
  | .size _ => .size none
  | .rate _ => .rate Rate.zero
  | .window _ => .window ⟨false, false⟩
  | .input _ => .input none
  | .ident _ => .ident none
  | .flags _ => .flags Flags.empty

namespace Slot

open Request Operation

/-! ### Single operations -/

variable {α : Type}

/-- Behind the destruction of a driver it holds nothing any more. -/
theorem destroy_bind (d : Driver) (f : Driver → Program Request α) :
    d.destroy.bind f = d.destroy.bind fun _ => f { d with pipeline := none } := by
  refine Program.bind_congr_of_yields fun exchanges d' run => ?_
  rw [(Driver.destroy_calls run).2]

/-- **Destroying the driver in a slot releases it once**: it is given up as well, and that asks
nothing. -/
theorem answered_destroy (d : Driver) :
    (destroy ⟨some d⟩).answered ownRecord = d.destroy.bind fun _ => pure empty := by
  show (d.destroy.bind fun d' => Program.ask _ fun _ => d'.destroy.bind fun _ => _).answered _ = _
  rw [Program.answered_bind, Program.answered_of_asksOnly _ (destroy_foreign d), destroy_bind d]
  rfl

/-- What the destruction of the driver in a slot amounts to. -/
theorem answered_perform_destroy (d : Driver) :
    (perform ⟨some d⟩ .destroy).answered ownRecord = d.destroy.bind fun _ => pure (.done, empty) := by
  show ((destroy ⟨some d⟩).bind fun slot => pure (Reply.done, slot)).answered ownRecord = _
  rw [Program.answered_bind, answered_destroy, Program.bind_assoc]
  rfl

/-- Any other operation is handed to the driver. -/
theorem perform_held {op : Operation} (other : op ≠ .destroy) (d : Driver) :
    perform ⟨some d⟩ op = (d.perform op).bind fun result => pure (result.1, ⟨some result.2⟩) := by
  cases op <;> first | rfl | contradiction

/-- An empty slot gives the neutral reply. -/
theorem perform_empty (op : Operation) : empty.perform op = pure (neutral op, empty) := by
  cases op <;> rfl

/-- **An empty slot gives neutral replies and asks nobody anything**, however long it is asked. -/
theorem performAll_empty (ops : List Operation) :
    empty.performAll ops = pure (ops.map neutral, empty) := by
  induction ops with
  | nil => rfl
  | cons op ops ih =>
      rw [performAll, perform_empty, pure_bind]
      show (empty.performAll ops >>= _) = _
      rw [ih]
      rfl

/-- **The neutral reply to an operation is of the kind that a driver replies with.** -/
theorem neutral_eq_blank {op : Operation} {d d' : Driver} {reply : Reply}
    {exchanges : List (Exchange Request)} (run : (d.perform op).Yields exchanges (reply, d')) :
    neutral op = reply.blank := by
  cases op with
  | destroy | bindApi | swapInterval | setVideoMode | getRefreshRate | swapBuffers | inputFallback
  | getProcAddress | bindHwRender =>
      obtain ⟨first, rest, value, rfl, part, rfl, ended⟩ := Program.yields_bind.mp run
      obtain ⟨rfl, -⟩ := Prod.mk.inj ended
      rfl
  | checkWindow | getFlags =>
      obtain ⟨answer, rest, rfl, rfl, ended⟩ := run
      obtain ⟨rfl, -⟩ := Prod.mk.inj ended
      rfl
  | getApi | getVideoSize | hasFocus | suppressScreensaver | hasWindowed | ident | setFlags =>
      obtain ⟨rfl, ended⟩ := run
      obtain ⟨rfl, -⟩ := Prod.mk.inj ended
      rfl

/-! ### Histories -/

/-- What is left of a slot after a history: nothing once its driver was destroyed. -/
def leftBy (ops : List Operation) (d : Driver) : Slot :=
  if .destroy ∈ ops then empty else ⟨some d⟩

/-- **What a slot amounts to**: its driver is asked directly up to the first destruction, and the
neutral replies follow. -/
def direct (d : Driver) (ops : List Operation) : Program Request (List Reply × Slot) := do
  let (replies, d) ← d.performAll (upToDestroy ops)
  return (replies ++ (afterDestroy ops).map neutral, leftBy ops d)

theorem leftBy_cons {op : Operation} (other : op ≠ .destroy) (ops : List Operation) (d : Driver) :
    leftBy (op :: ops) d = leftBy ops d := by
  have same : Operation.destroy ∈ op :: ops ↔ Operation.destroy ∈ ops := by
    rw [List.mem_cons, or_iff_right (Ne.symm other)]
  simp only [leftBy, same]

/-- A slot performs a history one operation after the other, like a driver. -/
theorem performAll_cons (slot : Slot) (op : Operation) (ops : List Operation) :
    slot.performAll (op :: ops) = (slot.perform op).bind fun first =>
      (first.2.performAll ops).bind fun later => pure (first.1 :: later.1, later.2) := rfl

/-- At the first destruction the driver is destroyed, and what follows is neutral. -/
theorem direct_destroy (d : Driver) (ops : List Operation) :
    direct d (.destroy :: ops) =
      d.destroy.bind fun _ => pure (Reply.done :: ops.map neutral, empty) := by
  show ((d.destroy.bind _).bind _).bind _ = _
  rw [Program.bind_assoc, Program.bind_assoc]
  rfl

/-- Before it, one operation follows the other. -/
theorem direct_cons {op : Operation} (other : op ≠ .destroy) (d : Driver) (ops : List Operation) :
    direct d (op :: ops) = (d.perform op).bind fun first =>
      (direct first.2 ops).bind fun later => pure (first.1 :: later.1, later.2) := by
  show (d.performAll _).bind _ = _
  rw [upToDestroy_cons other, Driver.performAll_cons, Program.bind_assoc]
  congr 1
  funext first
  show ((first.2.performAll _).bind _).bind _ = ((first.2.performAll _).bind _).bind _
  rw [Program.bind_assoc, Program.bind_assoc]
  congr 1
  funext later
  show pure (_ ++ (afterDestroy (op :: ops)).map neutral, leftBy (op :: ops) later.2) = _
  rw [afterDestroy_cons other, leftBy_cons other]
  rfl

/-- **A slot around a driver amounts to the driver asked directly.** -/
theorem answered_performAll (ops : List Operation) (d : Driver) :
    (performAll ⟨some d⟩ ops).answered ownRecord = direct d ops := by
  induction ops generalizing d with
  | nil => rfl
  | cons op ops ih =>
      rw [performAll_cons, Program.answered_bind]
      by_cases destroyed : op = .destroy
      · subst destroyed
        rw [answered_perform_destroy, Program.bind_assoc, direct_destroy]
        congr 1
        funext _
        -- the slot is empty from here on
        show ((empty.performAll ops).bind _).answered ownRecord = _
        rw [performAll_empty]
        rfl
      · rw [perform_held destroyed, Program.answered_bind,
          Program.answered_of_asksOnly _ (perform_foreign d op), Program.bind_assoc,
          direct_cons destroyed]
        congr 1
        funext first
        show ((performAll ⟨some first.2⟩ ops).bind _).answered ownRecord = _
        rw [Program.answered_bind, ih]
        rfl

theorem answered_hold (d : Driver) (ops : List Operation) :
    ((hold d).bind fun slot => slot.performAll ops).answered ownRecord = direct d ops := by
  have start : ((hold d).bind fun slot => slot.performAll ops).answered ownRecord =
      (performAll ⟨some d⟩ ops).answered ownRecord := rfl
  rw [start, answered_performAll]

/-! ### Whole lives -/

/-- A driver that is destroyed on the way holds nothing in the end. -/
theorem pipeline_of_destroyed {ops : List Operation} (destroyed : .destroy ∈ ops) {d d' : Driver}
    {replies : List Reply} {exchanges : List (Exchange Request)}
    (run : (d.performAll (upToDestroy ops)).Yields exchanges (replies, d')) : d'.pipeline = none := by
  induction ops generalizing d replies exchanges with
  | nil => cases destroyed
  | cons op ops ih =>
      by_cases now : op = .destroy
      · subst now
        obtain ⟨first, rest, ⟨reply, d₁⟩, rfl, one, later⟩ := Program.yields_bind.mp run
        obtain ⟨rfl, ended⟩ := later
        obtain ⟨-, rfl⟩ := Prod.mk.inj ended
        obtain ⟨first, rest, d₂, rfl, part, rfl, ended⟩ := Program.yields_bind.mp one
        obtain ⟨-, rfl⟩ := Prod.mk.inj ended
        rw [(Driver.destroy_calls part).2]
      · rw [upToDestroy_cons now] at run
        obtain ⟨first, rest, ⟨reply, d₁⟩, rfl, one, others⟩ := Program.yields_bind.mp run
        obtain ⟨first, rest, ⟨later, d₂⟩, rfl, part, rfl, ended⟩ := Program.yields_bind.mp others
        obtain ⟨-, rfl⟩ := Prod.mk.inj ended
        refine ih ?_ part
        rcases List.mem_cons.mp destroyed with same | behind
        · exact absurd same.symm now
        · exact behind

/-- **A slot from beginning to end**: it is made around a driver, performs a history, and is given
up. -/
def lifeOf (d : Driver) (ops : List Operation) : Program Request (List Reply) := do
  let slot ← hold d
  let (replies, slot) ← slot.performAll ops
  slot.discard
  return replies

/-- **A driver from beginning to end**: it performs a history up to the first destruction and is given
up, which releases whatever it still holds. -/
def directLifeOf (d : Driver) (ops : List Operation) : Program Request (List Reply) := do
  let (replies, d) ← d.performAll (upToDestroy ops)
  let _ ← d.destroy
  return replies ++ (afterDestroy ops).map neutral

/-- **A slot that is given up amounts to its driver that is given up.** -/
theorem answered_lifeOf (d : Driver) (ops : List Operation) :
    (lifeOf d ops).answered ownRecord = directLifeOf d ops := by
  have start : (lifeOf d ops).answered ownRecord =
      ((performAll ⟨some d⟩ ops).bind fun outcome =>
        outcome.2.discard.bind fun _ => pure outcome.1).answered ownRecord := rfl
  rw [start, Program.answered_bind, answered_performAll, direct]
  show ((d.performAll _).bind _).bind _ = (d.performAll _).bind _
  rw [Program.bind_assoc]
  refine Program.bind_congr_of_yields fun exchanges outcome run => ?_
  show ((leftBy ops outcome.2).discard.bind _).answered ownRecord = outcome.2.destroy.bind _
  -- a destroyed driver is given up without a request, like the empty slot that it left behind
  by_cases destroyed : .destroy ∈ ops
  · have gone := pipeline_of_destroyed destroyed run
    rw [leftBy, if_pos destroyed, Driver.destroy, gone]
    rfl
  · rw [leftBy, if_neg destroyed]
    show ((outcome.2.destroy.bind _).bind _).answered ownRecord = _
    rw [Program.bind_assoc, Program.answered_bind,
      Program.answered_of_asksOnly _ (destroy_foreign outcome.2)]
    rfl

/-- **A slot and its driver agree on a history.**  In each case the slot's own records are left out,
and nothing else. -/
structure Faithful (ops : List Operation) : Prop where
  /-- Nothing is lost where the history is cut. -/
  whole : upToDestroy ops ++ afterDestroy ops = ops
  /-- A slot around a driver amounts to the driver asked directly. -/
  held : ∀ d, ((hold d).bind fun slot => slot.performAll ops).answered ownRecord = direct d ops
  /-- So the transcripts of the slot, without its records, are those of the driver. -/
  transcripts : ∀ d exchanges outcome, (direct d ops).Yields exchanges outcome ↔
    ∃ full, ((hold d).bind fun slot => slot.performAll ops).Yields full outcome ∧
      exchanges = full.filter fun exchange => (ownRecord exchange.1).isNone
  /-- The same holds around the outcome of opening a driver; if that failed, all replies are
  neutral. -/
  started : (Driver.start.bind fun outcome =>
      (ofStart outcome).bind fun slot => slot.performAll ops).answered ownRecord =
    Driver.start.bind fun outcome =>
      match outcome with
      | .ok d => direct d ops
      | .error _ => pure (ops.map neutral, empty)
  /-- A driver in a slot is released as often as it would be by itself. -/
  released : ∀ d, (lifeOf d ops).answered ownRecord = directLifeOf d ops
  /-- An empty slot asks nothing and records nothing. -/
  vacant : empty.performAll ops = pure (ops.map neutral, empty)
  /-- Each neutral reply is of the kind that a driver would reply with. -/
  kinds : ∀ (op : Operation) (d d' : Driver) (reply : Reply) (exchanges : List (Exchange Request)),
    (d.perform op).Yields exchanges (reply, d') → neutral op = reply.blank

/-- **A slot stands for its driver**, whatever it is asked for. -/
theorem faithful (ops : List Operation) : Faithful ops where
  whole := upToDestroy_append_afterDestroy ops
  held d := answered_hold d ops
  transcripts d exchanges outcome := by
    rw [← answered_hold, Program.yields_answered]
    constructor
    · rintro ⟨full, run, -, rfl⟩
      exact ⟨full, run, rfl⟩
    · rintro ⟨full, run, rfl⟩
      refine ⟨full, run, fun exchange _ reply known => ?_, rfl⟩
      exact ownRecord_answer exchange known
  started := by
    rw [Program.answered_bind, Program.answered_of_asksOnly _ start_foreign]
    congr 1
    funext outcome
    rcases outcome with failure | d
    · show (empty.performAll ops).answered ownRecord = _
      rw [performAll_empty]
      rfl
    · exact answered_performAll ops d
  released d := answered_lifeOf d ops
  vacant := performAll_empty ops
  kinds _ _ _ _ _ run := neutral_eq_blank run

end Slot

end Scanout
