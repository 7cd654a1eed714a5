import Mathlib.Logic.Function.Basic
import Scanout.Bench.Seat
import Scanout.Proofs.Transcript

/-!
# Ensembles of drivers

Several drivers in one process, each on a seat of its own, are asked for operations in some order.
The order is a schedule: a list of moves, each for one seat.  What a seat has in common with the
others is the machine that all of them put their questions to, which may answer as it likes.

## Main definitions

* `Bench.Move`, `Bench.Seat.moveAll` — what can be done on a seat, alone
* `Bench.performAll` — a schedule of moves on many seats
* `Bench.of`, `Bench.heard` — the part of a list, and of a transcript, that belongs to one seat

## Main results

* `Bench.heard_performAll` — the part of a run that belongs to a seat is a run of that seat alone

## Design notes

The part of a schedule that belongs to a seat is the list of its moves in their order, and a schedule
is one of the interleavings of these lists.
-/

namespace Scanout.Bench

open Machine (Question)

/-! ### One seat -/

/-- **What can be done on a seat.** -/
inductive Move where
  | start (via : Via)
  | operate (op : Operation)
  | drop
  deriving DecidableEq, Repr

/-- What comes of a move. -/
inductive Move.Outcome where
  | started (failure : Option Failure)
  | replied (reply : Option Reply)
  | dropped

namespace Seat

/-- **Makes a move.**  A driver is opened on a vacant seat only. -/
def move (seat : Seat) : Move → Program Question (Move.Outcome × Seat)
  | .start via =>
      match seat.holder with
      | .vacant => do
          let (failure, seat) ← start via seat.platform seat.faults
          return (.started failure, seat)
      | _ => return (.started none, seat)
  | .operate op => do
      let (reply, seat) ← seat.operate op
      return (.replied reply, seat)
  | .drop => do
      let seat ← seat.drop
      return (.dropped, seat)

/-- **Makes moves in order**, alone. -/
def moveAll (seat : Seat) : List Move → Program Question (List Move.Outcome × Seat)
  | [] => return ([], seat)
  | move :: moves => do
      let (outcome, seat) ← seat.move move
      let (outcomes, seat) ← seat.moveAll moves
      return (outcome :: outcomes, seat)

end Seat

/-! ### Many seats -/

section Ensemble

variable {ι : Type} [DecidableEq ι]

/-- **Makes the moves of a schedule**, each on its seat and with its questions under the label of the
seat. -/
def performAll (seats : ι → Seat) :
    List (ι × Move) → Program (ι × Question) (List (ι × Move.Outcome) × (ι → Seat))
  | [] => return ([], seats)
  | (i, move) :: schedule => do
      let (outcome, seat) ← ((seats i).move move).onBehalf i
      let (outcomes, seats) ← performAll (Function.update seats i seat) schedule
      return ((i, outcome) :: outcomes, seats)

/-- **The part of a list that belongs to a seat.** -/
def of {α : Type} (i : ι) (labelled : List (ι × α)) : List α :=
  labelled.filterMap fun entry => if entry.1 = i then some entry.2 else none

/-- An exchange without its label, if that is the one of a seat. -/
def unlabel? {Q : Type} [Questions Q] (i : ι) (exchange : Exchange (ι × Q)) : Option (Exchange Q) :=
  if exchange.1.1 = i then some ⟨exchange.1.2, exchange.2⟩ else none

/-- **The part of a transcript that belongs to a seat.** -/
def heard {Q : Type} [Questions Q] (i : ι) (exchanges : List (Exchange (ι × Q))) :
    List (Exchange Q) :=
  exchanges.filterMap (unlabel? i)

section Parts

variable {α Q : Type} [Questions Q] {i j : ι}

@[simp] theorem of_nil : of i ([] : List (ι × α)) = [] := rfl

theorem of_cons_self (a : α) (labelled : List (ι × α)) :
    of i ((i, a) :: labelled) = a :: of i labelled := by
  simp [of]

theorem of_cons_of_ne (other : j ≠ i) (a : α) (labelled : List (ι × α)) :
    of i ((j, a) :: labelled) = of i labelled := by
  simp [of, other]

@[simp] theorem heard_append (first later : List (Exchange (ι × Q))) :
    heard i (first ++ later) = heard i first ++ heard i later := List.filterMap_append

/-- What is asked on behalf of a seat belongs to it. -/
theorem heard_labelled_self (exchanges : List (Exchange Q)) :
    heard i (exchanges.map (Program.labelExchange i)) = exchanges := by
  have mine : unlabel? i ∘ Program.labelExchange (Q := Q) i = some := funext fun _ => if_pos rfl
  rw [heard, List.filterMap_map, mine, List.filterMap_some]

/-- What is asked on behalf of another seat does not. -/
theorem heard_labelled_of_ne (other : j ≠ i) (exchanges : List (Exchange Q)) :
    heard i (exchanges.map (Program.labelExchange j)) = [] := by
  rw [heard, List.filterMap_map]
  exact List.filterMap_eq_nil_iff.mpr fun exchange _ => if_neg other

end Parts

/-- **One move at a time**: what the other seats are and ask does not matter to a seat. -/
theorem yields_performAll_cons {seats final : ι → Seat} {j : ι} {move : Move}
    {schedule : List (ι × Move)} {exchanges : List (Exchange (ι × Question))}
    {outcomes : List (ι × Move.Outcome)}
    (run : (performAll seats ((j, move) :: schedule)).Yields exchanges (outcomes, final)) :
    ∃ first later outcome seat outcomes', exchanges = first.map (Program.labelExchange j) ++ later ∧
      outcomes = (j, outcome) :: outcomes' ∧ ((seats j).move move).Yields first (outcome, seat) ∧
      (performAll (Function.update seats j seat) schedule).Yields later (outcomes', final) := by
  obtain ⟨asked, rest, ⟨outcome, seat⟩, rfl, labelled, others⟩ := Program.yields_bind.mp run
  obtain ⟨first, rfl, moved⟩ := Program.yields_onBehalf.mp labelled
  obtain ⟨⟨outcomes', final'⟩, later, ended⟩ := Program.yields_bind_done.mp others
  obtain ⟨rfl, rfl⟩ := Prod.mk.inj ended
  exact ⟨first, rest, outcome, seat, outcomes', rfl, rfl, moved, later⟩

/-- **The part of a run that belongs to a seat is a run of that seat alone**, whatever the machine
answers and whatever is done on the other seats. -/
theorem heard_performAll {schedule : List (ι × Move)} {seats final : ι → Seat}
    {exchanges : List (Exchange (ι × Question))} {outcomes : List (ι × Move.Outcome)}
    (run : (performAll seats schedule).Yields exchanges (outcomes, final)) (i : ι) :
    ((seats i).moveAll (of i schedule)).Yields (heard i exchanges) (of i outcomes, final i) := by
  induction schedule generalizing seats exchanges outcomes with
  | nil =>
      obtain ⟨rfl, ended⟩ := run
      obtain ⟨rfl, rfl⟩ := Prod.mk.inj ended
      exact ⟨rfl, rfl⟩
  | cons step schedule ih =>
      obtain ⟨j, move⟩ := step
      obtain ⟨first, later, outcome, seat, outcomes', rfl, rfl, moved, run⟩ :=
        yields_performAll_cons run
      have alone := ih run
      by_cases same : j = i
      · subst same
        rw [Function.update_self] at alone
        rw [of_cons_self, of_cons_self, heard_append, heard_labelled_self]
        refine Program.yields_bind.mpr ⟨first, _, (outcome, seat), rfl, moved, ?_⟩
        exact Program.yields_bind_done.mpr ⟨_, alone, rfl⟩
      · rw [Function.update_of_ne (Ne.symm same)] at alone
        rwa [of_cons_of_ne same, of_cons_of_ne same, heard_append, heard_labelled_of_ne same,
          List.nil_append]

end Ensemble

end Scanout.Bench
