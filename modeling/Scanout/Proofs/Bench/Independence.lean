import Scanout.Machine.State
import Scanout.Proofs.Bench.Ensemble
import Scanout.Proofs.Platform.Reach

/-!
# Drivers do not interfere

What a driver does on a headless platform of its own depends on nothing but its operations and what it
is told: the answers to its polls of the shutdown flag and, if it probes the system, the terminal and
the directories.  So whatever is done with other drivers in between, it gives the same replies, makes
the same calls, writes the same records and ends in the same state as when it is asked alone.

## Main definitions

* `Bench.Outlook`, `Bench.Sees` — what a driver is told by the process and its surroundings
* `Platform.isSelfContained` — the platforms that are told nothing

## Main results

* `Bench.Sees.unique` — a run that calls no C function is settled by what it is told
* `Bench.alone_of_interleaved` — a driver does not see the others
* `Bench.heard_conductAll` — on one machine, while no signal arrives, that needs no assumption
-/

namespace Scanout

open Machine (Question)

/-- Whether frontend and prober of a platform are scripted, so that they ask the machine nothing. -/
def Platform.isSelfContained (p : Platform) : Bool :=
  match p.frontend, p.prober with
  | .scripted _, .scripted _ => true
  | _, _ => false

namespace Bench

/-! ### What is told -/

/-- **What a driver is told**: whether standard input is a terminal, what stands in the directories,
and the answer to each of its polls of the shutdown flag. -/
structure Outlook where
  terminal : Except OsError Bool
  listing : Path → Except OsError (List Machine.Entry)
  flag : Nat → Bool

/-- What an exchange has to be behind a number of polls. -/
def Outlook.Tells (o : Outlook) (polls : Nat) : Exchange Question → Prop
  | ⟨.isTerminal, reply⟩ => reply = o.terminal
  | ⟨.listDirectory path, reply⟩ => reply = o.listing path
  | ⟨.shutdownRequested, reply⟩ => reply = o.flag polls
  | _ => True

/-- **A transcript in which a driver is told its outlook**, behind a number of polls. -/
def Sees (o : Outlook) : Nat → List (Exchange Question) → Prop
  | _, [] => True
  | polls, exchange :: later =>
      o.Tells polls exchange ∧
        Sees o (if exchange.1 = .shutdownRequested then polls + 1 else polls) later

section Sees

variable {o : Outlook} {polls : Nat} {exchanges exchanges' : List (Exchange Question)}

theorem sees_of_forall (told : ∀ exchange ∈ exchanges, ∀ polls, o.Tells polls exchange) :
    Sees o polls exchanges := by
  induction exchanges generalizing polls with
  | nil => trivial
  | cons exchange later ih =>
      exact ⟨told exchange List.mem_cons_self polls,
        ih fun other among => told other (List.mem_cons_of_mem _ among)⟩

/-- **A run that calls no C function is settled by what it is told.** -/
theorem Sees.unique {α : Type} {p : Program Question α} {a a' : α} (sees : Sees o polls exchanges)
    (apart : ∀ exchange ∈ exchanges, ∀ call, exchange.1 ≠ .native call)
    (run : p.Yields exchanges a) (run' : p.Yields exchanges' a') (sees' : Sees o polls exchanges') :
    exchanges' = exchanges ∧ a' = a := by
  induction p generalizing polls exchanges exchanges' with
  | done value =>
      obtain ⟨rfl, rfl⟩ := run
      obtain ⟨rfl, rfl⟩ := run'
      exact ⟨rfl, rfl⟩
  | ask question next ih =>
      obtain ⟨reply, rest, rfl, run⟩ := run
      obtain ⟨reply', rest', rfl, run'⟩ := run'
      have same : reply' = reply := by
        cases question with
        | native call => exact absurd rfl (apart _ List.mem_cons_self call)
        | log | installShutdownHandler => rfl
        | shutdownRequested | isTerminal | listDirectory => exact sees'.1.trans sees.1.symm
      subst same
      obtain ⟨rfl, rfl⟩ := ih reply' sees.2
        (fun exchange among => apart exchange (List.mem_cons_of_mem _ among)) run run' sees'.2
      exact ⟨rfl, rfl⟩

end Sees

/-! ### What a seat asks -/

namespace Seat

variable {α : Type} {seat seat' : Seat} {asked : List (Exchange Question)}

/-- What a seat runs is the program without what its faults answer, on its platform. -/
theorem run_eq (seat : Seat) (program : Program Request α) :
    seat.run program = (seat.platform.run (program.answered seat.faults.intercept)).bind
      fun result => pure (result.1, { seat with platform := result.2 }) := by
  suffices same : ∀ platform : Platform, program.run seat.faults.serve platform =
      platform.run (program.answered seat.faults.intercept) by
    rw [← same]
    rfl
  induction program with
  | done value => exact fun platform => rfl
  | ask request next ih =>
      intro platform
      have one : (Program.ask request next).run seat.faults.serve platform =
          (seat.faults.serve request platform).bind fun result =>
            (next result.1).run seat.faults.serve result.2 := rfl
      cases known : seat.faults.intercept request with
      | some reply =>
          rw [one, Faults.serve, known, Program.answered_ask_of_some _ known]
          exact ih reply platform
      | none =>
          rw [one, Faults.serve, known, Program.answered_ask_of_none _ known, Platform.run_ask]
          congr 1
          funext result
          exact ih result.1 result.2

/-- **What a seat runs on a headless platform is confined to it.** -/
theorem run_confined {program : Program Request α} {a : α}
    (run : (seat.run program).Yields asked (a, seat'))
    (headless : seat.platform.isHeadless = true) :
    seat.platform.Confined asked seat'.platform := by
  rw [run_eq] at run
  obtain ⟨⟨value, platform⟩, served, ended⟩ := Program.yields_bind_done.mp run
  obtain ⟨rfl, rfl⟩ := Prod.mk.inj ended
  obtain ⟨requests, -, answers⟩ := Platform.answers_of_run served
  exact answers.confined headless

theorem start_confined {via : Via} {failure : Option Failure}
    (run : (start via seat.platform seat.faults).Yields asked (failure, seat'))
    (headless : seat.platform.isHeadless = true) :
    seat.platform.Confined asked seat'.platform := by
  obtain ⟨⟨⟨failure, holder⟩, after⟩, opened, ended⟩ := Program.yields_bind_done.mp run
  obtain ⟨rfl, rfl⟩ := Prod.mk.inj ended
  have confined := run_confined opened headless
  exact confined

theorem operateAll_confined {ops : List Operation} {replies : Option (List Reply)}
    (run : (seat.operateAll ops).Yields asked (replies, seat'))
    (headless : seat.platform.isHeadless = true) :
    seat.platform.Confined asked seat'.platform := by
  unfold operateAll at run
  split at run
  · obtain ⟨rfl, ended⟩ := run
    obtain ⟨-, rfl⟩ := Prod.mk.inj ended
    exact .idle headless
  · obtain ⟨⟨⟨replies, driver⟩, after⟩, performed, ended⟩ := Program.yields_bind_done.mp run
    obtain ⟨-, rfl⟩ := Prod.mk.inj ended
    have confined := run_confined performed headless
    exact confined
  · obtain ⟨⟨⟨replies, slot⟩, after⟩, performed, ended⟩ := Program.yields_bind_done.mp run
    obtain ⟨-, rfl⟩ := Prod.mk.inj ended
    have confined := run_confined performed headless
    exact confined

theorem drop_confined (run : seat.drop.Yields asked seat')
    (headless : seat.platform.isHeadless = true) :
    seat.platform.Confined asked seat'.platform := by
  unfold drop at run
  split at run
  · obtain ⟨rfl, rfl⟩ := run
    exact .idle headless
  · obtain ⟨⟨driver, after⟩, released, rfl⟩ := Program.yields_bind_done.mp run
    have confined := run_confined released headless
    exact confined
  · obtain ⟨⟨slot, after⟩, released, rfl⟩ := Program.yields_bind_done.mp run
    have confined := run_confined released headless
    exact confined

/-- **One move** is confined to the platform of its seat. -/
theorem move_confined {move : Move} {outcome : Move.Outcome}
    (run : (seat.move move).Yields asked (outcome, seat'))
    (headless : seat.platform.isHeadless = true) :
    seat.platform.Confined asked seat'.platform := by
  cases move with
  | start via =>
      rw [Seat.move] at run
      split at run
      · obtain ⟨⟨failure, after⟩, started, ended⟩ := Program.yields_bind_done.mp run
        obtain ⟨-, rfl⟩ := Prod.mk.inj ended
        exact start_confined started headless
      · obtain ⟨rfl, ended⟩ := run
        obtain ⟨-, rfl⟩ := Prod.mk.inj ended
        exact .idle headless
  | operate op =>
      obtain ⟨⟨reply, after⟩, operated, ended⟩ := Program.yields_bind_done.mp run
      obtain ⟨-, rfl⟩ := Prod.mk.inj ended
      obtain ⟨⟨replies, last⟩, performed, ended⟩ := Program.yields_bind_done.mp operated
      obtain ⟨-, rfl⟩ := Prod.mk.inj ended
      exact operateAll_confined performed headless
  | drop =>
      obtain ⟨after, dropped, ended⟩ := Program.yields_bind_done.mp run
      obtain ⟨-, rfl⟩ := Prod.mk.inj ended
      exact drop_confined dropped headless

/-- **All moves of a seat** are confined to its platform. -/
theorem moveAll_confined {moves : List Move} {outcomes : List Move.Outcome}
    (run : (seat.moveAll moves).Yields asked (outcomes, seat'))
    (headless : seat.platform.isHeadless = true) :
    seat.platform.Confined asked seat'.platform := by
  induction moves generalizing seat asked outcomes with
  | nil =>
      obtain ⟨rfl, ended⟩ := run
      obtain ⟨-, rfl⟩ := Prod.mk.inj ended
      exact .idle headless
  | cons move moves ih =>
      obtain ⟨first, rest, ⟨outcome, middle⟩, rfl, one, others⟩ := Program.yields_bind.mp run
      obtain ⟨⟨outcomes', last⟩, later, ended⟩ := Program.yields_bind_done.mp others
      obtain ⟨-, rfl⟩ := Prod.mk.inj ended
      have begun := move_confined one headless
      exact begun.append (ih later begun.headless)

end Seat

/-! ### Being alone -/

/-- A seat whose frontend and prober are scripted sees nothing that it could be told. -/
theorem sees_of_selfContained {o : Outlook} {polls : Nat} {p p' : Platform}
    {asked : List (Exchange Question)} (confined : p.Confined asked p')
    (selfContained : p.isSelfContained = true) : Sees o polls asked := by
  refine sees_of_forall fun exchange among polls => ?_
  have may := confined.within exchange among
  rcases p with ⟨b, e, f | f, prober | prober⟩
  · -- what it may not ask is absent, and about the rest nothing is told
    obtain ⟨_ | _ | _ | _ | _ | _, reply⟩ := exchange <;> trivial
  all_goals cases selfContained

/-- **The runs of a seat on a headless platform** in which it is told the same are the same. -/
theorem Seat.moveAll_unique {seat last last' : Seat} {moves : List Move}
    {asked asked' : List (Exchange Question)} {outcomes outcomes' : List Move.Outcome}
    (headless : seat.platform.isHeadless = true)
    (run : (seat.moveAll moves).Yields asked (outcomes, last))
    (run' : (seat.moveAll moves).Yields asked' (outcomes', last'))
    (told : seat.platform.isSelfContained = true ∨
      ∃ o : Outlook, Sees o 0 asked ∧ Sees o 0 asked') :
    asked' = asked ∧ outcomes' = outcomes ∧ last' = last := by
  have confined := moveAll_confined run headless
  have apart : ∀ exchange ∈ asked, ∀ call, exchange.1 ≠ .native call := by
    intro exchange among call native
    have may := confined.within exchange among
    rw [native, Platform.mayAsk_native] at may
    cases may
  have same : asked' = asked ∧ (outcomes', last') = (outcomes, last) := by
    rcases told with selfContained | ⟨o, sees, sees'⟩
    · -- there is nothing to be told, so any outlook will do
      have o : Outlook := ⟨.ok false, fun _ => .ok [], fun _ => false⟩
      have sees : Sees o 0 asked := sees_of_selfContained confined selfContained
      have sees' : Sees o 0 asked' :=
        sees_of_selfContained (moveAll_confined run' headless) selfContained
      exact sees.unique apart run run' sees'
    · exact sees.unique apart run run' sees'
  exact ⟨same.1, (Prod.mk.inj same.2).1, (Prod.mk.inj same.2).2⟩

section Ensemble

variable {ι : Type} [DecidableEq ι]

/-- **Drivers do not interfere.**  In a run of many drivers, what belongs to one of them on a headless
platform is a run of that driver alone, and no other than any run of it alone in which it is told the
same: the replies, all that was asked of the machine with the records of the log among it, and the
seat it ends on with the state of the driver, the calls its backend recorded and what its EGL layer
was told.  A driver whose frontend and prober are scripted is told nothing. -/
theorem alone_of_interleaved {seats final : ι → Seat} {schedule : List (ι × Move)}
    {exchanges : List (Exchange (ι × Question))} {outcomes : List (ι × Move.Outcome)}
    (run : (performAll seats schedule).Yields exchanges (outcomes, final)) (i : ι)
    (headless : (seats i).platform.isHeadless = true) :
    ((seats i).moveAll (of i schedule)).Yields (heard i exchanges) (of i outcomes, final i) ∧
      ∀ asked outcomes' seat', ((seats i).moveAll (of i schedule)).Yields asked (outcomes', seat') →
        ((seats i).platform.isSelfContained = true ∨
          ∃ o : Outlook, Sees o 0 (heard i exchanges) ∧ Sees o 0 asked) →
        asked = heard i exchanges ∧ outcomes' = of i outcomes ∧ seat' = final i := by
  have alone := heard_performAll run i
  refine ⟨alone, fun asked outcomes' seat' run' told => ?_⟩
  exact Seat.moveAll_unique headless alone run' told

/-! ### On one machine -/

/-- What a machine tells as long as no signal arrives. -/
def outlookOn (m : Machine) : Outlook := ⟨m.terminal, m.listing, fun _ => m.process.requested⟩

/-- The answer of a machine to a question, with the machine that is left. -/
def answerOn (m : Machine) (question : Question) : question.Answer × Machine :=
  Id.run (Machine.answer question m)

/-- A machine tells what it tells, and goes on to do so. -/
theorem tells_answerOn (m : Machine) (question : Question) :
    (∀ polls, (outlookOn m).Tells polls ⟨question, (answerOn m question).1⟩) ∧
      outlookOn (answerOn m question).2 = outlookOn m := by
  cases question <;> exact ⟨fun _ => by trivial, rfl⟩

/-- The run of a driver alone on a machine. -/
def conductAlone (m : Machine) (seat : Seat) (moves : List Move) :
    List (Exchange Question) × (List Move.Outcome × Seat) × Machine :=
  (seat.moveAll moves).converse answerOn m

/-- The run of many drivers on one machine. -/
def conductAll (m : Machine) (seats : ι → Seat) (schedule : List (ι × Move)) :
    List (Exchange (ι × Question)) × (List (ι × Move.Outcome) × (ι → Seat)) × Machine :=
  (performAll seats schedule).converse (fun m question => answerOn m question.2) m

theorem yields_conductAlone (m : Machine) (seat : Seat) (moves : List Move) :
    (seat.moveAll moves).Yields (conductAlone m seat moves).1
      ((conductAlone m seat moves).2.1.1, (conductAlone m seat moves).2.1.2) :=
  Program.yields_converse _ _ m

theorem yields_conductAll (m : Machine) (seats : ι → Seat) (schedule : List (ι × Move)) :
    (performAll seats schedule).Yields (conductAll m seats schedule).1
      ((conductAll m seats schedule).2.1.1, (conductAll m seats schedule).2.1.2) :=
  Program.yields_converse _ _ m

theorem sees_conductAlone (m : Machine) (seat : Seat) (moves : List Move) :
    Sees (outlookOn m) 0 (conductAlone m seat moves).1 := by
  refine sees_of_forall (Program.mem_converse (fun m' => outlookOn m' = outlookOn m)
    (fun exchange => ∀ polls, (outlookOn m).Tells polls exchange) (fun m' question same => ?_) rfl)
  obtain ⟨told, after⟩ := tells_answerOn m' question
  rw [same] at told after
  exact ⟨told, after⟩

theorem sees_conductAll (m : Machine) (seats : ι → Seat) (schedule : List (ι × Move)) (i : ι) :
    Sees (outlookOn m) 0 (heard i (conductAll m seats schedule).1) := by
  refine sees_of_forall fun exchange among => ?_
  obtain ⟨labelled, here, mine⟩ := List.mem_filterMap.mp among
  obtain rfl : ⟨labelled.1.2, labelled.2⟩ = exchange := by
    unfold unlabel? at mine
    split at mine
    · exact Option.some.inj mine
    · cases mine
  refine Program.mem_converse (fun m' => outlookOn m' = outlookOn m)
    (fun labelled => ∀ polls, (outlookOn m).Tells polls ⟨labelled.1.2, labelled.2⟩)
    (fun m' question same => ?_) rfl labelled here
  obtain ⟨told, after⟩ := tells_answerOn m' question.2
  rw [same] at told after
  exact ⟨told, after⟩

/-- A machine tells a driver the same, whether it is alone or not. -/
theorem told_alike (m : Machine) (seats : ι → Seat) (schedule : List (ι × Move)) (i : ι) :
    ∃ o : Outlook, Sees o 0 (heard i (conductAll m seats schedule).1) ∧
      Sees o 0 (conductAlone m (seats i) (of i schedule)).1 :=
  ⟨outlookOn m, sees_conductAll m seats schedule i, sees_conductAlone m (seats i) _⟩

/-- **On one machine, while no signal arrives, a driver does what it does alone**: nothing has to be
assumed about what it is told. -/
theorem heard_conductAll (m : Machine) (seats : ι → Seat) (schedule : List (ι × Move)) (i : ι)
    (headless : (seats i).platform.isHeadless = true) :
    let all := conductAll m seats schedule
    let alone := conductAlone m (seats i) (of i schedule)
    alone.1 = heard i all.1 ∧ alone.2.1.1 = of i all.2.1.1 ∧ alone.2.1.2 = all.2.1.2 i :=
  Seat.moveAll_unique headless (heard_performAll (yields_conductAll m seats schedule) i)
    (yields_conductAlone m (seats i) _) (.inr (told_alike m seats schedule i))

/-- Two seats, one on the system and one on a scripted frontend and prober. -/
def twoSeats (onSystem : Bool) : Seat where
  platform :=
    { backend := .headless (.fresh ⟨false, false, false⟩)
      egl := .headless .full
      frontend := if onSystem then .system ⟨"gl", "x"⟩ else .scripted (.quiet "gl" "x")
      prober := if onSystem then .system ⟨"/dev/input"⟩ else .scripted ⟨false, true, []⟩ }
  faults := .absent
  holder := .vacant

/-- Moves of two drivers in between each other. -/
def twoSchedule : List (Bool × Move) :=
  [(true, .start .direct), (false, .start .slotOfStart), (true, .operate (.bindApi .openGlEs ⟨2, 0⟩)),
    (false, .operate (.bindApi .openGl ⟨3, 1⟩)), (false, .operate (.setVideoMode 640 480 false)),
    (true, .operate .checkWindow), (true, .operate (.inputFallback "udev")),
    (false, .operate (.swapBuffers 0)), (true, .operate (.setVideoMode 640 480 true)),
    (false, .drop), (true, .operate (.swapBuffers 0)), (true, .operate .destroy), (true, .drop)]

/-- The driver on the system does not see the other one. -/
theorem onSystem_alone :
    let m := Machine.fresh (.ok true) [("/dev/input", .ok [⟨"event0".toUTF8.toList, true⟩])]
    let all := conductAll m twoSeats twoSchedule
    let alone := conductAlone m (twoSeats true) (of true twoSchedule)
    alone.1 = heard true all.1 ∧ alone.2.1.1 = of true all.2.1.1 ∧
      alone.2.1.2 = all.2.1.2 true :=
  (alone_of_interleaved (yields_conductAll _ twoSeats twoSchedule) true rfl).2 _ _ _
    (yields_conductAlone _ (twoSeats true) (of true twoSchedule))
    (.inr (told_alike _ twoSeats twoSchedule true))

end Ensemble

end Bench

end Scanout
