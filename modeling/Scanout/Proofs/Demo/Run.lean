import Mathlib.Data.Nat.Find
import Scanout.CommandLine
import Scanout.Proofs.Demo.Loop

/-!
# Runs of the demo program

What a run of the demo program on its headless platform leaves behind, whatever it is configured for and
whatever the shutdown flag answers to each of its polls: nothing but the configured API and the number of
the first poll that ends the loop have an influence on what is done on the panel.

## Main definitions

* `Demo.Outcome` — what a run leaves behind
* `Demo.Runs` — a run in which the shutdown flag gives certain answers
* `Demo.LastsFor` — the number of the first poll that ends the loop

## Main results

* `Platform.Answers.flags_eq` — the polls of the driver reach the machine, and nobody else polls
* `Demo.run_accounted`
-/

namespace Scanout

open Machine (Question)

/-! ### Polls of the machine -/

/-- The answer of an exchange with the machine, if it is a poll for a shutdown. -/
def Machine.flag? : Exchange Question → Option Bool
  | ⟨.shutdownRequested, reply⟩ => some reply
  | _ => none

/-- **The answers of the shutdown flag** along a transcript. -/
def Machine.flags (asked : List (Exchange Question)) : List Bool := asked.filterMap flag?

theorem Machine.flags_append {first later : List (Exchange Question)} :
    flags (first ++ later) = flags first ++ flags later := List.filterMap_append

/-- Where nobody polls, the flag gives no answer. -/
theorem Machine.flags_eq_nil {asked : List (Exchange Question)}
    (other : ∀ exchange ∈ asked, exchange.1 ≠ .shutdownRequested) : flags asked = [] := by
  refine List.filterMap_eq_nil_iff.mpr fun exchange among => ?_
  have unlike := other exchange among
  rcases exchange with ⟨_ | _ | _ | _ | _ | _, reply⟩ <;> first | rfl | exact absurd rfl unlike

namespace Platform

open Machine (flags flags_append flags_eq_nil)

/-- A prober does not poll. -/
theorem Prober.flags_of_serve {prober prober' : Platform.Prober} {probe : Input.Probe}
    {reply : Option InputDriver} {asked : List (Exchange Question)}
    (run : (prober.serve probe).Yields asked (reply, prober')) : flags asked = [] := by
  refine flags_eq_nil fun exchange among polled => ?_
  have may := (Prober.asked_mayAsk run).2 exchange among
  rw [polled] at may
  cases prober <;> cases may

/-- **The polls of the driver reach the machine** through a frontend of the system, and nobody else on a
headless platform polls. -/
theorem Answers.flags_eq {p p' : Platform} {requests : List (Exchange Request)}
    {asked : List (Exchange Question)} {f : Frontend.System} (answers : Answers p requests asked p')
    (headless : p.isHeadless = true) (ofSystem : p.frontend = .system f) :
    flags asked = Demo.polls requests := by
  induction answers with
  | idle p => rfl
  | @backend p p' call reply b requests first later run answers ih =>
      obtain ⟨still, logs⟩ := backend_of_isHeadless headless run
      have quiet : flags first = [] := by
        refine flags_eq_nil fun exchange among polled => ?_
        obtain ⟨record, log, -⟩ := logs exchange among
        cases polled.symm.trans log
      rw [flags_append, quiet, ih still ofSystem]
      rfl
  | @egl p p' call reply e requests first later run answers ih =>
      obtain ⟨still, rfl⟩ := egl_of_isHeadless headless run
      exact ih still ofSystem
  | @frontend p p' call reply f' requests first later run answers ih =>
      rw [ofSystem] at run
      obtain ⟨result, one, ended⟩ := Program.yields_bind_done.mp run
      obtain ⟨rfl, rfl⟩ := Prod.mk.inj ended
      rw [flags_append, ih headless rfl]
      cases call with
      | installSignalHandler =>
          obtain ⟨_, _, rfl, _, _, rfl, rfl, -⟩ := one
          rfl
      | shutdownRequested =>
          obtain ⟨_, _, rfl, rfl, rfl⟩ := one
          rfl
      | videoDriver | inputDriver =>
          obtain ⟨rfl, -⟩ := one
          rfl
  | @probe p p' probe reply prober requests first later run answers ih =>
      rw [flags_append, Prober.flags_of_serve run, ih headless ofSystem]
      rfl
  | log answers ih => exact ih headless ofSystem

end Platform

namespace Demo

open Driver (Remark)
open Machine (flags)

/-! ### Outcomes -/

/-- **What a run leaves behind.** -/
structure Outcome where
  ending : Ending
  /-- What was done on the panel. -/
  acts : List Backend.Act
  /-- The records in which the driver says that it has presented a frame. -/
  frames : List Log.Record
  /-- What the program itself warned of. -/
  warnings : List Log.Record
  deriving DecidableEq

/-- The answers of the shutdown flag to successive polls. -/
def Successive (flag : Nat → Bool) (answers : List Bool) : Prop :=
  ∃ polls, answers = (List.range polls).map flag

/-- **A run of the program** on its platform in which the shutdown flag gives certain answers. -/
inductive Runs (config : Config) (flag : Nat → Bool) (turns : Nat) : Outcome → Prop
  | mk {asked : List (Exchange Question)} {ending : Ending} {p : Platform}
      (run : ((CommandLine.platform config).run (Demo.run config turns)).Yields asked (ending, p))
      (answered : Successive flag (flags asked)) :
      Runs config flag turns
        ⟨ending, p.backend.acts,
          (recordsFrom Machine.record? .driver asked).filter fun record => record.level == .trace,
          (recordsFrom Machine.record? .program asked).filter fun record => record.level == .warn⟩

/-- Whether a poll ends the loop, by its answer or by the frame limit. -/
def endsAt (config : Config) (flag : Nat → Bool) (poll : Nat) : Bool :=
  flag poll || config.demo.maxFrames.any fun limit => decide (limit.toNat ≤ poll)

/-- **The number of the first poll that ends the loop**, which is the number of frames before it. -/
structure LastsFor (config : Config) (flag : Nat → Bool) (count : Nat) : Prop where
  ends : endsAt config flag count = true
  first : ∀ poll < count, endsAt config flag poll = false

/-- What a run leaves behind that fails before anything is shown. -/
def unshown (failure : Failure) : Outcome where
  ending := .failure failure
  acts := openingActs ++ [.destroyPresenter, .destroyDisplay]
  frames := []
  warnings := []

/-- What a run leaves behind that presents a number of frames. -/
def shown (count : Nat) : Outcome where
  ending := .success
  acts := openingActs ++ showingActs ++ (List.replicate count Driver.frameActs).flatten ++ closingActs
  frames := (List.range count).map fun i => (Remark.framePresented (UInt64.ofNat i)).record
  warnings := if count = 0 then [unpresented] else []

section Runs

variable {config : Config} {flag : Nat → Bool} {turns : Nat} {outcome : Outcome}

/-- **A run on the platform is accounted for** by the ledger of its requests. -/
theorem Runs.finished (runs : Runs config flag turns outcome) :
    ∃ entry, Finished config turns outcome.ending entry ∧ Successive flag entry.polls ∧
      outcome = ⟨outcome.ending, entry.acts, entry.frames, entry.warnings⟩ := by
  obtain @⟨asked, ending, p, run, answered⟩ := runs
  obtain ⟨requests, yields, answers⟩ := Platform.answers_of_run run
  obtain ⟨⟨b', after, serves⟩, told⟩ := answers.headless rfl rfl
  obtain ⟨-, finished⟩ := run_enters config turns yields (⟨rfl, rfl⟩ : Ready (.fresh ⟨false, false, false⟩))
    (⟨serves, told⟩ : Hosted _ _ b')
  refine ⟨ledger requests, finished, ?_, ?_⟩
  · rwa [answers.flags_eq rfl rfl] at answered
  · have acts : p.backend.acts = performed requests := by
      rw [after]
      exact serves.acts_eq
    rw [answers.recordsFrom_eq rfl rfl, answers.recordsFrom_eq rfl rfl, acts]
    rfl

/-- A machine whose shutdown flag gives certain answers, with the number of the next poll. -/
def flagged (flag : Nat → Bool) :
    Nat × Machine → (question : Question) → Answer question × (Nat × Machine)
  | (poll, m), .shutdownRequested => (flag poll, poll + 1, m)
  | (poll, m), question =>
      let (reply, m) := m.answer question
      (reply, poll, m)

/-- On such a machine the flag gives its answers one after the other. -/
theorem flags_converse (flag : Nat → Bool) {α : Type} (program : Program Question α) (poll : Nat)
    (m : Machine) : ∃ polls,
      flags (program.converse (flagged flag) (poll, m)).1 = (List.range' poll polls).map flag := by
  induction program generalizing poll m with
  | done value => exact ⟨0, rfl⟩
  | ask question next ih =>
      cases question with
      | shutdownRequested =>
          obtain ⟨polls, later⟩ := ih (flag poll) (poll + 1) m
          exact ⟨polls + 1, congrArg (flag poll :: ·) later⟩
      | native | log | installShutdownHandler | isTerminal | listDirectory => exact ih _ poll _

/-- **There is a run** for whatever the shutdown flag answers. -/
theorem exists_runs (config : Config) (flag : Nat → Bool) (turns : Nat) :
    ∃ outcome, Runs config flag turns outcome := by
  let program := (CommandLine.platform config).run (Demo.run config turns)
  obtain ⟨polls, answered⟩ := flags_converse flag program 0 CommandLine.machine
  rw [← List.range_eq_range'] at answered
  exact ⟨_, .mk (program.yields_converse (flagged flag) (0, CommandLine.machine)) ⟨polls, answered⟩⟩

/-! ### Counting frames -/

theorem Successive.getElem {answers : List Bool} (successive : Successive flag answers) (poll : Nat)
    (few : poll < answers.length) : answers[poll] = flag poll := by
  obtain ⟨polls, rfl⟩ := successive
  rw [List.getElem_map, List.getElem_range]

/-- A poll before a presented frame was answered with no. -/
theorem Successive.false_of_replicate {count : Nat} {rest : List Bool}
    (successive : Successive flag (List.replicate count false ++ rest)) {poll : Nat}
    (few : poll < count) : flag poll = false := by
  have given := successive.getElem poll (by simp; omega)
  rw [List.getElem_append_left (by simpa using few), List.getElem_replicate] at given
  exact given.symm

/-- Whether a poll ends the loop, as long as the frames can be counted in a word. -/
theorem endsAt_eq {poll : Nat} (few : poll < UInt64.size) : endsAt config flag poll =
    (flag poll || reached config.demo.maxFrames (UInt64.ofNat poll)) := by
  rw [endsAt]
  cases config.demo.maxFrames with
  | none => rfl
  | some limit =>
      simp only [reached, Option.any_some, UInt64.le_iff_toNat_le, UInt64.toNat_ofNat_of_lt' few]

/-- **A loop that has frames left goes on.** -/
theorem LastsFor.le {count polls : Nat} {rest : List Bool} (lasts : LastsFor config flag count)
    (countable : count < UInt64.size)
    (answered : Successive flag (List.replicate polls false ++ rest))
    (below : ∀ i < polls, reached config.demo.maxFrames (UInt64.ofNat i) = false) :
    polls ≤ count := by
  by_contra more
  have goesOn : endsAt config flag count = false := by
    rw [endsAt_eq countable, answered.false_of_replicate (by omega), below count (by omega)]
    rfl
  exact absurd (goesOn.symm.trans lasts.ends) Bool.false_ne_true

/-- **With an API that EGL could provide** a run presents the frames before the first poll that ends the
loop. -/
theorem Runs.eq_shown {count : Nat} (runs : Runs config flag turns outcome)
    (bindable : config.video.api.client? ≠ none) (lasts : LastsFor config flag count)
    (countable : count < UInt64.size) (enough : count < turns) : outcome = shown count := by
  obtain ⟨entry, finished, answered, accounted⟩ := runs.finished
  rw [accounted]
  generalize outcome.ending = ending at finished
  cases finished with
  | unbindable foreign => exact absurd foreign bindable
  | unfinished known below =>
      have asked : Successive flag (List.replicate turns false ++ []) := by
        rwa [List.append_nil]
      exact absurd (lasts.le countable asked below) (by omega)
  | @success polls requested known few below ends =>
      have asked : Successive flag (List.replicate polls false ++ [requested]) := by
        simpa [Ledger.append_def, Ledger.ofActs, presenting] using answered
      have given : requested = flag polls := by
        have last := asked.getElem polls (by simp)
        rwa [List.getElem_append_right (by simp), List.getElem_singleton] at last
      obtain rfl : polls = count := by
        refine Nat.le_antisymm (lasts.le countable asked below) ?_
        by_contra fewer
        have goesOn := lasts.first polls (by omega)
        rw [endsAt_eq (by omega), ← given, ends] at goesOn
        cases goesOn
      have wordless : UInt64.ofNat polls = 0 ↔ polls = 0 := by
        rw [← UInt64.toNat_inj, UInt64.toNat_ofNat_of_lt' countable]
        rfl
      simp [shown, Ledger.append_def, Ledger.ofActs, presenting, List.range_eq_range', wordless]

/-- **Without an API that EGL could provide** a run fails and gives back what it has opened. -/
theorem Runs.eq_unshown (runs : Runs config flag turns outcome)
    (foreign : config.video.api.client? = none) :
    outcome = unshown (.unboundApi config.video.api config.video.version) := by
  obtain ⟨entry, finished, -, accounted⟩ := runs.finished
  rw [accounted]
  generalize outcome.ending = ending at finished
  cases finished with
  | unbindable => rfl
  | unfinished known | success known =>
      rw [foreign] at known
      cases known

/-- A frame limit ends the loop, if nothing else does. -/
theorem exists_lastsFor {limit : UInt64} (limited : config.demo.maxFrames = some limit)
    (flag : Nat → Bool) : ∃ count, count < UInt64.size ∧ LastsFor config flag count := by
  have ends : endsAt config flag limit.toNat = true := by
    rw [endsAt, limited, Option.any_some, decide_eq_true le_rfl, Bool.or_true]
  have found : ∃ count, endsAt config flag count = true := ⟨_, ends⟩
  refine ⟨Nat.find found, Nat.lt_of_le_of_lt (Nat.find_min' found ends) limit.toNat_lt, Nat.find_spec found, ?_⟩
  intro poll fewer
  exact Bool.eq_false_iff.mpr (Nat.find_min found fewer)

end Runs

/-- **Every run of the demo program is accounted for**, whatever is configured and whatever the shutdown
flag answers.  There is a run for all that it may answer.  If the configured API is none or Vulkan, the
run says that it could not be bound, and what was opened is given back.  Otherwise the run succeeds and
presents as many frames as there are polls before the first one that ends the loop, provided that they
can be counted in a word; if a frame limit is configured, there is such a poll. -/
theorem run_accounted (config : Config) (flag : Nat → Bool) :
    (∀ turns, ∃ outcome, Runs config flag turns outcome) ∧
    (config.video.api = .none ∨ config.video.api = .vulkan →
      ∀ turns outcome, Runs config flag turns outcome → ∃ failure : Failure,
        failure.message = "Could not bind " ++ config.video.api.label ++ " " ++
          toString config.video.version.major.toNat ++ "." ++
          toString config.video.version.minor.toNat ∧
        outcome = unshown failure) ∧
    (config.video.api ≠ .none → config.video.api ≠ .vulkan →
      ∀ count, LastsFor config flag count → count < UInt64.size →
        ∀ turns outcome, count < turns → Runs config flag turns outcome → outcome = shown count) ∧
    (∀ limit, config.demo.maxFrames = some limit →
      ∃ count, count < UInt64.size ∧ LastsFor config flag count) := by
  refine ⟨exists_runs config flag, fun either turns outcome runs => ?_, ?_, ?_⟩
  · have foreign : config.video.api.client? = none := by
      rcases either with none | vulkan
      · rw [none]; rfl
      · rw [vulkan]; rfl
    refine ⟨_, ?_, runs.eq_unshown foreign⟩
    simp only [Failure.message, Failure.chain, Version.text, String.append_assoc]
    rfl
  · intro some other count lasts countable turns outcome enough runs
    have bindable : config.video.api.client? ≠ none := by
      cases api : config.video.api <;> simp_all [GraphicsApi.client?]
    exact runs.eq_shown bindable lasts countable enough
  · exact fun limit limited => exists_lastsFor limited flag

/-- A configuration with a limit of two frames. -/
def twoFrames : Config := { Config.default with demo := { Config.Demo.default with maxFrames := some 2 } }

/-- Without a shutdown request the limit is reached at the third poll. -/
theorem twoFrames_lasts : LastsFor twoFrames (fun _ => false) 2 where
  ends := rfl
  first := by decide

/-- A configuration with an API that EGL cannot provide. -/
def vulkan : Config := { Config.default with video := { Config.Video.default with api := .vulkan } }

/-- Two frames are shown if nobody requests a shutdown, and none if the API cannot be bound. -/
theorem run_twoFrames :
    (∃ outcome, Runs twoFrames (fun _ => false) 3 outcome ∧ outcome.ending = .success ∧
      outcome.acts = openingActs ++ showingActs ++ Driver.frameActs ++ Driver.frameActs ++
        closingActs ∧ outcome.warnings = []) ∧
    (∃ outcome failure, Runs vulkan (fun _ => false) 3 outcome ∧ outcome = unshown failure ∧
      failure.message = "Could not bind Vulkan 2.0") ∧
    ∃ count, count < UInt64.size ∧ LastsFor twoFrames (fun _ => false) count := by
  obtain ⟨exists₁, -, shows, limits⟩ := run_accounted twoFrames fun _ => false
  obtain ⟨exists₂, fails, -⟩ := run_accounted vulkan fun _ => false
  refine ⟨?_, ?_, limits 2 rfl⟩
  · obtain ⟨outcome, runs⟩ := exists₁ 3
    obtain rfl := shows nofun nofun 2 twoFrames_lasts (by decide) 3 outcome (by omega) runs
    exact ⟨_, runs, rfl, rfl, rfl⟩
  · obtain ⟨outcome, runs⟩ := exists₂ 3
    obtain ⟨failure, message, same⟩ := fails (.inr rfl) 3 outcome runs
    exact ⟨outcome, failure, runs, same, message.trans rfl⟩

end Demo

end Scanout
