import Scanout.Proofs.Demo.Setup

/-!
# The loop of the demo program

Over a host that refuses nothing, a turn of the loop polls for a shutdown and then either ends the loop or
presents one frame.  So a loop presents frames with consecutive numbers, once each, until the first of its
polls that ends it.

## Main definitions

* `Demo.presenting` — what the presentation of consecutive frames enters
* `Demo.Looped` — the two ways in which the loop can end
* `Demo.Finished` — the three ways in which the program can end

## Main results

* `Demo.turn_enters` — one turn
* `Demo.loop_enters` — all turns
* `Demo.run_enters` — the whole program
-/

namespace Scanout.Demo

open Driver (Remark)

variable {limit : Option UInt64} {d : Driver} {pipeline : Pipeline}

/-! ### One turn -/

/-- **How a turn can end**: with its poll, or with a frame. -/
inductive Turned (limit : Option UInt64) (frame : UInt64) (d : Driver) : Bool × Slot → Ledger → Prop
  | ending {requested : Bool} (ends : (requested || reached limit frame) = true) :
      Turned limit frame d (true, ⟨some d⟩) ⟨[], [requested], [], []⟩
  | presenting (below : reached limit frame = false) :
      Turned limit frame d (false, ⟨some d⟩)
        ⟨Driver.frameActs, [false], [(Remark.framePresented frame).record], []⟩

theorem turn_enters (running : Running d pipeline) (frame : UInt64) :
    Enters (turn limit frame ⟨some d⟩) (Turned limit frame d) := by
  refine checkWindow_enters.bind ?_
  rintro _ _ ⟨requested, rfl, rfl⟩
  cases requested with
  | true =>
      refine (enters_say rfl).bind_blank fun _ _ => ?_
      exact enters_done (.ending rfl)
  | false =>
      cases below : reached limit frame with
      | true =>
          simp only [quits, Bool.false_eq_true, if_false, if_true]
          refine (enters_say rfl).bind_blank fun _ _ => ?_
          exact enters_done (.ending below)
      | false =>
          simp only [quits, Bool.false_eq_true, if_false]
          refine (swapBuffers_enters running).bind ?_
          rintro ⟨reply, slot⟩ _ ⟨rfl, rfl⟩
          exact enters_done (.presenting below)

/-! ### All turns -/

/-- **What the presentation of consecutive frames enters.** -/
def presenting (first count : Nat) : Ledger where
  acts := (List.replicate count Driver.frameActs).flatten
  polls := List.replicate count false
  frames := (List.range' first count).map fun i => (Remark.framePresented (UInt64.ofNat i)).record
  warnings := []

/-- One frame more, in front of the others. -/
theorem presenting_succ (first count : Nat) : presenting first (count + 1) =
    ⟨Driver.frameActs, [false], [(Remark.framePresented (UInt64.ofNat first)).record], []⟩ ++
      presenting (first + 1) count := by
  simp only [presenting, List.replicate_succ, List.flatten_cons, List.range'_succ, List.map_cons]
  rfl

/-- **How the loop can end** within a number of turns: it has presented frames, none of them beyond the
limit, and if there was a turn left, that one ended it. -/
inductive Looped (limit : Option UInt64) (d : Driver) (turns first : Nat) :
    Option UInt64 × Slot → Ledger → Prop
  | ended {count : Nat} {requested : Bool} (few : count < turns)
      (below : ∀ i, first ≤ i → i < first + count → reached limit (UInt64.ofNat i) = false)
      (ends : (requested || reached limit (UInt64.ofNat (first + count))) = true) :
      Looped limit d turns first (some (UInt64.ofNat (first + count)), ⟨some d⟩)
        (presenting first count ++ ⟨[], [requested], [], []⟩)
  | unfinished
      (below : ∀ i, first ≤ i → i < first + turns → reached limit (UInt64.ofNat i) = false) :
      Looped limit d turns first (none, ⟨some d⟩) (presenting first turns)

/-- One turn more, in front of the others. -/
theorem Looped.later {turns first : Nat} {result : Option UInt64 × Slot} {entry : Ledger}
    (below : reached limit (UInt64.ofNat first) = false)
    (looped : Looped limit d turns (first + 1) result entry) :
    Looped limit d (turns + 1) first result
      (⟨Driver.frameActs, [false], [(Remark.framePresented (UInt64.ofNat first)).record], []⟩ ++
        entry) := by
  have extended {count : Nat}
      (later : ∀ i, first + 1 ≤ i → i < first + 1 + count → reached limit (UInt64.ofNat i) = false)
      (i : Nat) (least : first ≤ i) (few : i < first + (count + 1)) :
      reached limit (UInt64.ofNat i) = false := by
    rcases Nat.eq_or_lt_of_le least with rfl | more
    · exact below
    · exact later i more (by omega)
  cases looped with
  | @ended count requested few later ends =>
      rw [← Ledger.append_assoc, ← presenting_succ]
      have shift : first + 1 + count = first + (count + 1) := by omega
      rw [shift] at ends ⊢
      exact .ended (Nat.succ_lt_succ few) (extended later) ends
  | unfinished later =>
      rw [← presenting_succ]
      exact .unfinished (extended later)

/-- **The loop** presents one frame after the other until a turn ends it. -/
theorem loop_enters (running : Running d pipeline) (turns first : Nat) :
    Enters (loop limit turns (UInt64.ofNat first) ⟨some d⟩) (Looped limit d turns first) := by
  induction turns generalizing first with
  | zero => exact enters_done (.unfinished fun i least few => absurd few (by omega))
  | succ turns ih =>
      refine (turn_enters running _).bind ?_
      rintro _ _ (@⟨requested, ends⟩ | ⟨below⟩)
      · exact enters_done (@Looped.ended limit d (turns + 1) first 0 requested turns.succ_pos (by omega) ends)
      · have next : UInt64.ofNat first + 1 = UInt64.ofNat (first + 1) := (UInt64.ofNat_add _ _).symm
        simp only [Bool.false_eq_true, if_false, next]
        exact (ih (first + 1)).mono fun _ _ looped => looped.later below

/-! ### The whole program -/

/-- What giving everything back does on the panel. -/
def closingActs : List Backend.Act := [.destroyContext, .destroyPresenter, .destroyDisplay]

/-- What is warned of in the end, if no frame was presented. -/
def unpresented : Log.Record := ⟨.warn, .program, "No frames were presented."⟩

/-- **Everything after the loop.** -/
theorem finish_enters (running : Running d pipeline) (frames : UInt64) :
    Enters (finish frames ⟨some d⟩) fun _ entry =>
      entry = ⟨closingActs, [], [], if frames = 0 then [unpresented] else []⟩ := by
  have closing : releaseActs pipeline = closingActs := by rw [releaseActs, running.made]; rfl
  have ends : Enters (do
      tell .info "Shutting down video context..."
      let _ ← (Slot.mk (some d)).perform .destroy
      tell .info "kms-context exited successfully.") fun _ entry => entry = .ofActs closingActs := by
    refine (enters_say rfl).bind_blank fun _ _ => ?_
    refine (destroy_enters running.held).bind ?_
    rintro _ _ rfl
    refine (enters_say rfl).mono ?_
    rintro _ _ ⟨-, rfl⟩
    rw [closing, Ledger.append_blank]
  unfold finish
  split
  · refine enters_warning.bind ?_
    rintro _ _ rfl
    refine ends.mono ?_
    rintro _ _ rfl
    rfl
  · exact ends

/-- **How the program can end.** -/
inductive Finished (config : Config) (turns : Nat) : Ending → Ledger → Prop
  | unbindable (foreign : config.video.api.client? = none) :
      Finished config turns (.failure (.unboundApi config.video.api config.video.version))
        (.ofActs (openingActs ++ [.destroyPresenter, .destroyDisplay]))
  | unfinished (known : config.video.api.client?.isSome = true)
      (below : ∀ i < turns, reached config.demo.maxFrames (UInt64.ofNat i) = false) :
      Finished config turns .unfinished
        (.ofActs (openingActs ++ showingActs) ++ presenting 0 turns)
  | success {count : Nat} {requested : Bool} (known : config.video.api.client?.isSome = true)
      (few : count < turns)
      (below : ∀ i < count, reached config.demo.maxFrames (UInt64.ofNat i) = false)
      (ends : (requested || reached config.demo.maxFrames (UInt64.ofNat count)) = true) :
      Finished config turns .success
        (.ofActs (openingActs ++ showingActs) ++ (presenting 0 count ++ ⟨[], [requested], [], []⟩ ++
          ⟨closingActs, [], [], if UInt64.ofNat count = 0 then [unpresented] else []⟩))

/-- **The program over a host that refuses nothing.** -/
theorem run_enters (config : Config) (turns : Nat) :
    Enters (run config turns) (Finished config turns) := by
  refine (prepare_enters config).bind ?_
  rintro _ _ (⟨foreign⟩ | @⟨d, pipeline, known, running⟩)
  · exact enters_done (.unbindable foreign)
  · refine (loop_enters running turns 0).bind ?_
    rintro _ _ (@⟨count, requested, few, below, ends⟩ | ⟨below⟩)
    · refine (finish_enters running _).bind ?_
      rintro _ _ rfl
      simp only [Nat.zero_add] at below ends ⊢
      refine enters_done ?_
      rw [Ledger.append_blank]
      exact .success known few (fun i => below i i.zero_le) ends
    · simp only [Nat.zero_add] at below
      refine enters_done ?_
      rw [Ledger.append_blank]
      exact .unfinished known fun i => below i i.zero_le

end Scanout.Demo
