import Scanout.Proofs.Driver.History
import Scanout.Proofs.Handles.Turnover

/-!
# Setting a video mode

The render context is made by the first mode that can make it, and a mode that cannot make it leaves
the driver ready for the next attempt.  So a driver makes one context at most, and whatever is cleared
is the buffer of that context, which has been made current just before.

Which handles are live is read off the calls that were made: those given out and not given back since.

## Main definitions

* `Custody.liveAfter` — the handles that are live after a list of calls
* `Driver.ModeSet` — what setting a mode does while some handles are live
* `Driver.Cleared` — buffers are cleared only behind a live context that is made current
* `Driver.ModesInOrder` — the modes of a driver over its whole life

## Main results

* `Driver.Course.modeSet` — one mode
* `Driver.life_modesInOrder` — a whole life
-/

namespace Scanout

/-! ### Live handles -/

namespace Custody

/-- The live handles after one more call. -/
def liveStep (live : List Handle) (exchange : Exchange Backend.Call) : List Handle :=
  match given? exchange, returned? exchange.1 with
  | some handle, _ => handle :: live
  | none, some handle => live.erase handle
  | none, none => live

/-- **The handles that are live after a list of calls**, if some were before. -/
def liveAfter (live : List Handle) (calls : List (Exchange Backend.Call)) : List Handle :=
  calls.foldl liveStep live

theorem liveAfter_append {live : List Handle} {first rest : List (Exchange Backend.Call)} :
    liveAfter live (first ++ rest) = liveAfter (liveAfter live first) rest :=
  List.foldl_append

/-- Calls that turn a stock over leave the new stock live. -/
theorem Turnover.liveAfter_eq {stock stock' : List Handle} {calls : List (Exchange Backend.Call)}
    (turnover : Turnover stock calls stock') : liveAfter stock calls = stock' := by
  induction turnover with
  | rest stock => rfl
  | @uses stock stock' exchange later given returned carries turnover ih =>
      have kept : liveStep stock exchange = stock := by simp only [liveStep, given, returned]
      rw [liveAfter, List.foldl_cons, kept]
      exact ih
  | @gives stock stock' handle exchange later given carries above turnover ih =>
      have added : liveStep stock exchange = handle :: stock := by simp only [liveStep, given]
      rw [liveAfter, List.foldl_cons, added]
      exact ih
  | @takes stock stock' handle exchange later returned turnover ih =>
      have removed : liveStep (handle :: stock) exchange = stock := by
        simp only [liveStep, given_of_returned returned, returned, List.erase_cons_head]
      rw [liveAfter, List.foldl_cons, removed]
      exact ih

end Custody

namespace Driver

open Custody Operation

/-- The displays in the stock of a driver. -/
theorem display_mem_stock_iff {held : Option Pipeline} {display : Display} :
    Handle.display display ∈ Pipeline.stock held ↔ held.map Pipeline.display = some display := by
  rcases held with _ | ⟨display', presenter, _ | context⟩ <;>
    simp [Pipeline.stock, eq_comm]

/-- The render contexts in the stock of a driver. -/
theorem context_mem_stock_iff {held : Option Pipeline} {context : RenderContext} :
    Handle.context context ∈ Pipeline.stock held ↔
      held.bind Pipeline.context = some context := by
  rcases held with _ | ⟨display, presenter, _ | context'⟩ <;>
    simp [Pipeline.stock, eq_comm]

/-! ### One mode -/

/-- Whether a call asks for a render context. -/
def asksContext : Backend.Call → Bool
  | .createContext _ _ _ _ => true
  | _ => false

/-- Whether a call makes a context current or clears a buffer. -/
def showsContext : Backend.Call → Bool
  | .makeCurrent _ | .clearColorBuffer => true
  | _ => false

/-- Whether a call has made a render context. -/
def madeContext : Exchange Backend.Call → Bool
  | ⟨.createContext _ _ _ _, .ok _⟩ => true
  | _ => false

/-- **What setting a mode does** while some handles are live. -/
structure ModeSet (live : List Handle) (calls : List (Exchange Backend.Call)) (set : Bool) :
    Prop where
  /-- It succeeds just if the display is live, and a context is or is made now. -/
  set_iff : set = true ↔ (∃ display, .display display ∈ live) ∧
    ((∃ context, .context context ∈ live) ∨ ∃ exchange ∈ calls, madeContext exchange = true)
  /-- If it does, the one live context is made current and its buffer is cleared in the end. -/
  shown : set = true → ∃ begun context,
    calls = begun ++ [⟨.makeCurrent context, ()⟩, ⟨.clearColorBuffer, ()⟩] ∧
      ∀ other, .context other ∈ liveAfter live begun ↔ other = context
  /-- If it does not, nothing is made current and nothing is cleared. -/
  hidden : set = false → ∀ exchange ∈ calls, showsContext exchange.1 = false
  /-- As long as there is no context, one is asked for, and the mode succeeds as soon as it is made. -/
  attempted : ∀ display, .display display ∈ live → (∀ context, .context context ∉ live) →
    ∃ reply, (calls.filter fun exchange => asksContext exchange.1) =
        [⟨.createContext display 480 320 ⟨3, 2, 8, 8, 8, 8, 0, 0⟩, reply⟩] ∧
      (set = true ↔ ∃ context, reply = .ok context)

section Course

variable {d d' : Driver} {width height : UInt32} {fullscreen : Bool} {reply : Reply}
  {exchanges : List (Exchange Request)}

theorem modeSet_gone : ModeSet (Pipeline.stock none) [] false where
  set_iff := by simp [Pipeline.stock]
  shown := nofun
  hidden _ := nofun
  attempted := nofun

theorem modeSet_kept (display : Display) (presenter : Presenter) (context : RenderContext) :
    ModeSet (Pipeline.stock (some ⟨display, presenter, some context⟩)) (shows context) true where
  set_iff := by simp [Pipeline.stock]
  shown _ := ⟨[], context, rfl, by simp [Pipeline.stock, liveAfter]⟩
  hidden := nofun
  attempted display' _ unmade := absurd (context_mem_stock rfl) (unmade context)

theorem modeSet_refused (display : Display) (presenter : Presenter) (cause : Failure) :
    ModeSet (Pipeline.stock (some ⟨display, presenter, none⟩))
      [contextCreation display (.error cause)] false where
  set_iff := by simp [Pipeline.stock, contextCreation, madeContext]
  shown := nofun
  hidden _ exchange among := by
    obtain rfl := List.mem_singleton.mp among
    rfl
  attempted display' held _ := by
    obtain rfl : display = display' := Option.some.inj (display_mem_stock_iff.mp held)
    exact ⟨.error cause, rfl, by simp⟩

theorem modeSet_made (display : Display) (presenter : Presenter) (context : RenderContext) :
    ModeSet (Pipeline.stock (some ⟨display, presenter, none⟩))
      (contextCreation display (.ok context) :: shows context) true where
  set_iff := by simp [Pipeline.stock, contextCreation, madeContext]
  shown _ := by
    refine ⟨[contextCreation display (.ok context)], context, rfl, fun other => ?_⟩
    simp [Pipeline.stock, liveAfter, liveStep, contextCreation, given?]
  hidden := nofun
  attempted display' held _ := by
    obtain rfl : display = display' := Option.some.inj (display_mem_stock_iff.mp held)
    exact ⟨.ok context, rfl, by simp⟩

/-- **Setting a mode**, and what it leaves of the driver if it fails: only the size may be another. -/
theorem Course.modeSet
    (course : Course d (.setVideoMode width height fullscreen) exchanges reply d') :
    ∃ set, reply = .truth set ∧
      ModeSet (Pipeline.stock d.pipeline) (backendCalls exchanges) set ∧
      (set = false → d' = { d with size := d'.size }) := by
  cases course with
  | modeWithoutDisplay _ _ _ gone =>
      refine ⟨false, rfl, ?_, fun _ => rfl⟩
      rw [gone]
      exact modeSet_gone
  | contextKept _ _ _ pipeline context held made =>
      refine ⟨true, rfl, ?_, nofun⟩
      obtain ⟨display, presenter, context?⟩ := pipeline
      obtain rfl : context? = some context := made
      rw [held]
      exact modeSet_kept display presenter context
  | contextRefused _ _ _ pipeline cause held unmade =>
      refine ⟨false, rfl, ?_, fun _ => rfl⟩
      obtain ⟨display, presenter, context?⟩ := pipeline
      obtain rfl : context? = none := unmade
      rw [held]
      exact modeSet_refused display presenter cause
  | contextMade _ _ _ pipeline context held unmade =>
      refine ⟨true, rfl, ?_, nofun⟩
      obtain ⟨display, presenter, context?⟩ := pipeline
      obtain rfl : context? = none := unmade
      rw [held]
      exact modeSet_made display presenter context

end Course

/-! ### What operations ask for -/

section Stretch

variable {op : Operation} {held held' : Option Pipeline} {calls : List (Exchange Backend.Call)}

/-- The calls among others that ask for a context or show one. -/
def contextCalls (calls : List (Exchange Backend.Call)) : List (Exchange Backend.Call) :=
  calls.filter fun exchange => asksContext exchange.1 || showsContext exchange.1

/-- Where no call is about a context, none asks for one and none shows one. -/
theorem of_contextCalls_eq_nil (none : contextCalls calls = []) : ∀ exchange ∈ calls,
    asksContext exchange.1 = false ∧ showsContext exchange.1 = false := by
  intro exchange among
  have other := List.filter_eq_nil_iff.mp none exchange among
  rwa [Bool.not_eq_true, Bool.or_eq_false_iff] at other

/-- Where no call is about a context, none is made. -/
theorem countP_madeContext_eq_zero (none : contextCalls calls = []) :
    calls.countP madeContext = 0 := by
  refine List.countP_eq_zero.mpr fun exchange among made => ?_
  have unasked := (of_contextCalls_eq_nil none exchange among).1
  unfold madeContext at made
  split at made
  · cases unasked
  · cases made

/-- Opening and releasing a driver neither ask for a context nor show one. -/
theorem Opening.contextCalls_eq {outcome : Except Failure Driver}
    (opening : Opening calls outcome) : contextCalls calls = [] := by
  cases opening <;> rfl

theorem contextCalls_releases (held : Option Pipeline) : contextCalls (releases held) = [] := by
  rcases held with _ | ⟨display, presenter, _ | context⟩ <;> rfl

/-- Showing a context asks for none. -/
theorem asksContext_shows (context : RenderContext) :
    ∀ exchange ∈ shows context, asksContext exchange.1 = false := by
  simp [shows, asksContext]

/-- A pipeline without a context asks for one on its display. -/
theorem exists_display_of_unmade {pipeline : Pipeline} (unmade : pipeline.context = none)
    (reply : Except Failure RenderContext) :
    ∃ display, (contextCreation pipeline.display reply).1 =
        .createContext display 480 320 ⟨3, 2, 8, 8, 8, 8, 0, 0⟩ ∧
      .display display ∈ Pipeline.stock (some pipeline) ∧
      ∀ context, .context context ∉ Pipeline.stock (some pipeline) := by
  refine ⟨pipeline.display, rfl, display_mem_stock_iff.mpr rfl, ?_⟩
  intro context holds
  cases unmade.symm.trans (context_mem_stock_iff.mp holds)

/-- **A context is asked for only by a mode** that is set while the display is live and no context is,
and always of the same size and with the same attributes. -/
theorem Stretch.contextAsked (stretch : Stretch op held calls held') :
    ∀ exchange ∈ calls, asksContext exchange.1 = true → op.setsMode = true ∧
      ∃ display, exchange.1 = .createContext display 480 320 ⟨3, 2, 8, 8, 8, 8, 0, 0⟩ ∧
        .display display ∈ Pipeline.stock held ∧
        ∀ context, .context context ∉ Pipeline.stock held := by
  intro exchange among asks
  cases stretch with
  | refused width height fullscreen pipeline cause unmade =>
      obtain rfl := List.mem_singleton.mp among
      exact ⟨rfl, exists_display_of_unmade unmade (.error cause)⟩
  | created width height fullscreen pipeline context unmade =>
      rcases List.mem_cons.mp among with rfl | among
      · exact ⟨rfl, exists_display_of_unmade unmade (.ok context)⟩
      · cases asks.symm.trans (asksContext_shows context exchange among)
  | kept width height fullscreen pipeline context made =>
      cases asks.symm.trans (asksContext_shows context exchange among)
  | released =>
      have unasked := of_contextCalls_eq_nil (contextCalls_releases held) exchange among
      cases asks.symm.trans unasked.1
  | silent | asked | dropped | presented =>
      have unasked := of_contextCalls_eq_nil rfl exchange among
      cases asks.symm.trans unasked.1

/-- How many contexts may still be made for a driver. -/
def spare : Option Pipeline → Nat
  | some ⟨_, _, none⟩ => 1
  | _ => 0

/-- **A context that is made cannot be made again**, not even after it was given back. -/
theorem Stretch.countP_madeContext (stretch : Stretch op held calls held') :
    calls.countP madeContext + spare held' ≤ spare held := by
  cases stretch with
  | released =>
      rw [countP_madeContext_eq_zero (contextCalls_releases held)]
      exact Nat.zero_le _
  | created width height fullscreen pipeline context unmade =>
      obtain ⟨display, presenter, context?⟩ := pipeline
      obtain rfl : context? = none := unmade
      exact Nat.le_refl 1
  | silent | asked | kept | refused | dropped | presented => exact Nat.le_of_eq (Nat.zero_add _)

end Stretch

/-! ### Cleared buffers -/

/-- **Buffers are cleared only behind a live context that is made current**, if some handles are live
before the calls. -/
def Cleared (live : List Handle) (calls : List (Exchange Backend.Call)) : Prop :=
  ∀ first rest, calls = first ++ ⟨.clearColorBuffer, ()⟩ :: rest →
    ∃ earlier context, first = earlier ++ [⟨.makeCurrent context, ()⟩] ∧
      .context context ∈ liveAfter live earlier

section Cleared

variable {live : List Handle} {calls calls' : List (Exchange Backend.Call)}

/-- Where nothing is shown nothing is cleared. -/
theorem cleared_of_hidden (hidden : ∀ exchange ∈ calls, showsContext exchange.1 = false) :
    Cleared live calls := by
  rintro first rest rfl
  cases hidden ⟨.clearColorBuffer, ()⟩ (by simp)

theorem cleared_of_contextCalls_eq_nil (none : contextCalls calls = []) : Cleared live calls :=
  cleared_of_hidden fun exchange among => (of_contextCalls_eq_nil none exchange among).2

/-- Asking for a context clears nothing. -/
theorem cleared_creation (display : Display) (reply : Except Failure RenderContext) :
    Cleared live [contextCreation display reply] := by
  refine cleared_of_hidden fun exchange among => ?_
  obtain rfl := List.mem_singleton.mp among
  rfl

/-- A buffer is cleared in one part of the calls or in the other. -/
theorem Cleared.append (one : Cleared live calls) (other : Cleared (liveAfter live calls) calls') :
    Cleared live (calls ++ calls') := by
  intro first rest split
  rcases List.append_eq_append_iff.mp split with ⟨between, rfl, later⟩ | ⟨between, here, later⟩
  · obtain ⟨earlier, context, rfl, holds⟩ := other between rest later
    refine ⟨calls ++ earlier, context, by rw [List.append_assoc], ?_⟩
    rwa [liveAfter_append]
  · cases between with
    | nil =>
        -- the second part does not begin with a buffer that is cleared
        obtain ⟨earlier, context, empty, -⟩ := other [] rest later.symm
        simp at empty
    | cons exchange between =>
        obtain ⟨rfl, rfl⟩ := List.cons.inj later
        exact one first between here

/-- A live context is shown by making it current and clearing its buffer. -/
theorem cleared_shows {context : RenderContext} (holds : .context context ∈ live) :
    Cleared live (shows context) := by
  intro first rest split
  cases first with
  | nil => cases split
  | cons current first =>
      obtain ⟨rfl, split⟩ := List.cons.inj split
      cases first with
      | nil => exact ⟨[], context, rfl, holds⟩
      | cons cleared first =>
          have empty := (List.cons.inj split).2
          simp at empty

/-- **Every operation clears only behind a live context** that is made current. -/
theorem Stretch.cleared {op : Operation} {held held' : Option Pipeline}
    (stretch : Stretch op held calls held') : Cleared (Pipeline.stock held) calls := by
  cases stretch with
  | kept width height fullscreen pipeline context made =>
      exact cleared_shows (context_mem_stock made)
  | created width height fullscreen pipeline context unmade =>
      have begun : Cleared (Pipeline.stock (some pipeline))
          [contextCreation pipeline.display (.ok context)] := cleared_creation _ _
      exact begun.append (cleared_shows List.mem_cons_self)
  | released =>
      exact cleared_of_contextCalls_eq_nil (contextCalls_releases held)
  | refused width height fullscreen pipeline cause unmade =>
      exact cleared_creation pipeline.display (.error cause)
  | silent | asked | dropped | presented => exact cleared_of_contextCalls_eq_nil rfl

end Cleared

/-! ### A whole history -/

section Lives

variable {d d' : Driver} {episodes : List Episode}

/-- What is live after a history is what its driver holds. -/
theorem Lives.liveAfter_eq (lives : Lives d episodes d') :
    liveAfter (Pipeline.stock d.pipeline) (episodes.flatMap Episode.calls) =
      Pipeline.stock d'.pipeline := by
  induction lives with
  | idle d => rfl
  | step run lives ih =>
      rw [List.flatMap_cons, liveAfter_append, Episode.calls,
        (perform_calls run).turnover.liveAfter_eq]
      exact ih

theorem Lives.cleared (lives : Lives d episodes d') :
    Cleared (Pipeline.stock d.pipeline) (episodes.flatMap Episode.calls) := by
  induction lives with
  | idle d => exact cleared_of_hidden nofun
  | step run lives ih =>
      have stretch := perform_calls run
      rw [List.flatMap_cons]
      refine stretch.cleared.append ?_
      rw [stretch.turnover.liveAfter_eq]
      exact ih

theorem Lives.countP_madeContext (lives : Lives d episodes d') :
    (episodes.flatMap Episode.calls).countP madeContext + spare d'.pipeline ≤
      spare d.pipeline := by
  induction lives with
  | idle d => exact Nat.le_of_eq (Nat.zero_add _)
  | @step d₁ d₂ d₃ op reply exchanges later run lives ih =>
      have first := (perform_calls run).countP_madeContext
      have both := Nat.add_le_add_left ih ((backendCalls exchanges).countP madeContext)
      rw [List.flatMap_cons, List.countP_append, Nat.add_assoc]
      exact Nat.le_trans both first

end Lives

/-! ### A whole life -/

/-- The handles that are live once a driver was opened and some of its episodes are over. -/
def liveBehind (opening : List (Exchange Request)) (before : List Episode) : List Handle :=
  liveAfter [] (backendCalls opening ++ before.flatMap Episode.calls)

/-- **The backend calls of a life**, from the opening of the driver to its release. -/
def lifeCalls (opening : List (Exchange Request)) (episodes : List Episode)
    (closing : List (Exchange Request)) : List (Exchange Backend.Call) :=
  backendCalls opening ++ (episodes.flatMap Episode.calls ++ backendCalls closing)

/-- **The modes of a driver are in order over its whole life.** -/
structure ModesInOrder (opening : List (Exchange Request)) (episodes : List Episode)
    (closing : List (Exchange Request)) : Prop where
  /-- A context is asked for only by a mode, while the display is live and no context is, and always of
  the size of the panel and with the same attributes. -/
  asked : ∀ before episode after, episodes = before ++ episode :: after →
    ∀ exchange ∈ episode.calls, asksContext exchange.1 = true → episode.op.setsMode = true ∧
      ∃ display, exchange.1 = .createContext display 480 320 ⟨3, 2, 8, 8, 8, 8, 0, 0⟩ ∧
        .display display ∈ liveBehind opening before ∧
        ∀ context, .context context ∉ liveBehind opening before
  /-- Neither opening nor releasing the driver asks for one. -/
  unasked : ∀ exchange ∈ backendCalls opening ++ backendCalls closing,
    asksContext exchange.1 = false
  /-- One context is made at most. -/
  once : (lifeCalls opening episodes closing).countP madeContext ≤ 1
  /-- Whenever a mode is asked for, it is set as it should. -/
  set : ∀ before width height fullscreen reply exchanges after,
    episodes = before ++ ⟨.setVideoMode width height fullscreen, reply, exchanges⟩ :: after →
    ∃ set, reply = .truth set ∧ ModeSet (liveBehind opening before) (backendCalls exchanges) set
  /-- A mode that fails changes nothing of the driver but its size. -/
  unchanged : ∀ before width height fullscreen exchanges after,
    episodes = before ++ ⟨.setVideoMode width height fullscreen, .truth false, exchanges⟩ :: after →
    ∃ d₁ d d' d₂, start.Yields opening (.ok d₁) ∧ Lives d₁ before d ∧
      (d.perform (.setVideoMode width height fullscreen)).Yields exchanges (.truth false, d') ∧
      Lives d' after d₂ ∧ d' = { d with size := d'.size }
  /-- Buffers are cleared only behind a live context that is made current. -/
  cleared : Cleared [] (lifeCalls opening episodes closing)

section Opened

variable {opening : List (Exchange Request)} {d₁ : Driver}

/-- What is live once a driver was opened is what it holds. -/
theorem liveAfter_start (opened : start.Yields opening (.ok d₁)) :
    liveAfter [] (backendCalls opening) = Pipeline.stock d₁.pipeline :=
  (start_calls opened).turnover.liveAfter_eq

theorem liveBehind_eq {before : List Episode} {d : Driver}
    (opened : start.Yields opening (.ok d₁)) (lives : Lives d₁ before d) :
    liveBehind opening before = Pipeline.stock d.pipeline := by
  rw [liveBehind, liveAfter_append, liveAfter_start opened, lives.liveAfter_eq]

end Opened

/-- **The modes of a driver are in order over its whole life**, whatever it is asked for and whatever
its requests are answered with. -/
theorem life_modesInOrder {opening closing : List (Exchange Request)} {episodes : List Episode}
    (life : Life opening episodes closing) : ModesInOrder opening episodes closing := by
  cases life with
  | refused run =>
      have silent := (start_calls run).contextCalls_eq
      have calls : lifeCalls opening [] [] = backendCalls opening := List.append_nil _
      refine
        { asked := by simp, unasked := ?_, once := ?_, set := by simp, unchanged := by simp,
          cleared := ?_ }
      · intro exchange among
        rw [backendCalls_nil, List.append_nil] at among
        exact (of_contextCalls_eq_nil silent exchange among).1
      · rw [calls, countP_madeContext_eq_zero silent]
        exact Nat.zero_le 1
      · rw [calls]
        exact cleared_of_contextCalls_eq_nil silent
  | @lived _ _ d₁ d₂ d₃ opened lives released =>
      have silent := (start_calls opened).contextCalls_eq
      have silent' : contextCalls (backendCalls closing) = [] := by
        rw [(destroy_calls released).1]
        exact contextCalls_releases d₂.pipeline
      refine
        { asked := ?asked, unasked := ?unasked, once := ?once, set := ?set, unchanged := ?unchanged,
          cleared := ?cleared }
      case asked =>
        rintro before episode after rfl exchange among asks
        obtain ⟨middle, earlier, later⟩ := lives.split
        rw [liveBehind_eq opened earlier]
        cases later with
        | step run _ => exact (perform_calls run).contextAsked exchange among asks
      case unasked =>
        intro exchange among
        rcases List.mem_append.mp among with among | among
        · exact (of_contextCalls_eq_nil silent exchange among).1
        · exact (of_contextCalls_eq_nil silent' exchange among).1
      case once =>
        have held : spare d₁.pipeline = 1 := by
          obtain ⟨⟨display, presenter, rfl⟩, -⟩ := start_opened opened
          rfl
        have made := lives.countP_madeContext
        rw [lifeCalls, List.countP_append, List.countP_append, countP_madeContext_eq_zero silent,
          countP_madeContext_eq_zero silent']
        omega
      case set =>
        rintro before width height fullscreen reply exchanges after rfl
        obtain ⟨middle, earlier, later⟩ := lives.split
        rw [liveBehind_eq opened earlier]
        cases later with
        | step run _ =>
            obtain ⟨set, replied, modeSet, -⟩ := (perform_course run).modeSet
            exact ⟨set, replied, modeSet⟩
      case unchanged =>
        rintro before width height fullscreen exchanges after rfl
        obtain ⟨middle, earlier, later⟩ := lives.split
        cases later with
        | step run later =>
            obtain ⟨set, replied, -, unchanged⟩ := (perform_course run).modeSet
            obtain rfl := Reply.truth.inj replied
            exact ⟨d₁, middle, _, d₂, opened, earlier, run, later, unchanged rfl⟩
      case cleared =>
        refine (cleared_of_contextCalls_eq_nil silent).append ?_
        rw [liveAfter_start opened]
        exact lives.cleared.append (cleared_of_contextCalls_eq_nil silent')

/-! ### Answers that change -/

/-- **A driver that could be opened can be asked for anything**, also if the answers to its requests
depend on a state. -/
theorem life_converse {σ : Type} (answer : σ → (request : Request) → Answer request × σ) (s : σ)
    {d : Driver} (opened : (start.converse answer s).2.1 = .ok d) (ops : List Operation) :
    let opening := start.converse answer s
    let run := (d.performAll ops).converse answer opening.2.2
    let closing := run.2.1.2.destroy.converse answer run.2.2
    ∃ episodes, episodes.map Episode.op = ops ∧ episodes.map Episode.reply = run.2.1.1 ∧
      Life opening.1 episodes closing.1 := by
  intro opening run closing
  have opens := Program.yields_converse answer start s
  have released := Program.yields_converse answer run.2.1.2.destroy run.2.2
  obtain ⟨episodes, lives, asked, replied, -⟩ := yields_performAll.mp
    (Program.yields_converse answer (d.performAll ops) opening.2.2)
  rw [opened] at opens
  exact ⟨episodes, asked.symm, replied.symm, .lived opens lives released⟩

/-- **Answers that refuse some contexts at first** and grant everything else. -/
def refusing (refusals : Nat) : (request : Request) → Answer request × Nat
  | .backend (.createContext display width height attributes) =>
      match refusals with
      | 0 => (unposting 7 (.backend (.createContext display width height attributes)), 0)
      | refusals + 1 => (.error .contextRefused, refusals)
  | request => (unposting 7 request, refusals)

/-- Two modes that are refused and two that are set, on one context; after the destruction there is no
mode any more. -/
theorem refused_modesInOrder :
    let asked := [.setVideoMode 640 480 true, .bindApi .openGlEs ⟨2, 0⟩, .setVideoMode 0 0 false,
      .setVideoMode 480 320 true, .setVideoMode 1 1 true, .destroy, .setVideoMode 480 320 true]
    let opening := start.converse refusing 2
    let run := ((opened ⟨7⟩ ⟨7⟩).performAll asked).converse refusing opening.2.2
    let closing := run.2.1.2.destroy.converse refusing run.2.2
    run.2.1.1 = [.truth false, .truth true, .truth false, .truth true, .truth true, .done,
        .truth false] ∧
      (backendCalls run.1).countP (fun exchange => asksContext exchange.1) = 3 ∧
      ∃ episodes, episodes.map Episode.op = asked ∧ episodes.map Episode.reply = run.2.1.1 ∧
        ModesInOrder opening.1 episodes closing.1 := by
  intro asked opening run closing
  have opens : (start.converse refusing 2).2.1 = .ok (opened ⟨7⟩ ⟨7⟩) := rfl
  obtain ⟨episodes, same, replied, life⟩ := life_converse refusing 2 opens asked
  exact ⟨rfl, rfl, episodes, same, replied, life_modesInOrder life⟩

end Driver

end Scanout
