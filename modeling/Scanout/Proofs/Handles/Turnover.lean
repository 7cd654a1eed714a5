import Scanout.Proofs.Driver.Calls
import Scanout.Proofs.Handles.Custody

/-!
# The stock of a driver

The handles that a driver holds are a stack: a display, on it a presenter, on both a render context.
Whatever an entry point asks of the backend, it carries only handles of the stack, puts a new handle
on top and takes the topmost one away.  If every driver does so, and no source gives to one driver
what another one holds, then all calls together respect custody.

## Main definitions

* `Pipeline.stock` — the handles of a driver, the topmost one first
* `Custody.Turnover` — calls that carry a stack from one content to another
* `Custody.Agrees` — the stocks of all drivers are what the calls before have left to them

## Main results

* `Driver.Stretch.turnover` — every operation turns over the stock of its driver
* `Custody.Turnover.allowed` — a turnover respects custody
-/

namespace Scanout

/-- **The handles that a driver holds**, the one that rests on the others first. -/
def Pipeline.stock : Option Pipeline → List Handle
  | none => []
  | some pipeline =>
      (pipeline.context.map Handle.context).toList ++
        [.presenter pipeline.presenter, .display pipeline.display]

namespace Custody

/-- **A stack in which each handle stands above those below it.** -/
def Ranked (stock : List Handle) : Prop := stock.Pairwise fun upper lower => lower.rank < upper.rank

/-- **Calls that carry a stack from one content to another.**  Each of them carries handles of the
stack only; it puts a handle on top, takes the topmost one away, or leaves the stack as it is. -/
inductive Turnover : List Handle → List (Exchange Backend.Call) → List Handle → Prop
  | rest (stock : List Handle) : Turnover stock [] stock
  | uses {stock stock' : List Handle} {exchange : Exchange Backend.Call}
      {later : List (Exchange Backend.Call)} (given : given? exchange = none)
      (returned : returned? exchange.1 = none) (carries : ∀ handle ∈ carried exchange.1, handle ∈ stock)
      (turnover : Turnover stock later stock') : Turnover stock (exchange :: later) stock'
  | gives {stock stock' : List Handle} {handle : Handle} {exchange : Exchange Backend.Call}
      {later : List (Exchange Backend.Call)} (given : given? exchange = some handle)
      (carries : ∀ handle ∈ carried exchange.1, handle ∈ stock)
      (above : ∀ other ∈ stock, other.rank < handle.rank)
      (turnover : Turnover (handle :: stock) later stock') : Turnover stock (exchange :: later) stock'
  | takes {stock stock' : List Handle} {handle : Handle} {exchange : Exchange Backend.Call}
      {later : List (Exchange Backend.Call)} (returned : returned? exchange.1 = some handle)
      (turnover : Turnover stock later stock') : Turnover (handle :: stock) (exchange :: later) stock'

/-- A call that neither gives nor takes, and carries handles of the stack. -/
theorem Turnover.used {stock : List Handle} {exchange : Exchange Backend.Call}
    (given : given? exchange = none) (returned : returned? exchange.1 = none)
    (carries : ∀ handle ∈ carried exchange.1, handle ∈ stock) : Turnover stock [exchange] stock :=
  .uses given returned carries (.rest stock)

/-! ### Custody under a turnover -/

section Agreement

variable (source : Nat → Nat)

/-- **The stocks of all drivers are what the calls before have left to them**: a handle of a source is
held by a driver just if the source serves the driver and the handle is in its stock. -/
def Agrees (before : List Deed) (stocks : Nat → List Handle) : Prop :=
  ∀ place handle driver, holder? source place handle before = some driver ↔
    source driver = place ∧ handle ∈ stocks driver

/-- Nobody holds anything before the first call. -/
theorem agrees_nil : Agrees source [] fun _ => [] := by
  intro place handle driver
  simp

variable {source} {before : List Deed} {stocks : Nat → List Handle} {driver : Nat}
  {exchange : Exchange Backend.Call} {handle : Handle} {stock : List Handle}

/-- A call that gives and takes nothing marks no handle. -/
theorem mark?_of_idle {place : Nat} (given : given? exchange = none)
    (returned : returned? exchange.1 = none) : mark? source place handle (driver, exchange) = none := by
  simp [mark?, given, returned]

/-- A gift marks the handle that is given, at the source that gives it. -/
theorem mark?_of_given {place : Nat} {other : Handle} (given : given? exchange = some handle) :
    mark? source place other (driver, exchange) =
      if source driver = place ∧ handle = other then some (.given driver) else none := by
  simp only [mark?, given, returned_of_given given, Option.some.injEq, reduceCtorEq, if_false]
  split <;> simp_all

/-- A return marks the handle that is returned, at the source that takes it. -/
theorem mark?_of_returned {place : Nat} {other : Handle} (returned : returned? exchange.1 = some handle) :
    mark? source place other (driver, exchange) =
      if source driver = place ∧ handle = other then some (.returned driver) else none := by
  have given := given_of_returned returned
  simp only [mark?, given, returned, Option.some.injEq, reduceCtorEq, if_false]
  split <;> simp_all

theorem Agrees.uses (agrees : Agrees source before stocks) (given : given? exchange = none)
    (returned : returned? exchange.1 = none) : Agrees source (before ++ [(driver, exchange)]) stocks := by
  intro place handle other
  rw [holder?_concat, mark?_of_idle given returned]
  exact agrees place handle other

/-- A call that changes the stock of a driver by one handle changes nothing for the other handles. -/
theorem Agrees.elsewhere (agrees : Agrees source before stocks) {stock' : List Handle}
    (others : ∀ held ≠ handle, held ∈ stock' ↔ held ∈ stocks driver) {place : Nat} {held : Handle}
    (apart : ¬ (source driver = place ∧ handle = held)) (other : Nat) :
    holder? source place held before = some other ↔
      source other = place ∧ held ∈ Function.update stocks driver stock' other := by
  by_cases it : other = driver
  · subst it
    rw [Function.update_self]
    refine (agrees place held other).trans (and_congr_right fun served => ?_)
    exact (others held fun same => apart ⟨served, same.symm⟩).symm
  · rw [Function.update_of_ne it]
    exact agrees place held other

/-- **A gift goes to the stock of the driver it is made to**, if no other driver holds the handle. -/
theorem Agrees.gives (agrees : Agrees source before stocks) (given : given? exchange = some handle)
    (exclusive : ∀ other ∈ holder? source (source driver) handle before, other = driver) :
    Agrees source (before ++ [(driver, exchange)])
      (Function.update stocks driver (handle :: stocks driver)) := by
  intro place held other
  rw [holder?_concat, mark?_of_given given]
  by_cases same : source driver = place ∧ handle = held
  · obtain ⟨rfl, rfl⟩ := same
    rw [if_pos ⟨rfl, rfl⟩]
    by_cases it : other = driver
    · subst it
      simp [holderOf]
    · have apart : ¬ (source other = source driver ∧ handle ∈ stocks other) := by
        intro holds
        exact it (exclusive other ((agrees _ _ _).mpr holds))
      simpa [holderOf, it, Ne.symm it] using apart
  · rw [if_neg same]
    refine agrees.elsewhere (fun held differs => ?_) same other
    rw [List.mem_cons, or_iff_right differs]

/-- **A return takes the handle away from the stock that it was on top of.** -/
theorem Agrees.takes (agrees : Agrees source before stocks)
    (returned : returned? exchange.1 = some handle) (top : stocks driver = handle :: stock)
    (ranked : Ranked (handle :: stock)) :
    Agrees source (before ++ [(driver, exchange)]) (Function.update stocks driver stock) := by
  intro place held other
  rw [holder?_concat, mark?_of_returned returned]
  by_cases same : source driver = place ∧ handle = held
  · obtain ⟨rfl, rfl⟩ := same
    rw [if_pos ⟨rfl, rfl⟩]
    by_cases it : other = driver
    · subst it
      -- the stack holds no handle twice, for each stands above those below it
      have gone : handle ∉ stock := fun below =>
        Nat.lt_irrefl _ ((List.pairwise_cons.mp ranked).1 handle below)
      simp [holderOf, gone]
    · have mine : holder? source (source driver) handle before = some driver :=
        (agrees _ _ _).mpr ⟨rfl, by simp [top]⟩
      have apart : ¬ (source other = source driver ∧ handle ∈ stocks other) := by
        intro holds
        have theirs := (agrees _ _ _).mpr holds
        rw [mine] at theirs
        exact it (Option.some.inj theirs).symm
      simpa [holderOf, it] using apart
  · rw [if_neg same]
    refine agrees.elsewhere (fun held differs => ?_) same other
    rw [top, List.mem_cons, or_iff_right differs]

/-- **A turnover respects custody**: if the stocks agree with the calls before and no gift is held by
another driver, then each of the calls is allowed, and afterwards the stocks agree again. -/
theorem Turnover.allowed {stock' : List Handle} {calls : List (Exchange Backend.Call)}
    (turnover : Turnover stock calls stock') (ranked : Ranked stock) (mine : stocks driver = stock)
    (agrees : Agrees source before stocks)
    (exclusive : AtEach (Unheld source) before (calls.map (driver, ·))) :
    AtEach (Allowed source) before (calls.map (driver, ·)) ∧
      Agrees source (before ++ calls.map (driver, ·)) (Function.update stocks driver stock') := by
  -- along the calls, `agrees` says what everybody holds and `ranked` that nothing is held twice
  induction turnover generalizing before stocks with
  | rest stock =>
      refine ⟨trivial, ?_⟩
      rw [← mine, Function.update_eq_self]
      simpa using agrees
  | @uses stock stock' exchange later given returned carries turnover ih =>
      obtain ⟨-, exclusive⟩ := exclusive
      obtain ⟨allowed, after⟩ := ih ranked mine (agrees.uses given returned) exclusive
      refine ⟨⟨?_, allowed⟩, by simpa using after⟩
      refine ⟨?_, by simp [given], by simp [given], by simp [returned]⟩
      intro handle carried
      exact (agrees _ _ _).mpr ⟨rfl, mine ▸ carries handle carried⟩
  | @gives stock stock' handle exchange later given carries above turnover ih =>
      obtain ⟨unheld, exclusive⟩ := exclusive
      have lower : ∀ other, holder? source (source driver) other before = some driver →
          other.rank < handle.rank := by
        intro other holds
        exact above other (mine ▸ ((agrees _ _ _).mp holds).2)
      -- what its own driver holds stands below the gift, and nobody else holds it
      have only := unheld handle given
      obtain ⟨allowed, after⟩ := ih (List.pairwise_cons.mpr ⟨above, ranked⟩)
        (by rw [Function.update_self, mine]) (agrees.gives given only) exclusive
      rw [Function.update_idem] at after
      refine ⟨⟨?_, allowed⟩, by simpa using after⟩
      refine ⟨?_, ?_, ?_, by simp [returned_of_given given]⟩
      · intro handle carried
        exact (agrees _ _ _).mpr ⟨rfl, mine ▸ carries handle carried⟩
      · intro it itGiven
        obtain rfl := Option.some.inj (given.symm.trans itGiven)
        cases holds : holder? source (source driver) handle before with
        | none => rfl
        | some other =>
            obtain rfl := only other holds
            exact absurd (lower handle holds) (Nat.lt_irrefl _)
      · intro it itGiven
        obtain rfl := Option.some.inj (given.symm.trans itGiven)
        exact lower
  | @takes stock stock' handle exchange later returned turnover ih =>
      obtain ⟨-, exclusive⟩ := exclusive
      obtain ⟨allowed, after⟩ := ih (List.pairwise_cons.mp ranked).2
        (Function.update_self ..) (agrees.takes returned mine ranked) exclusive
      rw [Function.update_idem] at after
      have ungiven := given_of_returned returned
      refine ⟨⟨?_, allowed⟩, by simpa using after⟩
      refine ⟨?_, by simp [ungiven], by simp [ungiven], ?_⟩
      · intro it carries
        obtain rfl : it = handle := by simpa [carried_of_returned returned] using carries
        exact (agrees _ _ _).mpr ⟨rfl, by simp [mine]⟩
      · intro it itReturned other holds
        obtain rfl := Option.some.inj (returned.symm.trans itReturned)
        have holds : other ∈ handle :: stock := mine ▸ ((agrees _ _ _).mp holds).2
        rcases List.mem_cons.mp holds with rfl | below
        · exact Nat.le_refl _
        · exact Nat.le_of_lt ((List.pairwise_cons.mp ranked).1 other below)

end Agreement

end Custody

/-! ### The entry points -/

namespace Driver

open Custody

/-- The stock of a driver is ranked. -/
theorem ranked_stock (held : Option Pipeline) : Ranked (Pipeline.stock held) := by
  rcases held with _ | ⟨display, presenter, _ | context⟩ <;>
    simp [Ranked, Pipeline.stock, Handle.rank]

/-- **A driver gives back its whole stock**, from the top. -/
theorem turnover_releases (held : Option Pipeline) :
    Turnover (Pipeline.stock held) (releases held) [] := by
  rcases held with _ | ⟨display, presenter, _ | context⟩
  · exact .rest []
  · exact .takes rfl (.takes rfl (.rest []))
  · exact .takes rfl (.takes rfl (.takes rfl (.rest [])))

/-- **Opening a driver builds up its stock**, or takes away what it has put down. -/
theorem Opening.turnover {calls : List (Exchange Backend.Call)} {outcome : Except Failure Driver}
    (opening : Opening calls outcome) :
    Turnover [] calls (Pipeline.stock (outcome.toOption.bind Driver.pipeline)) := by
  cases opening with
  | noDisplay cause => exact .used rfl rfl (by simp [carried])
  | noPresenter display cause =>
      refine .gives rfl (by simp [carried]) (by simp) ?_
      refine .uses rfl rfl (by simp [carried]) ?_
      exact .takes rfl (.rest [])
  | opened display presenter =>
      refine .gives rfl (by simp [carried]) (by simp) ?_
      exact .gives rfl (by simp [carried]) (by simp [Handle.rank]) (.rest _)

/-- Showing a context of the stock carries no other handle. -/
theorem turnover_shows {stock : List Handle} {context : RenderContext}
    (holds : Handle.context context ∈ stock) : Turnover stock (shows context) stock := by
  refine .uses rfl rfl ?_ (.used rfl rfl (by simp [carried]))
  simpa [carried] using holds

/-- The context of a driver is in its stock. -/
theorem context_mem_stock {pipeline : Pipeline} {context : RenderContext}
    (made : pipeline.context = some context) :
    Handle.context context ∈ Pipeline.stock (some pipeline) := by
  simp [Pipeline.stock, made]

/-- **Every operation turns over the stock of its driver.** -/
theorem Stretch.turnover {op : Operation} {held held' : Option Pipeline}
    {calls : List (Exchange Backend.Call)} (stretch : Stretch op held calls held') :
    Turnover (Pipeline.stock held) calls (Pipeline.stock held') := by
  cases stretch with
  | silent => exact .rest _
  | released => exact turnover_releases held
  | asked pipeline known => exact .used rfl rfl (by simp [carried, Pipeline.stock])
  | kept width height fullscreen pipeline context made =>
      exact turnover_shows (context_mem_stock made)
  | refused width height fullscreen pipeline cause unmade =>
      exact .used rfl rfl (by simp [carried, contextCreation, Pipeline.stock])
  | created width height fullscreen pipeline context unmade =>
      show Turnover (Pipeline.stock (some pipeline)) _ _
      refine .gives rfl (by simp [carried, contextCreation, Pipeline.stock]) ?_ ?_
      · simp [Pipeline.stock, unmade, Handle.rank]
      · have top : Handle.context context :: Pipeline.stock (some pipeline) =
            Pipeline.stock (some { pipeline with context := some context }) := by
          simp [Pipeline.stock, unmade]
        rw [top]
        exact turnover_shows (context_mem_stock rfl)
  | dropped frame pipeline context cause made =>
      have holds := context_mem_stock made
      refine .uses rfl rfl (by simpa [carried] using holds) ?_
      exact .used rfl rfl (by simpa [carried] using holds)
  | presented frame pipeline context surface posted made =>
      have holds := context_mem_stock made
      refine .uses rfl rfl (by simpa [carried] using holds) ?_
      refine .uses rfl rfl (by simpa [carried] using holds) ?_
      refine .uses rfl rfl (by simp [carried, Pipeline.stock]) ?_
      exact .used rfl rfl (by simpa [carried] using holds)

end Driver

end Scanout
