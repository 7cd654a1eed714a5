import Scanout.Proofs.Headless.Frames

/-!
# One surface at a time

A headless backend remembers the locked surface by its bare number, and the numbers come from a
counter that wraps and that all kinds of handles share.  So numbers come back.  What keeps surfaces
apart is that a caller owns what it locks: it unlocks no surface but those it was given, and each
of them once.  Then no second surface is out while one is, and the number that is remembered is
that of the one.

## Main definitions

* `Headless.Owns` — calls of a caller that owns its surfaces
* `Headless.LockKept` — the surfaces of such a caller
* `Headless.Guarded` — what a backend does with any surface, and with a call that it refuses

## Main results

* `Headless.LockHeld.answer` — one call
* `Headless.Serves.lockHeld` — a list of calls
* `Headless.serves_lockKept`
-/

namespace Scanout.Headless

open Driver (lockedAfter lockedStep)

/-! ### Callers that own their surfaces -/

/-- Whether a call unlocks nothing but a surface that its caller holds. -/
def Permitted (held : List Surface) : Exchange Backend.Call → Prop
  | ⟨.unlockSurface _ surface, _⟩ => surface ∈ held
  | _ => True

/-- **The calls of a caller that owns its surfaces**, if it holds some before.  It unlocks what a
lock has given it, each surface at most once, and nothing else; it may post any surface. -/
def Owns : List Surface → List (Exchange Backend.Call) → Prop
  | _, [] => True
  | held, exchange :: later => Permitted held exchange ∧ Owns (lockedStep held exchange) later

/-- Whether a call asks for a lock. -/
def asksForLock : Backend.Call → Bool
  | .lockSurface _ => true
  | _ => false

/-- Whether a call is a creation that the backend is told to refuse. -/
def Refusals.refuses (refusals : Refusals) : Backend.Call → Bool
  | .createDisplay => refusals.display
  | .createPresenter _ _ _ => refusals.presenter
  | .createContext _ _ _ _ => refusals.context
  | _ => false

/-- Whether a call gives a lock back. -/
def unlocks : Backend.Call → Bool
  | .unlockSurface _ _ => true
  | _ => false

/-! ### One call -/

/-- **The lock is that of the surface that is out**, if one is. -/
structure LockHeld (held : List Surface) (b : Backend) : Prop where
  single : held.length ≤ 1
  locked : b.locked = held.head?.map Surface.id

section OneCall

variable {held : List Surface} {b b' : Backend}

/-- No surface is out, or one is, and it is the locked one. -/
theorem LockHeld.cases (lock : LockHeld held b) :
    held = [] ∧ b.locked = none ∨ ∃ surface, held = [surface] ∧ b.locked = some surface.id := by
  obtain ⟨single, locked⟩ := lock
  match held, single, locked with
  | [], _, locked => exact .inl ⟨rfl, locked⟩
  | [surface], _, locked => exact .inr ⟨surface, rfl, locked⟩

/-- Only locks and unlocks change the lock. -/
theorem locked_answer {call : Backend.Call} (unasked : asksForLock call = false)
    (kept : unlocks call = false) : (b.answer call).2.locked = b.locked := by
  cases call with
  | destroyDisplay | destroyPresenter | destroyContext | makeCurrent | clearColorBuffer
  | swapBuffers | refreshRate => rfl
  | lockSurface => cases unasked
  | unlockSurface => cases kept
  | createDisplay | createPresenter | createContext | post =>
      rw [Backend.answer]
      split <;> rfl

/-- **A call of an owner** leaves the lock with the surface that is out then. -/
theorem LockHeld.answer (lock : LockHeld held b) {call : Backend.Call}
    (permitted : Permitted held ⟨call, (b.answer call).1⟩) :
    LockHeld (lockedStep held ⟨call, (b.answer call).1⟩) (b.answer call).2 := by
  cases call with
  | lockSurface context =>
      rw [Backend.answer]
      obtain ⟨rfl, free⟩ | ⟨surface, rfl, taken⟩ := lock.cases
      · rw [free]
        exact ⟨Nat.le_refl 1, rfl⟩
      · rw [taken]
        exact ⟨Nat.le_refl 1, taken⟩
  | unlockSurface context surface =>
      have among : surface ∈ held := permitted
      obtain ⟨rfl, -⟩ | ⟨other, rfl, taken⟩ := lock.cases
      · cases among
      · obtain rfl := List.mem_singleton.mp among
        rw [Backend.answer, if_pos taken]
        show LockHeld ([surface].erase surface) _
        rw [List.erase_cons_head]
        exact ⟨Nat.zero_le 1, rfl⟩
  | createDisplay | destroyDisplay | refreshRate | createPresenter | destroyPresenter | post
  | createContext | destroyContext | makeCurrent | clearColorBuffer | swapBuffers =>
      exact ⟨lock.single, (locked_answer rfl rfl).trans lock.locked⟩

/-- **The counter goes with the posts that are recorded**, and wraps with them. -/
theorem counted_answer (counted : b.frames = UInt64.ofNat (b.acts.countP Backend.Act.posts))
    (call : Backend.Call) : (b.answer call).2.frames =
      UInt64.ofNat ((b.answer call).2.acts.countP Backend.Act.posts) := by
  have still : ∀ act : Backend.Act, act.posts = false →
      b.frames = UInt64.ofNat ((b.acts ++ [act]).countP Backend.Act.posts) := by
    intro act other
    rw [List.countP_append, List.countP_singleton, other, counted]
    rfl
  cases call with
  | destroyDisplay | destroyPresenter | destroyContext | makeCurrent | clearColorBuffer
  | swapBuffers => exact still _ rfl
  | refreshRate => exact counted
  | createDisplay | createPresenter | createContext =>
      rw [Backend.answer]
      split
      · exact counted
      · exact still _ rfl
  | lockSurface =>
      rw [Backend.answer]
      split
      · exact counted
      · exact still _ rfl
  | unlockSurface =>
      rw [Backend.answer]
      split <;> exact still _ rfl
  | post presenter surface placement =>
      rw [Backend.answer]
      split
      · show b.frames + 1 =
          UInt64.ofNat ((b.acts ++ [Backend.Act.post placement]).countP Backend.Act.posts)
        rw [List.countP_append, List.countP_singleton, UInt64.ofNat_add, counted]
        rfl
      · exact counted

/-- **A call that fails leaves the backend as it was.** -/
theorem answer_of_failed {call : Backend.Call} {cause : Failure}
    (failed : Backend.Failed ⟨call, (b.answer call).1⟩ cause) : (b.answer call).2 = b := by
  generalize outcome : b.answer call = result at failed
  obtain ⟨reply, after⟩ := result
  cases failed <;>
  · rw [Backend.answer] at outcome
    split at outcome <;> cases outcome
    rfl

/-- A creation that the backend is told to refuse fails. -/
theorem failed_of_refuses {call : Backend.Call} (told : b.refusals.refuses call = true) :
    ∃ cause, Backend.Failed ⟨call, (b.answer call).1⟩ cause := by
  cases call with
  | createDisplay =>
      have told : b.refusals.display = true := told
      rw [Backend.answer, if_pos told]
      exact ⟨_, .createDisplay _⟩
  | createPresenter =>
      have told : b.refusals.presenter = true := told
      rw [Backend.answer, if_pos told]
      exact ⟨_, .createPresenter _ _ _ _⟩
  | createContext =>
      have told : b.refusals.context = true := told
      rw [Backend.answer, if_pos told]
      exact ⟨_, .createContext _ _ _ _ _⟩
  | _ => cases told

/-- As long as no surface is locked, only a lock makes one so. -/
theorem free_answer (free : b.locked = none) {call : Backend.Call}
    (unasked : asksForLock call = false) : (b.answer call).2.locked = none := by
  cases kept : unlocks call with
  | false => rw [locked_answer unasked kept, free]
  | true =>
      cases call with
      | unlockSurface context surface =>
          rw [Backend.answer, free]
          exact free
      | _ => cases kept

/-- **A lock is granted** just if no surface is locked. -/
theorem locks_iff (context : RenderContext) :
    (∃ surface b', Serves b [⟨.lockSurface context, .ok surface⟩] b') ↔ b.locked = none := by
  constructor
  · rintro ⟨surface, b', serves⟩
    obtain ⟨given, -⟩ := serves_cons.mp serves
    cases taken : b.locked with
    | none => rfl
    | some other =>
        rw [Backend.answer, taken] at given
        cases given
  · intro free
    refine ⟨⟨b.nextHandle.toNat⟩, _, serves_cons.mpr ⟨?_, serves_nil.mpr rfl⟩⟩
    rw [Backend.answer, free]

/-- **A post is granted** just if the surface has the number of the locked one. -/
theorem posts_iff (presenter : Presenter) (surface : Surface) (placement : Placement) :
    (∃ b', Serves b [⟨.post presenter surface placement, .ok ()⟩] b') ↔
      b.locked = some surface.id := by
  constructor
  · rintro ⟨b', serves⟩
    obtain ⟨given, -⟩ := serves_cons.mp serves
    by_cases taken : b.locked = some surface.id
    · exact taken
    · rw [Backend.answer, if_neg taken] at given
      cases given
  · intro taken
    refine ⟨_, serves_cons.mpr ⟨?_, serves_nil.mpr rfl⟩⟩
    rw [Backend.answer, if_pos taken]

end OneCall

/-! ### A list of calls -/

section Calls

variable {held : List Surface} {b b' : Backend} {calls : List (Exchange Backend.Call)}

/-- **The calls of an owner** leave the lock with the surface that is out in the end. -/
theorem Serves.lockHeld (serves : Serves b calls b') (lock : LockHeld held b)
    (owns : Owns held calls) : LockHeld (lockedAfter held calls) b' := by
  induction calls generalizing held b with
  | nil =>
      obtain rfl := serves_nil.mp serves
      exact lock
  | cons exchange calls ih =>
      obtain ⟨call, reply⟩ := exchange
      obtain ⟨given, serves⟩ := serves_cons.mp serves
      obtain rfl : reply = (b.answer call).1 := given
      obtain ⟨permitted, owns⟩ := owns
      exact ih serves (lock.answer permitted) owns

theorem Serves.counted (serves : Serves b calls b')
    (counted : b.frames = UInt64.ofNat (b.acts.countP Backend.Act.posts)) :
    b'.frames = UInt64.ofNat (b'.acts.countP Backend.Act.posts) := by
  induction calls generalizing b with
  | nil =>
      obtain rfl := serves_nil.mp serves
      exact counted
  | cons exchange calls ih => exact ih (serves_cons.mp serves).2 (counted_answer counted _)

/-- A backend that no surface is locked on stays so until a lock is asked for. -/
theorem Serves.free (serves : Serves b calls b') (free : b.locked = none)
    (unasked : ∀ exchange ∈ calls, asksForLock exchange.1 = false) : b'.locked = none := by
  induction calls generalizing b with
  | nil =>
      obtain rfl := serves_nil.mp serves
      exact free
  | cons exchange calls ih =>
      obtain ⟨here, others⟩ := List.forall_mem_cons.mp unasked
      exact ih (serves_cons.mp serves).2 (free_answer free here) others

/-- **The locked surface can be posted any number of times.** -/
theorem serves_posts {surface : Surface} (taken : b.locked = some surface.id)
    (posts : List (Presenter × Placement)) :
    ∃ b', Serves b (posts.map fun post => ⟨.post post.1 surface post.2, .ok ()⟩) b' ∧
      b'.frames = UInt64.ofNat (b.framesPosted + posts.length) := by
  induction posts generalizing b with
  | nil => exact ⟨b, .idle b, UInt64.ofNat_toNat.symm⟩
  | cons post posts ih =>
      obtain ⟨b', serves, counted⟩ :=
        ih (b := { b.acted (.post post.2) with frames := b.frames + 1 }) taken
      refine ⟨b', (Driver.serves_post taken).mpr ⟨rfl, serves⟩, ?_⟩
      rw [counted, Backend.ofNat_framesPosted, Backend.ofNat_framesPosted, List.length_cons,
        UInt64.ofNat_add, UInt64.add_assoc, UInt64.add_comm 1]
      rfl

end Calls

/-! ### Any caller, and an owner -/

/-- **What a backend does whoever calls it**: it answers, it posts the surface with the locked
number and no other, it counts what it posts as long as that is fewer than its counter has values, it
refuses the creations it is told to, and a call that fails leaves it as it was. -/
structure Guarded (b : Backend) : Prop where
  answered : ∀ call, ∃ reply b', Serves b [⟨call, reply⟩] b'
  posted_iff : ∀ presenter surface placement,
    (∃ b', Serves b [⟨.post presenter surface placement, .ok ()⟩] b') ↔
      b.locked = some surface.id
  refused : ∀ call reply b', b.refusals.refuses call = true → Serves b [⟨call, reply⟩] b' →
    ∃ cause, Backend.Failed ⟨call, reply⟩ cause
  unmoved : ∀ call reply cause b', Backend.Failed ⟨call, reply⟩ cause →
    Serves b [⟨call, reply⟩] b' →
      b'.acts = b.acts ∧ b'.lastHandle = b.lastHandle ∧ b'.locked = b.locked ∧
        b'.framesPosted = b.framesPosted
  counted : b.acts.countP Backend.Act.posts < UInt64.size →
    b.framesPosted = b.acts.countP Backend.Act.posts

/-- **What a backend does for an owner** that has made some calls. -/
structure LockKept (calls : List (Exchange Backend.Call)) (b : Backend) : Prop where
  /-- At most one surface is out. -/
  single : (lockedAfter [] calls).length ≤ 1
  /-- The lock is that of the surface that is out. -/
  locked : b.locked = (lockedAfter [] calls).head?.map Surface.id
  /-- A surface can be locked if none is out. -/
  lock_iff : ∀ context,
    (∃ surface b', Serves b [⟨.lockSurface context, .ok surface⟩] b') ↔ lockedAfter [] calls = []
  /-- The surface that is out can be posted any number of times, and the counter goes on with it. -/
  posts : ∀ surface ∈ lockedAfter [] calls, ∀ posts : List (Presenter × Placement),
    ∃ b', Serves b (posts.map fun post => ⟨.post post.1 surface post.2, .ok ()⟩) b' ∧
      (b.framesPosted + posts.length < UInt64.size →
        b'.framesPosted = b.framesPosted + posts.length)
  /-- Once it is unlocked, the next lock is granted, whatever comes in between. -/
  unlocks : ∀ surface ∈ lockedAfter [] calls, ∀ context between b',
    Serves b (⟨.unlockSurface context surface, ()⟩ :: between) b' →
    (∀ exchange ∈ between, asksForLock exchange.1 = false) →
    ∀ context', ∃ surface' b'', Serves b' [⟨.lockSurface context', .ok surface'⟩] b''

/-- Whoever calls a backend, it is guarded. -/
theorem guarded_of_counted {b : Backend}
    (counted : b.frames = UInt64.ofNat (b.acts.countP Backend.Act.posts)) : Guarded b where
  answered call :=
    ⟨(b.answer call).1, (b.answer call).2, serves_cons.mpr ⟨rfl, serves_nil.mpr rfl⟩⟩
  posted_iff := posts_iff
  refused call reply b' told serves := by
    obtain rfl : reply = (b.answer call).1 := (serves_cons.mp serves).1
    exact failed_of_refuses told
  unmoved call reply cause b' failed serves := by
    obtain ⟨given, ended⟩ := serves_cons.mp serves
    obtain rfl : reply = (b.answer call).1 := given
    have same : b' = b := (serves_nil.mp ended).trans (answer_of_failed failed)
    rw [same]
    exact ⟨rfl, rfl, rfl, rfl⟩
  counted := Backend.framesPosted_of_frames counted

/-- **A headless backend keeps its lock**, from wherever it counts its handles: it is guarded
whatever was called before, and it has served an owner well. -/
theorem serves_lockKept {refusals : Refusals} {counter : UInt32}
    {calls : List (Exchange Backend.Call)} {b : Backend}
    (serves : Serves (.freshAt refusals counter) calls b) :
    Guarded b ∧ (Owns [] calls → LockKept calls b) := by
  refine ⟨guarded_of_counted (serves.counted rfl), fun owns => ?_⟩
  have lock : LockHeld (lockedAfter [] calls) b := serves.lockHeld ⟨Nat.zero_le 1, rfl⟩ owns
  refine
    { single := lock.single, locked := lock.locked, lock_iff := fun context => ?lock_iff,
      posts := fun surface out => ?posts, unlocks := ?unlocks }
  case lock_iff =>
    rw [locks_iff, lock.locked, Option.map_eq_none_iff, List.head?_eq_none_iff]
  case posts =>
    obtain ⟨none, -⟩ | ⟨other, one, taken⟩ := lock.cases
    · rw [none] at out
      cases out
    · rw [one] at out
      obtain rfl := List.mem_singleton.mp out
      intro posts
      obtain ⟨b', served, counted⟩ := serves_posts taken posts
      exact ⟨b', served, Backend.framesPosted_of_frames counted⟩
  case unlocks =>
    intro surface out context between b' served unasked context'
    obtain ⟨none, -⟩ | ⟨other, one, taken⟩ := lock.cases
    · rw [none] at out
      cases out
    · rw [one] at out
      obtain rfl := List.mem_singleton.mp out
      have free := ((Driver.serves_unlock taken).mp served).free rfl unasked
      exact (locks_iff context').mpr free

/-- The counter wraps while a surface is out: its number is nought, it is posted twice, another
surface is refused, and the next one has the number two. -/
theorem wrapped_lockKept :
    let placement := Panel.placement
    let calls : List (Exchange Backend.Call) :=
      [⟨.lockSurface ⟨9⟩, .ok ⟨0⟩⟩, ⟨.post ⟨9⟩ ⟨0⟩ placement, .ok ()⟩, ⟨.createDisplay, .ok ⟨1⟩⟩,
        ⟨.lockSurface ⟨9⟩, .error (.surfaceStillLocked 0)⟩,
        ⟨.post ⟨9⟩ ⟨1⟩ placement, .error (.surfaceNotLocked 1)⟩,
        ⟨.post ⟨9⟩ ⟨0⟩ placement, .ok ()⟩, ⟨.unlockSurface ⟨9⟩ ⟨0⟩, ()⟩,
        ⟨.lockSurface ⟨9⟩, .ok ⟨2⟩⟩]
    ∃ b, Serves (.freshAt ⟨false, false, false⟩ 0xffffffff) calls b ∧ b.framesPosted = 2 ∧
      lockedAfter [] calls = [⟨2⟩] ∧ Owns [] calls ∧ Guarded b ∧ LockKept calls b := by
  intro placement calls
  obtain ⟨b, serves, posted⟩ :
      ∃ b, Serves (.freshAt ⟨false, false, false⟩ 0xffffffff) calls b ∧ b.framesPosted = 2 := by
    simp only [calls, serves_cons]
    exact ⟨_, ⟨rfl, rfl, rfl, rfl, rfl, rfl, trivial, rfl, .idle _⟩, rfl⟩
  have owns : Owns [] calls := ⟨trivial, trivial, trivial, trivial, trivial, trivial,
    List.mem_singleton_self _, trivial, trivial⟩
  obtain ⟨guarded, kept⟩ := serves_lockKept serves
  exact ⟨b, serves, posted, rfl, owns, guarded, kept owns⟩

end Scanout.Headless
