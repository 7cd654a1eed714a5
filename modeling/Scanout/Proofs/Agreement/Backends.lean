import Scanout.Proofs.Agreement.Capabilities
import Scanout.Proofs.Agreement.Parallel

/-!
# The headless backend agrees with the panel library

A driver cannot tell a headless backend with a headless EGL layer from the panel library with the EGL
of the system, if the same creations fail on both and both provide the same APIs.  It is opened on both
or on none, it gives the same replies, and what the headless backend records is what is done with the
panel library.  Refresh rates and the functions that are found are of the platform and may differ.

## Main definitions

* `Driver.session` — a driver is opened and asked for a history
* `Driver.EndAlike` — two ends of a session that agree

## Main results

* `Parallel.lockstep` — programs that go the same way end alike under the same capabilities
* `Driver.backends_agree`
-/

namespace Scanout

/-! ### Lockstep -/

/-- Calls that only use handles do the same. -/
theorem performed?_used {call call' : Backend.Call} (used : call.Used call') (reply : call.Answer)
    (reply' : call'.Answer) :
    Backend.performed? ⟨call, reply⟩ = Backend.performed? ⟨call', reply'⟩ := by
  cases used <;> rfl

/-- The first request of a program is settled, and so are those behind it. -/
theorem settled_ask {α : Type} {request : Request} {next : Answer request → Program Request α}
    {exchanges : List (Exchange Request)} {a : α} {c : Capabilities}
    (run : (Program.ask request next).Yields exchanges a)
    (settled : ∀ exchange ∈ exchanges, c.Settles exchange) :
    ∃ reply later, exchanges = ⟨request, reply⟩ :: later ∧ (next reply).Yields later a ∧
      c.Settles ⟨request, reply⟩ ∧ ∀ exchange ∈ later, c.Settles exchange := by
  obtain ⟨reply, later, rfl, next⟩ := run
  exact ⟨reply, later, rfl, next, List.forall_mem_cons.mp settled⟩

/-- **Programs that go the same way end alike** under the same capabilities and in the same
surroundings, and what they do is the same. -/
theorem Parallel.lockstep {α β : Type} {R : α → β → Prop} {p : Program Request α}
    {q : Program Request β} {a : α} {b : β} {exchanges exchanges' : List (Exchange Request)}
    {c : Capabilities} {world : List (Exchange Machine.Question) →
      (question : Machine.Question) → Answer question} {past : List (Exchange Machine.Question)}
    {f : Platform.Frontend} {prober : Platform.Prober} (parallel : Parallel R p q)
    (run : p.Yields exchanges a) (run' : q.Yields exchanges' b)
    (settled : ∀ exchange ∈ exchanges, c.Settles exchange)
    (settled' : ∀ exchange ∈ exchanges', c.Settles exchange)
    (seen : Platform.Seen world f prober past exchanges)
    (seen' : Platform.Seen world f prober past exchanges') :
    R a b ∧ performed exchanges = performed exchanges' := by
  induction parallel generalizing exchanges exchanges' f prober past with
  | done related =>
      obtain ⟨rfl, rfl⟩ := run
      obtain ⟨rfl, rfl⟩ := run'
      exact ⟨related, rfl⟩
  | say rest ih =>
      obtain ⟨reply, later, rfl, next, -, others⟩ := settled_ask run settled
      obtain ⟨reply', later', rfl, next', -, others'⟩ := settled_ask run' settled'
      obtain ⟨related, same⟩ := ih next next' others others' (seen.later rfl) (seen'.later rfl)
      exact ⟨related, same⟩
  | use used rest ih =>
      obtain ⟨reply, later, rfl, next, -, others⟩ := settled_ask run settled
      obtain ⟨reply', later', rfl, next', -, others'⟩ := settled_ask run' settled'
      obtain ⟨related, same⟩ :=
        ih reply reply' next next' others others' (seen.later rfl) (seen'.later rfl)
      exact ⟨related, by rw [performed_backend, performed_backend, performed?_used used, same]⟩
  | createDisplay made refused madeIh refusedIh | createPresenter made refused madeIh refusedIh
  | createContext made refused madeIh refusedIh =>
      obtain ⟨reply, later, rfl, next, here, others⟩ := settled_ask run settled
      obtain ⟨reply', later', rfl, next', here', others'⟩ := settled_ask run' settled'
      -- the creation fails on both platforms or on none
      have alike := here.trans here'.symm
      rcases reply with cause | handle <;> rcases reply' with cause' | handle'
      · obtain ⟨related, same⟩ :=
          refusedIh cause cause' next next' others others' (seen.later rfl) (seen'.later rfl)
        exact ⟨related, same⟩
      · cases alike
      · cases alike
      · obtain ⟨related, same⟩ :=
          madeIh handle handle' next next' others others' (seen.later rfl) (seen'.later rfl)
        exact ⟨related, by rw [performed_backend, performed_backend, same]; rfl⟩
  | lockSurface locked ih =>
      obtain ⟨reply, later, rfl, next, here, others⟩ := settled_ask run settled
      obtain ⟨reply', later', rfl, next', here', others'⟩ := settled_ask run' settled'
      rcases reply with cause | surface
      · cases here
      rcases reply' with cause' | surface'
      · cases here'
      obtain ⟨related, same⟩ :=
        ih surface surface' next next' others others' (seen.later rfl) (seen'.later rfl)
      exact ⟨related, by rw [performed_backend, performed_backend, same]; rfl⟩
  | post posted ih =>
      obtain ⟨reply, later, rfl, next, here, others⟩ := settled_ask run settled
      obtain ⟨reply', later', rfl, next', here', others'⟩ := settled_ask run' settled'
      rcases reply with cause | ⟨⟩
      · cases here
      rcases reply' with cause' | ⟨⟩
      · cases here'
      obtain ⟨related, same⟩ := ih next next' others others' (seen.later rfl) (seen'.later rfl)
      exact ⟨related, by rw [performed_backend, performed_backend, same]; rfl⟩
  | egl told rest ih =>
      obtain ⟨reply, later, rfl, next, here, others⟩ := settled_ask run settled
      obtain ⟨reply', later', rfl, next', here', others'⟩ := settled_ask run' settled'
      obtain rfl := Capabilities.Settles.egl_unique here here' told
      obtain ⟨related, same⟩ :=
        ih reply next next' others others' (seen.later rfl) (seen'.later rfl)
      exact ⟨related, same⟩
  | symbol rest ih =>
      obtain ⟨reply, later, rfl, next, -, others⟩ := settled_ask run settled
      obtain ⟨reply', later', rfl, next', -, others'⟩ := settled_ask run' settled'
      obtain ⟨related, same⟩ :=
        ih reply reply' next next' others others' (seen.later rfl) (seen'.later rfl)
      exact ⟨related, same⟩
  | frontend rest ih =>
      obtain ⟨reply, later, rfl, next, -, others⟩ := settled_ask run settled
      obtain ⟨reply', later', rfl, next', -, others'⟩ := settled_ask run' settled'
      obtain ⟨rfl, f, past, after, after'⟩ := seen.frontend_unique seen'
      obtain ⟨related, same⟩ := ih reply next next' others others' after after'
      exact ⟨related, same⟩
  | probe rest ih =>
      obtain ⟨reply, later, rfl, next, -, others⟩ := settled_ask run settled
      obtain ⟨reply', later', rfl, next', -, others'⟩ := settled_ask run' settled'
      obtain ⟨rfl, prober, past, after, after'⟩ := seen.probe_unique seen'
      obtain ⟨related, same⟩ := ih reply next next' others others' after after'
      exact ⟨related, same⟩

namespace Driver

open Machine (Question Surroundings)

/-! ### Sessions -/

/-- **A session**: a driver is opened and asked for a history. -/
def session (ops : List Operation) : Program Request (Except Failure (List Reply × Driver)) := do
  match ← start with
  | .error failure => return .error failure
  | .ok d => return .ok (← d.performAll ops)

/-- Two ends of a session that agree: a driver could not be opened for want of the same, or its replies
are alike and twins are left. -/
inductive EndAlike (ops : List Operation) :
    Except Failure (List Reply × Driver) → Except Failure (List Reply × Driver) → Prop
  | noDisplay (cause cause' : Failure) :
      EndAlike ops (.error (.noDisplay cause)) (.error (.noDisplay cause'))
  | noPresenter (cause cause' : Failure) :
      EndAlike ops (.error (.noPresenter cause)) (.error (.noPresenter cause'))
  | lived {replies replies' : List Reply} {d d' : Driver}
      (alike : AllRepliedAlike ops replies replies') (twins : Twins d d') :
      EndAlike ops (.ok (replies, d)) (.ok (replies', d'))

/-- **A session goes the same way** wherever it takes place. -/
theorem session_parallel (ops : List Operation) :
    Parallel (EndAlike ops) (session ops) (session ops) := by
  refine start_parallel.bind fun outcome outcome' opened => ?_
  cases opened with
  | noDisplay cause cause' => exact .done (.noDisplay cause cause')
  | noPresenter cause cause' => exact .done (.noPresenter cause cause')
  | opened twins =>
      exact (performAll_parallel twins ops).bind fun _ _ alike => .done (.lived alike.1 alike.2)

section Sessions

variable {ops : List Operation} {exchanges : List (Exchange Request)}
  {outcome : Except Failure (List Reply × Driver)}

/-- A session is an opening, and a life if that succeeds. -/
theorem yields_session (run : (session ops).Yields exchanges outcome) :
    (∃ failure, start.Yields exchanges (.error failure)) ∨
      ∃ opening episodes d₁ d₂, start.Yields opening (.ok d₁) ∧ Lives d₁ episodes d₂ ∧
        exchanges = opening ++ episodes.flatMap Episode.exchanges := by
  obtain ⟨opening, later, started, rfl, opened, run⟩ := Program.yields_bind.mp run
  rcases started with failure | d
  · obtain ⟨rfl, -⟩ := run
    exact .inl ⟨failure, by rwa [List.append_nil]⟩
  · obtain ⟨⟨replies, d'⟩, run, -⟩ := Program.yields_bind_done.mp run
    obtain ⟨episodes, lives, -, -, rfl⟩ := yields_performAll.mp run
    exact .inr ⟨opening, episodes, d, d', opened, lives, rfl⟩

/-- **No surface is refused during a session** over a headless backend. -/
theorem session_granted {refusals : Headless.Refusals} {b : Headless.Backend}
    (run : (session ops).Yields exchanges outcome)
    (serves : Headless.Serves (.fresh refusals) (backendCalls exchanges) b) :
    ∀ call ∈ backendCalls exchanges, ¬ SurfaceRefused call := by
  rcases yields_session run with ⟨failure, refused⟩ | ⟨opening, episodes, d₁, d₂, opened, lives, rfl⟩
  · exact not_surfaceRefused_of_still (start_calls refused).surfaceCalls_eq
  · rw [backendCalls_append, backendCalls_flatMap] at serves ⊢
    have fromZero : Headless.Serves (.freshAt refusals 0) _ b := serves
    exact (lives_framesKept opened lives fromZero).granted

/-- Opening a driver asks for the panel. -/
theorem Opening.forPanel {calls : List (Exchange Backend.Call)} {started : Except Failure Driver}
    (opening : Opening calls started) : ∀ call ∈ calls, Backend.Call.ForPanel call.1 := by
  cases opening <;> simp [Backend.Call.ForPanel]

/-- An operation asks for the panel. -/
theorem Stretch.forPanel {op : Operation} {held held' : Option Pipeline}
    {calls : List (Exchange Backend.Call)} (stretch : Stretch op held calls held') :
    ∀ call ∈ calls, Backend.Call.ForPanel call.1 := by
  cases stretch with
  | released =>
      rcases held with _ | ⟨display, presenter, _ | context⟩ <;>
        simp [releases, contextReleases, Backend.Call.ForPanel]
  | silent | asked | kept | refused | created | dropped | presented =>
      simp [shows, contextCreation, droppedFrame, presentedFrame, Backend.Call.ForPanel]

theorem Lives.forPanel {d d' : Driver} {episodes : List Episode} (lives : Lives d episodes d') :
    ∀ call ∈ episodes.flatMap Episode.calls, Backend.Call.ForPanel call.1 := by
  induction lives with
  | idle => exact nofun
  | step run lives ih =>
      rw [List.flatMap_cons, List.forall_mem_append]
      exact ⟨(perform_calls run).forPanel, ih⟩

/-- **A session asks for the panel and for nothing else.** -/
theorem session_forPanel (run : (session ops).Yields exchanges outcome) :
    ∀ call ∈ backendCalls exchanges, Backend.Call.ForPanel call.1 := by
  rcases yields_session run with ⟨failure, refused⟩ | ⟨opening, episodes, d₁, d₂, opened, lives, rfl⟩
  · exact (start_calls refused).forPanel
  · rw [backendCalls_append, backendCalls_flatMap, List.forall_mem_append]
    refine ⟨(start_calls opened).forPanel, ?_⟩
    exact lives.forPanel

/-- **An API is bound only where it is provided.** -/
def BindsProvided (exchanges : List (Exchange Request)) : Prop :=
  ∀ client bound, ⟨.egl (.bindApi client), bound⟩ ∈ exchanges →
    ⟨.egl (.supports client), true⟩ ∈ exchanges

theorem BindsProvided.append {first later : List (Exchange Request)} (one : BindsProvided first)
    (others : BindsProvided later) : BindsProvided (first ++ later) := by
  intro client bound among
  rcases List.mem_append.mp among with among | among
  · exact List.mem_append_left _ (one client bound among)
  · exact List.mem_append_right _ (others client bound among)

theorem start_bindsProvided {started : Except Failure Driver}
    (run : start.Yields exchanges started) : BindsProvided exchanges := by
  obtain ⟨display, rest, rfl, run⟩ := run
  rcases display with cause | display
  · obtain ⟨rfl, -⟩ := run
    exact fun client bound among => by simp at among
  · obtain ⟨presenter, rest, rfl, run⟩ := run
    rcases presenter with cause | presenter
    · obtain ⟨-, rest, rfl, rfl, -⟩ := run
      exact fun client bound among => by simp at among
    · obtain ⟨-, rest, rfl, rfl, -⟩ := run
      exact fun client bound among => by simp at among

theorem Course.bindsProvided {d d' : Driver} {op : Operation} {reply : Reply}
    (course : Course d op exchanges reply d') : BindsProvided exchanges := by
  intro client bound among
  cases course with
  | bindingTried =>
      simp only [List.mem_cons, Sigma.mk.injEq, Request.egl.injEq, Egl.Call.bindApi.injEq] at among
      simp [Remark.said] at among ⊢
      exact among.1
  | released pipeline =>
      rcases pipeline with ⟨display, presenter, _ | context⟩ <;>
        simp [releasing, contextReleasing, Remark.said] at among
  | _ => simp [showing, Remark.said] at among

theorem Lives.bindsProvided {d d' : Driver} {episodes : List Episode}
    (lives : Lives d episodes d') : BindsProvided (episodes.flatMap Episode.exchanges) := by
  induction lives with
  | idle => exact fun client bound among => nomatch among
  | step run lives ih => exact (perform_course run).bindsProvided.append ih

theorem session_bindsProvided (run : (session ops).Yields exchanges outcome) :
    BindsProvided exchanges := by
  rcases yields_session run with ⟨failure, refused⟩ | ⟨opening, episodes, d₁, d₂, opened, lives, rfl⟩
  · exact start_bindsProvided refused
  · exact (start_bindsProvided opened).append lives.bindsProvided

/-- **A headless platform settles the requests of a session** under its capabilities. -/
theorem session_settled {c : Capabilities} {frontend : Platform.Frontend}
    {prober : Platform.Prober} {asked : List (Exchange Question)} {p : Platform}
    (run : (session ops).Yields exchanges outcome)
    (answers : Platform.Answers ⟨.headless (.fresh c.refusals),
      .headless (.fresh c.supported c.createContext), frontend, prober⟩ exchanges asked p) :
    (∀ exchange ∈ exchanges, c.Settles exchange) ∧ p.backend.acts = performed exchanges := by
  obtain ⟨⟨b, after, serves⟩, told⟩ := answers.headless rfl rfl
  have settles := serves.settles (c := c) rfl (session_granted run serves)
  refine ⟨?_, by rw [after]; exact serves.acts_eq⟩
  rintro ⟨request, reply⟩ among
  cases request with
  | backend call =>
      exact settles ⟨call, reply⟩ (List.mem_filterMap.mpr ⟨_, among, rfl⟩)
  | egl call =>
      have tells := told call reply among
      cases call with
      | supports | hasCreateContext => exact tells
      | procAddress | bindHwRender => trivial
      | bindApi client =>
          -- what is bound is provided, and so the binding succeeds
          have provided := told _ _ (session_bindsProvided run client reply among)
          exact tells.trans provided.symm
  | frontend | probe | log => trivial

end Sessions

/-- **A session on a platform** in its surroundings: what was asked of the machine, the end of the
session, and the platform that is left. -/
def sessionOn (s : Surroundings) (p : Platform) (ops : List Operation) :
    List (Exchange Question) × Except Failure (List Reply × Driver) × Platform :=
  let run := (p.run (session ops)).converse s.answer []
  (run.1, run.2.1)

/-- A session on a platform has a transcript of its requests too, and its questions follow the
surroundings. -/
theorem sessionOn_answers (s : Surroundings) (p : Platform) (ops : List Operation) :
    ∃ exchanges, (session ops).Yields exchanges (sessionOn s p ops).2.1 ∧
      p.Answers exchanges (sessionOn s p ops).1 (sessionOn s p ops).2.2 ∧
      Platform.Seen s.world p.frontend p.prober [] exchanges := by
  obtain ⟨exchanges, run, answers⟩ := Platform.answers_of_run
    (Program.yields_converse s.answer (p.run (session ops)) [])
  exact ⟨exchanges, run, answers, answers.seen (Machine.follows_converse s _ [])⟩

/-- The C functions give what their library gives. -/
theorem sessionOn_granted {c : Capabilities} {s : Surroundings}
    (grants : ∀ past call, c.Grants ⟨call, s.library past call⟩) (p : Platform)
    (ops : List Operation) : Native.Granted c (sessionOn s p ops).1 := by
  intro call reply among
  obtain ⟨before, rfl⟩ := Machine.library_of_mem_converse s among
  exact grants before call

/-- **The headless backend agrees with the panel library**: in the same surroundings and under the same
capabilities a session ends alike on both, and what the headless backend records is what is done with
the panel library. -/
theorem backends_agree (c : Capabilities) (frontend : Platform.Frontend) (prober : Platform.Prober)
    (s : Surroundings) (grants : ∀ past call, c.Grants ⟨call, s.library past call⟩)
    (ops : List Operation) :
    let headless := sessionOn s ⟨.headless (.fresh c.refusals),
      .headless (.fresh c.supported c.createContext), frontend, prober⟩ ops
    let native := sessionOn s ⟨.native, .native (.ofConfig c.configured), frontend, prober⟩ ops
    EndAlike ops headless.2.1 native.2.1 ∧
      headless.2.2.backend.acts.map Backend.Act.native = Native.acts native.1 := by
  intro headless native
  obtain ⟨exchanges, run, answers, seen⟩ := sessionOn_answers s ⟨.headless (.fresh c.refusals),
    .headless (.fresh c.supported c.createContext), frontend, prober⟩ ops
  obtain ⟨exchanges', run', answers', seen'⟩ := sessionOn_answers s
    ⟨.native, .native (.ofConfig c.configured), frontend, prober⟩ ops
  obtain ⟨settled, acts⟩ := session_settled run answers
  obtain ⟨settled', acts'⟩ :=
    answers'.native rfl rfl rfl (sessionOn_granted grants _ ops) (session_forPanel run')
  obtain ⟨alike, same⟩ := (session_parallel ops).lockstep run run' settled settled' seen seen'
  refine ⟨alike, ?_⟩
  rw [acts', ← same, ← acts]

/-- A library that grants what the capabilities allow, each handle with the same number. -/
def obliging (c : Capabilities) : (call : Native.Call) → call.Answer
  | .displayCreate => if c.refusals.display then none else some ⟨4096⟩
  | .presenterCreate _ _ _ => if c.refusals.presenter then none else some ⟨4096⟩
  | .contextCreate _ _ _ _ => if c.refusals.context then none else some ⟨4096⟩
  | .surfaceLock _ => some ⟨4096⟩
  | .eglBindApi _ => Native.Egl.bound
  | .eglGetError => 0
  | .eglGetProcAddress _ => false
  | .displayDestroy _ | .presenterDestroy _ | .presenterPost _ _ _ _ _ | .contextDestroy _
  | .contextMakeCurrent _ | .contextSwapBuffers _ | .surfaceUnlock _ _ | .glClear _ => ()

/-- An obliging library is one that the capabilities describe. -/
theorem grants_obliging (c : Capabilities) (call : Native.Call) :
    c.Grants ⟨call, obliging c call⟩ := by
  cases call with
  | displayCreate | presenterCreate | contextCreate =>
      rw [Capabilities.Grants, obliging]
      split <;> simp_all
  | surfaceLock | eglBindApi => rfl
  | _ => trivial

/-- Surroundings in which nobody asks for a shutdown and there is nothing to read from. -/
def secluded (c : Capabilities) : Surroundings where
  world _ question :=
    match question with
    | .native call => obliging c call
    | .log _ | .installShutdownHandler => ()
    | .shutdownRequested => false
    | .isTerminal => .ok false
    | .listDirectory _ => .ok []
  library _ := obliging c

/-- A frame on either backend, from its display to the end of the driver. -/
theorem frame_agrees :
    let c : Capabilities := ⟨⟨false, false, false⟩, [.openGlEs], false⟩
    let ops := [.bindApi .openGlEs ⟨2, 0⟩, .setVideoMode 640 480 true, .swapBuffers 0, .destroy]
    let frontend := .system ⟨"glcore", "x"⟩
    let headless := sessionOn (secluded c) ⟨.headless (.fresh c.refusals),
      .headless (.fresh c.supported c.createContext), frontend, .system ⟨"/dev/input"⟩⟩ ops
    let native := sessionOn (secluded c) ⟨.native, .native (.ofConfig c.configured), frontend,
      .system ⟨"/dev/input"⟩⟩ ops
    (EndAlike ops headless.2.1 native.2.1 ∧
      headless.2.2.backend.acts.map Backend.Act.native = Native.acts native.1) ∧
      Native.acts native.1 = [.displayCreate, .presenterCreate 0x36314752 0xff080808,
        .contextCreate 480 320 ⟨3, 2, 8, 8, 8, 8, 0, 0⟩, .contextMakeCurrent, .glClear 0x4000,
        .contextSwapBuffers, .surfaceLock,
        .presenterPost ⟨0, 0, 480, 320⟩ ⟨0, 0, 320, 480⟩ 3, .surfaceUnlock, .contextDestroy,
        .presenterDestroy, .displayDestroy] :=
  ⟨backends_agree _ _ _ (secluded _) (fun _ call => grants_obliging _ call) _, by decide +kernel⟩

end Driver

end Scanout
