import Scanout.Proofs.Demo.Ledger

/-!
# The set-up of the demo program

Everything before the loop, over a host that refuses nothing: if EGL could provide the API the program
is configured for, the driver ends up with a render context that is shown, whatever else is configured;
otherwise all that was opened is given back and the program fails.

## Main definitions

* `Demo.Prepared` — the two ways in which the set-up can end

## Main results

* `Demo.prepare_enters`
-/

namespace Scanout.Demo

open Request

variable {d : Driver}

/-- What opening the driver does on the panel. -/
def openingActs : List Backend.Act :=
  [.createDisplay, .createPresenter Panel.format Panel.background]

/-- A host that refuses nothing opens a display and a presenter. -/
theorem start_enters :
    Enters Driver.start fun outcome entry => ∃ display presenter,
      outcome = .ok (Driver.opened display presenter) ∧ entry = .ofActs openingActs := by
  intro b b' exchanges outcome run ready hosted
  obtain ⟨ready', settled⟩ := still_hosted (Driver.start_calls run).surfaceCalls_eq ready hosted
  refine ⟨ready', ?_⟩
  obtain ⟨display, rest, rfl, run⟩ := run
  rcases display with cause | display
  · have granted : Except.isOk (.error cause : Except Failure Display) = true :=
      settled ⟨.backend .createDisplay, .error cause⟩ List.mem_cons_self
    cases granted
  · obtain ⟨presenter, rest, rfl, run⟩ := run
    rcases presenter with cause | presenter
    · have granted : Except.isOk (.error cause : Except Failure Presenter) = true :=
        settled ⟨.backend (.createPresenter display Panel.format Panel.background), .error cause⟩
          (List.mem_cons_of_mem _ List.mem_cons_self)
      cases granted
    · obtain ⟨-, rest, rfl, rfl, rfl⟩ := run
      exact ⟨display, presenter, rfl, rfl⟩

/-- **The driver is opened** and put into the slot. -/
theorem openSlot_enters :
    Enters openSlot fun outcome entry => ∃ display presenter,
      outcome = .ok ⟨some (Driver.opened display presenter)⟩ ∧ entry = .ofActs openingActs := by
  refine (enters_say rfl).bind_blank fun _ _ => ?_
  refine start_enters.bind ?_
  rintro _ _ ⟨display, presenter, rfl, rfl⟩
  refine (enters_say rfl).bind_blank fun _ _ => ?_
  exact enters_done ⟨display, presenter, rfl, Ledger.append_blank _⟩

/-- **Another input driver may be chosen**, which does not concern the panel. -/
theorem chooseInput_enters {joypad : String} :
    Enters (chooseInput joypad ⟨some d⟩) fun slot entry =>
      (∃ d', slot = ⟨some d'⟩ ∧ d'.pipeline = d.pipeline) ∧ entry = .blank := by
  refine (aside_enters rfl).bind_blank ?_
  rintro ⟨reply, slot⟩ ⟨d', rfl, same, -⟩
  dsimp only
  split
  · exact (enters_say rfl).bind_blank fun _ _ => enters_done ⟨⟨d', rfl, same⟩, rfl⟩
  · exact enters_done ⟨⟨d', rfl, same⟩, rfl⟩

/-- **A core context may be asked for**, which does not concern the panel either. -/
theorem chooseContext_enters {core : Bool} :
    Enters (chooseContext core ⟨some d⟩) fun slot entry =>
      (∃ d', slot = ⟨some d'⟩ ∧ d'.pipeline = d.pipeline) ∧ entry = .blank := by
  cases core with
  | false => exact enters_done ⟨⟨d, rfl, rfl⟩, rfl⟩
  | true =>
      refine (aside_enters rfl).bind_blank ?_
      rintro ⟨reply, slot⟩ ⟨d', rfl, same, -⟩
      exact enters_done ⟨⟨d', rfl, same⟩, rfl⟩

/-- **A driver is asked aside**, and neither its handles nor its API change. -/
theorem question_enters {op : Operation} (aside : isAside op = true) (unbinding : op.binding? = none) :
    Enters ((Slot.mk (some d)).perform op) fun result entry =>
      (∃ d', result.2 = ⟨some d'⟩ ∧ d'.pipeline = d.pipeline ∧ d'.api = d.api) ∧
        entry = .blank := by
  refine (aside_enters aside).mono ?_
  rintro result entry ⟨⟨d', left, same, binding⟩, blank⟩
  rw [unbinding] at binding
  exact ⟨⟨d', left, same, congrArg Prod.fst binding⟩, blank⟩

/-- **The mode is told**, which leaves the handles and the API as they are. -/
theorem tellMode_enters :
    Enters (tellMode ⟨some d⟩) fun slot entry =>
      (∃ d', slot = ⟨some d'⟩ ∧ d'.pipeline = d.pipeline ∧ d'.api = d.api) ∧ entry = .blank := by
  refine (question_enters rfl rfl).bind_blank ?_
  rintro ⟨size, slot⟩ ⟨d₁, rfl, same₁, bound₁⟩
  dsimp only
  split
  · refine (question_enters rfl rfl).bind_blank ?_
    rintro ⟨rate, slot⟩ ⟨d₂, rfl, same₂, bound₂⟩
    refine (question_enters rfl rfl).bind_blank ?_
    rintro ⟨flags, slot⟩ ⟨d₃, rfl, same₃, bound₃⟩
    have same := same₃.trans (same₂.trans same₁)
    have bound := bound₃.trans (bound₂.trans bound₁)
    dsimp only
    split
    · exact (enters_say rfl).bind_blank fun _ _ => enters_done ⟨⟨d₃, rfl, same, bound⟩, rfl⟩
    · exact enters_done ⟨⟨d₃, rfl, same, bound⟩, rfl⟩
  · exact enters_done ⟨⟨d₁, rfl, same₁, bound₁⟩, rfl⟩

/-! ### The whole set-up -/

/-- **How the set-up can end**: without an API that EGL could provide it gives back what it has opened
and fails, and with one it leaves a driver in motion. -/
inductive Prepared (config : Config) : Except Failure Slot → Ledger → Prop
  | unbindable (foreign : config.video.api.client? = none) :
      Prepared config (.error (.unboundApi config.video.api config.video.version))
        (.ofActs (openingActs ++ [.destroyPresenter, .destroyDisplay]))
  | moving {d : Driver} {pipeline : Pipeline} (known : config.video.api.client?.isSome = true)
      (running : Running d pipeline) :
      Prepared config (.ok ⟨some d⟩) (.ofActs (openingActs ++ showingActs))

/-- **The set-up over a host that refuses nothing.** -/
theorem prepare_enters (config : Config) : Enters (prepare config) (Prepared config) := by
  refine openSlot_enters.bind ?_
  rintro _ _ ⟨display, presenter, rfl, rfl⟩
  refine chooseInput_enters.bind_blank ?_
  rintro _ ⟨d₁, rfl, same₁⟩
  refine chooseContext_enters.bind_blank ?_
  rintro _ ⟨d₂, rfl, same₂⟩
  refine bindApi_enters.bind_blank ?_
  rintro _ ⟨d₃, rfl, same₃, bound₃⟩
  have held₃ : d₃.pipeline = some ⟨display, presenter, none⟩ := same₃.trans (same₂.trans same₁)
  cases bindable : config.video.api.client?.isSome with
  | false =>
      refine (destroy_enters held₃).bind ?_
      rintro _ _ rfl
      exact enters_done (.unbindable (Option.isNone_iff_eq_none.mp (by simpa using bindable)))
  | true =>
      refine (question_enters rfl rfl).bind_blank ?_
      rintro ⟨reply, slot⟩ ⟨d₄, rfl, same₄, bound₄⟩
      refine (setVideoMode_enters (same₄.trans held₃)).bind ?_
      rintro _ _ ⟨⟨d₅, context, rfl, bound₅, held₅⟩, rfl⟩
      refine tellMode_enters.bind_blank ?_
      rintro _ ⟨d₆, rfl, same₆, bound₆⟩
      refine (enters_say rfl).bind_blank fun _ _ => ?_
      have bound : d₆.usesEgl = true := by
        rw [Driver.usesEgl, bound₆, bound₅, bound₄, bound₃, bindable]
      exact enters_done (.moving bindable ⟨bound, same₆.trans held₅, rfl⟩)

end Scanout.Demo
