import Scanout.Proofs.Driver.Destroyed

/-!
# EGL layers that keep a state

An EGL layer answers the calls of a driver out of a state of its own, and each call may change the
state.  Nothing is asked of a layer: it may provide an API now and refuse it the next time.

## Main definitions

* `Egl.Layer` — an EGL layer over a type of states
* `Egl.Layer.Serves` — the calls of a list are answered one after the other
* `Egl.Layer.answering` — answers over a layer

## Main result

* `Egl.Layer.lives_converse` — every history can be lived over a layer
-/

namespace Scanout.Egl

/-- **An EGL layer**: its state and a call give the answer and the next state. -/
abbrev Layer (σ : Type) := σ → (call : Call) → call.Answer × σ

namespace Layer

variable {σ : Type} (layer : Layer σ)

/-! ### A list of calls -/

/-- **The calls of a list are answered one after the other**, and the layer ends in a state. -/
def Serves : σ → List (Exchange Call) → σ → Prop
  | s, [], s' => s' = s
  | s, exchange :: later, s' =>
      exchange.2 = (layer s exchange.1).1 ∧ Serves (layer s exchange.1).2 later s'

section Serves

variable {layer} {s s' : σ} {first later : List (Exchange Call)}

@[simp] theorem serves_nil : layer.Serves s [] s' ↔ s' = s := Iff.rfl

@[simp] theorem serves_cons {exchange : Exchange Call} :
    layer.Serves s (exchange :: later) s' ↔
      exchange.2 = (layer s exchange.1).1 ∧ layer.Serves (layer s exchange.1).2 later s' := Iff.rfl

theorem serves_append :
    layer.Serves s (first ++ later) s' ↔
      ∃ middle, layer.Serves s first middle ∧ layer.Serves middle later s' := by
  induction first generalizing s with
  | nil => simp
  | cons exchange first ih =>
      simp only [List.cons_append, serves_cons, ih]
      constructor
      · rintro ⟨given, middle, begun, ended⟩
        exact ⟨middle, ⟨given, begun⟩, ended⟩
      · rintro ⟨middle, ⟨given, begun⟩, ended⟩
        exact ⟨given, middle, begun, ended⟩

end Serves

/-! ### Answers of a layer -/

/-- **Answers over an EGL layer**: its calls are answered by the layer, everything else by fixed
answers. -/
def answering (others : (request : Request) → Answer request) (s : σ) :
    (request : Request) → Answer request × σ
  | .egl call => layer s call
  | .backend call => (others (.backend call), s)
  | .frontend call => (others (.frontend call), s)
  | .probe probe => (others (.probe probe), s)
  | .log record => (others (.log record), s)

/-- What is answered over a layer is served by it. -/
theorem serves_converse (others : (request : Request) → Answer request) {α : Type}
    (p : Program Request α) (s : σ) :
    layer.Serves s (eglCalls (p.converse (layer.answering others) s).1)
      (p.converse (layer.answering others) s).2.2 := by
  induction p generalizing s with
  | done value => exact serves_nil.mpr rfl
  | ask request next ih =>
      cases request with
      | egl call => exact serves_cons.mpr ⟨rfl, ih _ _⟩
      | backend | frontend | probe | log => exact ih _ _

/-- **Every history can be lived over a layer.** -/
theorem lives_converse (others : (request : Request) → Answer request) (s : σ) (d : Driver)
    (ops : List Operation) :
    let run := (d.performAll ops).converse (layer.answering others) s
    ∃ episodes, episodes.map Episode.op = ops ∧ episodes.map Episode.reply = run.2.1.1 ∧
      Driver.Lives d episodes run.2.1.2 ∧
      layer.Serves s (episodes.flatMap Episode.eglCalls) run.2.2 := by
  intro run
  obtain ⟨episodes, lives, asked, replied, exchanges⟩ := Driver.yields_performAll.mp
    (Program.yields_converse (layer.answering others) (d.performAll ops) s)
  refine ⟨episodes, asked.symm, replied.symm, lives, ?_⟩
  rw [← eglCalls_flatMap, ← exchanges]
  exact layer.serves_converse others (d.performAll ops) s

end Layer

end Scanout.Egl
