/-!
# Programs that ask questions

A driver never reaches a device itself: it asks a collaborator and goes on with the answer.  Such a
computation is a tree whose inner nodes are questions and whose branches are the possible answers,
so a statement over *every* answer is an induction on the tree, and a concrete run is the tree read
against something that answers.

## Main definitions

* `Questions` — a language of questions, each with the type of its answers
* `Program` — a computation over a language of questions
* `Program.run` — a program run by answering its questions in a monad

## Design notes

Answering in another `Program` is how one layer is put on top of another; answering in a state
monad is how the bottom layer becomes a run.  One definition serves both, since a program is the
free monad over its questions.
-/

namespace Scanout

/-- **A language of questions.**  Every question fixes the type of its answers. -/
class Questions (Q : Type) where
  /-- What an answer to the question is. -/
  Answer : Q → Type

export Questions (Answer)

/-- **A computation over a language of questions**: it is finished, or it asks a question and goes
on with the answer. -/
inductive Program (Q : Type) [Questions Q] (α : Type) : Type where
  | done (value : α)
  | ask (question : Q) (next : Answer question → Program Q α)

namespace Program

variable {Q : Type} [Questions Q] {α β γ : Type}

/-- Goes on with a second program once the first is finished. -/
def bind : Program Q α → (α → Program Q β) → Program Q β
  | done a, f => f a
  | ask q next, f => ask q fun answer => (next answer).bind f

instance : Monad (Program Q) where
  pure := done
  bind := bind

@[simp] theorem pure_eq_done (a : α) : (pure a : Program Q α) = done a := rfl

@[simp] theorem bind_eq (p : Program Q α) (f : α → Program Q β) : p >>= f = p.bind f := rfl

@[simp] theorem done_bind (a : α) (f : α → Program Q β) : (done a).bind f = f a := rfl

@[simp] theorem ask_bind (q : Q) (next : Answer q → Program Q α) (f : α → Program Q β) :
    (ask q next).bind f = ask q fun answer => (next answer).bind f := rfl

theorem bind_done (p : Program Q α) : p.bind done = p := by
  induction p with
  | done a => rfl
  | ask q next ih =>
      simp only [ask_bind]
      congr 1
      funext answer
      exact ih answer

theorem bind_assoc (p : Program Q α) (f : α → Program Q β) (g : β → Program Q γ) :
    (p.bind f).bind g = p.bind fun a => (f a).bind g := by
  induction p with
  | done a => rfl
  | ask q next ih =>
      simp only [ask_bind]
      congr 1
      funext answer
      exact ih answer

instance : LawfulMonad (Program Q) :=
  LawfulMonad.mk' (Program Q) (fun p => bind_done p) (fun _ _ => rfl) bind_assoc

/-! ### Running -/

/-- **A run**: every question is answered in the monad `m`, in the order it is asked. -/
def run {m : Type → Type} [Monad m] (answer : (q : Q) → m (Answer q)) : Program Q α → m α
  | done a => pure a
  | ask q next => do
      let reply ← answer q
      (next reply).run answer

section Run

variable {m : Type → Type} [Monad m] (answer : (q : Q) → m (Answer q))

@[simp] theorem run_done (a : α) : (done a : Program Q α).run answer = pure a := rfl

@[simp] theorem run_ask (q : Q) (next : Answer q → Program Q α) :
    (ask q next).run answer = answer q >>= fun reply => (next reply).run answer := rfl

theorem run_bind [LawfulMonad m] (p : Program Q α) (f : α → Program Q β) :
    (p.bind f).run answer = p.run answer >>= fun a => (f a).run answer := by
  induction p with
  | done a => simp
  | ask q next ih => simp [ih]

end Run

end Program

end Scanout
