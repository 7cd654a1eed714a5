import Scanout.Machine.Question
import Scanout.Proofs.Transcript

/-!
# Surroundings

What is asked of the machine besides C functions and the log has the same answer for two programs that
have asked the same until then: it comes from the surroundings, which do not see what is done with the
panel.

## Main definitions

* `Machine.shared` — the exchanges of a transcript with the surroundings
* `Machine.Surroundings` — what the machine answers, with what the C functions give
* `Machine.Follows` — a transcript whose shared questions are answered by the surroundings

## Main results

* `Machine.Follows.unique` — a program that calls no C function has one transcript only
* `Machine.follows_converse` — what is asked of the surroundings follows them
-/

namespace Scanout.Machine

/-- Whether a question is one to the surroundings: neither a C function nor a record. -/
def Question.isShared : Question → Bool
  | .native _ | .log _ => false
  | .installShutdownHandler | .shutdownRequested | .isTerminal | .listDirectory _ => true

/-- **The exchanges of a transcript with the surroundings.** -/
def shared (exchanges : List (Exchange Question)) : List (Exchange Question) :=
  exchanges.filter fun exchange => exchange.1.isShared

theorem shared_append (first later : List (Exchange Question)) :
    shared (first ++ later) = shared first ++ shared later := List.filter_append _ _

/-- **What the machine answers**: the surroundings, depending on what they were asked before, and the
C functions, depending on everything before. -/
structure Surroundings where
  world : List (Exchange Question) → (question : Question) → Answer question
  library : List (Exchange Question) → (call : Native.Call) → call.Answer

namespace Surroundings

/-- The answer to a question after others. -/
def reply (s : Surroundings) (past : List (Exchange Question)) :
    (question : Question) → Answer question
  | .native call => s.library past call
  | .log _ => ()
  | .installShutdownHandler => s.world (shared past) .installShutdownHandler
  | .shutdownRequested => s.world (shared past) .shutdownRequested
  | .isTerminal => s.world (shared past) .isTerminal
  | .listDirectory path => s.world (shared past) (.listDirectory path)

/-- **The answer to a question**, which is remembered. -/
def answer (s : Surroundings) (past : List (Exchange Question)) (question : Question) :
    Answer question × List (Exchange Question) :=
  (s.reply past question, past ++ [⟨question, s.reply past question⟩])

end Surroundings

variable (world : List (Exchange Question) → (question : Question) → Answer question)

/-- **A transcript whose shared questions are answered by the surroundings**, if others were asked
before. -/
def Follows : List (Exchange Question) → List (Exchange Question) → Prop
  | _, [] => True
  | past, exchange :: later =>
      (exchange.1.isShared = true → exchange.2 = world past exchange.1) ∧
        Follows (past ++ shared [exchange]) later

variable {world}

theorem follows_append {past first later : List (Exchange Question)} :
    Follows world past (first ++ later) ↔
      Follows world past first ∧ Follows world (past ++ shared first) later := by
  induction first generalizing past with
  | nil => simp [Follows, shared]
  | cons exchange first ih =>
      rw [List.cons_append, Follows, Follows, ih, and_assoc, List.append_assoc, ← shared_append]
      rfl

/-- **A program that calls no C function has one transcript only** that follows the surroundings. -/
theorem Follows.unique {α : Type} {p : Program Question α} {a a' : α}
    {past exchanges exchanges' : List (Exchange Question)}
    (follows : Follows world past exchanges)
    (apart : p.AsksOnly fun question => ∀ call, question ≠ .native call)
    (run : p.Yields exchanges a) (run' : p.Yields exchanges' a')
    (follows' : Follows world past exchanges') :
    exchanges = exchanges' ∧ a = a' := by
  induction p generalizing past exchanges exchanges' with
  | done value =>
      obtain ⟨rfl, rfl⟩ := run
      obtain ⟨rfl, rfl⟩ := run'
      exact ⟨rfl, rfl⟩
  | ask question next ih =>
      obtain ⟨reply, rest, rfl, run⟩ := run
      obtain ⟨reply', rest', rfl, run'⟩ := run'
      have same : reply = reply' := by
        cases question with
        | native call => exact absurd rfl (apart.1 call)
        | log => rfl
        | installShutdownHandler | shutdownRequested | isTerminal | listDirectory =>
            exact (follows.1 rfl).trans (follows'.1 rfl).symm
      subst same
      obtain ⟨rfl, rfl⟩ := ih reply follows.2 (apart.2 reply) run run' follows'.2
      exact ⟨rfl, rfl⟩

/-- **What is asked of the surroundings follows them.** -/
theorem follows_converse (s : Surroundings) {α : Type} (p : Program Question α)
    (past : List (Exchange Question)) :
    Follows s.world (shared past) (p.converse s.answer past).1 := by
  induction p generalizing past with
  | done value => trivial
  | ask question next ih =>
      refine ⟨?_, ?_⟩
      · intro isShared
        cases question with
        | native | log => cases isShared
        | installShutdownHandler | shutdownRequested | isTerminal | listDirectory => rfl
      · rw [← shared_append]
        exact ih _ _

/-- What a C function is asked is answered by the library. -/
theorem library_of_mem_converse (s : Surroundings) {α : Type} {p : Program Question α}
    {past : List (Exchange Question)} {call : Native.Call} {reply : call.Answer}
    (among : ⟨.native call, reply⟩ ∈ (p.converse s.answer past).1) :
    ∃ before, reply = s.library before call := by
  induction p generalizing past with
  | done value => cases among
  | ask question next ih =>
      rcases List.mem_cons.mp among with same | among
      · cases same
        exact ⟨past, rfl⟩
      · exact ih _ among

end Scanout.Machine
