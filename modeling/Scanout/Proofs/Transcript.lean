import Scanout.Program

/-!
# Transcripts of programs

A program leaves open what its questions are answered with.  A transcript settles it: the questions
that were asked, in order, each with the answer it was given.  A statement about every run of a
program, whoever answers it, is a statement about every transcript along which it comes to an end.

## Main definitions

* `Exchange` — a question with its answer
* `Program.Yields` — a program asks the questions of a transcript and ends with a value
* `Program.transcribe` — the transcript that arises when each question has a fixed answer
* `Program.converse` — the transcript that arises when the answers depend on a state
* `Program.onBehalf` — a program whose questions bear a label
* `Program.answered` — a program some of whose questions are answered at once
* `Program.AsksOnly` — a program all of whose questions satisfy a condition

## Design notes

`Yields` follows the program, so it opens by itself as far as the program is known.  What a bind
yields is the transcript of its first part followed by that of the rest (`Program.yields_bind`), and
nothing else about transcripts is needed to reason about an entry point.
-/

namespace Scanout

/-- **A question with its answer.** -/
abbrev Exchange (Q : Type) [Questions Q] := (question : Q) × Answer question

namespace Program

variable {Q : Type} [Questions Q] {α β : Type}

/-- **A program runs along a transcript**: the questions it asks are those of the exchanges, in their
order, and if it is given their answers it ends with the value. -/
def Yields : Program Q α → List (Exchange Q) → α → Prop
  | done value, exchanges, a => exchanges = [] ∧ a = value
  | ask question next, exchanges, a =>
      ∃ reply rest, exchanges = ⟨question, reply⟩ :: rest ∧ (next reply).Yields rest a

@[simp] theorem yields_done {value a : α} {exchanges : List (Exchange Q)} :
    (done value : Program Q α).Yields exchanges a ↔ exchanges = [] ∧ a = value := Iff.rfl

@[simp] theorem yields_ask {question : Q} {next : Answer question → Program Q α}
    {exchanges : List (Exchange Q)} {a : α} :
    (ask question next).Yields exchanges a ↔
      ∃ reply rest, exchanges = ⟨question, reply⟩ :: rest ∧ (next reply).Yields rest a := Iff.rfl

/-- A bind runs along a transcript of its first part followed by one of the rest. -/
theorem yields_bind {p : Program Q α} {f : α → Program Q β} {exchanges : List (Exchange Q)} {b : β} :
    (p.bind f).Yields exchanges b ↔
      ∃ first rest a, exchanges = first ++ rest ∧ p.Yields first a ∧ (f a).Yields rest b := by
  induction p generalizing exchanges with
  | done value =>
      constructor
      · intro h
        exact ⟨[], exchanges, value, rfl, ⟨rfl, rfl⟩, h⟩
      · rintro ⟨first, rest, a, rfl, ⟨rfl, rfl⟩, h⟩
        exact h
  | ask question next ih =>
      constructor
      · rintro ⟨reply, tail, rfl, h⟩
        obtain ⟨first, rest, a, rfl, hp, hf⟩ := (ih reply).mp h
        exact ⟨⟨question, reply⟩ :: first, rest, a, rfl, ⟨reply, first, rfl, hp⟩, hf⟩
      · rintro ⟨-, rest, a, rfl, ⟨reply, first, rfl, hp⟩, hf⟩
        exact ⟨reply, first ++ rest, rfl, (ih reply).mpr ⟨first, rest, a, rfl, hp, hf⟩⟩

/-- A program whose value is only changed in the end runs along the same transcripts. -/
theorem yields_bind_done {p : Program Q α} {f : α → β} {exchanges : List (Exchange Q)} {b : β} :
    (p.bind fun a => done (f a)).Yields exchanges b ↔ ∃ a, p.Yields exchanges a ∧ b = f a := by
  rw [yields_bind]
  constructor
  · rintro ⟨first, rest, a, rfl, run, rfl, rfl⟩
    exact ⟨a, by rwa [List.append_nil], rfl⟩
  · rintro ⟨a, run, rfl⟩
    exact ⟨exchanges, [], a, (List.append_nil _).symm, run, rfl, rfl⟩

/-- Two ways to go on are the same if they agree on whatever the first part ends with. -/
theorem bind_congr_of_yields {p : Program Q α} {f g : α → Program Q β}
    (same : ∀ exchanges a, p.Yields exchanges a → f a = g a) : p.bind f = p.bind g := by
  induction p with
  | done value => exact same [] value ⟨rfl, rfl⟩
  | ask question next ih =>
      rw [ask_bind, ask_bind]
      congr 1
      funext reply
      refine ih reply fun exchanges a run => ?_
      exact same (⟨question, reply⟩ :: exchanges) a ⟨reply, exchanges, rfl, run⟩

/-- **The transcript that arises when each question has a fixed answer**, with the value at its end. -/
def transcribe (answer : (question : Q) → Answer question) : Program Q α → List (Exchange Q) × α
  | done value => ([], value)
  | ask question next =>
      let (exchanges, value) := (next (answer question)).transcribe answer
      (⟨question, answer question⟩ :: exchanges, value)

/-- A program comes to an end however its questions are answered. -/
theorem yields_transcribe (answer : (question : Q) → Answer question) (p : Program Q α) :
    p.Yields (p.transcribe answer).1 (p.transcribe answer).2 := by
  induction p with
  | done value => exact ⟨rfl, rfl⟩
  | ask question next ih => exact ⟨answer question, _, rfl, ih (answer question)⟩

/-- With fixed answers the transcript of a bind is that of its first part, then that of the rest. -/
theorem transcribe_bind (answer : (question : Q) → Answer question) (p : Program Q α)
    (f : α → Program Q β) :
    (p.bind f).transcribe answer =
      ((p.transcribe answer).1 ++ ((f (p.transcribe answer).2).transcribe answer).1,
        ((f (p.transcribe answer).2).transcribe answer).2) := by
  induction p with
  | done value => rfl
  | ask question next ih =>
      rw [ask_bind, transcribe, ih]
      rfl

/-- **The transcript that arises when the answers depend on a state** that each question changes, with
the value at its end and the state that is left. -/
def converse {σ : Type} (answer : σ → (question : Q) → Answer question × σ) :
    Program Q α → σ → List (Exchange Q) × α × σ
  | done value, state => ([], value, state)
  | ask question next, state =>
      let (reply, state) := answer state question
      let (exchanges, value, final) := (next reply).converse answer state
      (⟨question, reply⟩ :: exchanges, value, final)

/-- A program comes to an end whatever the answers depend on. -/
theorem yields_converse {σ : Type} (answer : σ → (question : Q) → Answer question × σ)
    (p : Program Q α) (state : σ) :
    p.Yields (p.converse answer state).1 (p.converse answer state).2.1 := by
  induction p generalizing state with
  | done value => exact ⟨rfl, rfl⟩
  | ask question next ih => exact ⟨(answer state question).1, _, rfl, ih _ _⟩

/-- What holds of every answer that is given in some states holds of a whole transcript, if no
question leads out of these states. -/
theorem mem_converse {σ : Type} {answer : σ → (question : Q) → Answer question × σ}
    (keeps : σ → Prop) (holds : Exchange Q → Prop) {p : Program Q α} {state : σ}
    (given : ∀ state question, keeps state →
      holds ⟨question, (answer state question).1⟩ ∧ keeps (answer state question).2)
    (begun : keeps state) : ∀ exchange ∈ (p.converse answer state).1, holds exchange := by
  induction p generalizing state with
  | done value => exact nofun
  | ask question next ih =>
      obtain ⟨here, later⟩ := given state question begun
      intro exchange among
      rcases List.mem_cons.mp among with rfl | among
      · exact here
      · exact ih _ later exchange among

/-! ### Questions with a label -/

section OnBehalf

variable {ι : Type}

/-- A question with a label is answered like the question itself. -/
instance labelled : Questions (ι × Q) := ⟨fun question => Answer question.2⟩

/-- **A program that puts a label on each of its questions**, so that it is seen on whose behalf they
are asked. -/
def onBehalf (label : ι) (p : Program Q α) : Program (ι × Q) α :=
  p.run fun q => .ask (label, q) .done

/-- The exchange of a question that bears a label. -/
def labelExchange (label : ι) (exchange : Exchange Q) : Exchange (ι × Q) :=
  ⟨(label, exchange.1), exchange.2⟩

/-- The transcripts of a labelled program are those of the program, labelled. -/
theorem yields_onBehalf {label : ι} {p : Program Q α} {exchanges : List (Exchange (ι × Q))} {a : α} :
    (p.onBehalf label).Yields exchanges a ↔
      ∃ plain, exchanges = plain.map (labelExchange label) ∧ p.Yields plain a := by
  induction p generalizing exchanges with
  | done value =>
      constructor
      · rintro ⟨rfl, rfl⟩
        exact ⟨[], rfl, rfl, rfl⟩
      · rintro ⟨plain, rfl, rfl, rfl⟩
        exact ⟨rfl, rfl⟩
  | ask question next ih =>
      constructor
      · rintro ⟨reply, tail, rfl, h⟩
        obtain ⟨plain, rfl, hp⟩ := (ih reply).mp h
        exact ⟨⟨question, reply⟩ :: plain, rfl, reply, plain, rfl, hp⟩
      · rintro ⟨plain, rfl, reply, rest, rfl, hp⟩
        exact ⟨reply, rest.map (labelExchange label), rfl, (ih reply).mpr ⟨rest, rfl, hp⟩⟩

end OnBehalf

/-! ### Questions that are answered at once -/

section Answered

variable (known : (question : Q) → Option (Answer question))

/-- **A program some of whose questions are answered at once**, so that they are not asked. -/
def answered (p : Program Q α) : Program Q α :=
  p.run fun question =>
    match known question with
    | some reply => done reply
    | none => ask question done

@[simp] theorem answered_done (value : α) : (done value).answered known = done value := rfl

theorem answered_bind (p : Program Q α) (f : α → Program Q β) :
    (p.bind f).answered known = (p.answered known).bind fun a => (f a).answered known :=
  run_bind _ p f

theorem answered_ask_of_some {question : Q} {reply : Answer question}
    (answer : known question = some reply) (next : Answer question → Program Q α) :
    (ask question next).answered known = (next reply).answered known := by
  rw [answered, run_ask, answer]
  rfl

theorem answered_ask_of_none {question : Q} (unknown : known question = none)
    (next : Answer question → Program Q α) :
    (ask question next).answered known = ask question fun reply => (next reply).answered known := by
  rw [answered, run_ask, unknown]
  rfl

/-- **The transcripts of a program that is answered in part** are those of the program that give the
known answers, without the questions that are not asked any more. -/
theorem yields_answered {p : Program Q α} {exchanges : List (Exchange Q)} {a : α} :
    (p.answered known).Yields exchanges a ↔
      ∃ full, p.Yields full a ∧
        (∀ exchange ∈ full, ∀ reply ∈ known exchange.1, exchange.2 = reply) ∧
        exchanges = full.filter fun exchange => (known exchange.1).isNone := by
  induction p generalizing exchanges with
  | done value =>
      constructor
      · rintro ⟨rfl, rfl⟩
        exact ⟨[], ⟨rfl, rfl⟩, nofun, rfl⟩
      · rintro ⟨full, ⟨rfl, rfl⟩, -, rfl⟩
        exact ⟨rfl, rfl⟩
  | ask question next ih =>
      cases answer : known question with
      | some reply =>
          rw [answered_ask_of_some known answer, ih reply]
          constructor
          · rintro ⟨full, run, agrees, rfl⟩
            refine ⟨⟨question, reply⟩ :: full, ⟨reply, full, rfl, run⟩, ?_, by simp [answer]⟩
            intro exchange member other here
            rcases List.mem_cons.mp member with rfl | member
            · exact Option.some.inj (answer.symm.trans here)
            · exact agrees exchange member other here
          · rintro ⟨full, ⟨given, rest, rfl, run⟩, agrees, rfl⟩
            obtain rfl : given = reply := agrees _ List.mem_cons_self reply answer
            refine ⟨rest, run, fun exchange member => ?_, by simp [answer]⟩
            exact agrees exchange (List.mem_cons_of_mem _ member)
      | none =>
          rw [answered_ask_of_none known answer]
          constructor
          · rintro ⟨reply, rest, rfl, later⟩
            obtain ⟨full, run, agrees, rfl⟩ := (ih reply).mp later
            refine ⟨⟨question, reply⟩ :: full, ⟨reply, full, rfl, run⟩, ?_, by simp [answer]⟩
            intro exchange member other here
            rcases List.mem_cons.mp member with rfl | member
            · cases answer.symm.trans here
            · exact agrees exchange member other here
          · rintro ⟨full, ⟨reply, rest, rfl, run⟩, agrees, rfl⟩
            refine ⟨reply, rest.filter fun exchange => (known exchange.1).isNone,
              by simp [answer], (ih reply).mpr ⟨rest, run, fun exchange member => ?_, rfl⟩⟩
            exact agrees exchange (List.mem_cons_of_mem _ member)

/-- **A program all of whose questions satisfy a condition**, on every path. -/
def AsksOnly (allowed : Q → Prop) : Program Q α → Prop
  | done _ => True
  | ask question next => allowed question ∧ ∀ reply, (next reply).AsksOnly allowed

theorem AsksOnly.bind {allowed : Q → Prop} {p : Program Q α} {f : α → Program Q β}
    (first : p.AsksOnly allowed) (rest : ∀ a, (f a).AsksOnly allowed) :
    (p.bind f).AsksOnly allowed := by
  induction p with
  | done value => exact rest value
  | ask question next ih => exact ⟨first.1, fun reply => ih reply (first.2 reply)⟩

theorem AsksOnly.mono {allowed allowed' : Q → Prop} {p : Program Q α} (only : p.AsksOnly allowed)
    (weaker : ∀ question, allowed question → allowed' question) : p.AsksOnly allowed' := by
  induction p with
  | done value => trivial
  | ask question next ih => exact ⟨weaker question only.1, fun reply => ih reply (only.2 reply)⟩

/-- What a program asks on a run satisfies the condition. -/
theorem AsksOnly.of_mem {allowed : Q → Prop} {p : Program Q α} {exchanges : List (Exchange Q)} {a : α}
    (only : p.AsksOnly allowed) (run : p.Yields exchanges a) :
    ∀ exchange ∈ exchanges, allowed exchange.1 := by
  induction p generalizing exchanges with
  | done value =>
      obtain ⟨rfl, -⟩ := run
      exact nofun
  | ask question next ih =>
      obtain ⟨reply, rest, rfl, run⟩ := run
      intro exchange among
      rcases List.mem_cons.mp among with rfl | among
      · exact only.1
      · exact ih reply (only.2 reply) run exchange among

/-- A program all of whose runs satisfy the condition asks nothing else: if every question has some
answer, each path of the program is part of a run. -/
theorem AsksOnly.of_yields (answer : (question : Q) → Answer question) {allowed : Q → Prop}
    {p : Program Q α}
    (runs : ∀ exchanges a, p.Yields exchanges a → ∀ exchange ∈ exchanges, allowed exchange.1) :
    p.AsksOnly allowed := by
  induction p with
  | done value => trivial
  | ask question next ih =>
      refine ⟨?_, fun reply => ih reply fun exchanges a run exchange among => ?_⟩
      · exact runs _ _ ((ask question next).yields_transcribe answer) _ List.mem_cons_self
      · exact runs _ _ ⟨reply, exchanges, rfl, run⟩ exchange (List.mem_cons_of_mem _ among)

/-- A program that asks nothing whose answer is known is left as it is. -/
theorem answered_of_asksOnly {p : Program Q α} (unknown : p.AsksOnly fun q => known q = none) :
    p.answered known = p := by
  induction p with
  | done value => rfl
  | ask question next ih =>
      rw [answered_ask_of_none known unknown.1]
      congr 1
      funext reply
      exact ih reply (unknown.2 reply)

end Answered

end Program

end Scanout
