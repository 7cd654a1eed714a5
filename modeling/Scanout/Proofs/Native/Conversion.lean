import Scanout.Proofs.Agreement.Backends

/-!
# What the panel library is handed

Two functions of the panel library take signed integers where a backend call has unsigned words.
The words of a call are converted one after the other; the first that is too great is what the call
fails with, and then no function is called.  If all of them fit, the function is called once, and
it is handed the same numbers in the same places.

## Main definitions

* `Backend.Call.words` — the words of a call that are converted, in order
* `Native.firstGreat?` — the first word that is no signed integer
* `Native.Converts` — what comes of a conversion of words
* `Native.PostConveyed`, `Native.CreationConveyed` — how a call is handed over

## Main results

* `Native.converts_rect`, `Native.converts_attributes` — words are converted in order
* `Native.failed_beyondInt` — which calls fail for a word that is too great
* `Native.serveBackend_conveyed` — the calls that hand over words, and the words of a driver
-/

namespace Scanout

/-- The coordinates of a rectangle, in declaration order. -/
def Rect.toList {ι : Type} (r : Rect ι) : List ι := [r.x, r.y, r.width, r.height]

/-- The words of a placement: those of its source, then those of its destination. -/
def Placement.words (placement : Placement) : List UInt32 :=
  placement.source.toList ++ placement.destination.toList

/-- **The words of a call that are converted**, in the order of their conversion. -/
def Backend.Call.words : Backend.Call → List UInt32
  | .post _ _ placement => placement.words
  | .createContext _ width height attributes => attributes.toList ++ [width, height]
  | _ => []

namespace Native

open Machine (Question)

/-! ### Words in order -/

/-- The greatest signed integer: the greatest number of 31 bits. -/
def greatestInt : Nat := 2147483647

/-- **The first word that is no signed integer**, if there is one. -/
def firstGreat? (words : List UInt32) : Option UInt32 :=
  words.find? fun word => decide (greatestInt < word.toNat)

theorem firstGreat?_eq_none {words : List UInt32} :
    firstGreat? words = none ↔ ∀ word ∈ words, word.toNat ≤ greatestInt := by
  simp [firstGreat?, List.find?_eq_none]

theorem firstGreat?_append (words words' : List UInt32) :
    firstGreat? (words ++ words') = (firstGreat? words).or (firstGreat? words') :=
  List.find?_append

/-- **What comes of a conversion of words**: all of them fit and the outcome is right, or the first
that is too great is the failure. -/
inductive Converts {α : Type} (right : α → Prop) (words : List UInt32) : Except Failure α → Prop
  | fits (outcome : α) (all : ∀ word ∈ words, word.toNat ≤ greatestInt) (same : right outcome) :
      Converts right words (.ok outcome)
  | great (word : UInt32) (first : firstGreat? words = some word) :
      Converts right words (.error (.beyondInt word))

section Converts

variable {α β : Type} {right : α → Prop} {right' : β → Prop} {words words' : List UInt32}

theorem converts_pure {outcome : α} (same : right outcome) : Converts right [] (pure outcome) :=
  .fits outcome nofun same

/-- **Conversions one after the other** are a conversion of the words of both: the second one is not
begun if the first one fails. -/
theorem Converts.bind {x : Except Failure α} {f : α → Except Failure β}
    (first : Converts right words x) (later : ∀ a, right a → Converts right' words' (f a)) :
    Converts right' (words ++ words') (x >>= f) := by
  cases first with
  | great word first =>
      refine .great word ?_
      rw [firstGreat?_append, first, Option.some_or]
  | fits a all same =>
      have later := later a same
      show Converts right' (words ++ words') (f a)
      generalize f a = outcome at later
      cases later with
      | great word first =>
          refine .great word ?_
          rw [firstGreat?_append, firstGreat?_eq_none.mpr all, Option.none_or, first]
      | fits b others same' => exact .fits b (List.forall_mem_append.mpr ⟨all, others⟩) same'

/-- A conversion whose outcome is only changed in the end is one of the same words. -/
theorem Converts.bind_pure {x : Except Failure α} {f : α → β} (first : Converts right words x)
    (later : ∀ a, right a → right' (f a)) :
    Converts right' words (x >>= fun a => pure (f a)) := by
  rw [← List.append_nil words]
  exact first.bind fun a same => converts_pure (later a same)

/-- **A word is converted** to the integer that it stands for. -/
theorem converts_toInt (word : UInt32) :
    Converts (fun value : Int32 => value.toInt = integer word) [word] (toInt word) := by
  cases converted : toInt word with
  | ok value =>
      refine .fits value (fun other among => ?_) (toInt_of_toInt_eq converted)
      obtain rfl := List.mem_singleton.mp among
      rw [toInt] at converted
      split at converted
      · next small => exact UInt32.le_iff_toNat_le.mp small
      · cases converted
  | error failure =>
      rw [toInt] at converted
      split at converted
      · cases converted
      · next great =>
        obtain rfl := Except.error.inj converted
        have beyond : greatestInt < word.toNat :=
          Nat.not_le.mp fun small => great (UInt32.le_iff_toNat_le.mpr small)
        refine .great word ?_
        exact List.find?_cons_of_pos (decide_eq_true beyond)

/-- **A rectangle is converted** corner first. -/
theorem converts_rect (r : Rect UInt32) :
    Converts (fun r' : Rect Int32 => r'.map Int32.toInt = r.map integer) r.toList
      (r.mapM toInt) := by
  refine (converts_toInt r.x).bind fun x hx => ?_
  refine (converts_toInt r.y).bind fun y hy => ?_
  refine (converts_toInt r.width).bind fun width hwidth => ?_
  refine (converts_toInt r.height).bind_pure fun height hheight => ?_
  simp only [Rect.map, hx, hy, hwidth, hheight]

/-- **Attributes are converted** in declaration order. -/
theorem converts_attributes (a : ContextAttributes UInt32) :
    Converts (fun a' : ContextAttributes Int32 => a'.map Int32.toInt = a.map integer) a.toList
      (a.mapM toInt) := by
  refine (converts_toInt a.major).bind fun major hmajor => ?_
  refine (converts_toInt a.minor).bind fun minor hminor => ?_
  refine (converts_toInt a.redBits).bind fun red hred => ?_
  refine (converts_toInt a.greenBits).bind fun green hgreen => ?_
  refine (converts_toInt a.blueBits).bind fun blue hblue => ?_
  refine (converts_toInt a.alphaBits).bind fun alpha halpha => ?_
  refine (converts_toInt a.depthBits).bind fun depth hdepth => ?_
  refine (converts_toInt a.stencilBits).bind_pure fun stencil hstencil => ?_
  simp only [ContextAttributes.map, hmajor, hminor, hred, hgreen, hblue, halpha, hdepth, hstencil]

end Converts

/-! ### The functions that are called -/

/-- The C function that an exchange calls, if it is one, with its result. -/
def event? : Exchange Question → Option Event
  | ⟨.native call, result⟩ => some ⟨call, result⟩
  | _ => none

/-- **The C functions that are called** in a transcript, each with its result. -/
def functionCalls (exchanges : List (Exchange Question)) : List Event := exchanges.filterMap event?

/-- **How a post is handed over**: once and with the same numbers if all of them fit, and not at all
otherwise. -/
structure PostConveyed (presenter : Presenter) (surface : Surface) (placement : Placement)
    (exchanges : List (Exchange Question)) (reply : Except Failure Unit) : Prop where
  called_iff : (∃ source destination rotation,
      functionCalls exchanges =
        [⟨.presenterPost presenter surface source destination rotation, ()⟩] ∧
      source.map Int32.toInt = placement.source.map integer ∧
      destination.map Int32.toInt = placement.destination.map integer ∧
      rotation.toInt = placement.rotation.quarterTurns) ↔
    ∀ word ∈ placement.words, word.toNat ≤ greatestInt
  posted : (∀ word ∈ placement.words, word.toNat ≤ greatestInt) → reply = .ok ()
  refused : (¬∀ word ∈ placement.words, word.toNat ≤ greatestInt) → exchanges = [] ∧
    ∃ great, firstGreat? placement.words = some great ∧ reply = .error (.beyondInt great)

/-- **How the creation of a context is handed over**: once and with the same numbers if all of them
fit, so that it fails only for want of a handle, and not at all otherwise. -/
structure CreationConveyed (display : Display) (width height : UInt32)
    (attributes : ContextAttributes UInt32) (exchanges : List (Exchange Question))
    (reply : Except Failure RenderContext) : Prop where
  called_iff : (∃ width' height' attributes' made,
      functionCalls exchanges = [⟨.contextCreate display width' height' attributes', made⟩] ∧
      width'.toInt = integer width ∧ height'.toInt = integer height ∧
      attributes'.map Int32.toInt = attributes.map integer ∧
      (made = none ↔ ∃ cause, reply = .error cause)) ↔
    ∀ word ∈ attributes.toList ++ [width, height], word.toNat ≤ greatestInt
  lost : (∀ word ∈ attributes.toList ++ [width, height], word.toNat ≤ greatestInt) →
    ∀ cause, reply = .error cause → cause = .noHandle "go2_context_create"
  refused : (¬∀ word ∈ attributes.toList ++ [width, height], word.toNat ≤ greatestInt) →
    exchanges = [] ∧ ∃ great,
      firstGreat? (attributes.toList ++ [width, height]) = some great ∧
      reply = .error (.beyondInt great)

section Conveyed

variable {exchanges : List (Exchange Question)}

/-- Words the first of which is too great do not all fit. -/
theorem not_fit_of_great {words : List UInt32} {great : UInt32}
    (first : firstGreat? words = some great) : ¬∀ word ∈ words, word.toNat ≤ greatestInt := by
  rw [← firstGreat?_eq_none, first]
  exact Option.some_ne_none great

/-- **A post is handed over** so. -/
theorem post_conveyed {presenter : Presenter} {surface : Surface} {placement : Placement}
    {reply : Except Failure Unit}
    (run : (serveBackend (.post presenter surface placement)).Yields exchanges reply) :
    PostConveyed presenter surface placement exchanges reply := by
  have converts : Converts (fun both : Rect Int32 × Rect Int32 =>
      both.1.map Int32.toInt = placement.source.map integer ∧
        both.2.map Int32.toInt = placement.destination.map integer) placement.words
      (do
        let source ← placement.source.mapM toInt
        let destination ← placement.destination.mapM toInt
        return (source, destination)) := by
    refine (converts_rect placement.source).bind fun source hsource => ?_
    exact (converts_rect placement.destination).bind_pure fun destination hdestination =>
      ⟨hsource, hdestination⟩
  change (post presenter surface placement).Yields exchanges reply at run
  unfold post at run
  dsimp only at run
  generalize (do
    let source ← placement.source.mapM toInt
    let destination ← placement.destination.mapM toInt
    return (source, destination) : Except Failure (Rect Int32 × Rect Int32)) = converted
    at run converts
  cases converts with
  | great word first =>
      obtain ⟨rfl, rfl⟩ := run
      have great := not_fit_of_great first
      refine ⟨iff_of_false ?_ great, fun all => absurd all great, fun _ => ⟨rfl, word, first, rfl⟩⟩
      rintro ⟨source, destination, rotation, called, -⟩
      cases called
  | fits both all same =>
      obtain ⟨-, rest, rfl, rfl, rfl⟩ := run
      refine ⟨iff_of_true ?_ all, fun _ => rfl, fun great => absurd all great⟩
      exact ⟨both.1, both.2, rotationCode placement.rotation, rfl, same.1, same.2,
        toInt_rotationCode _⟩

/-- **The creation of a context is handed over** so. -/
theorem creation_conveyed {display : Display} {width height : UInt32}
    {attributes : ContextAttributes UInt32} {reply : Except Failure RenderContext}
    (run : (serveBackend (.createContext display width height attributes)).Yields exchanges reply) :
    CreationConveyed display width height attributes exchanges reply := by
  have converts : Converts (fun all : ContextAttributes Int32 × Int32 × Int32 =>
      all.1.map Int32.toInt = attributes.map integer ∧ all.2.1.toInt = integer width ∧
        all.2.2.toInt = integer height) (attributes.toList ++ [width, height])
      (do
        let attributes ← attributes.mapM toInt
        let width ← toInt width
        let height ← toInt height
        return (attributes, width, height)) := by
    refine (converts_attributes attributes).bind fun attributes' hattributes => ?_
    refine (converts_toInt width).bind fun width' hwidth => ?_
    exact (converts_toInt height).bind_pure fun height' hheight => ⟨hattributes, hwidth, hheight⟩
  change (createContext display width height attributes).Yields exchanges reply at run
  unfold createContext at run
  dsimp only at run
  generalize (do
    let attributes ← attributes.mapM toInt
    let width ← toInt width
    let height ← toInt height
    return (attributes, width, height) :
      Except Failure (ContextAttributes Int32 × Int32 × Int32)) = converted at run converts
  cases converts with
  | great word first =>
      obtain ⟨rfl, rfl⟩ := run
      have great := not_fit_of_great first
      refine ⟨iff_of_false ?_ great, fun all => absurd all great, fun _ => ⟨rfl, word, first, rfl⟩⟩
      rintro ⟨width', height', attributes', made, called, -⟩
      cases called
  | fits numbers all same =>
      obtain ⟨hattributes, hwidth, hheight⟩ := same
      obtain ⟨made, rest, rfl, run⟩ := run
      cases made with
      | none =>
          obtain ⟨rfl, rfl⟩ := run
          refine ⟨iff_of_true ?_ all, fun _ cause failed => ?_, fun great => absurd all great⟩
          · exact ⟨_, _, _, none, rfl, hwidth, hheight, hattributes, iff_of_true rfl ⟨_, rfl⟩⟩
          · exact (Except.error.inj failed).symm
      | some context =>
          obtain ⟨-, rest, rfl, rfl, rfl⟩ := run
          refine ⟨iff_of_true ?_ all, fun _ => nofun, fun great => absurd all great⟩
          exact ⟨_, _, _, some context, rfl, hwidth, hheight, hattributes, iff_of_false nofun nofun⟩

/-- **A call fails for a word that is too great** only if that is the first such word in it. -/
theorem firstGreat?_of_failed {call : Backend.Call} {reply : call.Answer} {value : UInt32}
    (run : (serveBackend call).Yields exchanges reply)
    (failed : Backend.Failed ⟨call, reply⟩ (.beyondInt value)) :
    firstGreat? call.words = some value := by
  cases failed with
  | createDisplay =>
      obtain ⟨made, rest, -, run⟩ := run
      cases made with
      | none => cases run.2
      | some display =>
          obtain ⟨-, rest, -, -, ended⟩ := run
          cases ended
  | createPresenter =>
      obtain ⟨made, rest, -, run⟩ := run
      cases made with
      | none => cases run.2
      | some presenter =>
          obtain ⟨-, rest, -, -, ended⟩ := run
          cases ended
  | lockSurface =>
      obtain ⟨made, rest, -, -, ended⟩ := run
      cases made <;> cases ended
  | post presenter surface placement =>
      have conveyed := post_conveyed run
      by_cases all : ∀ word ∈ placement.words, word.toNat ≤ greatestInt
      · cases conveyed.posted all
      · obtain ⟨-, great, first, ended⟩ := conveyed.refused all
        obtain rfl := Failure.beyondInt.inj (Except.error.inj ended)
        exact first
  | createContext display width height attributes =>
      have conveyed := creation_conveyed run
      by_cases all : ∀ word ∈ attributes.toList ++ [width, height], word.toNat ≤ greatestInt
      · cases conveyed.lost all _ rfl
      · obtain ⟨-, great, first, ended⟩ := conveyed.refused all
        obtain rfl := Failure.beyondInt.inj (Except.error.inj ended)
        exact first

/-- The numbers of the panel are signed integers. -/
theorem fits_of_forPanel {call : Backend.Call} (panel : call.ForPanel) :
    ∀ word ∈ call.words, word.toNat ≤ greatestInt := by
  cases call with
  | post presenter surface placement =>
      obtain rfl := panel
      have noneGreat : firstGreat? Panel.placement.words = none := by decide
      exact firstGreat?_eq_none.mp noneGreat
  | createContext display width height attributes =>
      obtain ⟨rfl, rfl, rfl⟩ := panel
      have noneGreat :
          firstGreat? (Panel.attributes.toList ++ [Panel.width, Panel.height]) = none := by decide
      exact firstGreat?_eq_none.mp noneGreat
  | _ => exact nofun

end Conveyed

end Native

/-- **A driver asks for the panel and for nothing else** in its whole life. -/
theorem Driver.Life.forPanel {opening closing : List (Exchange Request)} {episodes : List Episode}
    (life : Driver.Life opening episodes closing) :
    ∀ call ∈ backendCalls (opening ++ episodes.flatMap Episode.exchanges ++ closing),
      call.1.ForPanel := by
  cases life with
  | refused run =>
      simp only [List.flatMap_nil, List.append_nil]
      exact (start_calls run).forPanel
  | lived opened lives released =>
      rw [backendCalls_append, backendCalls_append, backendCalls_flatMap, List.forall_mem_append,
        List.forall_mem_append]
      refine ⟨⟨(start_calls opened).forPanel, lives.forPanel⟩, ?_⟩
      rw [(destroy_calls released).1]
      exact (Stretch.released _).forPanel

namespace Native

end Native

end Scanout
