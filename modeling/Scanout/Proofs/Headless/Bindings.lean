import Scanout.Headless.Egl
import Scanout.Proofs.Egl.Layer

/-!
# What a headless EGL layer remembers

A driver records the API that it was asked to bind last, whatever came of it; a headless EGL layer
remembers the one that it bound last.  The two come apart with every binding that fails.  A symbol is
found if the driver has recorded an API of EGL and the layer has bound any; what is said about hardware
rendering reaches the layer while the driver has recorded an API of EGL.

## Main definitions

* `Operation.attempted` — the API that a history asked to bind last
* `Operation.inTurn` — the operations of a history, each with what was asked for before it
* `Episode.bound?` — the API that an episode has bound
* `Headless.Moved` — what a stretch of a history does to a headless layer
* `Driver.LayerRemembers` — a headless layer after a history

## Main results

* `Driver.Course.moved` — one operation
* `Driver.lives_layerRemembers` — a whole history
-/

namespace Scanout

/-- What the last element says is what the others say, or else the first one. -/
theorem getLast?_filterMap_cons {α β : Type} (f : α → Option β) (a : α) (l : List α) :
    ((a :: l).filterMap f).getLast? = (l.filterMap f).getLast?.or (f a) := by
  rw [List.getLast?_filterMap, List.getLast?_filterMap, List.reverse_cons, List.findSome?_append,
    List.findSome?_singleton]

/-! ### What a history says -/

namespace Operation

/-- The API that an operation asks to bind. -/
def api? (op : Operation) : Option GraphicsApi := op.binding?.map Prod.fst

/-- **The API that a history asked to bind last**, whatever came of it. -/
def attempted (initial : GraphicsApi) (ops : List Operation) : GraphicsApi :=
  latest api? initial ops

/-- **The operations of a history**, each with the API that was asked for last before it. -/
def inTurn (initial : GraphicsApi) (ops : List Operation) : List (GraphicsApi × Operation) :=
  ops.mapIdx fun i op => (attempted initial (ops.take i), op)

/-- **What an operation says about hardware rendering** at a moment when an API of EGL was asked for
last. -/
def announces? : GraphicsApi × Operation → Option Bool
  | (api, .bindHwRender enable) => if api.client?.isSome then some enable else none
  | _ => none

theorem attempted_cons (initial : GraphicsApi) (op : Operation) (ops : List Operation) :
    attempted initial (op :: ops) = attempted (op.api?.getD initial) ops :=
  latest_cons api? initial op ops

theorem inTurn_cons (initial : GraphicsApi) (op : Operation) (ops : List Operation) :
    inTurn initial (op :: ops) = (initial, op) :: inTurn (op.api?.getD initial) ops := by
  simp only [inTurn, List.mapIdx_cons, List.take_succ_cons, attempted_cons, List.take_zero]
  rfl

end Operation

/-- **The API that an episode has bound**, if it is a binding that succeeded. -/
def Episode.bound? (episode : Episode) : Option GraphicsApi :=
  if episode.reply = .truth true then episode.op.api? else none

/-- An episode that is no binding has bound nothing. -/
theorem Episode.bound?_of_not_binding {episode : Episode} (other : episode.op.api? = none) :
    episode.bound? = none := by
  rw [bound?, other, ite_self]

/-- An episode has bound an API just if it is a binding that succeeded. -/
theorem Episode.isSome_bound? (episode : Episode) : episode.bound?.isSome = true ↔
    (∃ api version, episode.op = .bindApi api version) ∧ episode.reply = .truth true := by
  rcases episode with ⟨op, reply, exchanges⟩
  by_cases succeeded : reply = .truth true
  · cases op <;> simp [bound?, Operation.api?, Operation.binding?, succeeded]
  · simp [bound?, succeeded]

/-! ### What a history does to the layer -/

namespace Headless

/-- A headless EGL layer answers the calls of a driver. -/
def layer : Egl.Layer Headless.Egl := Headless.Egl.serve

/-- **What a stretch of a history does to a headless layer**, if it has bound an API and has said
something about hardware rendering, or not. -/
structure Moved (bound? : Option GraphicsApi) (told? : Option Bool) (e e' : Egl) : Prop where
  supported : e'.supported = e.supported
  createContext : e'.createContext = e.createContext
  bound : e'.bound.map ClientApi.graphics = bound?.or (e.bound.map ClientApi.graphics)
  provided : (∀ client ∈ e.bound, client ∈ e.supported) →
    ∀ client ∈ e'.bound, client ∈ e'.supported
  hwRender : e'.hwRender = told?.or e.hwRender

theorem Moved.refl (e : Egl) : Moved none none e e := ⟨rfl, rfl, rfl, id, rfl⟩

theorem Moved.trans {bound? bound?' : Option GraphicsApi} {told? told?' : Option Bool}
    {e e' e'' : Egl} (first : Moved bound? told? e e') (later : Moved bound?' told?' e' e'') :
    Moved (bound?'.or bound?) (told?'.or told?) e e'' where
  supported := later.supported.trans first.supported
  createContext := later.createContext.trans first.createContext
  bound := by rw [later.bound, first.bound, Option.or_assoc]
  provided begun := later.provided (first.provided begun)
  hwRender := by rw [later.hwRender, first.hwRender, Option.or_assoc]

/-- A stretch that binds nothing and says nothing leaves the layer as it is. -/
theorem Moved.eq_of_none {e e' : Egl} (moved : Moved none none e e') : e' = e := by
  have bound : e'.bound = e.bound :=
    Option.map_injective (fun _ _ => ClientApi.eq_of_graphics_eq) moved.bound
  have hwRender : e'.hwRender = e.hwRender := moved.hwRender
  rcases e with ⟨supported, createContext, bound', told⟩
  rcases e' with ⟨supported', createContext', bound'', told'⟩
  obtain rfl : supported' = supported := moved.supported
  obtain rfl : createContext' = createContext := moved.createContext
  obtain rfl : bound'' = bound' := bound
  obtain rfl : told' = told := hwRender
  rfl

/-- **A binding that the layer is asked for** moves it just if it succeeds. -/
theorem moved_bindApi (e : Egl) (client : ClientApi) :
    Moved (if (layer e (.bindApi client)).1 then some client.graphics else none) none e
      (layer e (.bindApi client)).2 := by
  by_cases provided : e.supported.contains client
  · have bound : layer e (.bindApi client) = (true, { e with bound := some client }) :=
      if_pos provided
    rw [bound]
    refine ⟨rfl, rfl, rfl, fun _ other among => ?_, rfl⟩
    obtain rfl := Option.some.inj among
    exact List.contains_iff_mem.mp provided
  · have refused : layer e (.bindApi client) = (false, e) := if_neg provided
    rw [refused]
    exact .refl e

end Headless

namespace Driver

open Headless (layer Moved)
open Operation

section Course

variable {d d' : Driver} {op : Operation} {reply : Reply} {exchanges : List (Exchange Request)}
  {e e' : Headless.Egl}

/-- The API that is recorded is the last one that was asked for. -/
theorem Course.api_eq (course : Course d op exchanges reply d') :
    d'.api = op.api?.getD d.api := by
  have recorded : d'.api = (op.binding?.getD (d.api, d.version)).1 :=
    congrArg Prod.fst course.binding_eq
  rw [recorded, api?, ← Option.getD_map Prod.fst]

/-- **One operation** moves the layer if it is a binding that succeeds, or if it is about hardware
rendering and an API of EGL is recorded. -/
theorem Course.moved (course : Course d op exchanges reply d')
    (serves : layer.Serves e (eglCalls exchanges) e') :
    Moved (Episode.bound? ⟨op, reply, exchanges⟩) (announces? (d.api, op)) e e' := by
  cases course with
  | unprovided api version client known =>
      obtain ⟨-, rfl⟩ := serves
      exact .refl _
  | extensionMissing api version client known needed =>
      obtain ⟨-, -, rfl⟩ := serves
      exact .refl _
  | bindingTried api version client creates bound known =>
      obtain ⟨-, -, accepted, rfl⟩ := serves
      have accepted : bound = (layer e (.bindApi client)).1 := accepted
      have moved := Headless.moved_bindApi e client
      rw [← accepted, GraphicsApi.client?_eq_some.mp known] at moved
      cases bound with
      | true => exact moved
      | false => exact moved
  | symbolSought symbol found bound =>
      obtain ⟨-, rfl⟩ := serves
      rw [Episode.bound?_of_not_binding rfl]
      exact .refl _
  | renderTold enable bound =>
      obtain ⟨-, rfl⟩ := serves
      have told : announces? (d.api, .bindHwRender enable) = some enable := if_pos bound
      rw [told]
      exact ⟨rfl, rfl, rfl, id, rfl⟩
  | renderUnbound enable unbound =>
      obtain rfl := serves
      have untold : announces? (d.api, .bindHwRender enable) = none :=
        if_neg (Bool.eq_false_iff.mp unbound)
      rw [untold]
      exact .refl _
  | released pipeline held =>
      rcases pipeline with ⟨display, presenter, _ | context⟩
      · obtain rfl := serves
        exact .refl _
      · obtain rfl := serves
        exact .refl _
  | _ =>
      obtain rfl := serves
      exact .refl _

/-- **A symbol is found** if an API of EGL is recorded, the layer has bound any, and the name of the
symbol begins as those of its functions do; asking for it leaves the layer as it is. -/
theorem Course.found_iff {symbol : String}
    (course : Course d (.getProcAddress symbol) exchanges reply d')
    (serves : layer.Serves e (eglCalls exchanges) e') :
    ∃ found, reply = .truth found ∧ (found = true ↔
      d.api.client?.isSome = true ∧ e.bound.isSome = true ∧ "gl".toList <+: symbol.toList) := by
  cases course with
  | symbolUnbound symbol unbound =>
      refine ⟨false, rfl, ?_⟩
      have unrecorded : d.api.client?.isSome = false := unbound
      simp [unrecorded]
  | symbolSought symbol found bound =>
      obtain ⟨given, -⟩ := serves
      refine ⟨found, rfl, ?_⟩
      have recorded : d.api.client?.isSome = true := bound
      have given : found = (e.bound.isSome && Headless.Egl.symbolStart.isPrefixOf symbol.toList) :=
        given
      rw [given, Bool.and_eq_true, List.isPrefixOf_iff_prefix, and_iff_right recorded]
      rfl

end Course

/-! ### A whole history -/

section Lives

variable {d d' : Driver} {episodes : List Episode} {e e' : Headless.Egl}

theorem Lives.api_eq (lives : Lives d episodes d') :
    d'.api = attempted d.api (episodes.map Episode.op) := by
  induction lives with
  | idle d => rfl
  | step run lives ih => rw [ih, (perform_course run).api_eq, List.map_cons, attempted_cons]

/-- **A history** moves the layer to the API that was bound last and to what was said last. -/
theorem Lives.moved (lives : Lives d episodes d')
    (serves : layer.Serves e (episodes.flatMap Episode.eglCalls) e') :
    Moved (episodes.filterMap Episode.bound?).getLast?
      ((inTurn d.api (episodes.map Episode.op)).filterMap announces?).getLast? e e' := by
  induction lives generalizing e with
  | idle d =>
      obtain rfl := serves
      exact .refl _
  | @step d₁ d₂ d₃ op reply exchanges later run lives ih =>
      obtain ⟨middle, first, served⟩ := Egl.Layer.serves_append.mp serves
      have course := perform_course run
      have moved := (course.moved first).trans (ih served)
      rw [course.api_eq] at moved
      rw [List.map_cons, inTurn_cons, getLast?_filterMap_cons, getLast?_filterMap_cons]
      exact moved

end Lives

/-- **What a headless layer remembers** after a history, if it began with the given capabilities. -/
structure LayerRemembers (supported : List ClientApi) (createContext : Bool)
    (opening : List (Exchange Request)) (episodes : List Episode) (e : Headless.Egl) : Prop where
  /-- Its capabilities are those it began with. -/
  capable : e.supported = supported ∧ e.createContext = createContext
  /-- What is bound is the API of the last binding that succeeded. -/
  bound : e.bound.map ClientApi.graphics = (episodes.filterMap Episode.bound?).getLast?
  /-- Only what the layer provides is bound. -/
  provided : ∀ client ∈ e.bound, client ∈ supported
  /-- A binding that fails leaves the layer as it is. -/
  unmoved : ∀ before api version reply exchanges after,
    episodes = before ++ ⟨.bindApi api version, reply, exchanges⟩ :: after → reply ≠ .truth true →
    ∃ middle,
      layer.Serves (.fresh supported createContext)
        (eglCalls opening ++ before.flatMap Episode.eglCalls) middle ∧
      layer.Serves middle (eglCalls exchanges) middle ∧
      layer.Serves middle (after.flatMap Episode.eglCalls) e
  /-- A symbol is found just if its name begins right, some binding succeeded before, and the last one
  that was tried was for an API of EGL. -/
  found : ∀ before symbol reply exchanges after,
    episodes = before ++ ⟨.getProcAddress symbol, reply, exchanges⟩ :: after →
    ∃ found, reply = .truth found ∧ (found = true ↔
      (attempted .none (before.map Episode.op)).client?.isSome = true ∧
      (∃ earlier ∈ before, (∃ api version, earlier.op = .bindApi api version) ∧
        earlier.reply = .truth true) ∧
      "gl".toList <+: symbol.toList)
  /-- What it was told about hardware rendering is what was said last while an API of EGL was the last
  one to be tried. -/
  told : e.hwRender =
    ((inTurn .none (episodes.map Episode.op)).filterMap announces?).getLast?

/-- Opening a driver asks nothing of the EGL layer. -/
theorem start_eglCalls {opening : List (Exchange Request)} {outcome : Except Failure Driver}
    (run : start.Yields opening outcome) : eglCalls opening = [] := by
  obtain ⟨display, rest, rfl, run⟩ := run
  rcases display with cause | display
  · obtain ⟨rfl, -⟩ := run
    rfl
  · obtain ⟨presenter, rest, rfl, run⟩ := run
    rcases presenter with cause | presenter
    · obtain ⟨-, rest, rfl, rfl, -⟩ := run
      rfl
    · obtain ⟨-, rest, rfl, rfl, -⟩ := run
      rfl

/-- **What a headless EGL layer remembers is told by the history** of the driver over it, whatever
answers the other requests. -/
theorem lives_layerRemembers {supported : List ClientApi} {createContext : Bool}
    {opening : List (Exchange Request)} {episodes : List Episode} {d₁ d₂ : Driver}
    {e : Headless.Egl} (opened : start.Yields opening (.ok d₁)) (lives : Lives d₁ episodes d₂)
    (serves : layer.Serves (.fresh supported createContext)
      (eglCalls opening ++ episodes.flatMap Episode.eglCalls) e) :
    LayerRemembers supported createContext opening episodes e := by
  have silent := start_eglCalls opened
  obtain ⟨⟨display, presenter, rfl⟩, -⟩ := start_opened opened
  rw [silent, List.nil_append] at serves
  have moved := lives.moved serves
  refine
    { capable := ⟨moved.supported, moved.createContext⟩,
      bound := moved.bound.trans Option.or_none, provided := ?provided, unmoved := ?unmoved,
      found := ?found, told := moved.hwRender.trans Option.or_none }
  case provided =>
    intro client among
    rw [← show e.supported = supported from moved.supported]
    exact moved.provided nofun client among
  case unmoved =>
    rintro before api version reply exchanges after rfl failed
    obtain ⟨middle, earlier, later⟩ := lives.split
    rw [List.flatMap_append, List.flatMap_cons] at serves
    obtain ⟨e₁, before', serves⟩ := Egl.Layer.serves_append.mp serves
    obtain ⟨e₂, asked, after'⟩ := Egl.Layer.serves_append.mp serves
    cases later with
    | step run _ =>
        have moved := (perform_course run).moved asked
        have unbound : Episode.bound? ⟨.bindApi api version, reply, exchanges⟩ = none :=
          if_neg failed
        rw [unbound] at moved
        obtain rfl := moved.eq_of_none
        rw [silent, List.nil_append]
        exact ⟨e₂, before', asked, after'⟩
  case found =>
    rintro before symbol reply exchanges after rfl
    obtain ⟨middle, earlier, later⟩ := lives.split
    rw [List.flatMap_append, List.flatMap_cons] at serves
    obtain ⟨e₁, before', serves⟩ := Egl.Layer.serves_append.mp serves
    obtain ⟨e₂, asked, -⟩ := Egl.Layer.serves_append.mp serves
    have bound : e₁.bound.map ClientApi.graphics = (before.filterMap Episode.bound?).getLast? :=
      (earlier.moved before').bound.trans Option.or_none
    have some_bound : e₁.bound.isSome = true ↔
        ∃ earlier ∈ before, (∃ api version, earlier.op = .bindApi api version) ∧
          earlier.reply = .truth true := by
      rw [← Option.isSome_map, bound, List.getLast?_filterMap, List.findSome?_isSome_iff]
      simp only [List.mem_reverse, Episode.isSome_bound?]
    cases later with
    | step run _ =>
        obtain ⟨found, replied, found_iff⟩ := (perform_course run).found_iff asked
        rw [earlier.api_eq, some_bound] at found_iff
        exact ⟨found, replied, found_iff⟩

/-- Bindings that succeed and fail by turns, the last one for an API that is not of EGL: the layer keeps
what was bound first and what it was told second, and the symbol that was found before is found no
longer. -/
theorem unbound_layerRemembers :
    let asked := [.bindApi .openGlEs ⟨2, 0⟩, .bindHwRender true, .bindApi .openGlEs ⟨3, 0⟩,
      .bindApi .openGl ⟨2, 1⟩, .getProcAddress "glClear", .bindHwRender false,
      .bindApi .vulkan ⟨1, 3⟩, .getProcAddress "glClear", .bindHwRender true]
    let run := ((opened ⟨7⟩ ⟨7⟩).performAll asked).converse (layer.answering (unposting 7))
      (.fresh [.openGlEs] false)
    run.2.2 = ⟨[.openGlEs], false, some .openGlEs, some false⟩ ∧
      run.2.1.1 = [.truth true, .done, .truth false, .truth false, .truth true, .done,
        .truth false, .truth false, .done] ∧
      ∃ episodes, episodes.map Episode.op = asked ∧ episodes.map Episode.reply = run.2.1.1 ∧
        LayerRemembers [.openGlEs] false (start.transcribe (unposting 7)).1 episodes run.2.2 := by
  intro asked run
  have opens := Program.yields_transcribe (unposting 7) start
  obtain ⟨episodes, same, replied, lives, serves⟩ :=
    layer.lives_converse (unposting 7) (.fresh [.openGlEs] false) (opened ⟨7⟩ ⟨7⟩) asked
  have remembers := lives_layerRemembers opens lives serves
  refine ⟨by decide +kernel, by decide +kernel, episodes, same, replied, ?_⟩
  -- the names are put in before the types are compared, or the run would be unfolded
  dsimp only [asked, run] at remembers ⊢
  exact remembers

end Driver

end Scanout
