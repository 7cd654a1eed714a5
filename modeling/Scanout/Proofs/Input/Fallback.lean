import Mathlib.Data.List.Sort
import Scanout.Proofs.Agreement.Backends
import Scanout.Proofs.Driver.Courses
import Scanout.Proofs.Platform.Reach
import Scanout.Proofs.Text.ByteOrder

/-!
# The input fallback over the system

A configured driver that cannot be used is replaced by event devices if the directory has any that
can be read, and otherwise by the terminal if there is one.  The devices that are told are those
entries and no others, in the order of the bytes of their names, so that neither the choice nor the
log shows in what order the directory was listed.

## Main definitions

* `Input.IsDevice` — the entries that are event devices
* `Input.Tells` — a list of names tells the event devices among some entries
* `Input.Relisted` — two listings of the same entries
* `Input.Selected` — how an input driver is selected

## Main results

* `Input.eventDevices_tells`, `Input.eventDevices_eq_of_perm` — the names that are told
* `Input.selectFallback_selected` — the selection, on any platform with a prober of the system
-/

namespace Scanout.Input

open Driver (Remark)
open Machine (Entry Question record? written)

/-! ### Event devices -/

/-- **An entry that is an event device of a name**: it can be read, its name is text, and the text
begins as the names of event devices do. -/
structure IsDevice (entry : Entry) (name : String) : Prop where
  readable : entry.readable = true
  encoded : Text.bytes name = entry.name
  event : "event".toList <+: name.toList

theorem eventName?_eq_some {entry : Entry} {name : String} :
    eventName? entry = some name ↔ IsDevice entry name := by
  unfold eventName?
  constructor
  · intro named
    split at named
    · next readable =>
      split at named
      · next text decoded =>
        split at named
        · next event =>
          obtain rfl := Option.some.inj named
          exact ⟨readable, Text.fromUTF8?_eq_some.mp decoded, List.isPrefixOf_iff_prefix.mp event⟩
        · cases named
      · cases named
    · cases named
  · rintro ⟨readable, encoded, event⟩
    have event : eventStart.isPrefixOf name.toList = true := List.isPrefixOf_iff_prefix.mpr event
    rw [if_pos readable, Text.fromUTF8?_eq_some.mpr encoded]
    exact if_pos event

/-- An entry that cannot be read, one of another kind and one whose name is no text are left out. -/
example : [⟨Text.bytes "event2", true⟩, ⟨Text.bytes "event1", false⟩,
    ⟨Text.bytes "mouse0", true⟩, ⟨Text.bytes "event" ++ [0xff], true⟩,
    ⟨Text.bytes "event10", true⟩].filterMap eventName? = ["event2", "event10"] := by
  decide +kernel

theorem notAfter_iff {a b : String} : notAfter a b = true ↔ a ≤ b := by
  rw [notAfter, Bool.not_eq_true', decide_eq_false_iff_not, not_lt]

/-- The event devices are told in the order of their names. -/
theorem pairwise_eventDevices (entries : List Entry) :
    (eventDevices entries).Pairwise (· ≤ ·) := by
  refine (List.pairwise_mergeSort ?_ ?_ _).imp notAfter_iff.mp
  · intro a b c first later
    exact notAfter_iff.mpr ((notAfter_iff.mp first).trans (notAfter_iff.mp later))
  · intro a b
    rw [Bool.or_eq_true, notAfter_iff, notAfter_iff]
    exact le_total a b

theorem eventDevices_nil : eventDevices [] = [] := List.mergeSort_nil

/-- **The event devices do not show in what order they were listed.** -/
theorem eventDevices_eq_of_perm {entries entries' : List Entry} (perm : entries.Perm entries') :
    eventDevices entries = eventDevices entries' := by
  have same : (eventDevices entries).Perm (eventDevices entries') :=
    (List.mergeSort_perm _ _).trans ((perm.filterMap _).trans (List.mergeSort_perm _ _).symm)
  exact same.eq_of_pairwise' (pairwise_eventDevices _) (pairwise_eventDevices _)

/-- **A list of names tells the event devices** among some entries: those and no others, in the
order of the bytes of their names, and none of them twice if no two entries have the same name. -/
structure Tells (entries : List Entry) (names : List String) : Prop where
  mem_iff : ∀ name, name ∈ names ↔ ∃ entry ∈ entries, IsDevice entry name
  ordered : (names.map Text.bytes).Pairwise (· ≤ ·)
  increasing : (entries.map Entry.name).Nodup → (names.map Text.bytes).Pairwise (· < ·)

/-- Names of different entries are different. -/
theorem nodup_eventDevices {entries : List Entry} (distinct : (entries.map Entry.name).Nodup) :
    (eventDevices entries).Nodup := by
  refine (List.mergeSort_perm _ _).nodup_iff.mpr (List.pairwise_filterMap.mpr ?_)
  -- an entry is found again by the bytes of its name
  refine (List.pairwise_map.mp distinct).imp fun {entry entry'} different => ?_
  intro name named name' named' same
  rw [eventName?_eq_some] at named named'
  rw [← named.encoded, ← named'.encoded, same] at different
  exact different rfl

theorem eventDevices_tells (entries : List Entry) : Tells entries (eventDevices entries) where
  mem_iff name := by
    rw [eventDevices, List.mem_mergeSort, List.mem_filterMap]
    exact exists_congr fun entry => and_congr_right fun _ => eventName?_eq_some
  ordered := by
    refine List.pairwise_map.mpr ((pairwise_eventDevices entries).imp fun {a b} before => ?_)
    exact List.not_lt.mp fun less => not_lt.mpr before (Text.bytes_lt_iff.mp less)
  increasing distinct := by
    refine List.pairwise_map.mpr ?_
    refine (pairwise_eventDevices entries).imp₂ ?_ (nodup_eventDevices distinct)
    intro a b before different
    exact Text.bytes_lt (lt_of_le_of_ne before different)

/-! ### Listings -/

/-- The entries of a directory that was listed; none if it could not be. -/
def listed : Except OsError (List Entry) → List Entry
  | .ok entries => entries
  | .error _ => []

/-- **Two listings of the same entries**, in whatever order, or two that failed alike. -/
inductive Relisted : Except OsError (List Entry) → Except OsError (List Entry) → Prop
  | reordered {entries entries' : List Entry} (perm : entries.Perm entries') :
      Relisted (.ok entries) (.ok entries')
  | failed (cause : OsError) : Relisted (.error cause) (.error cause)

/-- The same entries have the same event devices. -/
theorem Relisted.eventDevices_eq {listing listing' : Except OsError (List Entry)}
    (relisted : Relisted listing listing') :
    eventDevices (listed listing) = eventDevices (listed listing') := by
  cases relisted with
  | reordered perm => exact eventDevices_eq_of_perm perm
  | failed cause => rfl

/-- What is written when a directory was listed, or could not be. -/
def listingRecords (directory : Path) : Except OsError (List Entry) → List Log.Record
  | .ok _ => []
  | .error cause =>
      [⟨.debug, .input, "Cannot list " ++ directory.shown ++ ": " ++ cause.fileMessage⟩]

theorem Relisted.listingRecords_eq {directory : Path}
    {listing listing' : Except OsError (List Entry)} (relisted : Relisted listing listing') :
    listingRecords directory listing = listingRecords directory listing' := by
  cases relisted <;> rfl

/-- **The record that tells the event devices** of a directory. -/
def devicesRecord (directory : Path) (names : List String) : Log.Record :=
  ⟨.debug, .input, "udev input: event devices " ++ renderDevices directory names⟩

/-- Whether a directory that was listed has an event device. -/
def HasDevice (listing : Except OsError (List Entry)) : Prop :=
  ∃ entry ∈ listed listing, ∃ name, IsDevice entry name

theorem hasDevice_iff {listing : Except OsError (List Entry)} :
    HasDevice listing ↔ eventDevices (listed listing) ≠ [] := by
  have told := eventDevices_tells (listed listing)
  constructor
  · rintro ⟨entry, among, name, device⟩
    exact List.ne_nil_of_mem ((told.mem_iff name).mpr ⟨entry, among, device⟩)
  · intro some
    obtain ⟨name, among⟩ := List.exists_mem_of_ne_nil _ some
    obtain ⟨entry, inside, device⟩ := (told.mem_iff name).mp among
    exact ⟨entry, inside, name, device⟩

/-! ### Attempts -/

/-- What is written about the event devices of a directory. -/
def searchRecord (directory : Path) (names : List String) : Log.Record :=
  if names.isEmpty then
    ⟨.debug, .input, "udev input: no readable event devices in " ++ directory.shown⟩
  else devicesRecord directory names

/-- **The transcript of an attempt at event devices**, if the directory was listed so. -/
def searched (directory : Path) (listing : Except OsError (List Entry)) :
    List (Exchange Question) :=
  ⟨.listDirectory directory, listing⟩ ::
    (listingRecords directory listing ++
      [searchRecord directory (eventDevices (listed listing))]).map written

/-- What is written about standard input. -/
def terminalRecords : Except OsError Bool → List Log.Record
  | .ok true => []
  | .ok false => [⟨.debug, .input, "linuxraw input: stdin is not a tty"⟩]
  | .error cause =>
      [⟨.debug, .input, "linuxraw input: isatty failed: " ++ cause.terminalMessage⟩]

/-- **The transcript of an attempt at the terminal**, if standard input is so. -/
def terminalTried (terminal : Except OsError Bool) : List (Exchange Question) :=
  ⟨.isTerminal, terminal⟩ :: (terminalRecords terminal).map written

/-- Whether standard input is a terminal, as far as can be known. -/
def isUp (terminal : Except OsError Bool) : Bool := terminal.toOption == some true

theorem isUp_iff {terminal : Except OsError Bool} : isUp terminal = true ↔ terminal = .ok true := by
  rcases terminal with cause | (_ | _) <;> simp [isUp, Except.toOption]

section Attempts

variable (answer : (question : Question) → Answer question)

/-- The directory is listed, and the devices in it are found. -/
theorem transcribe_devices (s : System) :
    s.devices.transcribe answer =
      (⟨.listDirectory s.directory, answer (.listDirectory s.directory)⟩ ::
          (listingRecords s.directory (answer (.listDirectory s.directory))).map written,
        eventDevices (listed (answer (.listDirectory s.directory)))) := by
  show (Program.ask (.listDirectory s.directory) _).transcribe answer = _
  rw [Program.transcribe]
  generalize answer (.listDirectory s.directory) = listing
  rcases (listing : Except OsError (List Entry)) with cause | entries
  · rw [listed, eventDevices_nil]
    rfl
  · rfl

theorem transcribe_hasDevices (s : System) :
    s.hasDevices.transcribe answer =
      (searched s.directory (answer (.listDirectory s.directory)),
        !(eventDevices (listed (answer (.listDirectory s.directory)))).isEmpty) := by
  show (s.devices.bind _).transcribe answer = _
  rw [Program.transcribe_bind, transcribe_devices, searched, List.map_append]
  dsimp only
  generalize eventDevices (listed (answer (.listDirectory s.directory))) = names
  cases names <;> rfl

theorem transcribe_hasTerminal :
    System.hasTerminal.transcribe answer =
      (terminalTried (answer .isTerminal), isUp (answer .isTerminal)) := by
  show (Program.ask .isTerminal _).transcribe answer = _
  rw [Program.transcribe]
  generalize answer .isTerminal = terminal
  rcases (terminal : Except OsError Bool) with cause | (_ | _) <;> rfl

/-- The attempt at an input driver. -/
def attempt (s : System) : Kind → Program Question Bool
  | .udev => s.hasDevices
  | .linuxraw => System.hasTerminal

/-- **A probe is answered by the attempt**, on a platform with a prober of the system, and leaves
the platform as it is. -/
theorem transcribe_probe {p : Platform} {s : System} (system : p.prober = .system s) (probe : Probe)
    {asked : List (Exchange Question)} {up : Bool}
    (attempted : (attempt s probe.kind).transcribe answer = (asked, up)) :
    (p.serve (.probe probe)).transcribe answer =
      (asked, if up then some probe.driver else none, p) := by
  obtain ⟨backend, egl, frontend, prober⟩ := p
  obtain rfl : prober = .system s := system
  have served : ∀ tried : Program Question Bool, tried.transcribe answer = (asked, up) →
      (((tried.bind fun up => .done (if up then some probe.driver else none)).bind fun driver =>
          .done (driver, Platform.Prober.system s)).bind fun result =>
        .done (result.1, (⟨backend, egl, frontend, result.2⟩ : Platform))).transcribe answer =
      (asked, if up then some probe.driver else none, ⟨backend, egl, frontend, .system s⟩) := by
    intro tried outcome
    simp only [Program.transcribe_bind, Program.transcribe, List.append_nil, outcome]
  obtain ⟨_ | _, joypad⟩ := probe
  · exact served s.hasDevices attempted
  · exact served System.hasTerminal attempted

end Attempts

/-! ### What a transcript shows -/

/-- The records that a transcript writes. -/
def records (asked : List (Exchange Question)) : List Log.Record := asked.filterMap record?

/-- **What a transcript asks** besides writing records. -/
def probes (asked : List (Exchange Question)) : List (Exchange Question) :=
  asked.filter fun exchange => (record? exchange).isNone

/-- Whether a record is a warning. -/
def isWarning (record : Log.Record) : Bool := record.level == .warn

section Shown

theorem records_append (asked later : List (Exchange Question)) :
    records (asked ++ later) = records asked ++ records later :=
  List.filterMap_append

theorem probes_append (asked later : List (Exchange Question)) :
    probes (asked ++ later) = probes asked ++ probes later :=
  List.filter_append _ _

theorem records_map_written (l : List Log.Record) : records (l.map written) = l := by
  rw [records, List.filterMap_map]
  exact List.filterMap_some

theorem probes_map_written (l : List Log.Record) : probes (l.map written) = [] := by
  rw [probes, List.filter_map]
  exact List.map_eq_nil_iff.mpr (List.filter_eq_nil_iff.mpr fun _ _ => nofun)

variable (directory : Path) (listing : Except OsError (List Entry))
  (terminal : Except OsError Bool)

theorem records_searched : records (searched directory listing) =
    listingRecords directory listing ++
      [searchRecord directory (eventDevices (listed listing))] :=
  records_map_written _

theorem probes_searched :
    probes (searched directory listing) = [⟨.listDirectory directory, listing⟩] :=
  congrArg (List.cons _) (probes_map_written _)

theorem records_terminalTried : records (terminalTried terminal) = terminalRecords terminal :=
  records_map_written _

theorem probes_terminalTried : probes (terminalTried terminal) = [⟨.isTerminal, terminal⟩] :=
  congrArg (List.cons _) (probes_map_written _)

/-- What is written of a directory and its devices is no warning. -/
theorem countP_records_searched : (records (searched directory listing)).countP isWarning = 0 := by
  rw [records_searched]
  generalize eventDevices (listed listing) = names
  cases listing <;> cases names <;> rfl

/-- What is written of standard input is no warning. -/
theorem countP_records_terminalTried :
    (records (terminalTried terminal)).countP isWarning = 0 := by
  rw [records_terminalTried]
  rcases terminal with cause | (_ | _) <;> rfl

end Shown

/-! ### The selection -/

/-- The record that says what came of the attempt at the terminal. -/
def verdict (terminal : Except OsError Bool) : Log.Record :=
  if isUp terminal then (Remark.fallbackFound "x" .linuxraw).record
  else (Remark.fallbackMissing "x").record

section Selection

variable {p : Platform} {directory : Path} {configured : String} (joypad : String)
  (answer answer' : (question : Question) → Answer question)

/-- **Any other driver is left alone**, on any platform. -/
theorem transcribe_of_ne (p : Platform) (usable : configured ≠ "x") :
    (p.run (selectFallback configured joypad)).transcribe answer = ([], none, p) := by
  have usable : (configured != Panel.windowedInputDriver) = true := bne_iff_ne.mpr usable
  rw [selectFallback, if_pos usable]
  rfl

/-- **The driver for window systems is replaced** by event devices, if there are any. -/
theorem transcribe_of_device (system : p.prober = .system ⟨directory⟩)
    (device : HasDevice (answer (.listDirectory directory))) :
    (p.run (selectFallback "x" joypad)).transcribe answer =
      (searched directory (answer (.listDirectory directory)) ++
        [written (Remark.fallbackFound "x" .udev).record], some ⟨.udev, joypad⟩, p) := by
  have search := transcribe_hasDevices answer ⟨directory⟩
  have up : (eventDevices (listed (answer (.listDirectory directory)))).isEmpty = false :=
    List.isEmpty_eq_false_iff.mpr (hasDevice_iff.mp device)
  rw [up] at search
  rw [selectFallback, if_neg (by decide)]
  show ((p.serve (.probe ⟨.udev, joypad⟩)).bind _).transcribe answer = _
  rw [Program.transcribe_bind, transcribe_probe answer system ⟨.udev, joypad⟩ search]
  rfl

/-- **Without event devices** it is replaced by the terminal, if that is one, or by nothing. -/
theorem transcribe_of_lacking (system : p.prober = .system ⟨directory⟩)
    (lacking : ¬HasDevice (answer (.listDirectory directory))) :
    (p.run (selectFallback "x" joypad)).transcribe answer =
      (searched directory (answer (.listDirectory directory)) ++
        (terminalTried (answer .isTerminal) ++ [written (verdict (answer .isTerminal))]),
        if isUp (answer .isTerminal) then some ⟨.linuxraw, joypad⟩ else none, p) := by
  have search := transcribe_hasDevices answer ⟨directory⟩
  have down : (eventDevices (listed (answer (.listDirectory directory)))).isEmpty = true :=
    List.isEmpty_iff.mpr (not_not.mp (mt hasDevice_iff.mpr lacking))
  rw [down] at search
  rw [selectFallback, if_neg (by decide)]
  show ((p.serve (.probe ⟨.udev, joypad⟩)).bind _).transcribe answer = _
  rw [Program.transcribe_bind, transcribe_probe answer system ⟨.udev, joypad⟩ search]
  show (_ ++ (((p.serve (.probe ⟨.linuxraw, joypad⟩)).bind _).transcribe answer).1,
    (((p.serve (.probe ⟨.linuxraw, joypad⟩)).bind _).transcribe answer).2) = _
  have terminal := transcribe_hasTerminal answer
  rw [verdict]
  generalize isUp (answer .isTerminal) = up at terminal ⊢
  rw [Program.transcribe_bind, transcribe_probe answer system ⟨.linuxraw, joypad⟩ terminal]
  cases up <;> rfl

/-- **How the directory is ordered shows nowhere.** -/
theorem transcribe_relisted (system : p.prober = .system ⟨directory⟩)
    (relisted : Relisted (answer (.listDirectory directory)) (answer' (.listDirectory directory)))
    (same : answer .isTerminal = answer' .isTerminal) :
    let run := (p.run (selectFallback configured joypad)).transcribe answer
    let run' := (p.run (selectFallback configured joypad)).transcribe answer'
    run.2 = run'.2 ∧ records run.1 = records run'.1 := by
  dsimp only
  have devices := relisted.eventDevices_eq
  by_cases windowed : configured = "x"
  · subst windowed
    have searches : ∀ later,
        records (searched directory (answer (.listDirectory directory)) ++ later) =
          records (searched directory (answer' (.listDirectory directory)) ++ later) := by
      intro later
      rw [records_append, records_append, records_searched, records_searched, devices,
        relisted.listingRecords_eq]
    by_cases device : HasDevice (answer (.listDirectory directory))
    · have device' : HasDevice (answer' (.listDirectory directory)) := by
        rwa [hasDevice_iff, ← devices, ← hasDevice_iff]
      rw [transcribe_of_device joypad answer system device,
        transcribe_of_device joypad answer' system device']
      exact ⟨rfl, searches _⟩
    · have lacking' : ¬HasDevice (answer' (.listDirectory directory)) := by
        rwa [hasDevice_iff, ← devices, ← hasDevice_iff]
      rw [transcribe_of_lacking joypad answer system device,
        transcribe_of_lacking joypad answer' system lacking', same]
      exact ⟨rfl, searches _⟩
  · rw [transcribe_of_ne joypad answer p windowed, transcribe_of_ne joypad answer' p windowed]
    exact ⟨rfl, rfl⟩

end Selection

/-- **How an input driver is selected** in the place of the configured one, if the directory of
event devices was listed so and standard input is so. -/
structure Selected (directory : Path) (configured joypad : String)
    (listing : Except OsError (List Entry)) (terminal : Except OsError Bool)
    (asked : List (Exchange Question)) (chosen : Option InputDriver) : Prop where
  /-- Any other driver than that for window systems is left alone, and nothing is asked. -/
  untouched : configured ≠ "x" → asked = [] ∧ chosen = none
  /-- Event devices are chosen if there are any. -/
  udev_iff : chosen = some ⟨.udev, joypad⟩ ↔ configured = "x" ∧ HasDevice listing
  /-- Otherwise the terminal is, if there is one. -/
  linuxraw_iff : chosen = some ⟨.linuxraw, joypad⟩ ↔
    configured = "x" ∧ ¬HasDevice listing ∧ terminal = .ok true
  /-- Otherwise nothing is. -/
  none_iff : chosen = none ↔ configured ≠ "x" ∨ ¬HasDevice listing ∧ terminal ≠ .ok true
  /-- The directory is listed once, and the terminal is asked for only if that did not do. -/
  probed : configured = "x" → probes asked = ⟨.listDirectory directory, listing⟩ ::
    if chosen = some ⟨.udev, joypad⟩ then [] else [⟨.isTerminal, terminal⟩]
  /-- There is one warning if nothing is chosen, and none otherwise. -/
  warned : configured = "x" →
    (records asked).countP isWarning = if chosen = none then 1 else 0
  /-- The log tells the event devices, and that they are used. -/
  told : configured = "x" → HasDevice listing → ∃ names, Tells (listed listing) names ∧
    records asked =
      [devicesRecord directory names, (Remark.fallbackFound configured .udev).record]

section Selected

variable {directory : Path} {configured joypad : String}
  {listing : Except OsError (List Entry)} {terminal : Except OsError Bool}

/-- What is left alone is selected so. -/
theorem selected_untouched (usable : configured ≠ "x") :
    Selected directory configured joypad listing terminal [] none where
  untouched _ := ⟨rfl, rfl⟩
  udev_iff := iff_of_false nofun fun both => usable both.1
  linuxraw_iff := iff_of_false nofun fun both => usable both.1
  none_iff := iff_of_true rfl (.inl usable)
  probed windowed := absurd windowed usable
  warned windowed := absurd windowed usable
  told windowed := absurd windowed usable

/-- **Event devices are selected so**, if there are any. -/
theorem selected_udev (device : HasDevice listing) :
    Selected directory "x" joypad listing terminal
      (searched directory listing ++ [written (Remark.fallbackFound "x" .udev).record])
      (some ⟨.udev, joypad⟩) where
  untouched other := absurd rfl other
  udev_iff := iff_of_true rfl ⟨rfl, device⟩
  linuxraw_iff := iff_of_false (by simp) fun all => all.2.1 device
  none_iff := iff_of_false nofun fun either =>
    either.elim (fun other => other rfl) fun both => both.1 device
  probed _ := by
    rw [probes_append, probes_searched, if_pos rfl]
    rfl
  warned _ := by
    rw [records_append, List.countP_append, countP_records_searched]
    rfl
  told _ _ := by
    refine ⟨_, eventDevices_tells _, ?_⟩
    have some := hasDevice_iff.mp device
    rw [records_append, records_searched, searchRecord, if_neg (mt List.isEmpty_iff.mp some)]
    cases listing with
    | ok entries => rfl
    | error cause => exact absurd eventDevices_nil some

/-- **Without event devices the terminal is selected so**, or nothing. -/
theorem selected_terminal (lacking : ¬HasDevice listing) :
    Selected directory "x" joypad listing terminal
      (searched directory listing ++ (terminalTried terminal ++ [written (verdict terminal)]))
      (if isUp terminal then some ⟨.linuxraw, joypad⟩ else none) where
  untouched other := absurd rfl other
  udev_iff := iff_of_false (by split <;> simp) fun both => lacking both.2
  linuxraw_iff := by simp [← isUp_iff, lacking]
  none_iff := by simp [← isUp_iff, lacking]
  probed _ := by
    rw [probes_append, probes_append, probes_searched, probes_terminalTried,
      if_neg (by split <;> simp)]
    rfl
  warned _ := by
    rw [records_append, records_append, List.countP_append, List.countP_append,
      countP_records_searched, countP_records_terminalTried, verdict]
    cases isUp terminal <;> rfl
  told _ device := absurd device lacking

end Selected

/-- A machine whose directories have these entries, and whose standard input is no terminal. -/
def withEntries (entries : List Entry) : (question : Question) → Answer question
  | .listDirectory _ => .ok entries
  | question => (Driver.secluded ⟨⟨false, false, false⟩, [], false⟩).reply [] question

end Scanout.Input
