import Scanout.Config.Load
import Scanout.Demo
import Scanout.Log.Filter
import Scanout.Machine.State
import Scanout.Platform
import Scanout.Text.Lines

/-!
# The command line

The program is called without arguments.  Its configuration and its log filter come from the
environment; the log goes to standard error, and so does the failure that ends a run.  A signal may
arrive once the first frame has been presented.

## Main definitions

* `CommandLine.Invocation` — what a run of the program depends on
* `CommandLine.Result` — what a run leaves behind
* `CommandLine.invoke` — a run of the program
-/

namespace Scanout.CommandLine

open Config (Environment)

/-- The environment variable that holds the log filter. -/
def filterVariable : String := "RUST_LOG"

/-- The log filter of a program that has not been given one. -/
def defaultFilter : String := "info"

/-- The directory of the event devices. -/
def deviceDirectory : Path := "/dev/input"

/-- **What a run of the program depends on.** -/
structure Invocation where
  environment : Environment
  /-- The text of the log filter, if one has been given. -/
  filter? : Option String
  /-- The signal that arrives once the first frame has been presented, if one does. -/
  arrival : Option Signal

/-- How a process ends. -/
inductive Exit where
  | code (code : Nat)
  | killed (signal : Signal)
  /-- The process has not ended. -/
  | running
  deriving DecidableEq, Repr

/-- **What a run leaves behind.**  Nothing goes to standard output. -/
structure Result where
  exit : Exit
  /-- What stands on standard error. -/
  errorText : String
  deriving DecidableEq, Repr

/-- The lines of standard error. -/
def Result.lines (r : Result) : List String := Text.lines r.errorText

/-- The platform of the program: headless, with the frontend and the prober of the system. -/
def platform (config : Config) : Platform where
  backend := .headless (.fresh ⟨false, false, false⟩)
  egl := .headless .full
  frontend := .system (.ofConfig config)
  prober := .system ⟨deviceDirectory⟩

/-- A machine with nothing but the null device for standard input. -/
def machine : Machine := .fresh (.ok false) []

/-! ### Runs on a machine -/

/-- How a run ended, and the records of its log. -/
abbrev Run := Demo.Ending × List Log.Record

/-- How many turns the loop may take: one more than there are frames, or the two of a run that only a
signal ends. -/
def turnsOf (config : Config) : Nat :=
  match config.demo.maxFrames with
  | some limit => limit.toNat + 1
  | none => 2

/-- A run that no signal interrupts. -/
def runQuietly (config : Config) : Run :=
  let ((ending, _), machine) :=
    machine.execute ((platform config).run (Demo.run config (turnsOf config)))
  (ending, machine.journal)

/-- Goes on with the loop behind the first frame. -/
def resume (config : Config) (slot : Slot) : Program Request Demo.Ending := do
  match ← Demo.loop config.demo.maxFrames (turnsOf config) 1 slot with
  | (none, _) => return .unfinished
  | (some frames, slot) => do
      Demo.finish frames slot
      return .success

/-- A run in which a signal arrives behind the first frame.  If it ends the process, nothing but the
records before it is left. -/
def runInterrupted (config : Config) (signal : Signal) : Option Demo.Ending × List Log.Record :=
  let ((prepared, p), m) := machine.execute ((platform config).run (Demo.prepare config))
  match prepared with
  | .error failure => (some (.failure failure), m.journal)
  | .ok slot =>
      let (((ended, slot), p), m) := m.execute (p.run (Demo.turn config.demo.maxFrames 0 slot))
      if ended then
        let (_, m) := m.execute (p.run (Demo.finish 0 slot))
        (some .success, m.journal)
      else
        match m.process.raise signal with
        | none => (none, m.journal)
        | some process =>
            let ((ending, _), m) :=
              { m with process := process }.execute (p.run (resume config slot))
            (some ending, m.journal)

/-! ### Invocations -/

/-- How a process ends that a run ends. -/
def exitOf : Demo.Ending → Exit
  | .success => .code 0
  | .failure _ => .code 1
  | .unfinished => .running

/-- What a run writes itself, besides its log. -/
def errorText : Demo.Ending → String
  | .failure failure => "Error: " ++ failure.message ++ "\n"
  | .success | .unfinished => ""

/-- The log that a filter lets through. -/
def logText (filter : Log.Filter) (records : List Log.Record) : String :=
  String.join ((records.filter filter.lets).map Log.Record.written)

/-- What is written about what is malformed in a filter. -/
def warningText (complaints : List String) : String :=
  String.join (complaints.map fun complaint => "warning: " ++ complaint ++ ", ignoring it\n")

/-- The record with which every run begins. -/
def startRecord : Log.Record := ⟨.info, .program, "Starting kms-context..."⟩

/-- **A run of the program.** -/
def invoke (i : Invocation) : Result :=
  let (filter, complaints) := Log.Filter.parse (i.filter?.getD defaultFilter)
  let (config, loading) := Config.fromEnvironment i.environment
  let text (records : List Log.Record) : String :=
    warningText complaints ++ logText filter (startRecord :: loading ++ records)
  match i.arrival with
  | none =>
      let (ending, records) := runQuietly config
      ⟨exitOf ending, text records ++ errorText ending⟩
  | some signal =>
      match runInterrupted config signal with
      | (some ending, records) => ⟨exitOf ending, text records ++ errorText ending⟩
      | (none, records) => ⟨.killed signal, text records⟩

end Scanout.CommandLine
