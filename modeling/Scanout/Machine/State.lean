import Scanout.Machine.Question
import Scanout.Machine.Signal
import Scanout.Native.Library

/-!
# The state of a machine

A machine as plain data: scripted C functions, the records of its log, a process with its signals, a
standard input and the directories that can be listed.

## Main definitions

* `Machine` — the state of a machine
* `Machine.answer` — answers a question
-/

namespace Scanout

/-- **The state of a machine.** -/
structure Machine where
  library : Native.Library
  /-- The records of the log, the newest first. -/
  records : List Log.Record
  process : Machine.Process
  /-- Whether standard input is a terminal. -/
  terminal : Except OsError Bool
  /-- What listing a directory gives, by its path. -/
  directories : List (Path × Except OsError (List Machine.Entry))

namespace Machine

/-- A machine that nothing has been asked of yet, with directories whose paths are text. -/
def fresh (terminal : Except OsError Bool)
    (directories : List (String × Except OsError (List Entry))) : Machine :=
  ⟨Native.Library.fresh .default, [], .fresh, terminal,
    directories.map fun (path, listing) => (path, listing)⟩

/-- The records of the log, in order. -/
def journal (m : Machine) : List Log.Record := m.records.reverse

/-- What listing a directory gives; a path that is not known leads nowhere. -/
def listing (m : Machine) (path : Path) : Except OsError (List Entry) :=
  match m.directories.find? fun directory => directory.1 == path with
  | some directory => directory.2
  | none => .error .noEntry

/-- **Answers a question.** -/
def answer (question : Question) : StateM Machine (Answer question) := fun m =>
  match question with
  | .native call =>
      let (result, library) := m.library.answer call
      (result, { m with library := library })
  | .log record => ((), { m with records := record :: m.records })
  | .installShutdownHandler => ((), { m with process := { m.process with handled := true } })
  | .shutdownRequested => (m.process.requested, m)
  | .isTerminal => (m.terminal, m)
  | .listDirectory path => (m.listing path, m)

/-- What a machine has recorded, with nothing left of it in the machine. -/
def collect (m : Machine) : (List Native.Event × List Log.Record) × Machine :=
  ((m.library.trace, m.journal),
    { m with library := { m.library with events := [] }, records := [] })

/-- Runs a program on a machine. -/
def execute {α : Type} (m : Machine) (program : Program Question α) : α × Machine :=
  (program.run answer) m

end Machine

end Scanout
