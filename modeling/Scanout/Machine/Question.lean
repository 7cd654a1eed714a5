import Scanout.Log.Record
import Scanout.Machine.OsError
import Scanout.Machine.Path
import Scanout.Native.Call

/-!
# What the machine is asked

Below every collaborator there is one machine: its C functions, its log, its process with shutdown
signals, its standard input and its directories.  Collaborators are programs over questions to it.

## Main definitions

* `Machine.Question` — a question to the machine, with the type of its answer
-/

namespace Scanout

namespace Machine

/-- An entry of a directory: its name, as bytes, and whether what it leads to can be read. -/
structure Entry where
  name : List UInt8
  readable : Bool
  deriving DecidableEq, Repr

/-- **A question to the machine.** -/
inductive Question where
  | native (call : Native.Call)
  | log (record : Log.Record)
  /-- Turns shutdown signals into a flag of the process. -/
  | installShutdownHandler
  /-- Whether a shutdown signal has arrived. -/
  | shutdownRequested
  /-- Whether standard input is a terminal. -/
  | isTerminal
  /-- The entries of a directory, in no particular order. -/
  | listDirectory (path : Path)
  deriving DecidableEq, Repr

/-- What a question is answered with. -/
abbrev Question.Answer : Question → Type
  | .native call => call.Answer
  | .log _ => Unit
  | .installShutdownHandler => Unit
  | .shutdownRequested => Bool
  | .isTerminal => Except OsError Bool
  | .listDirectory _ => Except OsError (List Entry)

instance : Questions Question := ⟨Question.Answer⟩

/-- Calls a C function. -/
def call (call : Native.Call) : Program Question call.Answer := .ask (.native call) .done

/-- Writes a record. -/
def say (level : Log.Level) (origin : Log.Origin) (text : String) : Program Question Unit :=
  .ask (.log ⟨level, origin, text⟩) .done

/-- Turns shutdown signals into a flag of the process. -/
def installShutdownHandler : Program Question Unit := .ask .installShutdownHandler .done

/-- Whether a shutdown signal has arrived. -/
def shutdownRequested : Program Question Bool := .ask .shutdownRequested .done

/-- Whether standard input is a terminal. -/
def isTerminal : Program Question (Except OsError Bool) := .ask .isTerminal .done

/-- The entries of a directory. -/
def listDirectory (path : Path) : Program Question (Except OsError (List Entry)) :=
  .ask (.listDirectory path) .done

end Machine

end Scanout
