import Scanout.Frontend.Call

/-!
# A scripted frontend

A frontend that does what it is told: it counts the installations of the shutdown handler and
answers each poll for a shutdown from a script.
-/

namespace Scanout.Frontend

/-- **A scripted frontend.** -/
structure Scripted where
  videoDriver : String
  inputDriver : String
  /-- How often the shutdown handler has been installed. -/
  installs : Nat
  /-- How often a shutdown has been polled for. -/
  polls : Nat
  /-- The answer to each poll. -/
  shutdown : Nat → Bool

namespace Scripted

/-- A frontend that no shutdown is requested from. -/
def quiet (videoDriver inputDriver : String) : Scripted :=
  ⟨videoDriver, inputDriver, 0, 0, fun _ => false⟩

/-- **Answers a frontend call.** -/
def serve (f : Scripted) : (call : Call) → call.Answer × Scripted
  | .installSignalHandler => ((), { f with installs := f.installs + 1 })
  | .shutdownRequested => (f.shutdown f.polls, { f with polls := f.polls + 1 })
  | .videoDriver => (f.videoDriver, f)
  | .inputDriver => (f.inputDriver, f)

end Scripted

end Scanout.Frontend
