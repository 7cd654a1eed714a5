import Scanout.Program

/-!
# Frontend calls

The frontend installs the shutdown handler for a driver, tells whether a shutdown was asked for, and
names the video and the input driver it is configured with.
-/

namespace Scanout.Frontend

/-- **A call on the frontend.** -/
inductive Call where
  | installSignalHandler
  | shutdownRequested
  | videoDriver
  | inputDriver
  deriving DecidableEq, Repr

/-- What a call is answered with. -/
abbrev Call.Answer : Call → Type
  | .installSignalHandler => Unit
  | .shutdownRequested => Bool
  | .videoDriver | .inputDriver => String

instance : Questions Call := ⟨Call.Answer⟩

end Scanout.Frontend
