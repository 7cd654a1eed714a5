import Scanout.Config.Sections
import Scanout.Frontend.Call
import Scanout.Machine.Question

/-!
# The frontend of the system

A frontend whose drivers are those of the configuration and whose shutdown requests are signals of
the process.
-/

namespace Scanout.Frontend

open Machine

/-- **A frontend over the process**, with the drivers it is configured with. -/
structure System where
  videoDriver : String
  inputDriver : String
  deriving DecidableEq, Repr

namespace System

/-- The frontend that a configuration describes. -/
def ofConfig (config : Config) : System := ⟨config.video.driver, config.input.driver⟩

/-- **Answers a frontend call.** -/
def serve (f : System) : (call : Call) → Program Question call.Answer
  | .installSignalHandler => do
      installShutdownHandler
      say .debug .signals "Shutdown signal handler installed"
  | .shutdownRequested => shutdownRequested
  | .videoDriver => return f.videoDriver
  | .inputDriver => return f.inputDriver

end System

end Scanout.Frontend
