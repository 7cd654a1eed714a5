import Scanout.Backend.Call
import Scanout.Egl.Call
import Scanout.Frontend.Call
import Scanout.Input.Probe
import Scanout.Log.Record

/-!
# Requests

What a driver may ask: its backend, its EGL layer, its frontend and its input prober, and the log.
The entry points of a driver are programs over these requests, so each of them is defined once for
every collaborator there is or could be.
-/

namespace Scanout

/-- **A request of the driver** to one of its collaborators. -/
inductive Request where
  | backend (call : Backend.Call)
  | egl (call : Egl.Call)
  | frontend (call : Frontend.Call)
  | probe (probe : Input.Probe)
  | log (record : Log.Record)
  deriving DecidableEq, Repr

/-- What a request is answered with. -/
abbrev Request.Answer : Request → Type
  | .backend call => call.Answer
  | .egl call => call.Answer
  | .frontend call => call.Answer
  | .probe _ => Option InputDriver
  | .log _ => Unit

instance : Questions Request := ⟨Request.Answer⟩

namespace Request

/-- Calls the backend. -/
def callBackend (call : Backend.Call) : Program Request call.Answer := .ask (.backend call) .done

/-- Calls the EGL layer. -/
def callEgl (call : Egl.Call) : Program Request call.Answer := .ask (.egl call) .done

/-- Calls the frontend. -/
def callFrontend (call : Frontend.Call) : Program Request call.Answer :=
  .ask (.frontend call) .done

/-- Makes an attempt to bring up an input driver. -/
def attempt (probe : Input.Probe) : Program Request (Option InputDriver) := .ask (.probe probe) .done

/-- Writes a record. -/
def say (level : Log.Level) (origin : Log.Origin) (text : String) : Program Request Unit :=
  .ask (.log ⟨level, origin, text⟩) .done

end Request

end Scanout
