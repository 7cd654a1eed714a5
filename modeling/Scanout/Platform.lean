import Scanout.Frontend.Scripted
import Scanout.Frontend.System
import Scanout.Headless.Backend
import Scanout.Headless.Egl
import Scanout.Input.Scripted
import Scanout.Input.System
import Scanout.Native.Backend
import Scanout.Native.Egl
import Scanout.Request

/-!
# Platforms

A platform is what stands under one driver: a backend, an EGL layer, a frontend and a prober, each
of one kind or another.  It answers the requests of its driver by asking the machine.

## Main definitions

* `Platform.Backend`, `Platform.EglLayer`, `Platform.Frontend`, `Platform.Prober` — the kinds
* `Platform` — one of each
* `Platform.serve` — answers a request
-/

namespace Scanout

open Machine (Question)

namespace Platform

/-- A backend of either kind. -/
inductive Backend where
  | headless (state : Headless.Backend)
  | native

/-- An EGL layer of either kind. -/
inductive EglLayer where
  | headless (state : Headless.Egl)
  | native (state : Native.Egl)

/-- A frontend of either kind. -/
inductive Frontend where
  | scripted (state : Frontend.Scripted)
  | system (state : Frontend.System)

/-- A prober of either kind. -/
inductive Prober where
  | scripted (state : Input.Scripted)
  | system (state : Input.System)

/-- Answers a backend call. -/
def Backend.serve (b : Backend) (call : Backend.Call) : Program Question (call.Answer × Backend) :=
  match b with
  | .headless state => do
      let (answer, state) ← state.serve call
      return (answer, .headless state)
  | .native => do return (← Native.serveBackend call, .native)

/-- Answers an EGL call. -/
def EglLayer.serve (e : EglLayer) (call : Egl.Call) : Program Question (call.Answer × EglLayer) :=
  match e with
  | .headless state =>
      let (answer, state) := state.serve call
      pure (answer, .headless state)
  | .native state => do
      let (answer, state) ← state.serve call
      return (answer, .native state)

/-- Answers a frontend call. -/
def Frontend.serve (f : Frontend) (call : Frontend.Call) :
    Program Question (call.Answer × Frontend) :=
  match f with
  | .scripted state =>
      let (answer, state) := state.serve call
      pure (answer, .scripted state)
  | .system state => do return (← state.serve call, .system state)

/-- Makes an attempt. -/
def Prober.serve (p : Prober) (probe : Input.Probe) :
    Program Question (Option InputDriver × Prober) :=
  match p with
  | .scripted state =>
      let (driver, state) := state.serve probe
      pure (driver, .scripted state)
  | .system state => do return (← state.serve probe, .system state)

end Platform

/-- **What stands under one driver.** -/
structure Platform where
  backend : Platform.Backend
  egl : Platform.EglLayer
  frontend : Platform.Frontend
  prober : Platform.Prober

namespace Platform

/-- **Answers a request.** -/
def serve (p : Platform) : (request : Request) → Program Question (request.Answer × Platform)
  | .backend call => do
      let (answer, backend) ← p.backend.serve call
      return (answer, { p with backend := backend })
  | .egl call => do
      let (answer, egl) ← p.egl.serve call
      return (answer, { p with egl := egl })
  | .frontend call => do
      let (answer, frontend) ← p.frontend.serve call
      return (answer, { p with frontend := frontend })
  | .probe probe => do
      let (driver, prober) ← p.prober.serve probe
      return (driver, { p with prober := prober })
  | .log record => do
      Machine.say record.level record.origin record.text
      return ((), p)

/-- **Runs a program of the driver** on a platform. -/
def run {α : Type} (p : Platform) (program : Program Request α) : Program Question (α × Platform) :=
  (program.run fun request platform => platform.serve request : StateT Platform _ α) p

/-! ### What a platform remembers -/

/-- What a headless backend has done; the panel library remembers for itself. -/
def Backend.acts : Backend → List Scanout.Backend.Act
  | .headless state => state.acts
  | .native => []

/-- The attempts that a scripted prober remembers. -/
def Prober.attempts : Prober → List Input.Probe
  | .scripted state => state.attempts
  | .system _ => []

/-- How often a scripted frontend has installed the shutdown handler. -/
def Frontend.installs : Frontend → Nat
  | .scripted state => state.installs
  | .system _ => 0

end Platform

end Scanout
