import Scanout.Driver.State
import Scanout.Input.Fallback

/-!
# The entry points of a driver

A frontend opens a driver, binds an API, sets a video mode, presents frames and destroys the driver.
Each entry point is a program over the driver's requests that ends with its result and the new
state, so it is the same for every backend, EGL layer, frontend and prober.

## Main definitions

* `Driver.start` — opens the display and the presenter
* `Driver.bindApi` — binds an API under the version rule
* `Driver.setVideoMode` — makes the render context, once
* `Driver.swapBuffers` — presents a frame
* `Driver.destroy` — releases the context, the presenter and the display

## Design notes

An entry point that only looks at the state is a function of the state (`Driver.State`); those here
ask something or write a record.
-/

namespace Scanout.Driver

open Request

/-! ### Opening and releasing -/

/-- **Opens a driver.**  If there is no presenter, the display is given back; the render context is
left to the first video mode. -/
def start : Program Request (Except Failure Driver) := do
  match ← callBackend .createDisplay with
  | .error cause => return .error (.noDisplay cause)
  | .ok display =>
      match ← callBackend (.createPresenter display Panel.format Panel.background) with
      | .error cause =>
          callBackend (.destroyDisplay display)
          return .error (.noPresenter cause)
      | .ok presenter =>
          say .info .driver ("KmsContext: display and presenter ready (" ++
            Panel.format.render ++ ", background " ++
            Text.hexPadded 8 Panel.background.toNat ++ ")")
          return .ok (opened display presenter)

/-- Releases the render context, if there is one. -/
def releaseContext : Option RenderContext → Program Request Unit
  | none => pure ()
  | some context => do
      callBackend (.destroyContext context)
      say .debug .driver "KmsContext: render context destroyed"

/-- **Releases everything a driver holds**: the render context, the presenter and the display, in
this order.  A driver that holds nothing is left as it is. -/
def destroy (d : Driver) : Program Request Driver :=
  match d.pipeline with
  | none => pure d
  | some pipeline => do
      releaseContext pipeline.context
      callBackend (.destroyPresenter pipeline.presenter)
      say .debug .driver "KmsContext: presenter destroyed"
      callBackend (.destroyDisplay pipeline.display)
      say .info .driver "KmsContext: display closed"
      return { d with pipeline := none }

/-! ### Binding -/

/-- **Binds an API.**  API and version are recorded in any case.  The EGL layer is asked to bind only
if it provides the API and the version does not need more than it has. -/
def bindApi (api : GraphicsApi) (version : Version) (d : Driver) :
    Program Request (Bool × Driver) := do
  let d := { d with api := api, version := version }
  match api.client? with
  | none =>
      say .debug .driver ("KmsContext: " ++ api.label ++ " cannot be bound on KMS")
      return (false, d)
  | some client =>
      if !(← callEgl (.supports client)) then
        say .warn .driver ("KmsContext: EGL does not provide " ++ api.label)
        return (false, d)
      if !(← callEgl .hasCreateContext) && version.needsCreateContext client then
        say .warn .driver ("KmsContext: " ++ api.label ++ " " ++ version.text ++
          " requires EGL_KHR_create_context")
        return (false, d)
      let bound ← callEgl (.bindApi client)
      say .info .driver ("KmsContext: bind " ++ api.label ++ " " ++ version.text ++ " -> " ++
        toString bound)
      return (bound, d)

/-- Whether a function of the bound API is found. -/
def getProcAddress (symbol : String) (d : Driver) : Program Request Bool :=
  if d.usesEgl then callEgl (.procAddress symbol) else pure false

/-- Tells the EGL layer whether a core renders by hardware. -/
def bindHwRender (enable : Bool) (d : Driver) : Program Request Unit :=
  if d.usesEgl then callEgl (.bindHwRender enable) else pure ()

/-! ### Showing frames -/

/-- The swap interval, held at the greatest one that is honoured. -/
def swapInterval (interval : Int32) (d : Driver) : Program Request Driver := do
  if Panel.greatestInterval < interval then
    let greatest := toString Panel.greatestInterval.toInt
    say .warn .driver ("[KMS]: Swap intervals > " ++ greatest ++
      " currently not supported. Will use swap interval of " ++ greatest ++ ".")
    return { d with interval := Panel.greatestInterval }
  else
    return { d with interval := interval }

/-- Makes a context current and clears its colour buffer. -/
def showContext (context : RenderContext) : Program Request Unit := do
  callBackend (.makeCurrent context)
  callBackend .clearColorBuffer

/-- **Sets the video mode**, which is always that of the panel.  The render context is made by the
first call that can make it and kept from then on. -/
def setVideoMode (width height : UInt32) (fullscreen : Bool) (d : Driver) :
    Program Request (Bool × Driver) :=
  match d.pipeline with
  | none => do
      say .warn .driver "KmsContext: set_video_mode on a destroyed context"
      return (false, d)
  | some pipeline => do
      callFrontend .installSignalHandler
      say .debug .driver ("KmsContext: mode " ++ toString width.toNat ++ "x" ++
        toString height.toNat ++ " (fullscreen=" ++ toString fullscreen ++
        ") requested, using " ++ toString Panel.width.toNat ++ "x" ++
        toString Panel.height.toNat)
      let d := { d with size := ⟨Panel.width, Panel.height⟩ }
      match pipeline.context with
      | some context =>
          showContext context
          return (true, d)
      | none =>
          match ← callBackend (.createContext pipeline.display Panel.width Panel.height
              Panel.attributes) with
          | .error cause =>
              say .warn .driver ("KmsContext: failed to create render context: " ++ cause.message)
              return (false, d)
          | .ok context =>
              showContext context
              return (true, { d with pipeline := some { pipeline with context := some context } })

/-- **Presents a frame**: the buffers are swapped, the front surface is locked, posted and unlocked.
A frame whose surface cannot be locked is dropped; a surface that cannot be posted is unlocked all
the same. -/
def present (frame : UInt64) (presenter : Presenter) (context : RenderContext) :
    Program Request Unit := do
  callBackend (.swapBuffers context)
  match ← callBackend (.lockSurface context) with
  | .error cause =>
      say .warn .driver ("KmsContext: frame " ++ toString frame.toNat ++ " dropped: " ++
        cause.message)
  | .ok surface =>
      match ← callBackend (.post presenter surface Panel.placement) with
      | .error cause =>
          say .warn .driver ("KmsContext: post failed for frame " ++ toString frame.toNat ++
            ": " ++ cause.message)
      | .ok () => pure ()
      callBackend (.unlockSurface context surface)
      say .trace .driver ("KmsContext: presented frame " ++ toString frame.toNat)

/-- Presents a frame if an API of EGL is recorded and there is a context to present from. -/
def swapBuffers (frame : UInt64) (d : Driver) : Program Request Unit :=
  if d.usesEgl then
    match d.pipeline with
    | some ⟨_, presenter, some context⟩ => present frame presenter context
    | _ =>
        say .warn .driver ("KmsContext: swap_buffers before a context exists (frame " ++
          toString frame.toNat ++ ")")
  else say .warn .driver ("KmsContext: unhandled swap_buffers for " ++ d.api.label)

/-! ### Questions -/

/-- The refresh rate of the display, zero if there is no display or its rate is not known. -/
def getRefreshRate (d : Driver) : Program Request Rate :=
  match d.pipeline with
  | none => pure Rate.zero
  | some pipeline => do
      match ← callBackend (.refreshRate pipeline.display) with
      | some rate => return rate
      | none => return Rate.zero

/-- Whether the frontend has been asked to shut down. -/
def shutdownRequested : Program Request Bool := callFrontend .shutdownRequested

/-- **The capabilities of a driver**: the images of its swapchain can be customised, a core context
has been asked for or not, and the shaders are those of the frontend's video driver. -/
def getFlags (d : Driver) : Program Request Flags := do
  let core := if d.coreContext then Flags.glCoreContext else Flags.empty
  let videoDriver ← callFrontend .videoDriver
  let shaders :=
    if videoDriver == Panel.slangVideoDriver then Flags.shadersSlang else Flags.shadersGlsl
  return (Flags.customizableSwapchainImages.union core).union shaders

/-- Asks for a core context if the flags hold it; it is never taken back. -/
def setFlags (flags : Flags) (d : Driver) : Driver :=
  if flags.contains Flags.glCoreContext then { d with coreContext := true } else d

/-- An input driver in the place of the configured one, if that cannot be used. -/
def inputFallback (joypad : String) : Program Request (Option InputDriver) := do
  let configured ← callFrontend .inputDriver
  Input.selectFallback configured joypad

end Scanout.Driver
