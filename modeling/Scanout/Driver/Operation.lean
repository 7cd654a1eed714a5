import Scanout.Driver.Entry

/-!
# Operations and histories

The entry points of a driver as data: an operation names an entry point with its arguments, a reply
is what it gave, and a history of operations is performed one after the other.

## Main definitions

* `Operation`, `Reply` — the entry points and their results
* `Driver.perform` — performs one operation
* `Driver.performAll` — performs a history
-/

namespace Scanout

/-- What a driver tells about its window. -/
structure WindowStatus where
  quit : Bool
  resize : Bool
  deriving DecidableEq, Repr

/-- **An operation on a driver.** -/
inductive Operation where
  | destroy
  | getApi
  | bindApi (api : GraphicsApi) (version : Version)
  | swapInterval (interval : Int32)
  | setVideoMode (width height : UInt32) (fullscreen : Bool)
  | getVideoSize
  | getRefreshRate
  | checkWindow
  | hasFocus
  | suppressScreensaver (enable : Bool)
  | hasWindowed
  | swapBuffers (frame : UInt64)
  | inputFallback (joypad : String)
  | getProcAddress (symbol : String)
  | ident
  | getFlags
  | setFlags (flags : Flags)
  | bindHwRender (enable : Bool)
  deriving DecidableEq, Repr

/-- **The reply to an operation.**  A size and an identifier are missing only where there is no driver
to ask. -/
inductive Reply where
  | done
  | truth (value : Bool)
  | api (api : GraphicsApi)
  | size (size : Option Size)
  | rate (rate : Rate)
  | window (status : WindowStatus)
  | input (driver : Option InputDriver)
  | ident (name : Option String)
  | flags (flags : Flags)
  deriving DecidableEq, Repr

namespace Driver

/-- **Performs one operation.**  The panel has the focus at all times, never blanks, has no windows
and is never resized. -/
def perform (d : Driver) : Operation → Program Request (Reply × Driver)
  | .destroy => do return (.done, ← d.destroy)
  | .getApi => return (.api d.api, d)
  | .bindApi api version => do
      let (bound, d) ← d.bindApi api version
      return (.truth bound, d)
  | .swapInterval interval => do return (.done, ← d.swapInterval interval)
  | .setVideoMode width height fullscreen => do
      let (set, d) ← d.setVideoMode width height fullscreen
      return (.truth set, d)
  | .getVideoSize => return (.size (some d.size), d)
  | .getRefreshRate => do return (.rate (← d.getRefreshRate), d)
  | .checkWindow => do return (.window ⟨← shutdownRequested, false⟩, d)
  | .hasFocus => return (.truth true, d)
  | .suppressScreensaver _ => return (.truth false, d)
  | .hasWindowed => return (.truth false, d)
  | .swapBuffers frame => do
      d.swapBuffers frame
      return (.done, d)
  | .inputFallback joypad => do return (.input (← inputFallback joypad), d)
  | .getProcAddress symbol => do return (.truth (← d.getProcAddress symbol), d)
  | .ident => return (.ident (some Panel.ident), d)
  | .getFlags => do return (.flags (← d.getFlags), d)
  | .setFlags flags => return (.done, d.setFlags flags)
  | .bindHwRender enable => do
      d.bindHwRender enable
      return (.done, d)

/-- **Performs a history**, collecting the replies. -/
def performAll (d : Driver) : List Operation → Program Request (List Reply × Driver)
  | [] => return ([], d)
  | op :: ops => do
      let (reply, d) ← d.perform op
      let (replies, d) ← d.performAll ops
      return (reply :: replies, d)

end Driver

end Scanout
