import Scanout.Panel
import Scanout.Request

/-!
# The input fallback

The input driver for window systems cannot work on a bare panel.  When it is the configured one,
event devices are tried in its place, and after them the terminal.
-/

namespace Scanout.Input

open Request

/-- How a message begins that says the configured driver cannot be used. -/
def unusable (configured : String) : String :=
  "Input driver '" ++ configured ++ "' unusable on KMS"

/-- **Chooses an input driver in the place of `configured`**, for a joypad driver.  Any driver but
the one for window systems is left alone, and nothing is tried. -/
def selectFallback (configured joypad : String) : Program Request (Option InputDriver) := do
  if configured != Panel.windowedInputDriver then
    return none
  match ← attempt ⟨.udev, joypad⟩ with
  | some driver =>
      say .info .input (unusable configured ++ ", using udev")
      return some driver
  | none =>
      match ← attempt ⟨.linuxraw, joypad⟩ with
      | some driver =>
          say .info .input (unusable configured ++ ", using linuxraw")
          return some driver
      | none =>
          say .warn .input (unusable configured ++ " and no fallback initialized")
          return none

end Scanout.Input
