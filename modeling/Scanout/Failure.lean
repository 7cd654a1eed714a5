import Scanout.Graphics.Api

/-!
# Failures

Why a call did not give what it was asked for.  A failure is its cause; the wording is one function
of it.  A failure on the way to something larger wraps the failure that stopped it, and is shown
before it.
-/

namespace Scanout

/-- **Why something could not be done.** -/
inductive Failure where
  /-- A headless display that was told to be unavailable. -/
  | displayUnavailable
  /-- A headless presenter that was told to be unavailable. -/
  | presenterUnavailable
  /-- A headless render context that was told to be refused. -/
  | contextRefused
  /-- A surface was posted that is not the locked one. -/
  | surfaceNotLocked (surface : Nat)
  /-- A surface was to be locked while another one is. -/
  | surfaceStillLocked (surface : Nat)
  /-- A function of the panel library gave no handle. -/
  | noHandle (function : String)
  /-- A word is too great for a signed 32-bit integer. -/
  | beyondInt (value : UInt32)
  /-- A failure put in by hand: what went wrong, outermost first. -/
  | injected (chain : List String)
  /-- The driver found no display. -/
  | noDisplay (cause : Failure)
  /-- The driver found no presenter. -/
  | noPresenter (cause : Failure)
  /-- The demo program found no driver. -/
  | noDriver (cause : Failure)
  /-- The demo program could not bind the API it is configured for. -/
  | unboundApi (api : GraphicsApi) (version : Version)
  /-- The demo program could not set its video mode. -/
  | noVideoMode
  deriving DecidableEq, Repr

namespace Failure

/-- What went wrong, from the outermost step to the cause. -/
def chain : Failure → List String
  | displayUnavailable => ["headless display unavailable"]
  | presenterUnavailable => ["headless presenter unavailable"]
  | contextRefused => ["headless context creation refused"]
  | surfaceNotLocked surface => ["surface " ++ toString surface ++ " posted without being locked"]
  | surfaceStillLocked surface => ["surface " ++ toString surface ++ " is still locked"]
  | noHandle function => [function ++ " returned null"]
  | beyondInt value =>
      [toString value.toNat ++ " does not fit a C int",
        "number too large to fit in target type"]
  | injected chain => chain
  | noDisplay cause => "Failed to open KMS display" :: cause.chain
  | noPresenter cause => "Failed to create KMS presenter" :: cause.chain
  | noDriver cause => "Failed to initialize KMS context" :: cause.chain
  | unboundApi api version => ["Could not bind " ++ api.label ++ " " ++ version.text]
  | noVideoMode => ["Failed to set video mode"]

/-- **The text of a failure**: the steps of its chain with a colon between. -/
def message (failure : Failure) : String := String.intercalate ": " failure.chain

end Failure

end Scanout
