import Scanout.Driver.Operation

/-!
# The driver slot

A frontend drives whichever driver was chosen through a slot.  A slot that is empty, because no
driver could be opened or because it was destroyed, answers every operation with a neutral value and
asks nobody anything.

## Main definitions

* `Slot` — a driver or none
* `Slot.hold`, `Slot.ofStart` — a slot around a driver, or around the outcome of opening one
* `Slot.perform` — performs one operation
-/

namespace Scanout

open Request

/-- **A slot for a driver.** -/
structure Slot where
  driver : Option Driver
  deriving DecidableEq, Repr

namespace Slot

def empty : Slot := ⟨none⟩

/-- Whether there is a driver in the slot. -/
def isActive (slot : Slot) : Bool := slot.driver.isSome

/-- A slot around a driver. -/
def hold (driver : Driver) : Program Request Slot := do
  say .info .slot ("VideoContext: using '" ++ Panel.ident ++ "' context driver")
  return ⟨some driver⟩

/-- A slot around the outcome of opening a driver; if that failed, the slot is empty. -/
def ofStart : Except Failure Driver → Program Request Slot
  | .ok driver => hold driver
  | .error failure => do
      say .error .slot ("VideoContext: context driver init failed: " ++ failure.message)
      return empty

/-- Destroys the driver and empties the slot.  A driver that leaves the slot is released once more,
which does nothing to a destroyed one. -/
def destroy (slot : Slot) : Program Request Slot :=
  match slot.driver with
  | none => pure slot
  | some driver => do
      let driver ← driver.destroy
      say .info .slot ("VideoContext: '" ++ Panel.ident ++ "' context driver destroyed")
      let _ ← driver.destroy
      return empty

/-- Gives up a slot: the driver in it, if there is one, is released. -/
def discard (slot : Slot) : Program Request Unit :=
  match slot.driver with
  | none => pure ()
  | some driver => do
      let _ ← driver.destroy
      return ()

/-- **The neutral reply to an operation.** -/
def neutral : Operation → Reply
  | .getApi => .api .none
  | .getVideoSize => .size none
  | .getRefreshRate => .rate Rate.zero
  | .checkWindow => .window ⟨false, false⟩
  | .inputFallback _ => .input none
  | .ident => .ident none
  | .getFlags => .flags Flags.empty
  | .bindApi _ _ | .setVideoMode _ _ _ | .hasFocus | .suppressScreensaver _ | .hasWindowed
  | .getProcAddress _ => .truth false
  | .destroy | .swapInterval _ | .swapBuffers _ | .setFlags _ | .bindHwRender _ => .done

/-- **Performs one operation** on the driver in the slot, or gives the neutral reply. -/
def perform (slot : Slot) (op : Operation) : Program Request (Reply × Slot) :=
  match op with
  | .destroy => do return (.done, ← slot.destroy)
  | op =>
      match slot.driver with
      | none => return (neutral op, slot)
      | some driver => do
          let (reply, driver) ← driver.perform op
          return (reply, ⟨some driver⟩)

/-- **Performs a history**, collecting the replies. -/
def performAll (slot : Slot) : List Operation → Program Request (List Reply × Slot)
  | [] => return ([], slot)
  | op :: ops => do
      let (reply, slot) ← slot.perform op
      let (replies, slot) ← slot.performAll ops
      return (reply :: replies, slot)

end Slot

end Scanout
