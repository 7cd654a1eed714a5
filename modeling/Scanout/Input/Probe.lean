import Scanout.Program

/-!
# Input drivers and probes

An input driver is brought up by probing: the attempt succeeds, and the driver carries the name of
the joypad driver it was asked for, or it does not.
-/

namespace Scanout

namespace Input

/-- The input backends that work without a window system. -/
inductive Kind where
  /-- Event devices. -/
  | udev
  /-- The keyboard of the controlling terminal. -/
  | linuxraw
  deriving DecidableEq, Repr

/-- The identifier of an input backend. -/
def Kind.ident : Kind → String
  | udev => "udev"
  | linuxraw => "linuxraw"

end Input

/-- An input driver that is up, for a joypad driver. -/
structure InputDriver where
  kind : Input.Kind
  joypad : String
  deriving DecidableEq, Repr

namespace Input

/-- **An attempt to bring up an input driver.** -/
structure Probe where
  kind : Kind
  joypad : String
  deriving DecidableEq, Repr

/-- The driver that a successful attempt brings up. -/
def Probe.driver (probe : Probe) : InputDriver := ⟨probe.kind, probe.joypad⟩

instance : Questions Probe := ⟨fun _ => Option InputDriver⟩

end Input

end Scanout
