import Scanout.Input.Probe

/-!
# A scripted prober

A prober whose attempts succeed or not as it is told, and that remembers them.
-/

namespace Scanout.Input

/-- **A scripted prober.** -/
structure Scripted where
  udev : Bool
  linuxraw : Bool
  /-- The attempts so far, in order. -/
  attempts : List Probe
  deriving DecidableEq, Repr

namespace Scripted

/-- Whether an attempt on a kind of driver succeeds. -/
def succeeds (s : Scripted) : Kind → Bool
  | .udev => s.udev
  | .linuxraw => s.linuxraw

/-- **Makes an attempt.** -/
def serve (s : Scripted) (probe : Probe) : Option InputDriver × Scripted :=
  (if s.succeeds probe.kind then some probe.driver else none,
    { s with attempts := s.attempts ++ [probe] })

end Scripted

end Scanout.Input
