import Scanout.Input.Devices
import Scanout.Input.Probe

/-!
# Probing the system

Event devices are probed by listing a directory, the keyboard of the terminal by asking whether
standard input is one.
-/

namespace Scanout.Input

open Machine

/-- **A prober of the system**, with the directory of its event devices. -/
structure System where
  directory : Path
  deriving DecidableEq, Repr

namespace System

/-- The event devices that can be read, none if the directory cannot be listed. -/
def devices (s : System) : Program Question (List String) := do
  match ← listDirectory s.directory with
  | .ok entries => return eventDevices entries
  | .error cause =>
      say .debug .input ("Cannot list " ++ s.directory.shown ++ ": " ++ cause.fileMessage)
      return []

/-- Whether there is an event device. -/
def hasDevices (s : System) : Program Question Bool := do
  let names ← s.devices
  if names.isEmpty then
    say .debug .input ("udev input: no readable event devices in " ++ s.directory.shown)
    return false
  else
    say .debug .input ("udev input: event devices " ++ renderDevices s.directory names)
    return true

/-- Whether standard input is a terminal. -/
def hasTerminal : Program Question Bool := do
  match ← isTerminal with
  | .ok true => return true
  | .ok false =>
      say .debug .input "linuxraw input: stdin is not a tty"
      return false
  | .error cause =>
      say .debug .input ("linuxraw input: isatty failed: " ++ cause.terminalMessage)
      return false

/-- **Makes an attempt.** -/
def serve (s : System) (probe : Probe) : Program Question (Option InputDriver) := do
  let up ← match probe.kind with
    | .udev => s.hasDevices
    | .linuxraw => hasTerminal
  return if up then some probe.driver else none

end System

end Scanout.Input
