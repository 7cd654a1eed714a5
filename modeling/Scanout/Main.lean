import Scanout.CommandLine

/-!
# The executable

Reads the environment and the configuration file, runs the demo program on a machine and writes the
log as it grows.
-/

namespace Scanout.Main

open CommandLine (Exit)

/-- The error of the operating system behind a failed operation, with its number and its text.  What
the operating system has no part in has number zero. -/
def osError : IO.Error → OsError
  | .interrupted _ number text | .noFileOrDirectory _ number text
  | .alreadyExists _ number text | .invalidArgument _ number text
  | .permissionDenied _ number text | .resourceExhausted _ number text
  | .inappropriateType _ number text | .noSuchThing _ number text
  | .otherError number text | .resourceBusy number text | .resourceVanished number text
  | .unsupportedOperation number text | .hardwareFault number text
  | .unsatisfiedConstraints number text | .illegalOperation number text
  | .protocolError number text | .timeExpired number text => ⟨number.toNat, text⟩
  | .unexpectedEof => ⟨0, "end of file"⟩
  | .userError text => ⟨0, text⟩

/-- Reads the file that the environment names, if it names one. -/
def readEnvironment : IO Config.Environment := do
  match ← IO.getEnv Config.variableName with
  | none => return ⟨none, fun _ => .error .noEntry⟩
  | some name => do
      let contents : Config.Contents ←
        try
          let bytes ← IO.FS.readBinFile name
          pure (.ok bytes.toList)
        catch error => pure (.error (osError error))
      return ⟨some name, fun _ => contents⟩

/-- Writes the records that a filter lets through, and gives the machine without them. -/
def writeLog (filter : Log.Filter) (machine : Machine) : IO Machine := do
  let ((_, records), machine) := machine.collect
  IO.eprint (CommandLine.logText filter records)
  return machine

/-- Waits for a number of milliseconds, as many at a time as fit into half a word. -/
def pause (milliseconds : UInt64) : IO Unit := do
  let most : UInt32 := 0xffffffff
  for _ in [0 : milliseconds.toNat / most.toNat] do
    IO.sleep most
  IO.sleep (UInt32.ofNat (milliseconds.toNat % most.toNat))

/-- Runs the loop from a frame on, and gives the frame at which it ended. -/
partial def runLoop (filter : Log.Filter) (config : Config) (frame : UInt64) (slot : Slot)
    (platform : Platform) (machine : Machine) : IO (UInt64 × Slot × Platform × Machine) := do
  let (((ended, slot), platform), machine) :=
    machine.execute (platform.run (Demo.turn config.demo.maxFrames frame slot))
  let machine ← writeLog filter machine
  if ended then return (frame, slot, platform, machine)
  else do
    pause config.demo.frameInterval
    runLoop filter config (frame + 1) slot platform machine

/-- Runs the program with its configuration. -/
def runDemo (filter : Log.Filter) (config : Config) : IO UInt32 := do
  let ((prepared, platform), machine) :=
    CommandLine.machine.execute ((CommandLine.platform config).run (Demo.prepare config))
  let machine ← writeLog filter machine
  match prepared with
  | .error failure =>
      IO.eprint (CommandLine.errorText (.failure failure))
      return 1
  | .ok slot => do
      let (frames, slot, platform, machine) ← runLoop filter config 0 slot platform machine
      let (_, machine) := machine.execute (platform.run (Demo.finish frames slot))
      let _ ← writeLog filter machine
      return 0

end Scanout.Main

/-- Runs the demo program. -/
def main : IO UInt32 := do
  let given ← IO.getEnv Scanout.CommandLine.filterVariable
  let (filter, complaints) :=
    Scanout.Log.Filter.parse (given.getD Scanout.CommandLine.defaultFilter)
  IO.eprint (Scanout.CommandLine.warningText complaints)
  let environment ← Scanout.Main.readEnvironment
  let (config, loading) := Scanout.Config.fromEnvironment environment
  IO.eprint (Scanout.CommandLine.logText filter (Scanout.CommandLine.startRecord :: loading))
  Scanout.Main.runDemo filter config
