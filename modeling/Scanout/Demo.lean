import Scanout.Config.Sections
import Scanout.Decimal.Literal
import Scanout.Slot

/-!
# The demo program

The demo program opens the driver in a slot, binds the API it is configured for, sets the video mode
and presents frames until a shutdown is requested or its frame limit is reached; then it releases
everything.

## Main definitions

* `Demo.prepare` — everything before the loop
* `Demo.turn` — one turn of the loop
* `Demo.loop` — the loop, for at most a number of turns
* `Demo.finish` — everything after the loop
* `Demo.run` — the whole program
-/

namespace Scanout.Demo

open Request

/-- Writes a record of the program itself. -/
def tell (level : Log.Level) (text : String) : Program Request Unit := say level .program text

/-- What a reply says about the success of an operation. -/
def succeeded : Reply → Bool
  | .truth value => value
  | _ => false

/-- Whether a reply says that the window is to be closed. -/
def quits : Reply → Bool
  | .window status => status.quit
  | _ => false

/-! ### Before the loop -/

/-- Opens the driver and puts it into a slot. -/
def openSlot : Program Request (Except Failure Slot) := do
  tell .info "Built without the go2 feature; presenting to the headless backend."
  match ← Driver.start with
  | .error failure => return .error (.noDriver failure)
  | .ok driver => return .ok (← Slot.hold driver)

/-- Chooses another input driver if the configured one cannot be used. -/
def chooseInput (joypad : String) (slot : Slot) : Program Request Slot := do
  let (reply, slot) ← slot.perform (.inputFallback joypad)
  match reply with
  | .input (some driver) => tell .info ("Input driver fallback: " ++ driver.kind.ident)
  | _ => pure ()
  return slot

/-- Asks for a core context if that is configured. -/
def chooseContext (core : Bool) (slot : Slot) : Program Request Slot := do
  if core then
    let (_, slot) ← slot.perform (.setFlags Flags.glCoreContext)
    return slot
  else return slot

/-- Tells which video mode is set. -/
def tellMode (slot : Slot) : Program Request Slot := do
  let (size, slot) ← slot.perform .getVideoSize
  match size with
  | .size (some size) => do
      let (rate, slot) ← slot.perform .getRefreshRate
      let (flags, slot) ← slot.perform .getFlags
      match rate, flags with
      | .rate rate, .flags flags =>
          tell .info ("Video mode " ++ toString size.width.toNat ++ "x" ++
            toString size.height.toNat ++ " @ " ++ rate.fixed 2 ++ " Hz, flags " ++ flags.render)
      | _, _ => pure ()
      return slot
  | _ => return slot

/-- **Everything before the loop.**  What cannot be set up is released again. -/
def prepare (config : Config) : Program Request (Except Failure Slot) := do
  match ← openSlot with
  | .error failure => return .error failure
  | .ok slot => do
      let slot ← chooseInput config.input.joypadDriver slot
      let slot ← chooseContext config.video.coreContext slot
      let (bound, slot) ← slot.perform (.bindApi config.video.api config.video.version)
      if !succeeded bound then
        let _ ← slot.perform .destroy
        return .error (.unboundApi config.video.api config.video.version)
      else do
        let (_, slot) ← slot.perform (.swapInterval config.video.swapInterval)
        let (set, slot) ← slot.perform
          (.setVideoMode config.video.width config.video.height config.video.fullscreen)
        if !succeeded set then
          let _ ← slot.perform .destroy
          return .error .noVideoMode
        else do
          let slot ← tellMode slot
          tell .info "Starting render loop..."
          return .ok slot

/-! ### The loop -/

/-- Whether a frame limit has been reached. -/
def reached (limit : Option UInt64) (frame : UInt64) : Bool :=
  match limit with
  | none => false
  | some limit => decide (limit ≤ frame)

/-- **One turn of the loop.**  It ends the loop, or presents a frame. -/
def turn (limit : Option UInt64) (frame : UInt64) (slot : Slot) : Program Request (Bool × Slot) := do
  let (status, slot) ← slot.perform .checkWindow
  if quits status then
    tell .info "Shutdown signal received. Exiting render loop."
    return (true, slot)
  else if reached limit frame then
    tell .info ("Frame limit reached after " ++ toString frame.toNat ++ " frames.")
    return (true, slot)
  else do
    let (_, slot) ← slot.perform (.swapBuffers frame)
    return (false, slot)

/-- **The loop**, for at most a number of turns: the number of the frame at which it ended, or nothing
if it has not ended. -/
def loop (limit : Option UInt64) : Nat → UInt64 → Slot → Program Request (Option UInt64 × Slot)
  | 0, _, slot => return (none, slot)
  | turns + 1, frame, slot => do
      let (ended, slot) ← turn limit frame slot
      if ended then return (some frame, slot) else loop limit turns (frame + 1) slot

/-! ### After the loop -/

/-- **Everything after the loop**, which ended at the given frame. -/
def finish (frames : UInt64) (slot : Slot) : Program Request Unit := do
  if frames = 0 then tell .warn "No frames were presented."
  tell .info "Shutting down video context..."
  let _ ← slot.perform .destroy
  tell .info "kms-context exited successfully."

/-- How a run ends. -/
inductive Ending where
  | success
  | failure (failure : Failure)
  /-- The loop has not ended within its turns. -/
  | unfinished
  deriving DecidableEq, Repr

/-- **The whole program**, with at most a number of turns of its loop. -/
def run (config : Config) (turns : Nat) : Program Request Ending := do
  match ← prepare config with
  | .error failure => return .failure failure
  | .ok slot => do
      match ← loop config.demo.maxFrames turns 0 slot with
      | (none, _) => return .unfinished
      | (some frames, slot) => do
          finish frames slot
          return .success

end Scanout.Demo
