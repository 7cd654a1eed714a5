import Scanout.Machine.Question
import Scanout.Text.Hex

/-!
# The backend over the panel library

A presentation backend whose calls are calls of C functions.  Words are turned into signed integers
first, in the order in which the function takes them; a word that is too great is a failure and no
function is called.

## Main definitions

* `Native.toInt` — a word as a signed 32-bit integer, if it fits
* `Native.serveBackend` — answers a backend call
-/

namespace Scanout.Native

open Machine

/-- **A word as a signed 32-bit integer**, if it is at most the greatest of them. -/
def toInt (value : UInt32) : Except Failure Int32 :=
  if value ≤ 0x7fffffff then .ok value.toInt32 else .error (.beyondInt value)

/-- The number by which the library knows a rotation. -/
def rotationCode (rotation : Rotation) : Int32 := Int32.ofNat rotation.quarterTurns

/-- The bit that stands for the colour buffer. -/
def colorBufferBit : UInt32 := 0x4000

/-- The result of a creation: a handle, or the failure of the function that gave none. -/
def created {α : Type} (call : Call) : Option α → Except Failure α
  | some handle => .ok handle
  | none => .error (.noHandle call.function)

/-- Creates a render context once all its numbers are signed integers. -/
def createContext (display : Display) (width height : UInt32) (attributes : ContextAttributes UInt32) :
    Program Question (Except Failure RenderContext) :=
  let arguments : Except Failure (ContextAttributes Int32 × Int32 × Int32) := do
    let attributes ← attributes.mapM toInt
    let width ← toInt width
    let height ← toInt height
    return (attributes, width, height)
  match arguments with
  | .error failure => return .error failure
  | .ok (cAttributes, cWidth, cHeight) => do
      let function : Call := .contextCreate display cWidth cHeight cAttributes
      match ← call (.contextCreate display cWidth cHeight cAttributes) with
      | none => return created function none
      | some context =>
          say .info .panelLibrary ("Go2Backend: context " ++ toString attributes.major.toNat ++
            "." ++ toString attributes.minor.toNat ++ " created (" ++ toString width.toNat ++ "x" ++
            toString height.toNat ++ ")")
          return .ok context

/-- Posts a surface once all coordinates are signed integers. -/
def post (presenter : Presenter) (surface : Surface) (placement : Placement) :
    Program Question (Except Failure Unit) :=
  let rectangles : Except Failure (Rect Int32 × Rect Int32) := do
    let source ← placement.source.mapM toInt
    let destination ← placement.destination.mapM toInt
    return (source, destination)
  match rectangles with
  | .error failure => return .error failure
  | .ok (source, destination) => do
      call (.presenterPost presenter surface source destination (rotationCode placement.rotation))
      return .ok ()

/-- **Answers a backend call** by calling the panel library.  The library does not tell the refresh
rate. -/
def serveBackend : (call : Backend.Call) → Program Question call.Answer
  | .createDisplay => do
      match ← call .displayCreate with
      | none => return created .displayCreate none
      | some display =>
          say .info .panelLibrary "Go2Backend: display opened"
          return .ok display
  | .destroyDisplay display => call (.displayDestroy display)
  | .refreshRate _ => return none
  | .createPresenter display format background => do
      let function : Call := .presenterCreate display format.code background
      match ← call (.presenterCreate display format.code background) with
      | none => return created function none
      | some presenter =>
          say .debug .panelLibrary ("Go2Backend: presenter created (format " ++ format.render ++
            ", background " ++ Text.hexPadded 8 background.toNat ++ ")")
          return .ok presenter
  | .destroyPresenter presenter => call (.presenterDestroy presenter)
  | .post presenter surface placement => post presenter surface placement
  | .createContext display width height attributes => createContext display width height attributes
  | .destroyContext context => call (.contextDestroy context)
  | .makeCurrent context => call (.contextMakeCurrent context)
  | .clearColorBuffer => call (.glClear colorBufferBit)
  | .swapBuffers context => call (.contextSwapBuffers context)
  | .lockSurface context => do
      let surface ← call (.surfaceLock context)
      return created (.surfaceLock context) surface
  | .unlockSurface context surface => call (.surfaceUnlock context surface)

end Scanout.Native
