import Scanout.Backend.Call

/-!
# Functions of the panel library

The panel library is reached through C functions: those that create and use a display, a presenter
and a render context, the one that clears the colour buffer, and three of EGL.  Their integers are
signed and have 32 bits; a creation that fails gives no handle.

## Main definitions

* `Native.Call` — a call of one of the functions, with the type of its result
* `Native.Event` — a call together with its result
* `Native.Call.act?` — what a call does on the panel, its handles forgotten
-/

namespace Scanout.Native

/-- **A call of a C function.** -/
inductive Call where
  | displayCreate
  | displayDestroy (display : Display)
  | presenterCreate (display : Display) (format background : UInt32)
  | presenterDestroy (presenter : Presenter)
  | presenterPost (presenter : Presenter) (surface : Surface) (source destination : Rect Int32)
      (rotation : Int32)
  | contextCreate (display : Display) (width height : Int32) (attributes : ContextAttributes Int32)
  | contextDestroy (context : RenderContext)
  | contextMakeCurrent (context : RenderContext)
  | contextSwapBuffers (context : RenderContext)
  | surfaceLock (context : RenderContext)
  | surfaceUnlock (context : RenderContext) (surface : Surface)
  | glClear (mask : UInt32)
  | eglBindApi (code : UInt32)
  | eglGetError
  | eglGetProcAddress (name : String)
  deriving DecidableEq, Repr

/-- What a call gives: a handle or none, a result code, an error code, or whether a function was
found. -/
abbrev Call.Answer : Call → Type
  | .displayCreate => Option Display
  | .presenterCreate _ _ _ => Option Presenter
  | .contextCreate _ _ _ _ => Option RenderContext
  | .surfaceLock _ => Option Surface
  | .eglBindApi _ => UInt32
  | .eglGetError => Int32
  | .eglGetProcAddress _ => Bool
  | .displayDestroy _ | .presenterDestroy _ | .presenterPost _ _ _ _ _ | .contextDestroy _
  | .contextMakeCurrent _ | .contextSwapBuffers _ | .surfaceUnlock _ _ | .glClear _ => Unit

instance : Questions Call := ⟨Call.Answer⟩

/-- A call together with its result. -/
abbrev Event := (call : Call) × call.Answer

/-- The name of the function that is called. -/
def Call.function : Call → String
  | .displayCreate => "go2_display_create"
  | .displayDestroy _ => "go2_display_destroy"
  | .presenterCreate _ _ _ => "go2_presenter_create"
  | .presenterDestroy _ => "go2_presenter_destroy"
  | .presenterPost _ _ _ _ _ => "go2_presenter_post"
  | .contextCreate _ _ _ _ => "go2_context_create"
  | .contextDestroy _ => "go2_context_destroy"
  | .contextMakeCurrent _ => "go2_context_make_current"
  | .contextSwapBuffers _ => "go2_context_swap_buffers"
  | .surfaceLock _ => "go2_context_surface_lock"
  | .surfaceUnlock _ _ => "go2_context_surface_unlock"
  | .glClear _ => "glClear"
  | .eglBindApi _ => "eglBindAPI"
  | .eglGetError => "eglGetError"
  | .eglGetProcAddress _ => "eglGetProcAddress"

end Scanout.Native
