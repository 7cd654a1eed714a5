import Scanout.Native.Backend
import Scanout.Native.Egl
import Scanout.Proofs.Machine.Surroundings

/-!
# What is done with the panel library

The calls of the panel library have handles among their arguments, which are of no interest to what is
seen on the panel.  With the handles forgotten a call is an act; its numbers are the integers that the
signed and unsigned words of the interface stand for, so that acts of other interfaces can be compared
with it.

## Main definitions

* `Native.Act` — a call of the panel library, its handles forgotten
* `Native.acts` — the acts of a transcript; a creation that gave no handle is none of them
* `Backend.Act.native` — the act of the panel library that an act of a backend stands for

## Main results

* `Native.acts_serveBackend` — a backend call does on the panel what it stands for
-/

namespace Scanout

/-- A rectangle with other coordinates. -/
def Rect.map {ι κ : Type} (f : ι → κ) (r : Rect ι) : Rect κ :=
  ⟨f r.x, f r.y, f r.width, f r.height⟩

/-- Attributes with other numbers. -/
def ContextAttributes.map {ι κ : Type} (f : ι → κ) (a : ContextAttributes ι) :
    ContextAttributes κ :=
  ⟨f a.major, f a.minor, f a.redBits, f a.greenBits, f a.blueBits, f a.alphaBits, f a.depthBits,
    f a.stencilBits⟩

namespace Native

/-- **A call of the panel library, its handles forgotten.** -/
inductive Act where
  | displayCreate
  | displayDestroy
  | presenterCreate (format background : Int)
  | presenterDestroy
  | presenterPost (source destination : Rect Int) (rotation : Int)
  | contextCreate (width height : Int) (attributes : ContextAttributes Int)
  | contextDestroy
  | contextMakeCurrent
  | contextSwapBuffers
  | surfaceLock
  | surfaceUnlock
  | glClear (mask : Int)
  deriving DecidableEq, Repr

/-- The integer of a word. -/
def integer (word : UInt32) : Int := word.toNat

/-- **The act of a call with its result.**  A creation that gave no handle has done nothing, and the
functions of EGL do nothing on the panel. -/
def act? : Event → Option Act
  | ⟨.displayCreate, made⟩ => made.map fun _ => .displayCreate
  | ⟨.displayDestroy _, _⟩ => some .displayDestroy
  | ⟨.presenterCreate _ format background, made⟩ =>
      made.map fun _ => .presenterCreate (integer format) (integer background)
  | ⟨.presenterDestroy _, _⟩ => some .presenterDestroy
  | ⟨.presenterPost _ _ source destination rotation, _⟩ =>
      some (.presenterPost (source.map Int32.toInt) (destination.map Int32.toInt) rotation.toInt)
  | ⟨.contextCreate _ width height attributes, made⟩ =>
      made.map fun _ => .contextCreate width.toInt height.toInt (attributes.map Int32.toInt)
  | ⟨.contextDestroy _, _⟩ => some .contextDestroy
  | ⟨.contextMakeCurrent _, _⟩ => some .contextMakeCurrent
  | ⟨.contextSwapBuffers _, _⟩ => some .contextSwapBuffers
  | ⟨.surfaceLock _, made⟩ => made.map fun _ => .surfaceLock
  | ⟨.surfaceUnlock _ _, _⟩ => some .surfaceUnlock
  | ⟨.glClear mask, _⟩ => some (.glClear (integer mask))
  | ⟨.eglBindApi _, _⟩ | ⟨.eglGetError, _⟩ | ⟨.eglGetProcAddress _, _⟩ => none

/-- The act of an exchange with the machine, if it is one. -/
def actOf? : Exchange Machine.Question → Option Act
  | ⟨.native call, reply⟩ => act? ⟨call, reply⟩
  | _ => none

/-- **The acts of a transcript**, in order. -/
def acts (exchanges : List (Exchange Machine.Question)) : List Act := exchanges.filterMap actOf?

/-- Whether a function is one of EGL. -/
def Call.ofEgl : Call → Bool
  | .eglBindApi _ | .eglGetError | .eglGetProcAddress _ => true
  | _ => false

end Native

/-- Whether a question is a call of a function of EGL. -/
def Machine.Question.callsEgl : Machine.Question → Bool
  | .native call => call.ofEgl
  | _ => false

open Native (integer)

/-- **The act of the panel library that an act of a backend stands for**: the same numbers, the format
by its code and the rotation by the number of its quarter turns. -/
def Backend.Act.native : Backend.Act → Native.Act
  | .createDisplay => .displayCreate
  | .createPresenter format background =>
      .presenterCreate (integer format.code) (integer background)
  | .createContext width height attributes =>
      .contextCreate (integer width) (integer height) (attributes.map integer)
  | .makeCurrent => .contextMakeCurrent
  | .clearColorBuffer => .glClear (integer Native.colorBufferBit)
  | .swapBuffers => .contextSwapBuffers
  | .lockSurface => .surfaceLock
  | .post placement =>
      .presenterPost (placement.source.map integer) (placement.destination.map integer)
        placement.rotation.quarterTurns
  | .unlockSurface => .surfaceUnlock
  | .destroyContext => .contextDestroy
  | .destroyPresenter => .presenterDestroy
  | .destroyDisplay => .displayDestroy

/-- **The act of a call with its answer**: none if the call failed. -/
def Backend.performed? : Exchange Backend.Call → Option Backend.Act
  | ⟨.createDisplay, .error _⟩ => none
  | ⟨.createPresenter _ _ _, .error _⟩ => none
  | ⟨.createContext _ _ _ _, .error _⟩ => none
  | ⟨.post _ _ _, .error _⟩ => none
  | ⟨.lockSurface _, .error _⟩ => none
  | ⟨call, _⟩ => call.act?

namespace Native

open Machine (Question)

/-! ### Words as integers -/

/-- **A word that fits is the integer it stands for.** -/
theorem toInt_of_toInt_eq {word : UInt32} {value : Int32} (fits : toInt word = .ok value) :
    value.toInt = integer word := by
  unfold toInt at fits
  split at fits
  · next small =>
    obtain rfl := Except.ok.inj fits
    have bound : word.toNat ≤ 2147483647 := UInt32.le_iff_toNat_le.mp small
    have half : 2 * word.toBitVec.toNat < 2 ^ 32 := by
      rw [UInt32.toNat_toBitVec]
      omega
    exact BitVec.toInt_eq_toNat_of_lt half
  · cases fits

/-- A bind of results succeeds if both of its parts do. -/
theorem bind_eq_ok {ε α β : Type} {x : Except ε α} {f : α → Except ε β} {b : β} :
    (x >>= f) = .ok b ↔ ∃ a, x = .ok a ∧ f a = .ok b := by
  cases x with
  | error e => exact ⟨nofun, fun ⟨_, bad, _⟩ => nomatch bad⟩
  | ok a => exact ⟨fun ok => ⟨a, rfl, ok⟩, fun ⟨_, same, ok⟩ => Except.ok.inj same ▸ ok⟩

/-- A rectangle that fits stands for the same integers. -/
theorem rect_map_of_mapM {r : Rect UInt32} {r' : Rect Int32} (fits : r.mapM toInt = .ok r') :
    r'.map Int32.toInt = r.map integer := by
  simp only [Rect.mapM, bind_eq_ok] at fits
  obtain ⟨x, hx, y, hy, width, hwidth, height, hheight, ended⟩ := fits
  obtain rfl := Except.ok.inj ended
  simp only [Rect.map, toInt_of_toInt_eq hx, toInt_of_toInt_eq hy, toInt_of_toInt_eq hwidth,
    toInt_of_toInt_eq hheight]

/-- Attributes that fit stand for the same integers. -/
theorem attributes_map_of_mapM {a : ContextAttributes UInt32} {a' : ContextAttributes Int32}
    (fits : a.mapM toInt = .ok a') : a'.map Int32.toInt = a.map integer := by
  simp only [ContextAttributes.mapM, bind_eq_ok] at fits
  obtain ⟨major, hmajor, minor, hminor, red, hred, green, hgreen, blue, hblue, alpha, halpha,
    depth, hdepth, stencil, hstencil, ended⟩ := fits
  obtain rfl := Except.ok.inj ended
  simp only [ContextAttributes.map, toInt_of_toInt_eq hmajor, toInt_of_toInt_eq hminor,
    toInt_of_toInt_eq hred, toInt_of_toInt_eq hgreen, toInt_of_toInt_eq hblue,
    toInt_of_toInt_eq halpha, toInt_of_toInt_eq hdepth, toInt_of_toInt_eq hstencil]

/-- A rotation is known to the library by the number of its quarter turns. -/
theorem toInt_rotationCode (rotation : Rotation) :
    (rotationCode rotation).toInt = rotation.quarterTurns := by
  cases rotation <;> rfl

/-! ### Backend calls -/

theorem acts_append (first later : List (Exchange Question)) :
    acts (first ++ later) = acts first ++ acts later := List.filterMap_append

/-- **A backend call does on the panel what it stands for**, once, if it succeeds, and nothing if it
fails. -/
theorem acts_serveBackend {call : Backend.Call} {reply : call.Answer}
    {exchanges : List (Exchange Question)} (run : (serveBackend call).Yields exchanges reply) :
    acts exchanges = ((Backend.performed? ⟨call, reply⟩).map Backend.Act.native).toList := by
  cases call with
  | destroyDisplay | destroyPresenter | destroyContext | makeCurrent | clearColorBuffer
  | swapBuffers | unlockSurface =>
      obtain ⟨-, rest, rfl, rfl, -⟩ := run
      rfl
  | refreshRate =>
      obtain ⟨rfl, -⟩ := run
      rfl
  | createDisplay =>
      obtain ⟨made, rest, rfl, run⟩ := run
      cases made with
      | none =>
          obtain ⟨rfl, rfl⟩ := run
          rfl
      | some display =>
          obtain ⟨-, rest, rfl, rfl, rfl⟩ := run
          rfl
  | createPresenter display format background =>
      obtain ⟨made, rest, rfl, run⟩ := run
      cases made with
      | none =>
          obtain ⟨rfl, rfl⟩ := run
          rfl
      | some presenter =>
          obtain ⟨-, rest, rfl, rfl, rfl⟩ := run
          rfl
  | lockSurface context =>
      obtain ⟨made, rest, rfl, rfl, rfl⟩ := run
      cases made <;> rfl
  | post presenter surface placement =>
      change (post presenter surface placement).Yields exchanges reply at run
      unfold post at run
      dsimp only at run
      split at run
      · obtain ⟨rfl, rfl⟩ := run
        rfl
      · next source destination fits =>
        obtain ⟨-, rest, rfl, rfl, rfl⟩ := run
        simp only [bind_eq_ok] at fits
        obtain ⟨source', hsource, destination', hdestination, ended⟩ := fits
        obtain ⟨rfl, rfl⟩ := Prod.mk.inj (Except.ok.inj ended)
        show [Act.presenterPost _ _ _] = [Act.presenterPost _ _ _]
        rw [rect_map_of_mapM hsource, rect_map_of_mapM hdestination, toInt_rotationCode]
  | createContext display width height attributes =>
      change (createContext display width height attributes).Yields exchanges reply at run
      unfold createContext at run
      dsimp only at run
      split at run
      · obtain ⟨rfl, rfl⟩ := run
        rfl
      · next cAttributes cWidth cHeight fits =>
        simp only [bind_eq_ok] at fits
        obtain ⟨attributes', hattributes, width', hwidth, height', hheight, ended⟩ := fits
        obtain ⟨rfl, sizes⟩ := Prod.mk.inj (Except.ok.inj ended)
        obtain ⟨rfl, rfl⟩ := Prod.mk.inj sizes
        obtain ⟨made, rest, rfl, run⟩ := run
        cases made with
        | none =>
            obtain ⟨rfl, rfl⟩ := run
            rfl
        | some context =>
            obtain ⟨-, rest, rfl, rfl, rfl⟩ := run
            show [Act.contextCreate _ _ _] = [Act.contextCreate _ _ _]
            rw [toInt_of_toInt_eq hwidth, toInt_of_toInt_eq hheight,
              attributes_map_of_mapM hattributes]

/-- **A backend call calls functions of the panel library** and asks nothing else. -/
theorem asksOnly_serveBackend (call : Backend.Call) :
    (serveBackend call).AsksOnly fun question =>
      question.isShared = false ∧ question.callsEgl = false := by
  cases call with
  | destroyDisplay | destroyPresenter | destroyContext | makeCurrent | clearColorBuffer
  | swapBuffers | unlockSurface | lockSurface => exact ⟨⟨rfl, rfl⟩, fun _ => trivial⟩
  | refreshRate => trivial
  | createDisplay =>
      refine ⟨⟨rfl, rfl⟩, fun made => ?_⟩
      cases made with
      | none => trivial
      | some display => exact ⟨⟨rfl, rfl⟩, fun _ => trivial⟩
  | createPresenter display format background =>
      refine ⟨⟨rfl, rfl⟩, fun made => ?_⟩
      cases made with
      | none => trivial
      | some presenter => exact ⟨⟨rfl, rfl⟩, fun _ => trivial⟩
  | post presenter surface placement =>
      change (post presenter surface placement).AsksOnly _
      unfold post
      dsimp only
      split
      · trivial
      · exact ⟨⟨rfl, rfl⟩, fun _ => trivial⟩
  | createContext display width height attributes =>
      change (createContext display width height attributes).AsksOnly _
      unfold createContext
      dsimp only
      split
      · trivial
      · refine ⟨⟨rfl, rfl⟩, fun made => ?_⟩
        cases made with
        | none => trivial
        | some context => exact ⟨⟨rfl, rfl⟩, fun _ => trivial⟩

namespace Egl

/-- **An EGL call does nothing on the panel**, and asks nothing of the surroundings. -/
theorem asksOnly_serve (e : Egl) (call : Egl.Call) :
    (e.serve call).AsksOnly fun question =>
      question.isShared = false ∧ ∀ reply, actOf? ⟨question, reply⟩ = none := by
  cases call with
  | supports | hasCreateContext => trivial
  | bindApi api =>
      refine Program.AsksOnly.bind ?_ fun _ => trivial
      refine ⟨⟨rfl, fun _ => rfl⟩, fun (code : UInt32) => ?_⟩
      change Program.AsksOnly _ (if code == bound then _ else _)
      split
      · trivial
      · exact ⟨⟨rfl, fun _ => rfl⟩, fun _ => ⟨⟨rfl, fun _ => rfl⟩, fun _ => trivial⟩⟩
  | procAddress symbol =>
      refine Program.AsksOnly.bind ?_ fun _ => trivial
      unfold procAddress
      split
      · trivial
      · exact ⟨⟨rfl, fun _ => rfl⟩, fun _ => trivial⟩
  | bindHwRender enable =>
      rw [serve]
      split
      · exact ⟨⟨rfl, fun _ => rfl⟩, fun _ => trivial⟩
      · trivial

end Egl

end Native

end Scanout
