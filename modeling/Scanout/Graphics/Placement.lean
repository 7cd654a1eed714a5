/-!
# Rectangles, rotations and placements

A frame is scanned out by placing a source rectangle of the surface on a destination rectangle of
the panel, turned clockwise by a multiple of a right angle.

## Main definitions

* `Rect` — a rectangle, over any kind of coordinate
* `Rotation` — no turn, or one of three
* `Placement` — source, destination and rotation
* `Placement.ofSize` — the placement that fills the panel from a surface of a given size
-/

namespace Scanout

/-- A rectangle by its corner and its size.  The coordinates are unsigned words, or the integers of
a narrower interface. -/
structure Rect (ι : Type) where
  x : ι
  y : ι
  width : ι
  height : ι
  deriving DecidableEq, Repr

namespace Rect

/-- The rectangle of a given size at the origin. -/
def ofSize (width height : UInt32) : Rect UInt32 := ⟨0, 0, width, height⟩

/-- Converts the coordinates in the order x, y, width, height; the first failure is the answer. -/
def mapM {m : Type → Type} [Monad m] {ι κ : Type} (f : ι → m κ) (r : Rect ι) : m (Rect κ) := do
  let x ← f r.x
  let y ← f r.y
  let width ← f r.width
  let height ← f r.height
  return ⟨x, y, width, height⟩

/-- How a message shows a rectangle. -/
def render (r : Rect UInt32) : String :=
  "Rect \x7b x: " ++ toString r.x.toNat ++ ", y: " ++ toString r.y.toNat ++ ", width: " ++
    toString r.width.toNat ++ ", height: " ++ toString r.height.toNat ++ " \x7d"

end Rect

/-- A clockwise turn of the surface on its way to the panel. -/
inductive Rotation where
  | degrees0
  | degrees90
  | degrees180
  | degrees270
  deriving DecidableEq, Repr

namespace Rotation

/-- A quarter turn either way exchanges the horizontal and the vertical axis. -/
def swapsAxes : Rotation → Bool
  | degrees90 | degrees270 => true
  | degrees0 | degrees180 => false

/-- The number of clockwise quarter turns. -/
def quarterTurns : Rotation → Nat
  | degrees0 => 0
  | degrees90 => 1
  | degrees180 => 2
  | degrees270 => 3

/-- How a message shows a rotation. -/
def render (r : Rotation) : String := "Degrees" ++ toString (90 * r.quarterTurns)

end Rotation

/-- **Where a surface goes**: the part of it that is shown, the part of the panel that shows it, and
the turn between the two. -/
structure Placement where
  source : Rect UInt32
  destination : Rect UInt32
  rotation : Rotation
  deriving DecidableEq, Repr

namespace Placement

/-- The placement of a whole surface of the given size.  The destination follows from the source and
the rotation, so the two cannot disagree. -/
def ofSize (width height : UInt32) (rotation : Rotation) : Placement where
  source := Rect.ofSize width height
  destination := if rotation.swapsAxes then Rect.ofSize height width else Rect.ofSize width height
  rotation := rotation

end Placement

end Scanout
