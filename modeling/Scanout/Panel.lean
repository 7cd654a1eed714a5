import Scanout.Graphics.Context
import Scanout.Graphics.Placement

/-!
# The panel

The panel is a fixed surface of 480 by 320 that is mounted upright and therefore scanned out with
three quarter turns.  What is asked of the presenter and of the render context is fixed as well.
-/

namespace Scanout.Panel

/-- By this name a frontend knows the driver of the panel. -/
def ident : String := "kms"

def width : UInt32 := 480

def height : UInt32 := 320

/-- The pixel format of the presenter. -/
def format : PixelFormat := .rgb565

/-- What the presenter shows where no surface is. -/
def background : UInt32 := 0xff080808

/-- **How every frame is placed on the panel.** -/
def placement : Placement := Placement.ofSize width height .degrees270

/-- What the render context is asked to be. -/
def attributes : ContextAttributes UInt32 := ⟨3, 2, 8, 8, 8, 8, 0, 0⟩

/-- The greatest swap interval that the presenter honours. -/
def greatestInterval : Int32 := 1

/-- The video driver whose shaders are written in another language than GLSL. -/
def slangVideoDriver : String := "glcore"

/-- The input driver that cannot work without a window system. -/
def windowedInputDriver : String := "x"

end Scanout.Panel
