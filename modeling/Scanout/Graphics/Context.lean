/-!
# Pixel formats and context attributes

What a presenter and a render context are asked for when they are created.
-/

namespace Scanout

/-- A pixel format the presenter understands. -/
inductive PixelFormat where
  | rgb565
  deriving DecidableEq, Repr

namespace PixelFormat

/-- The four letters by which a format is known, read as a little-endian word. -/
def letters : PixelFormat → List Char
  | rgb565 => ['R', 'G', '1', '6']

/-- The word that four letters make, the first letter in the lowest byte. -/
def word (letters : List Char) : UInt32 :=
  letters.foldr (fun c acc => acc <<< 8 ||| c.toNat.toUInt32) 0

/-- The code of a format. -/
def code (format : PixelFormat) : UInt32 := word format.letters

/-- How a message shows a format. -/
def render : PixelFormat → String
  | rgb565 => "Rgb565"

end PixelFormat

/-- What a render context is asked to be: its API version and the bits of each buffer. -/
structure ContextAttributes (ι : Type) where
  major : ι
  minor : ι
  redBits : ι
  greenBits : ι
  blueBits : ι
  alphaBits : ι
  depthBits : ι
  stencilBits : ι
  deriving DecidableEq, Repr

namespace ContextAttributes

/-- Converts the attributes in declaration order; the first failure is the answer. -/
def mapM {m : Type → Type} [Monad m] {ι κ : Type} (f : ι → m κ) (a : ContextAttributes ι) :
    m (ContextAttributes κ) := do
  let major ← f a.major
  let minor ← f a.minor
  let redBits ← f a.redBits
  let greenBits ← f a.greenBits
  let blueBits ← f a.blueBits
  let alphaBits ← f a.alphaBits
  let depthBits ← f a.depthBits
  let stencilBits ← f a.stencilBits
  return ⟨major, minor, redBits, greenBits, blueBits, alphaBits, depthBits, stencilBits⟩

/-- The attributes in declaration order. -/
def toList {ι : Type} (a : ContextAttributes ι) : List ι :=
  [a.major, a.minor, a.redBits, a.greenBits, a.blueBits, a.alphaBits, a.depthBits, a.stencilBits]

/-- How a message shows attributes. -/
def render (a : ContextAttributes UInt32) : String :=
  let names := ["major", "minor", "red_bits", "green_bits", "blue_bits", "alpha_bits",
    "depth_bits", "stencil_bits"]
  let fields := List.zipWith (fun name value => name ++ ": " ++ toString value.toNat) names a.toList
  "ContextAttributes \x7b " ++ String.intercalate ", " fields ++ " \x7d"

end ContextAttributes

end Scanout
