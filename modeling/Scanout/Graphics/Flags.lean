import Scanout.Text.Hex

/-!
# Capability flags

Frontend and driver agree on capabilities through a set of flags kept in one word.  Eleven bits have
names; a set may also hold bits that no name is known for, and those are kept.

## Main definitions

* `Flags` — a set of flags, named or not
* `Flags.names` — the names of the known flags in a set, in declaration order
* `Flags.render` — the text of a set: its names, then what no name covers
-/

namespace Scanout

/-- **A set of capability flags**, one bit each.  Bits without a name are kept as they are. -/
structure Flags where
  bits : UInt32
  deriving DecidableEq, Repr

namespace Flags

def empty : Flags := ⟨0⟩

def glCoreContext : Flags := ⟨0x2⟩
def multisampling : Flags := ⟨0x4⟩
def customizableSwapchainImages : Flags := ⟨0x8⟩
def hardSync : Flags := ⟨0x10⟩
def blackFrameInsertion : Flags := ⟨0x20⟩
def menuFrameFiltering : Flags := ⟨0x40⟩
def adaptiveVsync : Flags := ⟨0x80⟩
def shadersGlsl : Flags := ⟨0x100⟩
def shadersCg : Flags := ⟨0x200⟩
def shadersSlang : Flags := ⟨0x400⟩
def shadersHlsl : Flags := ⟨0x800⟩

/-- **The named flags**, in declaration order. -/
def declared : List (String × Flags) := [
  ("GL_CORE_CONTEXT", glCoreContext),
  ("MULTISAMPLING", multisampling),
  ("CUSTOMIZABLE_SWAPCHAIN_IMAGES", customizableSwapchainImages),
  ("HARD_SYNC", hardSync),
  ("BLACK_FRAME_INSERTION", blackFrameInsertion),
  ("MENU_FRAME_FILTERING", menuFrameFiltering),
  ("ADAPTIVE_VSYNC", adaptiveVsync),
  ("SHADERS_GLSL", shadersGlsl),
  ("SHADERS_CG", shadersCg),
  ("SHADERS_SLANG", shadersSlang),
  ("SHADERS_HLSL", shadersHlsl)]

/-! ### Set operations -/

/-- The flags in either set. -/
def union (x y : Flags) : Flags := ⟨x.bits ||| y.bits⟩

/-- The flags in both sets. -/
def inter (x y : Flags) : Flags := ⟨x.bits &&& y.bits⟩

/-- The flags of `x` that are not in `y`. -/
def diff (x y : Flags) : Flags := ⟨x.bits &&& ~~~y.bits⟩

/-- The flags in exactly one of the sets. -/
def symmDiff (x y : Flags) : Flags := ⟨x.bits ^^^ y.bits⟩

/-- Whether every flag of `y` is in `x`. -/
def contains (x y : Flags) : Bool := x.bits &&& y.bits == y.bits

/-- Whether the sets share a flag. -/
def intersects (x y : Flags) : Bool := x.bits &&& y.bits != 0

/-- Every named flag. -/
def all : Flags := declared.foldl (fun acc flag => acc.union flag.2) empty

/-- The named flags of a set. -/
def truncate (x : Flags) : Flags := x.inter all

/-- The named flags that are not in the set. -/
def complement (x : Flags) : Flags := all.diff x

/-- Whether every named flag is in the set. -/
def isAll (x : Flags) : Bool := x.contains all

/-- Whether the set has no flag at all. -/
def isEmpty (x : Flags) : Bool := x.bits == 0

/-- The set of exactly these bits, if each of them has a name. -/
def ofBits? (bits : UInt32) : Option Flags :=
  if (Flags.mk bits).diff all == empty then some ⟨bits⟩ else none

/-! ### Names -/

/-- The flag of a given name. -/
def ofName? (name : String) : Option Flags :=
  (declared.find? fun flag => flag.1 == name).map Prod.snd

/-- The names of the flags in a set, in declaration order. -/
def names (x : Flags) : List String :=
  (declared.filter fun flag => x.contains flag.2).map Prod.fst

/-- What is left of a set without the named flags. -/
def unnamed (x : Flags) : Flags := x.diff all

/-- **The text of a set**: the names of its flags and, after them, the bits that have no name. -/
def render (x : Flags) : String :=
  let rest := if x.unnamed.isEmpty && !x.isEmpty then [] else [Text.hex x.unnamed.bits.toNat]
  "ContextFlags(" ++ String.intercalate " | " (x.names ++ rest) ++ ")"

end Flags

end Scanout
