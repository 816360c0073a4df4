/-
**The display.**

The display runs in one mode. Its picture needs a frame buffer of whole scanlines, if that fits the
address space. A surface that is shown may own a back buffer; which capabilities the two then have
is a setting (`FlipChain`).
-/

import GuestDraw.Flags.Families
import GuestDraw.Pixel.Buffer

namespace GuestDraw

/-- The handle of the first object, unless configured otherwise. -/
def firstHandle : Nat := 0x2000

/-- Size and depth of the picture. -/
structure DisplayMode where
  width : Nat
  height : Nat
  depth : Nat
  deriving DecidableEq

namespace DisplayMode

/-- The mode of a display that was not configured. -/
def standard : DisplayMode := ⟨640, 480, 32⟩

/-- The distance of two scanlines of the picture. -/
def pitch (mode : DisplayMode) : Nat := GuestDraw.pitch mode.width mode.depth

/-- The bytes of one picture, if they fit the address space. -/
def frameSize? (mode : DisplayMode) : Option Nat :=
  if mode.pitch * mode.height < addressSpace then some (mode.pitch * mode.height) else none

end DisplayMode

/-- The capabilities that change when a surface gets a back buffer. -/
structure FlipChain where
  /-- What the back buffer loses of its owner's capabilities. -/
  childClear : SurfaceCaps
  /-- What the back buffer gains. -/
  childSet : SurfaceCaps
  /-- What its owner gains. -/
  parentSet : SurfaceCaps
  deriving DecidableEq

namespace FlipChain

open SurfaceCaps in
/-- The settings of a display that was not configured. -/
def standard : FlipChain where
  childClear := visible ∪ composite ∪ primarySurface ∪ frontBuffer
  childSet := backBuffer ∪ flip
  parentSet := frontBuffer ∪ flip

/-- The capabilities of the back buffer of a surface with capabilities `parent`. -/
def childCaps (chain : FlipChain) (parent : SurfaceCaps) : SurfaceCaps :=
  (parent \ chain.childClear) ∪ chain.childSet

end FlipChain

end GuestDraw
