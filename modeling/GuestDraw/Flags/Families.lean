/-
**The options of surfaces and palettes.**

The seven kinds of option words that the drawing interface takes and reports, each with the names
of its bits, and the sets that the engine itself asks about.
-/

import GuestDraw.Flags

namespace GuestDraw

/-! ### What a surface is -/

def surfaceCapsFamily : FlagFamily where
  title := "SurfaceCaps"
  named := [
    ("ALPHA", 0x00000002), ("BACKBUFFER", 0x00000004), ("COMPLEX", 0x00000008),
    ("FLIP", 0x00000010), ("FRONTBUFFER", 0x00000020), ("OFFSCREENPLAIN", 0x00000040),
    ("OVERLAY", 0x00000080), ("PALETTE", 0x00000100), ("PRIMARYSURFACE", 0x00000200),
    ("PRIMARYSURFACELEFT", 0x00000400), ("SYSTEMMEMORY", 0x00000800), ("TEXTURE", 0x00001000),
    ("THREE_D_DEVICE", 0x00002000), ("VIDEOMEMORY", 0x00004000), ("VISIBLE", 0x00008000),
    ("WRITEONLY", 0x00010000), ("ZBUFFER", 0x00020000), ("OWNDC", 0x00040000),
    ("LIVEVIDEO", 0x00080000), ("HWCODEC", 0x00100000), ("MODEX", 0x00200000),
    ("MIPMAP", 0x00400000), ("ALLOCONLOAD", 0x04000000), ("VIDEOPORT", 0x08000000),
    ("LOCALVIDMEM", 0x10000000), ("NONLOCALVIDMEM", 0x20000000), ("STANDARDVGAMODE", 0x40000000),
    ("OPTIMIZED", 0x80000000)]

/-- What a surface is and where its pixels lie. -/
abbrev SurfaceCaps := FlagSet surfaceCapsFamily

namespace SurfaceCaps

def backBuffer : SurfaceCaps := ⟨0x4⟩
def composite : SurfaceCaps := ⟨0x8⟩
def flip : SurfaceCaps := ⟨0x10⟩
def frontBuffer : SurfaceCaps := ⟨0x20⟩
def offscreenPlain : SurfaceCaps := ⟨0x40⟩
def palette : SurfaceCaps := ⟨0x100⟩
def primarySurface : SurfaceCaps := ⟨0x200⟩
def systemMemory : SurfaceCaps := ⟨0x800⟩
def videoMemory : SurfaceCaps := ⟨0x4000⟩
def visible : SurfaceCaps := ⟨0x8000⟩
def writeOnly : SurfaceCaps := ⟨0x10000⟩
def ownContext : SurfaceCaps := ⟨0x40000⟩
def localVideoMemory : SurfaceCaps := ⟨0x10000000⟩

/-- What a request for a surface may ask for. -/
def creatable : SurfaceCaps :=
  primarySurface ∪ offscreenPlain ∪ composite ∪ flip ∪ systemMemory ∪ videoMemory
    ∪ localVideoMemory ∪ visible ∪ palette ∪ frontBuffer ∪ backBuffer ∪ writeOnly ∪ ownContext

end SurfaceCaps

/-! ### How a surface is locked -/

def lockFlagsFamily : FlagFamily where
  title := "LockFlags"
  named := [
    ("WAIT", 0x0001), ("EVENT", 0x0002), ("READONLY", 0x0010), ("WRITEONLY", 0x0020),
    ("NOSYSLOCK", 0x0800), ("NOOVERWRITE", 0x1000), ("DISCARDCONTENTS", 0x2000)]

/-- How a surface is to be locked. -/
abbrev LockFlags := FlagSet lockFlagsFamily

namespace LockFlags

def event : LockFlags := ⟨0x2⟩
def noSystemLock : LockFlags := ⟨0x800⟩
def noOverwrite : LockFlags := ⟨0x1000⟩
def discardContents : LockFlags := ⟨0x2000⟩

/-- The ways of locking that do not exist here. -/
def unsupported : LockFlags := event ∪ noSystemLock ∪ noOverwrite ∪ discardContents

end LockFlags

/-! ### Which fields of a descriptor count -/

def descFlagsFamily : FlagFamily where
  title := "DescFlags"
  named := [
    ("CAPS", 0x00000001), ("HEIGHT", 0x00000002), ("WIDTH", 0x00000004), ("PITCH", 0x00000008),
    ("BACKBUFFERCOUNT", 0x00000020), ("ZBUFFERBITDEPTH", 0x00000040),
    ("ALPHABITDEPTH", 0x00000080), ("LPSURFACE", 0x00000800), ("PIXELFORMAT", 0x00001000),
    ("CKDESTOVERLAY", 0x00002000), ("CKDESTBLT", 0x00004000), ("CKSRCOVERLAY", 0x00008000),
    ("CKSRCBLT", 0x00010000), ("MIPMAPCOUNT", 0x00020000), ("REFRESHRATE", 0x00040000),
    ("LINEARSIZE", 0x00080000), ("TEXTURESTAGE", 0x00100000)]

/-- Which fields of a descriptor are valid. -/
abbrev DescFlags := FlagSet descFlagsFamily

namespace DescFlags

def caps : DescFlags := ⟨0x1⟩
def height : DescFlags := ⟨0x2⟩
def width : DescFlags := ⟨0x4⟩
def pitch : DescFlags := ⟨0x8⟩
def backBufferCount : DescFlags := ⟨0x20⟩
def pixelFormat : DescFlags := ⟨0x1000⟩

end DescFlags

/-! ### What the pixels of a descriptor are -/

def pixelFormatFlagsFamily : FlagFamily where
  title := "PixelFormatFlags"
  named := [
    ("ALPHAPIXELS", 0x01), ("ALPHA", 0x02), ("FOURCC", 0x04), ("PALETTEINDEXED4", 0x08),
    ("PALETTEINDEXED8", 0x20), ("RGB", 0x40)]

/-- What the pixels of a descriptor are. -/
abbrev PixelFormatFlags := FlagSet pixelFormatFlagsFamily

namespace PixelFormatFlags

def paletteIndexed8 : PixelFormatFlags := ⟨0x20⟩
def rgb : PixelFormatFlags := ⟨0x40⟩

end PixelFormatFlags

/-! ### How pixels are copied -/

def bltFastFlagsFamily : FlagFamily where
  title := "BltFastFlags"
  named := [("SRCCOLORKEY", 0x01), ("DESTCOLORKEY", 0x02), ("WAIT", 0x10), ("DONOTWAIT", 0x20)]

/-- How pixels are to be copied. -/
abbrev BltFastFlags := FlagSet bltFastFlagsFamily

namespace BltFastFlags

def sourceColourKey : BltFastFlags := ⟨0x1⟩
def targetColourKey : BltFastFlags := ⟨0x2⟩

end BltFastFlags

/-! ### What a palette is -/

def paletteCapsFamily : FlagFamily where
  title := "PaletteCaps"
  named := [
    ("FOURBIT", 0x001), ("EIGHTBITENTRIES", 0x002), ("EIGHTBIT", 0x004), ("INITIALIZE", 0x008),
    ("PRIMARYSURFACE", 0x010), ("PRIMARYSURFACELEFT", 0x020), ("ALLOW256", 0x040),
    ("VSYNC", 0x080), ("ONEBIT", 0x100), ("TWOBIT", 0x200), ("ALPHA", 0x400)]

/-- What a palette is. -/
abbrev PaletteCaps := FlagSet paletteCapsFamily

namespace PaletteCaps

def fourBit : PaletteCaps := ⟨0x1⟩
def eightBitEntries : PaletteCaps := ⟨0x2⟩
def eightBit : PaletteCaps := ⟨0x4⟩

end PaletteCaps

/-! ### Which interface a surface serves -/

def surfaceFlagsFamily : FlagFamily where
  title := "SurfaceFlags"
  named := [("CAPS2", 0x1), ("DESC2", 0x2)]

/-- Which generation of the interface created a surface. -/
abbrev SurfaceFlags := FlagSet surfaceFlagsFamily

namespace SurfaceFlags

/-- Capabilities are reported as four dwords. -/
def wideCaps : SurfaceFlags := ⟨0x1⟩

/-- The descriptor has the extended layout. -/
def wideDescriptor : SurfaceFlags := ⟨0x2⟩

end SurfaceFlags

/-- Every kind of options. -/
def FlagFamily.all : List FlagFamily :=
  [surfaceCapsFamily, lockFlagsFamily, descFlagsFamily, pixelFormatFlagsFamily,
    bltFastFlagsFamily, paletteCapsFamily, surfaceFlagsFamily]

end GuestDraw
