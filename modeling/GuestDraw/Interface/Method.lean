/-
**The methods of surfaces and palettes.**

Guest code calls a method through a table of addresses. The order of the methods in `all` is the
order of their slots; every method takes a fixed number of dwords, the interface pointer first.
-/

namespace GuestDraw

inductive SurfaceMethod where
  | queryInterface
  | addRef
  | release
  | addAttachedSurface
  | addOverlayDirtyRect
  | blt
  | bltBatch
  | bltFast
  | deleteAttachedSurface
  | enumAttachedSurfaces
  | enumOverlayZOrders
  | flip
  | getAttachedSurface
  | getBltStatus
  | getCaps
  | getClipper
  | getColorKey
  | getDC
  | getFlipStatus
  | getOverlayPosition
  | getPalette
  | getPixelFormat
  | getSurfaceDesc
  | setUp
  | isLost
  | lock
  | releaseDC
  | restore
  | setClipper
  | setColorKey
  | setOverlayPosition
  | setPalette
  | unlock
  | updateOverlay
  | updateOverlayDisplay
  | updateOverlayZOrder
  deriving DecidableEq

namespace SurfaceMethod

/-- Every method, in the order of the slots. -/
def all : List SurfaceMethod :=
  [queryInterface, addRef, release, addAttachedSurface, addOverlayDirtyRect, blt, bltBatch, bltFast,
    deleteAttachedSurface, enumAttachedSurfaces, enumOverlayZOrders, flip, getAttachedSurface,
    getBltStatus, getCaps, getClipper, getColorKey, getDC, getFlipStatus, getOverlayPosition,
    getPalette, getPixelFormat, getSurfaceDesc, setUp, isLost, lock, releaseDC, restore,
    setClipper, setColorKey, setOverlayPosition, setPalette, unlock, updateOverlay,
    updateOverlayDisplay, updateOverlayZOrder]

/-- The name of a method within its interface. -/
def label : SurfaceMethod → String
  | queryInterface => "QueryInterface"
  | addRef => "AddRef"
  | release => "Release"
  | addAttachedSurface => "AddAttachedSurface"
  | addOverlayDirtyRect => "AddOverlayDirtyRect"
  | blt => "Blt"
  | bltBatch => "BltBatch"
  | bltFast => "BltFast"
  | deleteAttachedSurface => "DeleteAttachedSurface"
  | enumAttachedSurfaces => "EnumAttachedSurfaces"
  | enumOverlayZOrders => "EnumOverlayZOrders"
  | flip => "Flip"
  | getAttachedSurface => "GetAttachedSurface"
  | getBltStatus => "GetBltStatus"
  | getCaps => "GetCaps"
  | getClipper => "GetClipper"
  | getColorKey => "GetColorKey"
  | getDC => "GetDC"
  | getFlipStatus => "GetFlipStatus"
  | getOverlayPosition => "GetOverlayPosition"
  | getPalette => "GetPalette"
  | getPixelFormat => "GetPixelFormat"
  | getSurfaceDesc => "GetSurfaceDesc"
  | setUp => "Initialize"
  | isLost => "IsLost"
  | lock => "Lock"
  | releaseDC => "ReleaseDC"
  | restore => "Restore"
  | setClipper => "SetClipper"
  | setColorKey => "SetColorKey"
  | setOverlayPosition => "SetOverlayPosition"
  | setPalette => "SetPalette"
  | unlock => "Unlock"
  | updateOverlay => "UpdateOverlay"
  | updateOverlayDisplay => "UpdateOverlayDisplay"
  | updateOverlayZOrder => "UpdateOverlayZOrder"

/-- How many dwords a method takes, the interface pointer included. -/
def arity : SurfaceMethod → Nat
  | addRef | release | isLost | restore => 1
  | addAttachedSurface | addOverlayDirtyRect | getBltStatus | getCaps | getClipper | getDC
  | getFlipStatus | getPalette | getPixelFormat | getSurfaceDesc | releaseDC | setClipper
  | setPalette | unlock | updateOverlayDisplay => 2
  | queryInterface | deleteAttachedSurface | enumAttachedSurfaces | flip | getAttachedSurface
  | getColorKey | getOverlayPosition | setUp | setColorKey | setOverlayPosition
  | updateOverlayZOrder => 3
  | bltBatch | enumOverlayZOrders => 4
  | lock => 5
  | blt | bltFast | updateOverlay => 6

/-- The name of a method in messages. -/
def name (method : SurfaceMethod) : String := "IDirectDrawSurface::" ++ method.label

end SurfaceMethod

inductive PaletteMethod where
  | queryInterface
  | addRef
  | release
  | getCaps
  | getEntries
  | setUp
  | setEntries
  deriving DecidableEq

namespace PaletteMethod

/-- Every method, in the order of the slots. -/
def all : List PaletteMethod :=
  [queryInterface, addRef, release, getCaps, getEntries, setUp, setEntries]

/-- The name of a method within its interface. -/
def label : PaletteMethod → String
  | queryInterface => "QueryInterface"
  | addRef => "AddRef"
  | release => "Release"
  | getCaps => "GetCaps"
  | getEntries => "GetEntries"
  | setUp => "Initialize"
  | setEntries => "SetEntries"

/-- How many dwords a method takes, the interface pointer included. -/
def arity : PaletteMethod → Nat
  | addRef | release => 1
  | getCaps => 2
  | queryInterface => 3
  | setUp => 4
  | getEntries | setEntries => 5

/-- The name of a method in messages. -/
def name (method : PaletteMethod) : String := "IDirectDrawPalette::" ++ method.label

end PaletteMethod

/-- A method of either interface. -/
inductive Method where
  | surface (method : SurfaceMethod)
  | palette (method : PaletteMethod)
  deriving DecidableEq

namespace Method

def name : Method → String
  | surface method => method.name
  | palette method => method.name

def arity : Method → Nat
  | surface method => method.arity
  | palette method => method.arity

/-- The methods of surfaces in the order of their slots. -/
def surfaces : List Method := SurfaceMethod.all.map surface

/-- The methods of palettes in the order of their slots. -/
def palettes : List Method := PaletteMethod.all.map palette

end Method

end GuestDraw
