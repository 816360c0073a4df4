/-
**Handles and the failures of object calls.**
-/

import GuestDraw.Text.Hex
import GuestDraw.Text.Quoted

namespace GuestDraw

/-- The number under which the guest knows an object; zero stands for no object. -/
structure Handle where
  number : Nat
  deriving DecidableEq

namespace Handle

/-- The handle of no object. -/
def null : Handle := ⟨0⟩

/-- The handle with the number in a dword. -/
def ofDword (word : UInt32) : Handle := ⟨word.toNat⟩

/-- The dword that the guest is given. -/
def dword (handle : Handle) : UInt32 := UInt32.ofNat handle.number

/-- A handle in messages. -/
def text (handle : Handle) : String := Hex.short handle.number

end Handle

/-- What an object is. -/
inductive ObjectKind where
  | surface
  | palette
  | deviceContext
  | event
  | window
  | fileMapping
  | mutex
  | thread
  | process
  | brush
  | pen
  | region
  | font
  | bitmap
  | menu
  | cursor
  | icon
  | findFile
  | waitObject
  | cachedRaster
  deriving DecidableEq

namespace ObjectKind

/-- The name of a kind in messages. -/
def name : ObjectKind → String
  | surface => "Surface"
  | palette => "Palette"
  | deviceContext => "DeviceContext"
  | event => "Event"
  | window => "Window"
  | fileMapping => "FileMapping"
  | mutex => "Mutex"
  | thread => "Thread"
  | process => "Process"
  | brush => "Brush"
  | pen => "Pen"
  | region => "Region"
  | font => "Font"
  | bitmap => "Bitmap"
  | menu => "Menu"
  | cursor => "Cursor"
  | icon => "Icon"
  | findFile => "FindFile"
  | waitObject => "WaitObject"
  | cachedRaster => "CachedRaster"

/-- Every kind. -/
def all : List ObjectKind :=
  [surface, palette, deviceContext, event, window, fileMapping, mutex, thread, process, brush, pen,
    region, font, bitmap, menu, cursor, icon, findFile, waitObject, cachedRaster]

end ObjectKind

/-- Why a call on objects failed. -/
inductive ObjectError where
  /-- No live object has the handle. -/
  | invalidHandle (handle : Handle)
  /-- The live object `existing` has the name already. -/
  | nameInUse (name : String) (existing : Handle)
  | wrongKind (handle : Handle) (expected actual : ObjectKind)
  /-- All handles have been given out. -/
  | exhausted
  deriving DecidableEq

/-- The wording of an object failure. -/
def ObjectError.message : ObjectError → String
  | invalidHandle handle => s!"invalid handle {handle.text}"
  | nameInUse name existing =>
    s!"an object named {Quoted.quote name} already exists ({existing.text})"
  | wrongKind handle expected actual =>
    s!"handle {handle.text} is a {actual.name}, expected a {expected.name}"
  | exhausted => "handle space exhausted"

end GuestDraw
