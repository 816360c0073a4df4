/-
**What an object holds.**

Besides surfaces and palettes there are objects that belong to a surface, objects that threads
synchronise on, and objects of other parts of the system of which only the handle is kept. An object
that is closed leaves work behind: what it owned is closed, what it referred to is released.
-/

import GuestDraw.Objects.Surface
import GuestDraw.Objects.Synchronisation
import GuestDraw.Pixel.Raster

namespace GuestDraw

/-- A context for drawing, and the surface that it draws on. -/
structure DeviceContext where
  surface : Option Handle
  deriving DecidableEq

/-- The decoded pixels of the surface `owner`; `dirty` once they differ from guest memory. -/
structure CachedRaster where
  owner : Handle
  raster : Raster
  dirty : Bool
  deriving DecidableEq

/-- A view of a file, or of no file. -/
structure FileMapping where
  file : Option Handle
  size : Nat
  deriving DecidableEq

/-- The content of an object. -/
inductive Payload where
  | surface (surface : Surface)
  | palette (palette : Palette)
  | deviceContext (context : DeviceContext)
  | cachedRaster (cached : CachedRaster)
  | event (event : Event)
  | mutex (mutex : Mutex)
  | fileMapping (mapping : FileMapping)
  /-- An object of another part of the system. -/
  | foreign (kind : ObjectKind)
  deriving DecidableEq

/-- What is left to do for one owned object. -/
inductive Teardown where
  /-- Give back one reference. -/
  | release (handle : Handle)
  /-- Close whatever the count. -/
  | close (handle : Handle)
  deriving DecidableEq

namespace Payload

def kind : Payload → ObjectKind
  | surface _ => .surface
  | palette _ => .palette
  | deviceContext _ => .deviceContext
  | cachedRaster _ => .cachedRaster
  | event _ => .event
  | mutex _ => .mutex
  | fileMapping _ => .fileMapping
  | foreign kind => kind

def surface? : Payload → Option Surface
  | surface content => some content
  | _ => none

def palette? : Payload → Option Palette
  | palette content => some content
  | _ => none

def deviceContext? : Payload → Option DeviceContext
  | deviceContext content => some content
  | _ => none

def cachedRaster? : Payload → Option CachedRaster
  | cachedRaster content => some content
  | _ => none

def event? : Payload → Option Event
  | event content => some content
  | _ => none

def mutex? : Payload → Option Mutex
  | mutex content => some content
  | _ => none

/-- The work that closing the object leaves, in order. -/
def teardown : Payload → List Teardown
  | surface content =>
    (content.palette.map Teardown.release).toList
      ++ (content.backBuffer.map Teardown.release).toList
      ++ (content.deviceContext.map Teardown.close).toList
      ++ (content.cache.map Teardown.close).toList
  | fileMapping content => (content.file.map Teardown.release).toList
  | _ => []

end Payload

end GuestDraw
