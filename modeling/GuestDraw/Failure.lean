/-
**Failures of the drawing interface.**

A failure is a cause: a bad argument, a state that forbids the call, a wish beyond what the engine
does, or a failure of one of its parts. `disposition` decides what the guest sees of it: most
failures become a status word, a wish that no status describes ends the process.
-/

import GuestDraw.Flags.Families
import GuestDraw.Objects.Handle
import GuestDraw.Pixel.Error
import GuestDraw.Status
import GuestDraw.GuestCall.Fault

namespace GuestDraw

/-- What the engine does not do. -/
inductive Limitation where
  /-- Pixels of this depth. -/
  | depth (depth : Nat)
  /-- A picture that does not fit the address space. -/
  | frameBuffer (width height depth : Nat)
  /-- Surfaces with these capabilities. -/
  | capabilities (caps : SurfaceCaps)
  | primaryAndOffscreen
  | neitherPrimaryNorOffscreen
  /-- Back buffers of a surface that is not shown. -/
  | offscreenBackBuffers
  /-- A back buffer of a surface that is not to own others. -/
  | simpleBackBuffer
  | backBuffers (count : Nat)
  | lockFlags (flags : LockFlags)
  /-- Finding an attached surface other than the back buffer. -/
  | attachedLookup (caps : SurfaceCaps)
  /-- Palettes whose entries are themselves indices. -/
  | byteEntries
  | paletteCaps (caps : PaletteCaps)
  /-- No method was registered at the stub. -/
  | unknownStub (stub : Nat)
  | argumentCount (given expected : Nat)
  /-- A limit of another part of the system, in words. -/
  | described (detail : String)
  deriving DecidableEq

/-- The wording of a limitation. -/
def Limitation.text : Limitation → String
  | depth bits => s!"{bits} bits per pixel"
  | frameBuffer width height bits => s!"{width}x{height}x{bits} framebuffer"
  | capabilities caps => s!"capabilities {caps.text}"
  | primaryAndOffscreen => "PRIMARYSURFACE and OFFSCREENPLAIN are mutually exclusive"
  | neitherPrimaryNorOffscreen => "one of PRIMARYSURFACE or OFFSCREENPLAIN is required"
  | offscreenBackBuffers => "DDSD_BACKBUFFERCOUNT on an OFFSCREENPLAIN surface"
  | simpleBackBuffer => "a back buffer without COMPLEX"
  | backBuffers count => s!"{count} back buffers"
  | lockFlags flags => s!"lock flags {flags.text}"
  | attachedLookup caps => s!"attached surface lookup by {caps.text}"
  | byteEntries => "DDPCAPS_8BITENTRIES"
  | paletteCaps caps => s!"palette caps {caps.text}"
  | unknownStub stub => s!"no method registered at stub {Hex.short stub}"
  | argumentCount given expected => s!"called with {given} arguments, expected {expected}"
  | described detail => detail

/-- Why a call of the drawing interface failed; `entry` names the call. -/
inductive Failure where
  /-- A pointer, size or handle from the guest is bad. -/
  | invalidArgument (entry : String) (status : Status)
  /-- The call cannot succeed in the present state. -/
  | failed (entry : String) (status : Status)
  | unsupported (entry : String) (limitation : Limitation)
  /-- An interface pointer leads to no object; `handle` is what its block holds. -/
  | unknownHandle (entry : String) (handle : Handle)
  | notImplemented (feature : String)
  | object (cause : ObjectError)
  | pixel (cause : PixelError)
  | memory (cause : MemoryError)
  | stub (cause : StubError)
  | call (cause : CallError)
  deriving DecidableEq

/-- What happens at the boundary to the guest. -/
inductive Disposition where
  /-- The guest gets a status and runs on. -/
  | status (status : Status)
  /-- The process ends. -/
  | fatal
  deriving DecidableEq

/-- The status that stands for a memory failure. -/
def MemoryError.status : MemoryError → Status
  | outOfRange .. => .invalidParams
  | exhausted .. => .outOfMemory
  | unknownAllocation .. => .generic

/-- What the guest sees of a pixel failure. -/
def PixelError.disposition : PixelError → Disposition
  | unsupportedDepth _ | notImplemented _ => .fatal
  | missingPalette _ => .status .noPaletteAttached
  | paletteTooLarge _ | sizeMismatch .. => .status .invalidParams
  | tooLarge .. => .status .outOfMemory
  | memory cause => .status cause.status

/-- The status that stands for an object failure. -/
def ObjectError.status : ObjectError → Status
  | invalidHandle _ | wrongKind .. => .invalidObject
  | nameInUse .. => .generic
  | exhausted => .outOfMemory

namespace Failure

/-- The wording of a failure. -/
def message : Failure → String
  | invalidArgument entry status => s!"{entry}: invalid argument, returning {status.text}"
  | failed entry status => s!"{entry} failed with {status.text}"
  | unsupported entry limitation => s!"{entry}: unsupported configuration: {limitation.text}"
  | unknownHandle entry handle => s!"{entry}: unknown object {handle.text}"
  | notImplemented feature => s!"{feature} is not implemented"
  | object cause => cause.message
  | pixel cause => cause.message
  | memory cause => cause.message
  | stub cause => cause.message
  | call cause => cause.message

/-- What the guest sees of a failure. -/
def disposition : Failure → Disposition
  | invalidArgument _ status | failed _ status => .status status
  | unsupported .. => .fatal
  | unknownHandle .. => .status .invalidObject
  | notImplemented _ => .status .generic
  | object cause => .status cause.status
  | pixel cause => cause.disposition
  | memory cause => .status cause.status
  | stub _ | call _ => .fatal

/-- The failure ends the process. -/
def isFatal (failure : Failure) : Bool := failure.disposition = .fatal

end Failure

end GuestDraw
