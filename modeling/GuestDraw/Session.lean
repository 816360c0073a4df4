/-
**A drawing session.**

A session is what one emulated process sees of the drawing interface: its memory with the two
allocators, its objects, the display and the vtables, and the pictures presented so far. Calls run
in the `Engine` monad: a call that fails may have changed the session before it did, and that change
stays.

The actions here are the steps of which the calls are made. Each either does one thing or fails and
leaves the session as it was.
-/

import GuestDraw.Display
import GuestDraw.Failure
import GuestDraw.Interface.Method
import GuestDraw.Memory.Aperture
import GuestDraw.Objects.Table

namespace GuestDraw

/-- The shared vtables, built when first needed, and the method of every stub in them. -/
structure Vtables where
  surface : Option Nat
  palette : Option Nat
  methods : List (Nat × Method)

/-- The state of one emulated process. -/
structure Session where
  memory : Memory
  objects : ObjectTable
  heap : Heap
  video : Aperture
  stubs : StubTable
  mode : DisplayMode
  chain : FlipChain
  /-- The address of the mapped picture, once a surface needed it. -/
  frameBuffer : Option Nat
  vtables : Vtables
  /-- The pictures shown so far, the last one at the end. -/
  presented : Array Raster

/-- A session without objects. -/
def Session.start (memory : Memory) (heap : Heap) (video : Aperture) (stubs : StubTable)
    (firstHandle : Nat) (mode : DisplayMode) (chain : FlipChain) : Session where
  memory := memory
  objects := .startingAt firstHandle
  heap := heap
  video := video
  stubs := stubs
  mode := mode
  chain := chain
  frameBuffer := none
  vtables := ⟨none, none, []⟩
  presented := #[]

/-- Calls on a session. -/
abbrev Engine := EStateM Failure Session

/-- The argument is wrong in itself. -/
def Failure.invalidParams (entry : String) : Failure := .invalidArgument entry .invalidParams

/-- The argument is a null pointer. -/
def Failure.nullPointer (entry : String) : Failure := .invalidArgument entry .nullPointer

namespace Engine

variable {α : Type}

/-- The value of a computation that does not depend on the session, or its failure. -/
def ofExcept {ε : Type} (wrap : ε → Failure) : Except ε α → Engine α
  | .ok value => pure value
  | .error cause => throw (wrap cause)

instance : MonadLift (Except Failure) Engine := ⟨ofExcept id⟩
instance : MonadLift (Except MemoryError) Engine := ⟨ofExcept .memory⟩
instance : MonadLift (Except PixelError) Engine := ⟨ofExcept .pixel⟩
instance : MonadLift (Except ObjectError) Engine := ⟨ofExcept .object⟩
instance : MonadLift (Except StubError) Engine := ⟨ofExcept .stub⟩

/-! ### Memory -/

def read (address length : Nat) : Engine (List UInt8) := do
  (← get).memory.read address length

def readDword (address : Nat) : Engine UInt32 := do
  (← get).memory.readDword address

def write (address : Nat) (data : List UInt8) : Engine Unit := fun session =>
  match session.memory.check address data.length with
  | .ok _ => .ok () { session with memory := session.memory.put address data }
  | .error cause => .error (.memory cause) session

def writeDword (address : Nat) (word : UInt32) : Engine Unit :=
  write address (LittleEndian.ofDword word)

/-- Sets `length` bytes from `address` on to `value`. -/
def fill (address length : Nat) (value : UInt8) : Engine Unit := fun session =>
  match session.memory.fill address length value with
  | .ok memory => .ok () { session with memory := memory }
  | .error cause => .error (.memory cause) session

/-- Copies bytes within guest memory; the source is checked first. -/
def move (source target length : Nat) : Engine Unit := do
  let data ← read source length
  write target data

/-- A cleared block of the heap. -/
def allocate (size : Nat) : Engine Nat := fun session =>
  match session.heap.allocate session.memory size true with
  | .ok (address, heap, memory) =>
    .ok address { session with heap := heap, memory := memory }
  | .error cause => .error (.memory cause) session

/-! ### Objects -/

/-- Runs a change of the table. -/
def onObjects (change : ObjectTable → Except ObjectError (α × ObjectTable)) : Engine α :=
  fun session =>
    match change session.objects with
    | .ok (value, objects) => .ok value { session with objects := objects }
    | .error cause => .error (.object cause) session

def create (payload : Payload) : Engine Handle := onObjects (·.create payload)

def addReference (handle : Handle) : Engine Nat := onObjects (·.addReference handle)

def release (handle : Handle) : Engine Nat := onObjects (·.release handle)

def close (handle : Handle) : Engine Unit :=
  onObjects fun table => (table.close handle).map ((), ·)

def setPayload (handle : Handle) (payload : Payload) : Engine Unit :=
  onObjects fun table => .ok ((), table.setPayload handle payload)

/-- The surface with a handle. -/
def surfaceAt (handle : Handle) : Engine Surface := do
  match (← get).objects.surface? handle with
  | some surface => return surface
  | none => throw (.object (.invalidHandle handle))

/-- The palette with a handle. -/
def paletteAt (handle : Handle) : Engine Palette := do
  match (← get).objects.palette? handle with
  | some palette => return palette
  | none => throw (.object (.invalidHandle handle))

/-- The cached raster with a handle. -/
def cachedAt (handle : Handle) : Engine CachedRaster := do
  match (← get).objects.cachedRaster? handle with
  | some cached => return cached
  | none => throw (.object (.invalidHandle handle))

/-- Changes the surface with a handle. -/
def updateSurface (handle : Handle) (change : Surface → Surface) : Engine Unit := do
  let surface ← surfaceAt handle
  setPayload handle (.surface (change surface))

/-! ### The picture -/

/-- Shows a picture. -/
def present (picture : Raster) : Engine Unit :=
  modify fun session => { session with presented := session.presented.push picture }

end Engine

/-! ### Interface pointers -/

namespace Session

/-- The handle that the block at an interface pointer holds, null if it cannot be read. -/
def blockHandle (session : Session) (this : Nat) : Handle :=
  if this ≠ 0 ∧ this + Block.handleOffset < addressSpace then
    match session.memory.readDword (this + Block.handleOffset) with
    | .ok word => .ofDword word
    | .error _ => .null
  else .null

/-- The surface that an interface pointer leads to. The handle in the block counts only if its
object has the block as its own. -/
def surfaceFor? (session : Session) (this : Nat) : Option Handle :=
  let handle := session.blockHandle this
  match session.objects.surface? handle with
  | some surface => if surface.object = this then some handle else none
  | none => none

/-- The palette that an interface pointer leads to. -/
def paletteFor? (session : Session) (this : Nat) : Option Handle :=
  let handle := session.blockHandle this
  match session.objects.palette? handle with
  | some palette => if palette.object = this then some handle else none
  | none => none

end Session

namespace Engine

/-- The surface that an interface pointer leads to. -/
def resolveSurface (entry : String) (this : Nat) : Engine Handle := do
  let session ← get
  match session.surfaceFor? this with
  | some handle => return handle
  | none => throw (.unknownHandle entry (session.blockHandle this))

/-- The palette that an interface pointer leads to. -/
def resolvePalette (entry : String) (this : Nat) : Engine Handle := do
  let session ← get
  match session.paletteFor? this with
  | some handle => return handle
  | none => throw (.unknownHandle entry (session.blockHandle this))

end Engine

end GuestDraw
