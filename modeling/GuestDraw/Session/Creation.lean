/-
**Creating surfaces.**

A request is first turned into a plan, which needs nothing but the display (`planSurface`), and only
then into a surface. A primary surface has its pixels in the frame buffer and the size of the mode,
any other one has them on the heap. A surface that is to be flipped gets a back buffer, which is
created first and closed again if its owner cannot be created.
-/

import GuestDraw.Interface.Descriptor
import GuestDraw.Session.FrameBuffer
import GuestDraw.Session.Vtable

namespace GuestDraw

/-- Where the pixels of a surface lie. -/
inductive Backing where
  | frameBuffer
  | heap
  deriving DecidableEq

/-- A surface to create. -/
structure SurfacePlan where
  flags : SurfaceFlags
  width : Nat
  height : Nat
  depth : Nat
  caps : SurfaceCaps
  backing : Backing
  backBuffer : Bool
  deriving DecidableEq

/-- The name of the creation of surfaces in messages. -/
def createSurfaceEntry : String := "IDirectDraw::CreateSurface"

/-! ### Plans -/

/-- The interface generation that the size of a request stands for. -/
def Request.generation? (request : Request) : Option SurfaceFlags :=
  if request.size.toNat = descriptorSize false then some ∅
  else if request.size.toNat = descriptorSize true then
    some (SurfaceFlags.wideDescriptor ∪ SurfaceFlags.wideCaps)
  else none

/-- The plan of a primary surface, before depth and back buffer are looked at. -/
def primaryPlan (mode : DisplayMode) (flags : SurfaceFlags) (request : Request) : SurfacePlan where
  flags := flags
  width := mode.width
  height := mode.height
  depth := mode.depth
  caps := request.caps ∪ SurfaceCaps.videoMemory ∪ SurfaceCaps.visible
    ∪ SurfaceCaps.localVideoMemory
  backing := .frameBuffer
  backBuffer := false

/-- The plan of a surface that is not shown, before depth and back buffer are looked at. -/
def offscreenPlan (mode : DisplayMode) (flags : SurfaceFlags) (request : Request) :
    Except Failure SurfacePlan :=
  if !request.flags.contains (DescFlags.width ∪ DescFlags.height) ∨ request.width = 0
      ∨ request.height = 0 then
    .error (.invalidParams createSurfaceEntry)
  else if request.flags.contains DescFlags.backBufferCount then
    .error (.unsupported createSurfaceEntry .offscreenBackBuffers)
  else
    let hidden := request.caps \ SurfaceCaps.visible
    .ok
      { flags := flags
        width := request.width.toNat
        height := request.height.toNat
        depth := mode.depth
        caps :=
          if hidden.contains SurfaceCaps.systemMemory then hidden
          else hidden ∪ SurfaceCaps.videoMemory ∪ SurfaceCaps.localVideoMemory
        backing := .heap
        backBuffer := false }

/-- Whether a surface with these capabilities is to get a back buffer. -/
def backBufferWanted (caps : SurfaceCaps) (request : Request) : Except Failure Bool :=
  let count := request.backBufferCount.toNat
  if !request.flags.contains DescFlags.backBufferCount ∨ count = 0 then .ok false
  else if count = 1 then
    if caps.contains SurfaceCaps.composite then .ok true
    else .error (.unsupported createSurfaceEntry .simpleBackBuffer)
  else .error (.unsupported createSurfaceEntry (.backBuffers count))

/-- The surface that a request asks for, or the first reason why there is none. -/
def planSurface (mode : DisplayMode) (chain : FlipChain) (request : Request) :
    Except Failure SurfacePlan := do
  let some flags := request.generation?
    | throw (.invalidParams createSurfaceEntry)
  let unknown := request.caps \ SurfaceCaps.creatable
  if !unknown.isEmpty then
    throw (.unsupported createSurfaceEntry (.capabilities unknown))
  let plan ←
    match request.caps.contains SurfaceCaps.primarySurface,
      request.caps.contains SurfaceCaps.offscreenPlain with
    | true, true => throw (.unsupported createSurfaceEntry .primaryAndOffscreen)
    | false, false => throw (.unsupported createSurfaceEntry .neitherPrimaryNorOffscreen)
    | true, false => pure (primaryPlan mode flags request)
    | false, true => offscreenPlan mode flags request
  if (FormatRecord.forDepth? mode.depth).isNone then
    throw (.unsupported createSurfaceEntry (.depth mode.depth))
  let caps := if mode.depth = 8 then plan.caps ∪ SurfaceCaps.palette else plan.caps
  if ← backBufferWanted caps request then
    return { plan with caps := caps ∪ chain.parentSet, backBuffer := true }
  else
    return { plan with caps := caps }

/-- The back buffer of a planned surface. -/
def SurfacePlan.child (plan : SurfacePlan) (chain : FlipChain) : SurfacePlan :=
  { plan with caps := chain.childCaps plan.caps, backing := .heap, backBuffer := false }

/-! ### Surfaces -/

/-- What the guest is told about a planned surface. -/
def SurfacePlan.descriptor (plan : SurfacePlan) (format : FormatRecord) (attached : Bool) :
    Descriptor where
  extended := plan.flags.contains SurfaceFlags.wideDescriptor
  flags :=
    let always := DescFlags.caps ∪ DescFlags.height ∪ DescFlags.width ∪ DescFlags.pitch
      ∪ DescFlags.pixelFormat
    if attached then always ∪ DescFlags.backBufferCount else always
  width := UInt32.ofNat plan.width
  height := UInt32.ofNat plan.height
  pitch := UInt32.ofNat (pitch plan.width plan.depth)
  backBufferCount := if attached then 1 else 0
  format := format
  caps := plan.caps

/-- The bytes that the pixels of a planned surface take. -/
def SurfacePlan.pixelBytes (plan : SurfacePlan) : Except PixelError Nat :=
  let bytes := pitch plan.width plan.depth * plan.height
  if bytes < addressSpace then .ok bytes
  else .error (.tooLarge plan.width plan.height plan.depth)

namespace Engine

/-- Stores vtable and handle in the block of a new object. -/
def linkBlock (object vtable : Nat) (handle : Handle) : Engine Unit := do
  writeDword (object + Block.vtableOffset) (UInt32.ofNat vtable)
  writeDword (object + Block.handleOffset) handle.dword

/-- Creates one surface, with a back buffer that exists already. -/
def buildSingle (plan : SurfacePlan) (backBuffer : Option Handle) : Engine Handle := do
  let bytes ← plan.pixelBytes
  let some format := FormatRecord.forDepth? plan.depth
    | throw (.unsupported createSurfaceEntry (.depth plan.depth))
  let memory ←
    match plan.backing with
    | .frameBuffer => mapFrameBuffer createSurfaceEntry
    | .heap => allocate bytes
  let vtable ← surfaceVtable
  let object ← allocate Surface.blockSize
  write (object + Block.dataOffset) (plan.descriptor format backBuffer.isSome).bytes
  let handle ← create (.surface
    { object := object
      flags := plan.flags
      width := plan.width
      height := plan.height
      depth := plan.depth
      pitch := pitch plan.width plan.depth
      caps := plan.caps
      memory := memory
      palette := none
      backBuffer := backBuffer
      deviceContext := none
      cache := none
      locked := false })
  linkBlock object vtable handle
  return handle

/-- Closes an object if it is alive. -/
def closeIfAlive (handle : Handle) : Engine Unit :=
  modify fun session =>
    { session with objects := session.objects.drain [.close handle] }

/-- Creates a surface and its back buffer, or neither. -/
def buildSurface (plan : SurfacePlan) : Engine Handle := do
  if plan.backBuffer then
    let child ← buildSingle (plan.child (← get).chain) none
    try
      buildSingle plan (some child)
    catch failure =>
      closeIfAlive child
      throw failure
  else
    buildSingle plan none

/-- Creates the surface that the request at `request` asks for, and stores its interface pointer
at `out`. -/
def createSurface (request out : Nat) : Engine Nat := do
  if request = 0 ∨ out = 0 then
    throw (.invalidParams createSurfaceEntry)
  let session ← get
  let wanted ← Request.read session.memory request
  let plan ← planSurface session.mode session.chain wanted
  let handle ← buildSurface plan
  let object := (← surfaceAt handle).object
  writeDword out (UInt32.ofNat object)
  return object

end Engine

end GuestDraw
