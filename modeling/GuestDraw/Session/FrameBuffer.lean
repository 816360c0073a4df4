/-
**The frame buffer.**

The frame buffer is the part of the aperture that the display shows. It is mapped when the first
surface needs it and stays mapped until the mode changes, which no surface in it survives: a mode
can be set only while no surface has its pixels there.
-/

import GuestDraw.Session

namespace GuestDraw

/-- The depths that a display mode can have. -/
def DisplayMode.depths : List Nat := [8, 16, 24, 32]

/-- A live surface has its pixels in the frame buffer. -/
def Session.frameBufferInUse (session : Session) : Bool :=
  match session.frameBuffer with
  | some address => session.objects.surfaces.any fun entry => entry.2.memory = address
  | none => false

namespace Engine

/-- The name of the mode change in messages. -/
def setDisplayModeEntry : String := "IDirectDraw::SetDisplayMode"

/-- Gives the frame buffer back, if there is one. -/
def unmapFrameBuffer : Engine Unit := do
  match (← get).frameBuffer with
  | none => pure ()
  | some address =>
    modify fun session => { session with frameBuffer := none }
    let video ← (← get).video.unmap address
    modify fun session => { session with video := video }

/-- Changes the mode of the display. -/
def setDisplayMode (width height depth : Nat) : Engine Unit := do
  if depth ∉ DisplayMode.depths then
    throw (.unsupported setDisplayModeEntry (.depth depth))
  if width = 0 ∨ height = 0 then
    throw (.invalidParams setDisplayModeEntry)
  if (← get).frameBufferInUse then
    throw (.failed setDisplayModeEntry .surfaceBusy)
  unmapFrameBuffer
  modify fun session => { session with mode := ⟨width, height, depth⟩ }

/-- The address of the frame buffer, which is mapped and cleared if there is none yet. -/
def mapFrameBuffer (entry : String) : Engine Nat := do
  let session ← get
  match session.frameBuffer with
  | some address => return address
  | none =>
    let mode := session.mode
    let some size := mode.frameSize?
      | throw (.unsupported entry (.frameBuffer mode.width mode.height mode.depth))
    let (address, video) ← session.video.map size
    modify fun session => { session with video := video }
    fill address size 0
    modify fun session => { session with frameBuffer := some address }
    return address

end Engine

end GuestDraw
