/-
**Runs.**

A session goes from state to state by calls, which may fail, and by what the guest stores in its
memory in between.

* `Call`: the calls that make, share, change and draw on surfaces and palettes;
* `Session.after`, `Session.store`: the two ways on;
* `Ends.after`: what is known of the ends of a call is known of the state after it.
-/

import GuestDraw.Proofs.Session.Creating
import GuestDraw.Proofs.Session.Sharing

namespace GuestDraw

/-- A call on surfaces and palettes, by the guest or by the engine itself. -/
inductive Call where
  | createSurface (request out : Nat)
  | createPalette (caps : PaletteCaps) (colours out : Nat)
  | setDisplayMode (width height depth : Nat)
  | surfaceAddReference (this : Nat)
  | surfaceRelease (this : Nat)
  | getAttachedSurface (this caps out : Nat)
  | getPalette (this out : Nat)
  | setPalette (this palette : Nat)
  | lock (this out : Nat) (flags : LockFlags)
  | unlock (this : Nat)
  | getDC (this out : Nat)
  | releaseDC (this context : Nat)
  | bltFast (this : Nat) (x y : Int32) (source region : Nat) (flags : BltFastFlags)
  | flip (this target : Nat)
  | paletteAddReference (this : Nat)
  | paletteRelease (this : Nat)
  | paletteSetEntries (this first count source : Nat)
  | cacheOf (handle : Handle) (make : Bool)
  | writeBack (handle : Handle)
  | picture (handle : Handle)

namespace Call

/-- What a call does, whatever it answers. -/
def run : Call → Engine Unit
  | createSurface request out => discard (Engine.createSurface request out)
  | createPalette caps colours out => discard (Engine.createPalette caps colours out)
  | setDisplayMode width height depth => Engine.setDisplayMode width height depth
  | surfaceAddReference this => discard (Engine.surfaceAddReference this)
  | surfaceRelease this => discard (Engine.surfaceRelease this)
  | getAttachedSurface this caps out => discard (Engine.getAttachedSurface this caps out)
  | getPalette this out => discard (Engine.getPalette this out)
  | setPalette this palette => Engine.setPalette this palette
  | lock this out flags => Engine.lock this out flags
  | unlock this => Engine.unlock this
  | getDC this out => discard (Engine.getDC this out)
  | releaseDC this context => Engine.releaseDC this context
  | bltFast this x y source region flags => Engine.bltFast this x y source region flags
  | flip this target => Engine.flip this target
  | paletteAddReference this => discard (Engine.paletteAddReference this)
  | paletteRelease this => discard (Engine.paletteRelease this)
  | paletteSetEntries this first count source => Engine.paletteSetEntries this first count source
  | cacheOf handle make => discard (Engine.cacheOf handle make)
  | writeBack handle => Engine.writeBack handle
  | picture handle => discard (Engine.picture handle)

end Call

namespace Session

/-- The state after a call, whether it succeeds or fails. -/
def after (session : Session) (call : Call) : Session :=
  match call.run session with
  | .ok _ final => final
  | .error _ final => final

/-- The state after the guest has stored bytes, which it can where it has memory. -/
def store (session : Session) (address : Nat) (data : List UInt8) : Session :=
  if session.memory.holds address data.length then
    { session with memory := session.memory.put address data }
  else session

/-- The interface pointer that is stored at `out`. -/
def pointerAt (session : Session) (out : Nat) : Nat :=
  match session.memory.readDword out with
  | .ok word => word.toNat
  | .error _ => 0

end Session

theorem Ends.after {session : Session} {call : Call} {holds : Session → Prop}
    (ends : Ends call.run session (fun _ => holds) holds) : holds (session.after call) := by
  unfold Ends at ends
  unfold Session.after
  cases ended : call.run session with
  | ok value final =>
    rw [ended] at ends
    exact ends
  | error cause final =>
    rw [ended] at ends
    exact ends

/-! ### Answers -/

/-- The guest finds the interface pointer where it is stored. -/
theorem Session.pointerAt_answered {session : Session} {out pointer : Nat}
    (backed : session.memory.holds out 4 = true) (narrow : pointer < addressSpace) :
    (session.answered out pointer).pointerAt out = pointer := by
  have found : (session.answered out pointer).memory.readDword out = .ok (UInt32.ofNat pointer) :=
    Memory.readDword_put backed
  rw [Session.pointerAt, found]
  exact UInt32.toNat_ofNat_of_lt' narrow

/-! ### A small session -/

/-- A guest that has written a request for a surface of one pixel to address 4. -/
def onePixel : Session :=
  .start
    ((Memory.zeroed 0 0x1B0).put 4 <| recordBytes 0x6C
      [(Descriptor.sizeOffset, 0x6C), (Descriptor.flagsOffset, (DescFlags.width ∪ DescFlags.height).bits),
        (Descriptor.heightOffset, 1), (Descriptor.widthOffset, 1),
        (Descriptor.capsOffset, SurfaceCaps.offscreenPlain.bits)])
    (.ofRange 0x70 0x140) (.ofRange 0x10000 0x10000) (.ofRange 0x20000 0x1000) 1 ⟨1, 1, 32⟩
    .standard

end GuestDraw
