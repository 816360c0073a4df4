/-
**Surfaces that show the same frame buffer.**

Several surfaces can have their pixels in the frame buffer. Each of them has a cache of its own, and
what is drawn on one cache is seen in the others only once it is written back and they are decoded
anew. So what they have in common is what guest memory has: all that have no cache show the one
picture that is stored in the frame buffer, whatever was done to them before.

* `Session.screen?`: the picture in the frame buffer;
* `ends_picture_of_contents`: to be looked at changes nothing that is shown;
* `Drawing.contents_of_ne`: to be drawn on changes nothing that other surfaces show;
* `screen_shared`: surfaces without caches show the frame buffer.
-/

import GuestDraw.Proofs.Pixel.RoundTrip
import GuestDraw.Proofs.Session.Separation

namespace GuestDraw

variable {start final session : Session}

/-! ### Looking at a surface -/

/-- Direct colours need no palette. -/
theorem Conversion.decode_direct {memory : Memory} {buffer : PixelBuffer}
    (direct : buffer.depth ∈ [15, 16, 24, 32]) (palette : Option (Array UInt32)) :
    decode memory buffer palette = decode memory buffer none := by
  unfold decode
  cases known : buffer.format with
  | error cause => rfl
  | ok format =>
    rw [format_eq_ok_iff.mp known] at direct
    obtain ⟨-, plain, -⟩ := format.direct_of_depth direct
    have any : ∀ palette, paletteFor format palette = .ok #[] := fun palette => by
      unfold paletteFor
      rw [plain]
      rfl
    simp only [bind, Except.bind, any]

/-- Looking at a surface gives what it shows, and changes nothing of what any surface shows. -/
theorem ends_picture_of_contents (linked : Linked start.objects) (handle : Handle) :
    Ends (Engine.picture handle) start
      (fun raster final => start.contents handle = some (.ok raster) ∧
        Linked final.objects ∧ final.contents = start.contents)
      (fun final => Linked final.objects ∧ final.contents = start.contents) := by
  have kept : Kept Caching fun session => Linked session.objects ∧ session.contents = start.contents :=
    ⟨And.left, fun held step =>
      ⟨held.1.caching step, (step.contents_eq held.1).trans held.2⟩⟩
  refine (ends_picture kept ⟨linked, rfl⟩ handle).weaken ?_
  rintro raster final ⟨held, shows⟩
  exact ⟨held.2 ▸ shows, held⟩

/-- What is drawn on the cache of one surface is not seen in any other one, wherever that has its
pixels. -/
theorem Drawing.contents_of_ne (linked : Linked start.objects) {handle other : Handle}
    {draw : Raster → Raster} (step : Drawing handle draw start final)
    (cached : ∀ surface, start.objects.surface? handle = some surface → surface.cache ≠ none)
    (different : other ≠ handle) : final.contents other = start.contents other := by
  cases step with
  | onMemory live bare => exact absurd bare (cached _ live)
  | onCache live has content =>
    rw [Session.contents_eq, Session.contents_eq, linked.portrait?_setCached live has content,
      Function.update_of_ne different]

/-! ### The frame buffer -/

/-- The picture that is stored in the frame buffer, if there is one. -/
def Session.screen? (session : Session) : Option (Except PixelError Raster) :=
  session.frameBuffer.map fun address =>
    Conversion.decode session.memory
      ⟨address, session.mode.depth, session.mode.width, session.mode.height⟩ none

/-- A live surface with its pixels in the frame buffer and without a cache for them. -/
def Session.BareOnScreen (session : Session) (handle : Handle) : Prop :=
  ∃ surface, session.objects.surface? handle = some surface ∧
    session.frameBuffer = some surface.memory ∧ surface.cache = none

/-- A surface that begins where the frame buffer does has all of the picture for its pixels. -/
theorem Sited.inFrame (sited : Sited session) {handle : Handle} {surface : Surface}
    (live : session.objects.surface? handle = some surface)
    (mapped : session.frameBuffer = some surface.memory) : InFrame session surface.buffer := by
  refine (sited.pictured handle surface live).resolve_left fun heap => ?_
  obtain ⟨size, -, low, inside, -⟩ := sited.ranges.frame _ mapped
  have above := heap.above
  have begins := heap.inside
  have limit := sited.ranges.heapBelow
  have memory : surface.pixels.address = surface.memory := rfl
  have common := sited.ranges.apart surface.memory (by omega) (by omega) low
  omega

/-- What is stored in the frame buffer is what surfaces without caches have in common. -/
structure ScreenShared (session : Session) : Prop where
  shown : ∀ handle, session.BareOnScreen handle → session.contents handle = session.screen?
  pictures : ∀ first second, session.BareOnScreen first → session.BareOnScreen second →
    ∀ raster middle again final, Engine.picture first session = .ok raster middle →
      Engine.picture second middle = .ok again final → again = raster

theorem Sited.screenShared (sited : Sited session) (direct : session.mode.depth ∈ [16, 24, 32]) :
    ScreenShared session := by
  have shown : ∀ handle, session.BareOnScreen handle → session.contents handle = session.screen? := by
    rintro handle ⟨surface, live, mapped, bare⟩
    obtain ⟨-, width, height, depth⟩ := sited.inFrame live mapped
    have frame : surface.buffer =
        ⟨surface.memory, session.mode.depth, session.mode.width, session.mode.height⟩ := by
      rw [← width, ← height, ← depth]
      rfl
    have plain : surface.buffer.depth ∈ [15, 16, 24, 32] := depth ▸ .tail _ direct
    rw [Session.contents, live, Session.screen?, mapped, Option.map_some, Option.map_some, bare,
      ← frame]
    exact congrArg some (Conversion.decode_direct plain _)
  refine ⟨shown, ?_⟩
  intro first second one other raster middle again final taken takenToo
  obtain ⟨shows, linked, same⟩ := (ends_picture_of_contents sited.linked first).of_ok taken
  obtain ⟨showsToo, -, -⟩ := (ends_picture_of_contents linked second).of_ok takenToo
  rw [same, shown second other, ← shown first one, shows] at showsToo
  cases showsToo
  rfl

/-- **Surfaces without caches show the frame buffer** in every state in which its pixels are
colours, whatever was called and whatever failed. -/
theorem screen_shared (memory : Memory) {heapBase heapSize videoBase videoSize : Nat}
    (inSpace : heapBase < addressSpace)
    (disjoint : ∀ point, heapBase ≤ point → point < rangeLimit heapBase heapSize →
      videoBase ≤ point → rangeLimit videoBase videoSize ≤ point)
    (stubs : StubTable) (firstHandle : Nat) (mode : DisplayMode) (chain : FlipChain)
    (acts : List Act) {session : Session}
    (reached : session = (Session.start memory (.ofRange heapBase heapSize)
      (.ofRange videoBase videoSize) stubs firstHandle mode chain).through acts)
    (direct : session.mode.depth ∈ [16, 24, 32]) : ScreenShared session := by
  subst reached
  exact (Sited.kept.through
    (sited_start memory inSpace disjoint stubs firstHandle mode chain) acts).screenShared direct

end GuestDraw
