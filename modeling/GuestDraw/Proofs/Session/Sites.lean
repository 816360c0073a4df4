/-
**What guest memory is in use for.**

Surfaces have pixels, surfaces and palettes have blocks, interfaces have vtables. All of them are
cut off the heap, one behind the other, save for pixels in the frame buffer, which lies in the
aperture. So none of them overlaps another one, but for surfaces that share the frame buffer.

* `Extent`, `Use`, `Session.extent?`: a piece of memory, and the piece that is in use for something;
* `Sited`: where the pieces lie, and that they do not overlap;
* `Sited.shrink`, `Sited.grow`: while memory is only given up, and while new memory is cut off.
-/

import GuestDraw.Proofs.Session.Inheritance
import GuestDraw.Proofs.Session.Layout

namespace GuestDraw

/-! ### Uses -/

/-- The pixels of a surface with the padding of the scanlines. -/
def Surface.pixels (surface : Surface) : Extent :=
  ⟨surface.memory, surface.pitch * surface.height⟩

def Surface.block (surface : Surface) : Extent := ⟨surface.object, Surface.blockSize⟩

def Palette.block (palette : Palette) : Extent := ⟨palette.object, Palette.blockSize⟩

/-- What a piece of memory is in use for. -/
inductive Use where
  | pixels (surface : Handle)
  | surfaceBlock (surface : Handle)
  | paletteBlock (palette : Handle)
  | vtable (interface : Interface)
  deriving DecidableEq

/-- The memory that is in use for something. -/
def Session.extent? (session : Session) : Use → Option Extent
  | .pixels handle => (session.objects.surface? handle).map Surface.pixels
  | .surfaceBlock handle => (session.objects.surface? handle).map Surface.block
  | .paletteBlock handle => (session.objects.palette? handle).map Palette.block
  | .vtable interface => (session.vtables.table? interface).map (⟨·, interface.tableSize⟩)

/-! ### Heap and aperture -/

/-- Heap and aperture have no address in common, and the picture lies in the aperture. -/
structure Ranges (session : Session) : Prop where
  heapAbove : session.heap.base ≤ session.heap.next
  heapBelow : session.heap.next ≤ session.heap.limit
  videoAbove : session.video.base ≤ session.video.next
  apart : ∀ point, session.heap.base ≤ point → point < session.heap.limit →
    session.video.base ≤ point → session.video.limit ≤ point
  frame : ∀ address, session.frameBuffer = some address → ∃ size,
    session.mode.frameSize? = some size ∧ session.video.base ≤ address ∧
      address < session.video.limit ∧ address + size ≤ session.video.limit ∧
      session.memory.holds address size = true

/-- The memory was cut off the heap. -/
structure OnHeap (session : Session) (extent : Extent) : Prop where
  above : session.heap.base ≤ extent.address
  inside : extent.address < session.heap.next
  below : extent.stop ≤ session.heap.next

/-- The memory is that of the picture, and it is in use for pixels. -/
structure OnScreen (session : Session) (use : Use) (extent : Extent) : Prop where
  pixels : ∃ handle, use = .pixels handle
  address : session.frameBuffer = some extent.address
  size : session.mode.frameSize? = some extent.length

/-- Two pieces of memory do not overlap, or one of them is on the screen. -/
def Aside (session : Session) (one other : Use × Extent) : Prop :=
  one.2.Apart other.2 ∨ OnScreen session one.1 one.2 ∨ OnScreen session other.1 other.2

instance (session : Session) : Std.Symm (Aside session) :=
  ⟨fun _ _ either => either.imp Extent.Apart.symm Or.symm⟩

/-- The memory was cut off the heap between `start` and `final`. -/
structure OnNewHeap (start final : Session) (extent : Extent) : Prop where
  above : start.heap.next ≤ extent.address
  inside : extent.address < final.heap.next
  below : extent.stop ≤ final.heap.next

variable {start final session : Session} {first second extent : Extent} {use : Use}

namespace Ranges

/-- The picture lies in the aperture. -/
theorem screen (ranges : Ranges session) (screen : OnScreen session use extent) :
    session.video.base ≤ extent.address ∧ extent.address < session.video.limit ∧
      extent.stop ≤ session.video.limit := by
  obtain ⟨size, sized, low, inside, high, -⟩ := ranges.frame _ screen.address
  cases sized.symm.trans screen.size
  exact ⟨low, inside, high⟩

/-- The picture does not overlap what was cut off the heap. -/
theorem apart_screen (ranges : Ranges session) (heap : OnHeap session first)
    (screen : OnScreen session use second) : first.Apart second := by
  obtain ⟨low, inside, high⟩ := ranges.screen screen
  obtain ⟨above, begins, below⟩ := heap
  have limit := ranges.heapBelow
  by_contra overlap
  unfold Extent.Apart at overlap
  -- The later one of the two addresses lies in both ranges.
  rcases Nat.le_total first.address second.address with before | before
  · have common := ranges.apart second.address (by omega) (by omega) low
    omega
  · have common := ranges.apart first.address above (by omega) (by omega)
    omega

theorem same (ranges : Ranges start) (places : SamePlaces start final) : Ranges final := by
  obtain ⟨heapAbove, heapBelow, videoAbove, apart, frame⟩ := ranges
  refine ⟨?_, ?_, ?_, ?_, ?_⟩
  · rwa [places.heap]
  · rwa [places.heap]
  · rwa [places.video]
  · rwa [places.heap, places.video]
  · intro address mapped
    rw [places.frameBuffer] at mapped
    rw [places.mode, places.video]
    obtain ⟨size, sized, low, inside, high, backed⟩ := frame address mapped
    exact ⟨size, sized, low, inside, high, places.holds _ _ ▸ backed⟩

theorem grow (ranges : Ranges start) (ground : Groundwork start final) : Ranges final := by
  obtain ⟨heapAbove, heapBelow, videoAbove, apart, frame⟩ := ranges
  refine ⟨?_, ?_, ?_, ?_, ?_⟩
  · rw [ground.heapBase]
    exact heapAbove.trans ground.heapNext
  · rw [ground.heapLimit]
    exact ground.heapWithin heapBelow
  · rw [ground.videoBase]
    exact videoAbove.trans ground.videoNext
  · rwa [ground.heapBase, ground.heapLimit, ground.videoBase, ground.videoLimit]
  · intro address mapped
    rw [ground.mode, ground.videoBase, ground.videoLimit]
    rcases ground.frame with same | ⟨-, place, size, taken, sized, above, below, inside, backed⟩
    · obtain ⟨size, sized, low, inside, high, backed⟩ := frame address (same ▸ mapped)
      exact ⟨size, sized, low, inside, high, ground.holds _ _ ▸ backed⟩
    · cases taken.symm.trans mapped
      exact ⟨size, sized, videoAbove.trans above, inside, below, ground.holds _ _ ▸ backed⟩

theorem unmapped (ranges : Ranges start) (step : Unmapped start final) : Ranges final := by
  obtain @⟨video, mode, unused, base, limit, next⟩ := step
  obtain ⟨heapAbove, heapBelow, videoAbove, apart, frame⟩ := ranges
  refine ⟨heapAbove, heapBelow, ?_, ?_, fun address mapped => nomatch mapped⟩
  · show video.base ≤ video.next
    rw [base]
    rcases next with same | mapped
    · rw [same]
      exact videoAbove
    · obtain ⟨-, -, low, -⟩ := frame _ mapped
      exact low
  · show ∀ point, start.heap.base ≤ point → point < start.heap.limit →
      video.base ≤ point → video.limit ≤ point
    rwa [base, limit]

end Ranges

theorem InFrame.same {buffer : PixelBuffer} (shown : InFrame start buffer)
    (places : SamePlaces start final) : InFrame final buffer where
  address := places.frameBuffer.trans shown.address
  width := places.mode ▸ shown.width
  height := places.mode ▸ shown.height
  depth := places.mode ▸ shown.depth

theorem OnHeap.grow (heap : OnHeap start extent) (ground : Groundwork start final) :
    OnHeap final extent where
  above := ground.heapBase ▸ heap.above
  inside := Nat.lt_of_lt_of_le heap.inside ground.heapNext
  below := heap.below.trans ground.heapNext

theorem OnScreen.grow (screen : OnScreen start use extent) (ground : Groundwork start final) :
    OnScreen final use extent where
  pixels := screen.pixels
  address := ground.frameBuffer screen.address
  size := ground.mode ▸ screen.size

theorem OnNewHeap.onHeap (new : OnNewHeap start final extent) (ranges : Ranges start)
    (ground : Groundwork start final) : OnHeap final extent where
  above := by
    rw [ground.heapBase]
    exact ranges.heapAbove.trans new.above
  inside := new.inside
  below := new.below

/-- What was cut off the heap before ends before what is cut off now. -/
theorem OnHeap.apart_new (heap : OnHeap start first) (new : OnNewHeap start final second) :
    first.Apart second := .inl (heap.below.trans new.above)

/-! ### Sites -/

/-- The memory that is in use lies on the heap or on the screen, each piece apart from the
others. -/
structure Sited (session : Session) : Prop where
  linked : Linked session.objects
  ranges : Ranges session
  sites : ∀ use extent, session.extent? use = some extent →
    OnHeap session extent ∨ OnScreen session use extent
  apart : ∀ one other first second, one ≠ other → session.extent? one = some first →
    session.extent? other = some second →
      first.Apart second ∨ OnScreen session one first ∧ OnScreen session other second
  backed : ∀ handle surface, session.objects.surface? handle = some surface →
    session.memory.holds surface.memory (surface.pitch * surface.height) = true
  /-- Pixels that are not on the heap are the picture. -/
  pictured : ∀ handle surface, session.objects.surface? handle = some surface →
    OnHeap session surface.pixels ∨ InFrame session surface.buffer

namespace Sited

/-- Surfaces that stay keep their memory. -/
theorem pixels_of_fixed {old new : Surface} (fixed : new.fixed = old.fixed) :
    new.pixels = old.pixels :=
  show new.fixed.pixels = old.fixed.pixels from congrArg _ fixed

theorem buffer_of_fixed {old new : Surface} (fixed : new.fixed = old.fixed) :
    new.buffer = old.buffer :=
  show new.fixed.buffer = old.fixed.buffer from congrArg _ fixed

theorem block_of_fixed {old new : Surface} (fixed : new.fixed = old.fixed) :
    new.block = old.block :=
  show new.fixed.block = old.fixed.block from congrArg _ fixed

/-- What is in use after a step with which nothing comes was in use before. -/
theorem extent?_of_inherits (inherits : start.objects.Inherits final.objects)
    (vtables : final.vtables = start.vtables) (has : final.extent? use = some extent) :
    start.extent? use = some extent := by
  cases use with
  | pixels handle =>
    obtain ⟨new, live, rfl⟩ := Option.map_eq_some_iff.mp has
    obtain ⟨old, was, fixed⟩ := inherits.surface handle new live
    exact Option.map_eq_some_iff.mpr ⟨old, was, (pixels_of_fixed fixed).symm⟩
  | surfaceBlock handle =>
    obtain ⟨new, live, rfl⟩ := Option.map_eq_some_iff.mp has
    obtain ⟨old, was, fixed⟩ := inherits.surface handle new live
    exact Option.map_eq_some_iff.mpr ⟨old, was, (block_of_fixed fixed).symm⟩
  | paletteBlock handle =>
    obtain ⟨new, live, rfl⟩ := Option.map_eq_some_iff.mp has
    obtain ⟨old, was, fixed⟩ := inherits.palette handle new live
    have block : new.fixed.block = old.fixed.block := congrArg _ fixed
    exact Option.map_eq_some_iff.mpr ⟨old, was, block.symm⟩
  | vtable interface =>
    rw [Session.extent?, vtables] at has
    exact has

/-- While memory is only given up, what is left stays where it is. -/
theorem shrink (sited : Sited start) (linked : Linked final.objects)
    (places : SamePlaces start final) (inherits : start.objects.Inherits final.objects) :
    Sited final := by
  have was : ∀ use extent, final.extent? use = some extent → start.extent? use = some extent :=
    fun _ _ has => extent?_of_inherits inherits places.vtables has
  have heap : ∀ extent, OnHeap start extent → OnHeap final extent := by
    intro extent heap
    exact ⟨places.heap ▸ heap.above, places.heap ▸ heap.inside, places.heap ▸ heap.below⟩
  have screen : ∀ use extent, OnScreen start use extent → OnScreen final use extent := by
    intro use extent screen
    exact ⟨screen.pixels, places.frameBuffer ▸ screen.address, places.mode ▸ screen.size⟩
  refine ⟨linked, sited.ranges.same places, ?_, ?_, ?_, ?_⟩
  · intro use extent has
    exact (sited.sites use extent (was _ _ has)).imp (heap _) (screen _ _)
  · intro one other first second different hasOne hasOther
    refine (sited.apart one other first second different (was _ _ hasOne) (was _ _ hasOther)).imp_right ?_
    exact fun both => ⟨screen _ _ both.1, screen _ _ both.2⟩
  · intro handle surface live
    obtain ⟨old, before, fixed⟩ := inherits.surface handle surface live
    have pixels := pixels_of_fixed fixed
    have backed := sited.backed handle old before
    rw [Surface.pixels, Surface.pixels, Extent.mk.injEq] at pixels
    rw [← pixels.1, ← pixels.2] at backed
    exact places.holds _ _ ▸ backed
  · intro handle surface live
    obtain ⟨old, before, fixed⟩ := inherits.surface handle surface live
    rw [pixels_of_fixed fixed, buffer_of_fixed fixed]
    exact (sited.pictured handle old before).imp (heap _) (InFrame.same · places)

/-- Without a picture all memory that is in use is on the heap. -/
theorem unmapped (sited : Sited start) (step : Unmapped start final) : Sited final := by
  have ranges := sited.ranges.unmapped step
  obtain @⟨video, mode, unused, base, limit, next⟩ := step
  have hidden : ∀ handle surface, start.objects.surface? handle = some surface →
      start.frameBuffer ≠ some surface.memory := by
    intro handle surface live mapped
    have listed := (ObjectTable.mem_surfaces_iff sited.linked.wf).mpr live
    unfold Session.frameBufferInUse at unused
    rw [mapped] at unused
    have none := List.any_eq_false.mp unused _ listed
    simp at none
  have offScreen : ∀ use extent, start.extent? use = some extent →
      ¬ OnScreen start use extent := by
    rintro use extent has screen
    obtain ⟨handle, rfl⟩ := screen.pixels
    obtain ⟨surface, live, rfl⟩ := Option.map_eq_some_iff.mp has
    exact hidden handle surface live screen.address
  have same : ∀ {video mode}, ({ start with video := video, mode := mode, frameBuffer := none } :
      Session).extent? = start.extent? := funext fun use => by cases use <;> rfl
  refine ⟨sited.linked, ranges, ?_, ?_, sited.backed, ?_⟩
  · intro use extent has
    rw [same] at has
    obtain ⟨above, inside, below⟩ := (sited.sites use extent has).resolve_right (offScreen _ _ has)
    exact .inl ⟨above, inside, below⟩
  · intro one other first second different hasOne hasOther
    rw [same] at hasOne hasOther
    exact .inl ((sited.apart one other first second different hasOne hasOther).resolve_right
      fun both => offScreen _ _ hasOne both.1)
  · intro handle surface live
    obtain ⟨above, inside, below⟩ := (sited.pictured handle surface live).resolve_right
      fun framed => hidden handle surface live framed.address
    exact .inl ⟨above, inside, below⟩

/-- New memory is cut off the heap or on the screen. -/
theorem grow (sited : Sited start) (linked : Linked final.objects)
    (ground : Groundwork start final)
    (sites : ∀ use extent, final.extent? use = some extent → start.extent? use = some extent ∨
      OnNewHeap start final extent ∨ OnScreen final use extent)
    (apart : ∀ one other first second, one ≠ other → final.extent? one = some first →
      final.extent? other = some second → start.extent? one ≠ some first →
        start.extent? other ≠ some second → Aside final (one, first) (other, second))
    (surfaces : ∀ handle surface, final.objects.surface? handle = some surface →
      start.objects.surface? handle = some surface ∨
        final.memory.holds surface.memory (surface.pitch * surface.height) = true ∧
          (OnNewHeap start final surface.pixels ∨ InFrame final surface.buffer)) : Sited final := by
  have ranges := sited.ranges.grow ground
  -- Each piece was on the heap, is cut off now or is on the screen.
  have known : ∀ use extent, final.extent? use = some extent →
      (OnHeap start extent ∧ start.extent? use = some extent) ∨
        (OnNewHeap start final extent ∧ start.extent? use ≠ some extent) ∨
          OnScreen final use extent := by
    intro use extent has
    by_cases was : start.extent? use = some extent
    · rcases sited.sites use extent was with heap | screen
      · exact .inl ⟨heap, was⟩
      · exact .inr (.inr (screen.grow ground))
    · rcases (sites use extent has).resolve_left was with new | screen
      · exact .inr (.inl ⟨new, was⟩)
      · exact .inr (.inr screen)
  have onHeap : ∀ use extent, final.extent? use = some extent →
      OnHeap final extent ∨ OnScreen final use extent := by
    intro use extent has
    rcases known use extent has with ⟨heap, -⟩ | ⟨new, -⟩ | screen
    · exact .inl (heap.grow ground)
    · exact .inl (new.onHeap sited.ranges ground)
    · exact .inr screen
  refine ⟨linked, ranges, onHeap, ?_, ?_, ?_⟩
  · intro one other first second different hasOne hasOther
    -- What is on the screen is apart from all but what is there, too.
    have screened : ∀ {use other : Use} {extent more : Extent}, OnScreen final use extent →
        final.extent? other = some more →
          extent.Apart more ∨ OnScreen final use extent ∧ OnScreen final other more := by
      intro use other extent more screen has
      rcases onHeap other more has with heap | second
      · exact .inl (ranges.apart_screen heap screen).symm
      · exact .inr ⟨screen, second⟩
    rcases known one first hasOne with ⟨heap, was⟩ | ⟨new, isNew⟩ | screen
    · rcases known other second hasOther with ⟨-, wasOther⟩ | ⟨newOther, -⟩ | screen
      · exact (sited.apart one other first second different was wasOther).imp_right
          fun both => ⟨both.1.grow ground, both.2.grow ground⟩
      · exact .inl (heap.apart_new newOther)
      · exact (screened screen hasOne).imp Extent.Apart.symm And.symm
    · rcases known other second hasOther with ⟨heap, -⟩ | ⟨-, isNewOther⟩ | screen
      · exact .inl (heap.apart_new new).symm
      · rcases apart one other first second different hasOne hasOther isNew isNewOther with
          apart | screen | screen
        · exact .inl apart
        · exact screened screen hasOther
        · exact (screened screen hasOne).imp Extent.Apart.symm And.symm
      · exact (screened screen hasOne).imp Extent.Apart.symm And.symm
    · exact screened screen hasOther
  · intro handle surface live
    rcases surfaces handle surface live with was | ⟨backed, -⟩
    · rw [ground.holds]
      exact sited.backed handle surface was
    · exact backed
  · intro handle surface live
    rcases surfaces handle surface live with was | ⟨-, new | framed⟩
    · exact (sited.pictured handle surface was).imp (OnHeap.grow · ground) (InFrame.grow · ground)
    · exact .inl (new.onHeap sited.ranges ground)
    · exact .inr framed

end Sited

end GuestDraw
