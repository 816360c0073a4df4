/-
**Memory stays apart.**

Whatever is called and whatever fails, guest memory backs the pixels of live surfaces, and no two
pieces of memory that are in use overlap, but for surfaces that show the same picture. A call that
makes a surface leaves alone all that is in use, and pixels that it cuts off the heap are clear.

* `Sited.extend`: a new object and new vtables have memory of their own;
* `Sited.step`: sites are kept in each step;
* `Spared.created`, `Spared.abandoned`: what a new surface leaves alone, also one that fails
  half-way;
* `memory_separated`: all of it in every state.
-/

import GuestDraw.Proofs.Session.Sites
import Mathlib.Data.List.Pairwise

namespace GuestDraw

variable {start middle final : Session} {use : Use} {extent : Extent}

/-! ### New objects -/

theorem Session.extent?_pixels {handle : Handle} {surface : Surface}
    (live : start.objects.surface? handle = some surface) :
    start.extent? (.pixels handle) = some surface.pixels :=
  Option.map_eq_some_iff.mpr ⟨surface, live, rfl⟩

/-- The memory that an object has for itself. -/
def Payload.extents (handle : Handle) : Payload → List (Use × Extent)
  | .surface content => [(.pixels handle, content.pixels), (.surfaceBlock handle, content.block)]
  | .palette content => [(.paletteBlock handle, content.block)]
  | _ => []

/-- Besides what was in use there is the memory of a new object, and there may be new vtables. -/
theorem Session.extent?_of_create {payload : Payload} {handle : Handle}
    (numbered : start.objects.Numbered 0)
    (made : start.objects.create payload = .ok (handle, final.objects))
    (has : final.extent? use = some extent) :
    start.extent? use = some extent ∨ (use, extent) ∈ payload.extents handle ∨
      ∃ interface, use = .vtable interface := by
  cases use with
  | vtable interface => exact .inr (.inr ⟨interface, rfl⟩)
  | pixels other =>
    obtain ⟨surface, live, rfl⟩ := Option.map_eq_some_iff.mp has
    rcases ObjectTable.surface?_of_create numbered made live with was | ⟨rfl, rfl⟩
    · exact .inl (extent?_pixels was)
    · exact .inr (.inl (.head _))
  | surfaceBlock other =>
    obtain ⟨surface, live, rfl⟩ := Option.map_eq_some_iff.mp has
    rcases ObjectTable.surface?_of_create numbered made live with was | ⟨rfl, rfl⟩
    · exact .inl (Option.map_eq_some_iff.mpr ⟨surface, was, rfl⟩)
    · exact .inr (.inl (.tail _ (.head _)))
  | paletteBlock other =>
    obtain ⟨palette, live, rfl⟩ := Option.map_eq_some_iff.mp has
    rcases ObjectTable.palette?_of_create numbered made live with was | ⟨rfl, rfl⟩
    · exact .inl (Option.map_eq_some_iff.mpr ⟨palette, was, rfl⟩)
    · exact .inr (.inl (.head _))

theorem Interface.tableSize_pos (interface : Interface) : 0 < interface.tableSize := by
  cases interface <;> decide

/-- The pixels of a new surface are cut off the heap unless they are planned for the frame
buffer. -/
theorem Built.onNewHeap {plan : SurfacePlan} {backBuffer : Option Handle} {handle : Handle}
    {surface : Surface} (built : Built start plan backBuffer handle surface final)
    (backing : plan.backing = .heap) : OnNewHeap start final surface.pixels := by
  have pixels := built.pixels
  have inside := (built.carved backing).inside
  have below := built.block.below
  have length : surface.pixels = ⟨surface.memory, pitch plan.width plan.depth * plan.height⟩ := by
    rw [Surface.pixels, built.shape]
    rfl
  rw [SurfacePlan.PixelsAt, backing] at pixels
  rw [length]
  exact ⟨pixels.above, show surface.memory < final.heap.next by omega, pixels.below⟩

namespace Sited

/-- New vtables are cut off the heap, and each piece of `own` is, or it is on the screen. -/
theorem extend (sited : Sited start) (linked : Linked final.objects) (ground : Groundwork start final)
    (own : List (Use × Extent))
    (known : ∀ use extent, final.extent? use = some extent → start.extent? use = some extent ∨
      (use, extent) ∈ own ∨ ∃ interface, use = .vtable interface)
    (sites : ∀ piece ∈ own, OnNewHeap start final piece.2 ∨ OnScreen final piece.1 piece.2)
    (apart : own.Pairwise (Aside final))
    (tables : ∀ piece ∈ own, ∀ interface vtable, final.vtables.table? interface = some vtable →
      start.vtables.table? interface = some vtable ∨
        Aside final piece (.vtable interface, ⟨vtable, interface.tableSize⟩))
    (surfaces : ∀ handle surface, final.objects.surface? handle = some surface →
      start.objects.surface? handle = some surface ∨
        final.memory.holds surface.memory (surface.pitch * surface.height) = true ∧
          (OnNewHeap start final surface.pixels ∨ InFrame final surface.buffer)) :
    Sited final := by
  -- A vtable that is not that of the start is apart from what else is new.
  have tables : ∀ one ∈ own, ∀ interface vtable, final.vtables.table? interface = some vtable →
      start.extent? (.vtable interface) ≠ some ⟨vtable, interface.tableSize⟩ →
        Aside final one (.vtable interface, ⟨vtable, interface.tableSize⟩) := by
    intro one member interface vtable has isNew
    refine (tables one member interface vtable has).resolve_left fun was => isNew ?_
    rw [Session.extent?, was]
    rfl
  refine sited.grow linked ground ?_ ?_ surfaces
  · intro use extent has
    rcases known use extent has with was | mine | ⟨interface, rfl⟩
    · exact .inl was
    · exact .inr (sites _ mine)
    · obtain ⟨vtable, there, rfl⟩ := Option.map_eq_some_iff.mp has
      rcases ground.tables interface with same | ⟨_, new, above, below⟩
      · rw [Session.extent?, ← same, there]
        exact .inl rfl
      · cases new.symm.trans there
        have positive := interface.tableSize_pos
        exact .inr (.inl ⟨above, show vtable < _ by omega, below⟩)
  · intro one other first second different hasOne hasOther newOne newOther
    rcases (known one first hasOne).resolve_left newOne with mine | ⟨interface, rfl⟩
    · rcases (known other second hasOther).resolve_left newOther with also | ⟨interface, rfl⟩
      · exact apart.forall mine also fun same => different (congrArg Prod.fst same)
      · obtain ⟨vtable, there, rfl⟩ := Option.map_eq_some_iff.mp hasOther
        exact tables _ mine interface vtable there newOther
    · obtain ⟨vtable, there, rfl⟩ := Option.map_eq_some_iff.mp hasOne
      rcases (known other second hasOther).resolve_left newOther with mine | ⟨more, rfl⟩
      · exact symm (tables _ mine interface vtable there newOne)
      · obtain ⟨place, also, rfl⟩ := Option.map_eq_some_iff.mp hasOther
        have distinct : interface ≠ more := fun same => different (congrArg _ same)
        rcases ground.tablesApart interface more vtable place distinct there also with
          was | was | apart
        · rw [Session.extent?, was] at newOne
          exact absurd rfl newOne
        · rw [Session.extent?, was] at newOther
          exact absurd rfl newOther
        · exact .inl apart

/-- Without a new object there can only be new vtables. -/
theorem prepared (sited : Sited start) (ground : Prepared start start.objects final) :
    Sited final := by
  obtain ⟨ground, same⟩ := ground
  refine sited.extend (same ▸ sited.linked) ground [] ?_ (fun _ none => nomatch none) .nil
    (fun _ none => nomatch none) ?_
  · intro use extent has
    cases use with
    | vtable interface => exact .inr (.inr ⟨interface, rfl⟩)
    | _ =>
      rw [Session.extent?, same] at has
      exact .inl has
  · intro handle surface live
    rw [same] at live
    exact .inl live

/-! ### Surfaces -/

section Built

variable {plan : SurfacePlan} {backBuffer : Option Handle} {handle : Handle} {surface : Surface}

/-- The pixels of a new surface are cut off the heap, or they are the picture. -/
theorem placed (sited : Sited start) (built : Built start plan backBuffer handle surface final)
    (shows : plan.Shows start.mode) :
    final.memory.holds surface.memory (surface.pitch * surface.height) = true ∧
      (OnNewHeap start final surface.pixels ∧
          Carved start final surface.memory (surface.pitch * surface.height) surface.object ∨
        OnScreen final (.pixels handle) surface.pixels ∧ InFrame final surface.buffer) := by
  have ground := built.groundwork
  have pixels := built.pixels
  have carved := built.carved
  obtain ⟨-, height, -, pitched⟩ := built.sizes
  cases backing : plan.backing with
  | heap =>
    have carved := carved backing
    rw [← pitched, ← height] at carved
    exact ⟨ground.holds _ _ ▸ carved.backed, .inl ⟨built.onNewHeap backing, carved⟩⟩
  | frameBuffer =>
    have shown := built.inFrame shows backing
    obtain ⟨size, sized, -, -, -, backed⟩ := (sited.ranges.grow ground).frame _ shown.address
    have length : size = surface.pitch * surface.height := by
      rw [shown.size_eq sized, built.shape]
      rfl
    rw [length] at sized backed
    exact ⟨backed, .inr ⟨⟨⟨handle, rfl⟩, shown.address, sized⟩, shown⟩⟩

theorem built (sited : Sited start) (built : Built start plan backBuffer handle surface final)
    (shows : plan.Shows start.mode) (linked : Linked final.objects) : Sited final := by
  have block := built.block
  obtain ⟨backed, place⟩ := sited.placed built shows
  have positive : 0 < Surface.blockSize := by decide
  have blockNew : OnNewHeap start final surface.block := by
    have below := block.below
    exact ⟨block.above, show surface.object < final.heap.next by omega, below⟩
  refine sited.extend linked built.groundwork (Payload.extents handle (.surface surface))
    (fun use extent has => Session.extent?_of_create sited.linked.numbered built.made has)
    ?_ ?_ ?_ ?_
  · intro piece member
    rcases List.mem_pair.mp member with rfl | rfl
    · exact place.imp And.left And.left
    · exact .inl blockNew
  · refine List.pairwise_pair.mpr ?_
    exact place.imp (fun new => .inl new.2.before) fun picture => .inl picture.1
  · intro piece member interface vtable has
    rcases List.mem_pair.mp member with rfl | rfl
    · rcases place with ⟨-, carved⟩ | ⟨screen, -⟩
      · exact (carved.tables interface vtable has).imp_right fun beyond => .inl (.inl beyond)
      · exact .inr (.inr (.inl screen))
    · exact (built.tables interface vtable has).imp_right fun before => .inl (.inr before.2)
  · intro other found live
    refine (ObjectTable.surface?_of_create sited.linked.numbered built.made live).imp_right ?_
    rintro ⟨-, is⟩
    cases is
    exact ⟨backed, place.imp And.left And.right⟩

end Built

/-- A back buffer alone. -/
theorem first (sited : Sited start) {plan : SurfacePlan} {child : Handle} {back : Surface}
    (built : Built start (plan.child start.chain) none child back middle) : Sited middle :=
  sited.built built (fun onScreen => nomatch onScreen) (sited.linked.raised (.single built))

theorem created (sited : Sited start) {handle : Handle} {surface : Surface}
    (created : Created start handle surface final) : Sited final := by
  obtain ⟨plan, shows, raised⟩ := created
  exact raised.keeps sited.linked sited shows fun sited built shows _ linked =>
    sited.built built shows linked

theorem abandoned (sited : Sited start) (abandoned : Abandoned start final) : Sited final :=
  abandoned.keeps sited.linked sited sited.first Sited.prepared Sited.shrink

/-! ### Steps -/

theorem mixed (sited : Sited start) {handle : Handle} {palette : Palette}
    (mixed : Mixed start handle palette final) : Sited final := by
  have block := mixed.block
  have positive : 0 < Palette.blockSize := by decide
  refine sited.extend (sited.linked.mixed mixed) mixed.groundwork
    (Payload.extents handle (.palette palette))
    (fun use extent has => Session.extent?_of_create sited.linked.numbered mixed.made has)
    ?_ (List.pairwise_singleton _ _) ?_ ?_
  · intro piece member
    cases List.mem_singleton.mp member
    have below := block.below
    exact .inl ⟨block.above, show palette.object < final.heap.next by omega, below⟩
  · intro piece member interface vtable has
    cases List.mem_singleton.mp member
    exact (mixed.tables interface vtable has).imp_right fun before => .inl (.inr before.2)
  · intro other surface live
    refine (ObjectTable.surface?_of_create sited.linked.numbered mixed.made live).imp_right ?_
    rintro ⟨-, is⟩
    cases is

/-- Memory that is in use stays apart in every step. -/
theorem step (sited : Sited start) (step : Step start final) : Sited final := by
  cases step with
  | onward step =>
    exact sited.shrink (sited.linked.onward step) step.places (step.inherits sited.linked)
  | unmapped step => exact sited.unmapped step
  | prepared ground => exact sited.prepared ground
  | created created => exact sited.created created
  | abandoned abandoned => exact sited.abandoned abandoned
  | mixed mixed => exact sited.mixed mixed

theorem kept : Kept Step Sited := ⟨Sited.linked, Sited.step⟩

end Sited

theorem sited_start (memory : Memory) {heapBase heapSize videoBase videoSize : Nat}
    (inSpace : heapBase < addressSpace)
    (disjoint : ∀ point, heapBase ≤ point → point < rangeLimit heapBase heapSize →
      videoBase ≤ point → rangeLimit videoBase videoSize ≤ point)
    (stubs : StubTable) (firstHandle : Nat) (mode : DisplayMode) (chain : FlipChain) :
    Sited (.start memory (.ofRange heapBase heapSize) (.ofRange videoBase videoSize) stubs
      firstHandle mode chain) := by
  have nothing : ∀ use, Session.extent? (.start memory (.ofRange heapBase heapSize)
      (.ofRange videoBase videoSize) stubs firstHandle mode chain) use = none := by
    intro use
    cases use with
    | vtable interface => cases interface <;> rfl
    | _ => rfl
  refine ⟨.startingAt firstHandle, ⟨Nat.le_refl heapBase, ?_, Nat.le_refl videoBase, ?_,
    fun _ none => nomatch none⟩, ?_, ?_, (fun _ _ live => nomatch live),
    fun _ _ live => nomatch live⟩
  · show heapBase ≤ min (heapBase + heapSize) (addressSpace - 1)
    omega
  · exact disjoint
  · intro use extent has
    rw [nothing] at has
    cases has
  · intro one other first second _ has _
    rw [nothing] at has
    cases has

/-! ### What a new surface leaves alone -/

/-- All bytes of the pixels are zero. -/
def Surface.Clear (surface : Surface) (memory : Memory) : Prop :=
  ∀ point, surface.pixels.Covers point → memory.byte? point = some 0

/-- Surfaces that are new since `start` are clear unless they show the picture, and the memory that
was in use then has the bytes that it had. -/
structure Spared (start final : Session) : Prop where
  clear : ∀ handle surface, final.objects.surface? handle = some surface →
    start.objects.surface? handle = none → final.frameBuffer ≠ some surface.memory →
      surface.Clear final.memory
  bytes : ∀ use extent, start.extent? use = some extent → ∀ point, extent.Covers point →
    final.memory.byte? point = start.memory.byte? point

namespace Sited

/-- Memory that is in use lies in one of the two ranges. -/
theorem within (sited : Sited start) (has : start.extent? use = some extent) {point : Nat}
    (inside : extent.Covers point) :
    start.heap.base ≤ point ∧ point < start.heap.limit ∨
      start.video.base ≤ point ∧ point < start.video.limit := by
  obtain ⟨above, below⟩ := inside
  rcases sited.sites use extent has with heap | screen
  · have low := heap.above
    have high := heap.below
    have limit := sited.ranges.heapBelow
    exact .inl ⟨by omega, by omega⟩
  · obtain ⟨low, -, high⟩ := sited.ranges.screen screen
    exact .inr ⟨by omega, by omega⟩

/-- Groundwork touches nothing that is in use. -/
theorem byte?_eq (sited : Sited start) (ground : Groundwork start final)
    (has : start.extent? use = some extent) {point : Nat} (inside : extent.Covers point) :
    final.memory.byte? point = start.memory.byte? point := by
  have heapAbove := sited.ranges.heapAbove
  have limit := ground.heapWithin sited.ranges.heapBelow
  have videoAbove := sited.ranges.videoAbove
  obtain ⟨above, below⟩ := inside
  rcases ground.bytes point with same | ⟨past, new⟩ | ⟨unmapped, past, new⟩
  · exact same
  · rcases sited.sites use extent has with heap | screen
    · have high := heap.below
      omega
    · obtain ⟨low, -, high⟩ := sited.ranges.screen screen
      have common := sited.ranges.apart point (by omega) (by omega) (by omega)
      omega
  · rcases sited.sites use extent has with heap | screen
    · have low := heap.above
      have high := heap.below
      have within := sited.ranges.heapBelow
      have common := sited.ranges.apart point (by omega) (by omega) (by omega)
      omega
    · rw [screen.address] at unmapped
      cases unmapped

/-- A new surface is clear, unless it shows the picture. -/
theorem clear (sited : Sited start) {plan : SurfacePlan} {backBuffer : Option Handle} {handle : Handle}
    {surface : Surface} (built : Built start plan backBuffer handle surface final)
    (shows : plan.Shows start.mode) (hidden : final.frameBuffer ≠ some surface.memory) :
    surface.Clear final.memory := by
  intro point inside
  rcases (sited.placed built shows).2 with ⟨onHeap, carved⟩ | ⟨screen, -⟩
  · obtain ⟨above, below⟩ := inside
    -- Only on the heap was something cut off, and the aperture is elsewhere.
    refine (carved.blank point above below).resolve_right fun ⟨low, high⟩ => ?_
    have heapAbove := sited.ranges.heapAbove
    have limit := built.groundwork.heapWithin sited.ranges.heapBelow
    have videoAbove := sited.ranges.videoAbove
    have starts := onHeap.above
    have ends := onHeap.below
    have common := sited.ranges.apart point (by omega) (by omega) (by omega)
    omega
  · exact absurd screen.address hidden

end Sited

namespace Spared

theorem refl (session : Session) : Spared session session where
  clear handle surface live new := by
    rw [live] at new
    cases new
  bytes _ _ _ _ _ := rfl

/-- More is done, and surfaces that come are clear. -/
theorem later (spared : Spared start middle) (first : Sited start) (sited : Sited middle)
    (before : Groundwork start middle) (ground : Groundwork middle final)
    (surfaces : ∀ handle surface, final.objects.surface? handle = some surface →
      (∃ old, middle.objects.surface? handle = some old ∧ surface.fixed = old.fixed) ∨
        (final.frameBuffer ≠ some surface.memory → surface.Clear final.memory)) :
    Spared start final where
  clear handle surface live new hidden := by
    rcases surfaces handle surface live with ⟨old, was, fixed⟩ | clear
    · intro point inside
      have pixels := Sited.pixels_of_fixed fixed
      have buried : middle.frameBuffer ≠ some old.memory := by
        intro mapped
        have place : surface.memory = old.memory := congrArg Extent.address pixels
        exact hidden (place ▸ ground.frameBuffer mapped)
      rw [pixels] at inside
      rw [sited.byte?_eq ground (Session.extent?_pixels was) inside]
      exact spared.clear handle old was new buried point inside
    · exact clear hidden
  bytes _ _ has _ inside := first.byte?_eq (before.trans ground) has inside

/-- One more surface is made. -/
theorem built (spared : Spared start middle) (first : Sited start) (sited : Sited middle)
    (before : Groundwork start middle) {plan : SurfacePlan} {backBuffer : Option Handle}
    {handle : Handle} {surface : Surface} (built : Built middle plan backBuffer handle surface final)
    (shows : plan.Shows middle.mode) : Spared start final := by
  refine spared.later first sited before built.groundwork ?_
  intro other made live
  rcases ObjectTable.surface?_of_create sited.linked.numbered built.made live with was | ⟨-, is⟩
  · exact .inl ⟨made, was, rfl⟩
  · cases is
    exact .inr (sited.clear built shows)

/-- A back buffer alone. -/
theorem first (sited : Sited start) {plan : SurfacePlan} {child : Handle} {back : Surface}
    (first : Built start (plan.child start.chain) none child back middle) : Spared start middle :=
  (refl start).built sited sited (.refl start) first fun onScreen => nomatch onScreen

theorem created (sited : Sited start) {handle : Handle} {surface : Surface}
    (created : Created start handle surface final) : Spared start final := by
  obtain ⟨plan, shows, raised⟩ := created
  cases raised with
  | single made => exact (refl start).built sited sited (.refl start) made shows
  | double back second =>
    exact (first sited back).built sited (sited.first back) back.groundwork second
      (back.groundwork.mode ▸ shows)

theorem abandoned (sited : Sited start) (abandoned : Abandoned start final) : Spared start final := by
  cases abandoned with
  | early ground =>
    exact (refl start).later sited sited (.refl start) ground.1 fun handle surface live =>
      .inl ⟨surface, ground.2 ▸ live, rfl⟩
  | late back ground =>
    have middle := sited.first back
    exact (first sited back).later sited middle back.groundwork { ground.1 with }
      fun handle surface live =>
        .inl ((ObjectTable.Inherits.drain middle.linked.wf _).surface handle surface live)

end Spared

/-- The four bytes at `out` are neither in the range of the heap nor in that of the aperture. -/
def Session.Outside (session : Session) (out : Nat) : Prop :=
  ∀ point, out ≤ point → point < out + 4 →
    ¬ (session.heap.base ≤ point ∧ point < session.heap.limit) ∧
      ¬ (session.video.base ≤ point ∧ point < session.video.limit)

/-- A pointer that is stored outside of both ranges is stored to no memory that is in use. -/
theorem Sited.byte?_answered (sited : Sited start) {out pointer : Nat} (outside : start.Outside out)
    (backed : middle.memory.holds out 4 = true) (has : start.extent? use = some extent) {point : Nat}
    (inside : extent.Covers point) :
    (middle.answered out pointer).memory.byte? point = middle.memory.byte? point := by
  have length := LittleEndian.length_ofDword (UInt32.ofNat pointer)
  rw [Session.answered, Memory.byte?_put (length.symm ▸ backed), length]
  refine if_neg ?_
  rintro ⟨above, below⟩
  obtain ⟨offHeap, offVideo⟩ := outside point above below
  exact (sited.within has inside).elim offHeap offVideo

theorem Sited.spared_createSurface (sited : Sited start) (request : Nat) {out : Nat}
    (outside : start.Outside out) : Spared start (start.after (.createSurface request out)) := by
  refine Ends.after (((ends_createSurface sited.linked.numbered request out).discard).imp ?_ ?_)
  · rintro _ _ ⟨pointer, handle, surface, middle, created, -, backed, rfl⟩
    have ground := created.groundwork
    have spared := Spared.created sited created
    have sitedMiddle := sited.created created
    have still : middle.Outside out := by
      rw [Session.Outside, ground.heapBase, ground.heapLimit, ground.videoBase, ground.videoLimit]
      exact outside
    have backed : middle.memory.holds out 4 = true := ground.holds _ _ ▸ backed
    refine ⟨?_, ?_⟩
    · intro other made live new hidden point inside
      rw [Session.objects_answered] at live
      rw [Session.frameBuffer_answered] at hidden
      have has : middle.extent? (.pixels other) = some made.pixels := Session.extent?_pixels live
      rw [sitedMiddle.byte?_answered still backed has inside]
      exact spared.clear other made live new hidden point inside
    · intro use extent has point inside
      rw [sited.byte?_answered outside backed has inside]
      exact spared.bytes use extent has point inside
  · rintro final (abandoned | ⟨-, handle, surface, created⟩)
    · exact .abandoned sited abandoned
    · exact .created sited created

/-! ### Every state -/

/-- Memory that is in use for one thing is in use for nothing else. -/
structure Separated (session : Session) : Prop where
  backed : ∀ handle surface, session.objects.surface? handle = some surface →
    session.memory.holds surface.memory (surface.pitch * surface.height) = true
  /-- Only surfaces that show the picture have memory in common. -/
  apart : ∀ one other first second, one ≠ other → session.extent? one = some first →
    session.extent? other = some second →
      first.Apart second ∨ OnScreen session one first ∧ OnScreen session other second
  /-- Also when no surface comes of it in the end. -/
  spared : ∀ request out, session.Outside out →
    Spared session (session.after (.createSurface request out))

/-- **Memory stays apart** in every state that a session can come to, whatever is called and
whatever fails. -/
theorem memory_separated (memory : Memory) {heapBase heapSize videoBase videoSize : Nat}
    (inSpace : heapBase < addressSpace)
    (disjoint : ∀ point, heapBase ≤ point → point < rangeLimit heapBase heapSize →
      videoBase ≤ point → rangeLimit videoBase videoSize ≤ point)
    (stubs : StubTable) (firstHandle : Nat) (mode : DisplayMode) (chain : FlipChain)
    (acts : List Act) :
    Separated ((Session.start memory (.ofRange heapBase heapSize) (.ofRange videoBase videoSize) stubs
      firstHandle mode chain).through acts) := by
  have sited := Sited.kept.through
    (sited_start memory inSpace disjoint stubs firstHandle mode chain) acts
  exact ⟨sited.backed, sited.apart, fun request _ outside => sited.spared_createSurface request outside⟩

/-- A surface comes, and a display mode that it takes no part in. -/
theorem memory_separated_one_pixel :
    0x70 < addressSpace ∧
      (∀ point, 0x70 ≤ point → point < rangeLimit 0x70 0x140 → 0x10000 ≤ point →
        rangeLimit 0x10000 0x10000 ≤ point) ∧
      Separated (onePixel.through
        [.call (.createSurface 4 0x1AC), .call (.setDisplayMode 2 2 16)]) := by
  have disjoint : ∀ point, 0x70 ≤ point → point < rangeLimit 0x70 0x140 → 0x10000 ≤ point →
      rangeLimit 0x10000 0x10000 ≤ point := by
    intro point _ below above
    exact absurd (Nat.lt_of_lt_of_le below (by decide : rangeLimit 0x70 0x140 ≤ 0x10000))
      (Nat.not_lt.mpr above)
  have inSpace : 0x70 < addressSpace := by decide
  exact ⟨inSpace, disjoint, memory_separated _ inSpace disjoint _ _ _ _ _⟩

end GuestDraw
