/-
**Surfaces with back buffers.**

A request that succeeds brings one surface, or a surface and its back buffer if it asked for one,
and nothing else. The back buffer looks like the surface that owns it, but its pixels are on the
heap, where the frame buffer is not, and its capabilities are those that the display is set to give
it. When the pointer is given back, what has come is gone.

* `ObjectTable.objects_remove_of_append`, `ObjectTable.drain_release_new`: objects that were added
  last are taken out again;
* `Session.Chained`: a surface and its back buffer;
* `Supplied`, `supplied_of_raised`: what a request brings;
* `Supplied.released`: what is left when the pointer is given back;
* `flip_chains_whole`: so it is in every state.
-/

import GuestDraw.Proofs.Session.Descriptions
import GuestDraw.Proofs.Session.Primaries
import GuestDraw.Proofs.Session.Requests
import GuestDraw.Proofs.Session.Room

namespace GuestDraw

variable {start middle final session : Session}

/-! ### Objects that were added last -/

namespace ObjectTable

variable {table after : ObjectTable} {handle : Handle} {payload : Payload} {rest : List Object}

theorem objects_remove_of_append (last : table.objects = rest ++ [⟨handle, none, 1, payload⟩])
    (other : ∀ object ∈ rest, object.handle ≠ handle) :
    (table.remove ⟨handle, none, 1, payload⟩).objects = rest := by
  have kept : rest.filter (·.handle ≠ handle) = rest :=
    List.filter_eq_self.mpr fun object member => decide_eq_true (other object member)
  show table.objects.filter (·.handle ≠ handle) = rest
  rw [last, List.filter_append, kept]
  simp

theorem find?_of_append (last : table.objects = rest ++ [⟨handle, none, 1, payload⟩])
    (other : ∀ object ∈ rest, object.handle ≠ handle) :
    table.find? handle = some ⟨handle, none, 1, payload⟩ := by
  have absent : rest.find? (·.handle = handle) = none :=
    List.find?_eq_none.mpr fun object member same => other object member (of_decide_eq_true same)
  show table.objects.find? (·.handle = handle) = _
  rw [last, List.find?_append, absent]
  simp

/-- Giving back an object that was added last does what is left to do for it, without the object. -/
theorem drain_release_new (last : table.objects = rest ++ [⟨handle, none, 1, payload⟩])
    (other : ∀ object ∈ rest, object.handle ≠ handle) :
    ∃ left : ObjectTable, left.objects = rest ∧
      drain [.release handle] table = drain payload.teardown left := by
  have found := find?_of_append last other
  refine ⟨_, objects_remove_of_append last other, ?_⟩
  rw [drain_release_of_last found (Nat.le_refl 1), drain_close found]

/-- An object that is created comes last, and no other one has its handle. -/
theorem append_of_create (numbered : table.Numbered 0)
    (made : table.create payload = .ok (handle, after)) :
    after.objects = table.objects ++ [⟨handle, none, 1, payload⟩] ∧
      ∀ object ∈ table.objects, object.handle ≠ handle := by
  obtain ⟨-, rfl, rfl⟩ := insert_eq_ok_iff.mp made
  refine ⟨rfl, fun object member same => ?_⟩
  have below := numbered.below object member
  rw [same] at below
  exact Nat.lt_irrefl _ below

end ObjectTable

/-! ### A surface and its back buffer -/

/-- Nothing is attached to a surface, save for a back buffer. -/
structure Surface.Bare (surface : Surface) : Prop where
  palette : surface.palette = none
  deviceContext : surface.deviceContext = none
  cache : surface.cache = none
  unlocked : surface.locked = false

/-- Closing a surface to which nothing is attached gives back the back buffer and nothing else. -/
theorem Surface.Bare.teardown {surface : Surface} (bare : surface.Bare) :
    (Payload.surface surface).teardown = (surface.backBuffer.map Teardown.release).toList := by
  simp [Payload.teardown, bare.palette, bare.deviceContext, bare.cache]

/-- A request asks for a back buffer. -/
def Request.AsksForBackBuffer (request : Request) : Prop :=
  request.flags.contains DescFlags.backBufferCount = true ∧ request.backBufferCount = 1

/-- The second surface is the back buffer of the first one, as it is when both have just come. -/
structure Session.Chained (session : Session) (front : Surface) (child : Handle) (back : Surface) :
    Prop where
  owned : front.backBuffer = some child
  last : back.backBuffer = none
  flags : back.flags = front.flags
  width : back.width = front.width
  height : back.height = front.height
  depth : back.depth = front.depth
  pitch : back.pitch = front.pitch
  caps : back.caps = (front.caps \ session.chain.childClear) ∪ session.chain.childSet
  owner : front.caps.contains session.chain.parentSet = true
  /-- The pixels of the back buffer are on the heap, those of its owner are the picture. -/
  onHeap : session.heap.base ≤ back.memory ∧ back.pixels.stop ≤ session.heap.limit
  onScreen : session.frameBuffer = some front.memory
  apart : back.memory ≠ front.memory ∧
    ∀ size, session.mode.frameSize? = some size → back.pixels.Apart ⟨front.memory, size⟩

/-- What a request brings, and where the pointer leads. -/
inductive Supplied (start final : Session) (wanted : Request) (pointer : Nat) : Prop
  | single {handle : Handle} {surface : Surface} (one : ¬ wanted.AsksForBackBuffer)
    (leads : final.surfaceFor? pointer = some handle)
    (fresh : start.objects.find? handle = none) (bare : surface.Bare)
    (alone : surface.backBuffer = none)
    (objects : final.objects.objects =
      start.objects.objects ++ [⟨handle, none, 1, .surface surface⟩])
  | double {handle child : Handle} {front back : Surface} (two : wanted.AsksForBackBuffer)
    (leads : final.surfaceFor? pointer = some handle)
    (fresh : start.objects.find? handle = none ∧ start.objects.find? child = none ∧ child ≠ handle)
    (bare : front.Bare ∧ back.Bare) (chained : final.Chained front child back)
    (objects : final.objects.objects = start.objects.objects ++
      [⟨child, none, 1, .surface back⟩, ⟨handle, none, 1, .surface front⟩])

/-- A surface that comes with a back buffer is chained to it. -/
theorem chained_of_built (sited : Sited start) {plan : SurfacePlan} {handle child : Handle}
    {front back : Surface} (shown : plan.backing = .frameBuffer)
    (owner : plan.caps.contains start.chain.parentSet = true)
    (first : Built start (plan.child start.chain) none child back middle)
    (second : Built middle plan (some child) handle front final) :
    final.Chained front child back := by
  have ground := second.groundwork
  have between := sited.first first
  have ranges := between.ranges.grow ground
  have chain : final.chain = start.chain := ground.chain.trans first.groundwork.chain
  have heap : OnHeap final back.pixels :=
    ((first.onNewHeap rfl).onHeap sited.ranges first.groundwork).grow ground
  have screen : final.frameBuffer = some front.memory := by
    have pixels := second.pixels
    rwa [SurfacePlan.PixelsAt, shown] at pixels
  refine
    { owned := by rw [second.shape]; rfl
      last := by rw [first.shape]; rfl
      flags := by rw [first.shape, second.shape]; rfl
      width := by rw [first.shape, second.shape]; rfl
      height := by rw [first.shape, second.shape]; rfl
      depth := by rw [first.shape, second.shape]; rfl
      pitch := by rw [first.shape, second.shape]; rfl
      caps := by rw [first.shape, second.shape, chain]; rfl
      owner := by rw [second.shape, chain]; exact owner
      onHeap := ⟨heap.above, heap.below.trans ranges.heapBelow⟩
      onScreen := screen
      apart := ⟨fun same => ?_, fun size sized => ?_⟩ }
  · have place : back.pixels.address = front.memory := same
    rw [← place] at screen
    exact ranges.not_inAperture heap (ranges.inAperture screen)
  · have picture : OnScreen final (.pixels handle) ⟨front.memory, size⟩ :=
      ⟨⟨handle, rfl⟩, screen, sized⟩
    exact ranges.apart_screen heap picture

/-- A pair stays one while answers are stored. -/
theorem Session.Chained.answered {front back : Surface} {child : Handle}
    (chained : session.Chained front child back) (out pointer : Nat) :
    (session.answered out pointer).Chained front child back where
  owned := chained.owned
  last := chained.last
  flags := chained.flags
  width := chained.width
  height := chained.height
  depth := chained.depth
  pitch := chained.pitch
  caps := by rw [chained.caps, chain_answered]
  owner := by rw [chain_answered]; exact chained.owner
  onHeap := by rw [heap_answered]; exact chained.onHeap
  onScreen := by rw [frameBuffer_answered]; exact chained.onScreen
  apart := by rw [mode_answered]; exact chained.apart

/-! ### What a request brings -/

/-- The block of a surface that has just come describes it. -/
theorem Raised.mirrored (sited : Sited start) {plan : SurfacePlan} {handle : Handle}
    {surface : Surface} (raised : Raised start plan handle surface final) :
    ∃ format, FormatRecord.forDepth? surface.depth = some format ∧
      Mirrored (fun _ => False) final .surface handle (surface.told format).bytes surface.block := by
  cases raised with
  | single built => exact built.mirrored sited
  | double first second => exact second.mirrored (sited.first first)

/-- The pointer to a surface that has just come leads to it. -/
theorem surfaceFor?_of_raised (sited : Sited start) {plan : SurfacePlan} {handle : Handle}
    {surface : Surface} (raised : Raised start plan handle surface final)
    (shows : plan.Shows start.mode)
    {out : Nat} (outside : start.Outside out) (backed : start.memory.holds out 4 = true) :
    (final.answered out surface.object).surfaceFor? surface.object = some handle := by
  have created : Created start handle surface final := ⟨plan, shows, raised⟩
  have sitedFinal := sited.created created
  have live := created.live sited.linked.numbered
  have ground := created.groundwork
  obtain ⟨format, known, mirrored⟩ := raised.mirrored sited
  have still : final.Outside out := by
    rw [Session.Outside, ground.heapBase, ground.heapLimit, ground.videoBase, ground.videoLimit]
    exact outside
  have backed : final.memory.holds out 4 = true := ground.holds _ _ ▸ backed
  have kept : Mirrored (fun _ => False) (final.answered out surface.object) .surface handle
      (surface.told format).bytes surface.block :=
    mirrored.keep (fun _ _ => Memory.holds_put _ _ _ _ _)
      (fun _ _ has => by rwa [Session.vtables_answered])
      fun point inside => .inl (sitedFinal.byte?_answered still backed
        (Session.extent?_surfaceBlock live) inside)
  obtain ⟨_, -, held⟩ := kept.holdsSurface known
  exact held.surfaceFor?_eq (by rw [Session.objects_answered, live])

/-- A surface that has just come is as it was planned. -/
theorem Raised.shape {plan : SurfacePlan} {handle : Handle} {surface : Surface}
    (raised : Raised start plan handle surface final) :
    ∃ backBuffer, surface = plan.surface backBuffer surface.memory surface.object := by
  cases raised with
  | single built => exact ⟨none, built.shape⟩
  | double first second => exact ⟨_, second.shape⟩

theorem Built.bare {plan : SurfacePlan} {backBuffer : Option Handle} {handle : Handle}
    {surface : Surface} (built : Built start plan backBuffer handle surface final) :
    surface.Bare := by
  rw [built.shape]
  exact ⟨rfl, rfl, rfl, rfl⟩

/-- A request that succeeds brings what it asks for and nothing else. -/
theorem supplied_of_raised (sited : Sited start) {wanted : Request} {plan : SurfacePlan}
    (planned : planSurface start.mode start.chain wanted = .ok plan) {handle : Handle}
    {surface : Surface} (raised : Raised start plan handle surface final)
    (doubled : surface.backBuffer.isSome = plan.backBuffer) {out : Nat}
    (outside : start.Outside out)
    (backed : start.memory.holds out 4 = true) :
    Supplied start (final.answered out surface.object) wanted surface.object := by
  have leads := surfaceFor?_of_raised sited raised (planSurface_shows planned) outside backed
  obtain ⟨-, doubles⟩ := planSurface_accepted planned
  have numbered := sited.linked.numbered
  cases raised with
  | single built =>
    obtain ⟨objects, different⟩ := ObjectTable.append_of_create numbered built.made
    have alone : surface.backBuffer = none := by rw [built.shape]; rfl
    refine .single (fun asked => ?_) leads (ObjectTable.find?_eq_none_iff.mpr different) built.bare
      alone objects
    rw [alone, doubles.asked.mpr asked] at doubled
    cases doubled
  | @double middle _ child back first second =>
    obtain ⟨objects, different⟩ := ObjectTable.append_of_create numbered first.made
    obtain ⟨more, differentToo⟩ :=
      ObjectTable.append_of_create (sited.first first).linked.numbered second.made
    have has : plan.backBuffer = true := by
      rw [← doubled, second.shape]
      rfl
    rw [objects, List.append_assoc] at more
    rw [objects] at differentToo
    have chained := chained_of_built sited (planSurface_shown planned has) (doubles.owner has) first
      second
    refine .double (doubles.asked.mp has) leads ⟨?_,
      ObjectTable.find?_eq_none_iff.mpr different, ?_⟩
      ⟨second.bare, first.bare⟩ (chained.answered out _) more
    · exact ObjectTable.find?_eq_none_iff.mpr fun object member =>
        differentToo object (List.mem_append_left _ member)
    · exact differentToo _ (List.mem_append_right _ (.head _))

/-! ### Giving the pointer back -/

/-- A pointer that leads to a live surface can be given back. -/
theorem Engine.surfaceRelease_eq {this : Nat} {handle : Handle} {object : Object}
    (leads : session.surfaceFor? this = some handle)
    (found : session.objects.find? handle = some object) :
    Engine.surfaceRelease this session = .ok (object.references - 1)
      { session with objects := .drain [.release handle] session.objects } := by
  have released : session.objects.release handle = .ok (object.references - 1,
      .drain [.release handle] session.objects) :=
    ObjectTable.release_eq_ok_iff.mpr ⟨object, found, rfl, rfl⟩
  have ends : Ends (Engine.surfaceRelease this) session
      (fun count final => count = object.references - 1 ∧
        final = { session with objects := .drain [.release handle] session.objects })
      fun _ => False := by
    refine Ends.bind (ends_resolveSurface_live leads _) ?_
    rintro _ _ ⟨rfl, rfl⟩
    exact ends_onObjects_of_ok released
  obtain ⟨_, _, ended, rfl, rfl⟩ := ends.exists_ok
  exact ended

/-- What a request brought is gone when the pointer is given back. -/
theorem Supplied.released {wanted : Request} {pointer : Nat}
    (supplied : Supplied start final wanted pointer) :
    ∃ count left, Engine.surfaceRelease pointer final = .ok count left ∧
      left.objects.objects = start.objects.objects := by
  cases supplied with
  | @single handle surface one leads fresh bare alone objects =>
    have other := ObjectTable.find?_eq_none_iff.mp fresh
    have found := ObjectTable.find?_of_append objects other
    obtain ⟨left, rest, drained⟩ := ObjectTable.drain_release_new objects other
    refine ⟨_, _, Engine.surfaceRelease_eq leads found, ?_⟩
    show (ObjectTable.drain [.release handle] final.objects).objects = _
    rw [drained, bare.teardown, alone, ← rest]
    show (ObjectTable.drain [] left).objects = left.objects
    rw [ObjectTable.drain]
  | @double handle child front back two leads fresh bare chained objects =>
    obtain ⟨freshFront, freshBack, different⟩ := fresh
    have otherBack := ObjectTable.find?_eq_none_iff.mp freshBack
    have both : start.objects.objects ++ [⟨child, none, 1, .surface back⟩,
        ⟨handle, none, 1, .surface front⟩] = (start.objects.objects ++
          [⟨child, none, 1, .surface back⟩]) ++ [⟨handle, none, 1, .surface front⟩] := by
      rw [List.append_assoc]
      rfl
    have otherFront : ∀ object ∈ start.objects.objects ++ [⟨child, none, 1, .surface back⟩],
        object.handle ≠ handle := by
      intro object member
      rcases List.mem_append.mp member with old | new
      · exact ObjectTable.find?_eq_none_iff.mp freshFront object old
      · rw [List.mem_singleton.mp new]
        exact different
    rw [both] at objects
    have found := ObjectTable.find?_of_append objects otherFront
    obtain ⟨middle, rest, drained⟩ := ObjectTable.drain_release_new objects otherFront
    obtain ⟨left, remaining, drainedToo⟩ := ObjectTable.drain_release_new rest otherBack
    refine ⟨_, _, Engine.surfaceRelease_eq leads found, ?_⟩
    show (ObjectTable.drain [.release handle] final.objects).objects = _
    rw [drained, bare.1.teardown, chained.owned]
    show (ObjectTable.drain [.release child] middle).objects = _
    rw [drainedToo, bare.2.teardown, chained.last, ← remaining]
    show (ObjectTable.drain [] left).objects = left.objects
    rw [ObjectTable.drain]

/-- **A request brings one surface, or a surface and its back buffer, and nothing else**, in every
state that a session can come to, and giving back the pointer takes all of it away again. -/
theorem flip_chains_whole (memory : Memory) {heapBase heapSize videoBase videoSize : Nat}
    (inSpace : heapBase < addressSpace)
    (disjoint : ∀ point, heapBase ≤ point → point < rangeLimit heapBase heapSize →
      videoBase ≤ point → rangeLimit videoBase videoSize ≤ point)
    (stubs : StubTable) (firstHandle : Nat) (mode : DisplayMode) (chain : FlipChain)
    (acts : List Act) {session : Session}
    (reached : session = (Session.start memory (.ofRange heapBase heapSize)
      (.ofRange videoBase videoSize) stubs firstHandle mode chain).through acts)
    {request out : Nat} (outside : session.Outside out) {pointer : Nat} {final : Session}
    (created : Engine.createSurface request out session = .ok pointer final) :
    ∃ wanted, Request.read session.memory request = .ok wanted ∧
      Supplied session final wanted pointer ∧
      ∃ count left, Engine.surfaceRelease pointer final = .ok count left ∧
        left.objects.objects = session.objects.objects := by
  have sited : Sited session := reached ▸ Sited.kept.through
    (sited_start memory inSpace disjoint stubs firstHandle mode chain) acts
  obtain ⟨plan, handle, surface, middle, ⟨wanted, read, planned⟩, raised, doubled,
    rfl, backed, rfl⟩ :=
    (ends_createSurface_ordered sited.linked.numbered request out).of_ok created
  have supplied := supplied_of_raised sited planned raised doubled outside backed
  exact ⟨wanted, read, supplied, supplied.released⟩

/-- A request for a primary surface of one pixel, with a back buffer. -/
def flippedRequest : Request where
  size := 0x6C
  flags := DescFlags.caps ∪ DescFlags.backBufferCount
  width := 0
  height := 0
  backBufferCount := 1
  caps := SurfaceCaps.primarySurface ∪ SurfaceCaps.composite

/-- A session in which that request can be made, and room for what it asks for. -/
def onePixelFlipped : Session :=
  .start
    ((Memory.zeroed 0xFF0 0x310).put 0x1000 <| recordBytes 0x6C
      [(Descriptor.sizeOffset, flippedRequest.size),
        (Descriptor.flagsOffset, flippedRequest.flags.bits),
        (Descriptor.backBufferCountOffset, flippedRequest.backBufferCount),
        (Descriptor.capsOffset, flippedRequest.caps.bits)])
    (.ofRange 0x1070 0x290) (.ofRange 0xFF0 0x10) (.ofRange 0x20000 0x1000) 1 ⟨1, 1, 32⟩
    .standard

theorem onePixelFlipped_holds {address length : Nat} (above : 0xFF0 ≤ address)
    (below : address + length ≤ 0x1300) : onePixelFlipped.memory.holds address length = true := by
  show ((Memory.zeroed 0xFF0 0x310).put _ _).holds address length = true
  rw [Memory.holds_put, Memory.holds_iff]
  show 0xFF0 ≤ address ∧ address - 0xFF0 + length ≤ (Array.replicate 0x310 (0 : UInt8)).size
  rw [Array.size_replicate]
  omega

theorem onePixelFlipped_room : onePixelFlipped.Room 650 72 2 where
  heap := by decide
  heapNarrow := by decide
  backed address length above below := by
    have above : 0x1070 ≤ address := above
    have below : address + length ≤ 0x1300 := below
    exact onePixelFlipped_holds (by omega) below
  stubs := by decide
  stubsNarrow := by decide
  handles := by decide
  picture := .inr ⟨4, 0x1000, rfl, by decide, onePixelFlipped_holds (by decide) (by decide)⟩

theorem onePixelFlipped_apart (point : Nat) (above : 0x1070 ≤ point)
    (_ : point < rangeLimit 0x1070 0x290) (_ : 0xFF0 ≤ point) : rangeLimit 0xFF0 0x10 ≤ point :=
  (by decide : rangeLimit 0xFF0 0x10 ≤ 0x1070).trans above

theorem onePixelFlipped_sited : Sited onePixelFlipped :=
  sited_start _ (by decide) onePixelFlipped_apart _ _ _ _

theorem onePixelFlipped_outside : onePixelFlipped.Outside 0x106C := by
  unfold Session.Outside
  decide

theorem onePixelFlipped_asked :
    Request.read onePixelFlipped.memory 0x1000 = .ok flippedRequest := by
  decide +kernel

theorem onePixelFlipped_created :
    ∃ pointer final, Engine.createSurface 0x1000 0x106C onePixelFlipped = .ok pointer final :=
  onePixelFlipped_room.createSurface onePixelFlipped_sited.linked.numbered (by decide)
    onePixelFlipped_asked rfl rfl (onePixelFlipped_holds (by decide) (by decide))

/-- A surface comes with its back buffer, and both are gone when the pointer is given back. -/
theorem flip_chains_whole_one_pixel :
    0x1070 < addressSpace ∧
      (∀ point, 0x1070 ≤ point → point < rangeLimit 0x1070 0x290 → 0xFF0 ≤ point →
        rangeLimit 0xFF0 0x10 ≤ point) ∧
      onePixelFlipped.Outside 0x106C ∧ flippedRequest.AsksForBackBuffer ∧
      ∃ pointer final, Engine.createSurface 0x1000 0x106C onePixelFlipped = .ok pointer final ∧
        Supplied onePixelFlipped final flippedRequest pointer ∧
        ∃ count left, Engine.surfaceRelease pointer final = .ok count left ∧
          left.objects.objects = [] := by
  have inSpace : 0x1070 < addressSpace := by decide
  have outside := onePixelFlipped_outside
  obtain ⟨pointer, final, created⟩ := onePixelFlipped_created
  obtain ⟨wanted, same, supplied, left⟩ :=
    flip_chains_whole _ inSpace onePixelFlipped_apart _ _ _ _ [] rfl outside created
  cases onePixelFlipped_asked.symm.trans same
  exact ⟨inSpace, onePixelFlipped_apart, outside, ⟨by decide, rfl⟩, pointer, final,
    created, supplied,
    left⟩

end GuestDraw
