/-
**What is mapped of the aperture.**

The frame buffer is mapped first, cleared then and recorded last. Clearing it fails where memory
does not back the aperture, and then the mapping stays without being recorded: nothing gives it
back. Where memory backs the whole aperture nothing can go wrong between the two, so nothing is ever
mapped but the frame buffer, whatever is called and whatever fails.

* `frameBuffer_mapped`: a frame buffer is always a live mapping;
* `SoleMapping`: there is no other mapping, and `SoleMapping.step`: none comes;
* `mappings_eq_frameBuffer`: so it is in every state, if memory backs the aperture.
-/

import GuestDraw.Proofs.Session.Modes

namespace GuestDraw

variable {start final session : Session}

/-! ### The frame buffer -/

theorem Mapped.kept : Kept Step fun session => Linked session.objects ∧ Mapped session :=
  ⟨And.left, fun held step => ⟨held.1.step step, held.2.step step⟩⟩

/-- **A frame buffer is mapped**, with room for the picture, in every state that a session can come
to. -/
theorem frameBuffer_mapped (memory : Memory) (heap : Heap) (video : Aperture) (stubs : StubTable)
    (firstHandle : Nat) (mode : DisplayMode) (chain : FlipChain) (acts : List Act) :
    Mapped ((Session.start memory heap video stubs firstHandle mode chain).through acts) := by
  have begins : Mapped (.start memory heap video stubs firstHandle mode chain) := nofun
  exact (Mapped.kept.through ⟨.startingAt firstHandle, begins⟩ acts).2

/-! ### Nothing else -/

/-- Memory backs the aperture, and nothing is mapped but the frame buffer. -/
structure SoleMapping (session : Session) : Prop where
  linked : Linked session.objects
  above : session.video.base ≤ session.video.next
  frame : ∀ address, session.frameBuffer = some address → session.video.base ≤ address
  backed : session.memory.holds session.video.base
    (session.video.limit - session.video.base) = true
  sole : session.video.mappings.map Prod.fst = session.frameBuffer.toList

namespace SoleMapping

/-- Memory backs every part of the aperture. -/
theorem holds_inside (sole : SoleMapping session) {place size : Nat}
    (above : session.video.next ≤ place) (below : place + size ≤ session.video.limit) :
    session.memory.holds place size = true := by
  have backed := Memory.holds_iff.mp sole.backed
  have low := sole.above
  rw [Memory.holds_iff]
  omega

theorem same (sole : SoleMapping start) (linked : Linked final.objects)
    (places : SamePlaces start final) : SoleMapping final := by
  obtain ⟨-, above, frame, backed, sole⟩ := sole
  refine ⟨linked, ?_, ?_, ?_, ?_⟩
  · rwa [places.video]
  · rwa [places.frameBuffer, places.video]
  · rwa [places.video, places.holds]
  · rwa [places.video, places.frameBuffer]

theorem grow (sole : SoleMapping start) (linked : Linked final.objects)
    (ground : Groundwork start final) : SoleMapping final := by
  have low := sole.above
  refine ⟨linked, ?_, fun address mapped => ?_, ?_, ?_⟩
  · rw [ground.videoBase]
    exact low.trans ground.videoNext
  · rw [ground.videoBase]
    rcases ground.frame with same | ⟨-, place, _, taken, -, above, -⟩
    · exact sole.frame address (same ▸ mapped)
    · cases taken.symm.trans mapped
      exact low.trans above
  · rw [ground.videoBase, ground.videoLimit, ground.holds]
    exact sole.backed
  · rcases ground.mappings with ⟨frame, same⟩ | ⟨none, address, length, mapped, more⟩ |
      ⟨place, size, above, below, unbacked⟩
    · rw [frame, same]
      exact sole.sole
    · have before := sole.sole
      rw [none, Option.toList_none, List.map_eq_nil_iff] at before
      rw [more, before, mapped]
      rfl
    · rw [sole.holds_inside above below] at unbacked
      cases unbacked

theorem unmapped (sole : SoleMapping start) (step : Unmapped start final) : SoleMapping final := by
  obtain @⟨video, mode, -, base, limit, next, mappings⟩ := step
  obtain ⟨linked, above, frame, backed, sole⟩ := sole
  refine ⟨linked, ?_, nofun, ?_, ?_⟩
  · show video.base ≤ video.next
    rw [base]
    rcases next with same | mapped
    · rwa [same]
    · exact frame _ mapped
  · show start.memory.holds video.base (video.limit - video.base) = true
    rwa [base, limit]
  · -- What was mapped was the frame buffer, which is given back.
    show video.mappings.map Prod.fst = []
    rw [List.map_eq_nil_iff, List.eq_nil_iff_forall_not_mem]
    intro mapping inside
    obtain ⟨was, other⟩ := (mappings mapping).mp inside
    have shown : mapping.1 ∈ start.frameBuffer.toList := sole ▸ List.mem_map_of_mem was
    exact other (Option.mem_toList.mp shown)

/-- Nothing else is mapped in any step, also in one that fails half-way. -/
theorem step (sole : SoleMapping start) (step : Step start final) : SoleMapping final := by
  have linked := sole.linked.step step
  cases step with
  | onward step => exact sole.same linked step.places
  | unmapped step => exact sole.unmapped step
  | prepared ground => exact sole.grow linked ground.1
  | created created => exact sole.grow linked created.groundwork
  | abandoned abandoned =>
    cases abandoned with
    | early ground => exact sole.grow linked ground.1
    | late first ground => exact sole.grow linked { first.groundwork.trans ground.1 with }
  | mixed mixed => exact sole.grow linked mixed.groundwork

theorem kept : Kept Step SoleMapping := ⟨SoleMapping.linked, SoleMapping.step⟩

end SoleMapping

/-- **Nothing is mapped but the frame buffer** in any state that a session can come to, if memory
backs the aperture: then no call that fails leaves a mapping behind. -/
theorem mappings_eq_frameBuffer {memory : Memory} (heap : Heap) {videoBase videoSize : Nat}
    (backed : memory.holds videoBase (rangeLimit videoBase videoSize - videoBase) = true)
    (stubs : StubTable) (firstHandle : Nat) (mode : DisplayMode) (chain : FlipChain)
    (acts : List Act) :
    let session := (Session.start memory heap (.ofRange videoBase videoSize) stubs firstHandle mode
      chain).through acts
    session.video.mappings.map Prod.fst = session.frameBuffer.toList := by
  have begins : SoleMapping (.start memory heap (.ofRange videoBase videoSize) stubs firstHandle mode
      chain) := ⟨.startingAt firstHandle, Nat.le_refl _, nofun, backed, rfl⟩
  exact (SoleMapping.kept.through begins acts).sole

/-- Without memory behind the aperture a mapping is lost. -/
example :
    (match Engine.mapFrameBuffer createSurfaceEntry
      (.start (.zeroed 0 0x10) (.ofRange 0 0x10) (.ofRange 0x1000 0x1000) (.ofRange 0x2000 0x100) 1
        ⟨1, 1, 32⟩ .standard) with
    | .ok _ _ => none
    | .error _ final => some (final.frameBuffer, final.video.mappings)) =
      some (none, [(0x1000, 0x1000)]) := by
  decide +kernel

end GuestDraw
