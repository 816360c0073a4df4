/-
**When the mode can change.**

The mode changes while no surface has its pixels in the frame buffer, which is given back first.
Giving it back could fail only if it were not mapped, and then the session would be left without a
frame buffer but in the old mode. This does not happen: a frame buffer is always a live mapping,
with room for the picture. So a change of the mode is refused at once or made as a whole.

* `Mapped`: the frame buffer is a live mapping, and `Mapped.step`: it stays one;
* `Session.frameBufferInUse_iff`: what keeps the mode from changing;
* `Mapped.ends_setDisplayMode`: the mode changes, or nothing does.
-/

import GuestDraw.Proofs.Session.Inheritance

namespace GuestDraw

/-- The frame buffer is a live mapping that is long enough for the picture. -/
def Mapped (session : Session) : Prop :=
  ∀ address, session.frameBuffer = some address → ∃ size length,
    session.mode.frameSize? = some size ∧ session.video.length? address = some length ∧
      size ≤ length

namespace Mapped

variable {start final session : Session}

theorem same (mapped : Mapped start) (places : SamePlaces start final) : Mapped final := by
  intro address has
  rw [places.mode, places.video]
  exact mapped address (places.frameBuffer ▸ has)

theorem grow (mapped : Mapped start) (ground : Groundwork start final) : Mapped final := by
  intro address has
  rw [ground.mode]
  rcases ground.mapping address has with ⟨before, video⟩ | ⟨-, new⟩
  · rw [video]
    exact mapped address before
  · exact new

/-- The frame buffer stays mapped in every step. -/
theorem step (mapped : Mapped start) (step : Step start final) : Mapped final := by
  cases step with
  | onward step => exact mapped.same step.places
  | unmapped step =>
    obtain ⟨-⟩ := step
    intro address has
    cases has
  | prepared ground => exact mapped.grow ground.1
  | created created => exact mapped.grow created.groundwork
  | abandoned abandoned =>
    cases abandoned with
    | early ground => exact mapped.grow ground.1
    | @late plan middle final child back first ground =>
      have grown : Mapped final := mapped.grow (first.groundwork.trans ground.1)
      exact grown
  | mixed mixed => exact mapped.grow mixed.groundwork

/-- A frame buffer that is mapped is given back. -/
theorem ends_unmapFrameBuffer (mapped : Mapped session) {failed : Session → Prop} :
    Ends Engine.unmapFrameBuffer session (fun _ _ => True) failed := by
  unfold Engine.unmapFrameBuffer
  refine .read ?_
  cases has : session.frameBuffer with
  | none => exact trivial
  | some address =>
    refine .change (.read ?_)
    obtain ⟨size, length, -, known, -⟩ := mapped address has
    have unmapping : ∃ video, session.video.unmap address = .ok video := by
      rw [Aperture.unmap, known]
      exact ⟨_, rfl⟩
    obtain ⟨video, unmapping⟩ := unmapping
    show Ends (liftM (session.video.unmap address) >>= _) _ _ _
    rw [unmapping]
    exact trivial

end Mapped

/-- The frame buffer is in use while a live surface has its pixels there. -/
theorem Session.frameBufferInUse_iff {session : Session} (wf : session.objects.WellFormed) :
    session.frameBufferInUse = true ↔ ∃ handle surface,
      session.objects.surface? handle = some surface ∧ session.frameBuffer = some surface.memory := by
  unfold Session.frameBufferInUse
  cases session.frameBuffer with
  | none => exact iff_of_false nofun (by rintro ⟨_, _, -, ⟨⟩⟩)
  | some address =>
    rw [List.any_eq_true]
    constructor
    · rintro ⟨⟨handle, surface⟩, listed, same⟩
      exact ⟨handle, surface, (ObjectTable.mem_surfaces_iff wf).mp listed,
        congrArg some (of_decide_eq_true same).symm⟩
    · rintro ⟨handle, surface, live, same⟩
      exact ⟨(handle, surface), (ObjectTable.mem_surfaces_iff wf).mpr live,
        decide_eq_true (Option.some.inj same).symm⟩

/-- A mode of this size and depth can be set. -/
structure Session.Settable (session : Session) (width height depth : Nat) : Prop where
  supported : depth ∈ DisplayMode.depths
  width : width ≠ 0
  height : height ≠ 0
  unused : session.frameBufferInUse = false

/-- The mode is set, or nothing changes. -/
theorem Mapped.ends_setDisplayMode {session : Session} (mapped : Mapped session)
    (width height depth : Nat) :
    Ends (Engine.setDisplayMode width height depth) session
      (fun _ _ => session.Settable width height depth)
      (fun final => final = session ∧ ¬ session.Settable width height depth) := by
  unfold Engine.setDisplayMode
  refine .refusing (fun unsupported => ⟨rfl, fun settable => unsupported settable.supported⟩)
    fun supported => ?_
  refine .refusing (fun empty => ⟨rfl, fun settable => empty.elim settable.width settable.height⟩)
    fun sized => .read ?_
  rw [not_or] at sized
  refine .refusing (fun used => ⟨rfl, fun settable => ?_⟩) fun unused => ?_
  · rw [settable.unused] at used
    cases used
  · refine Ends.bind mapped.ends_unmapFrameBuffer fun _ final _ => ?_
    exact ⟨not_not.mp supported, sized.1, sized.2, eq_false_of_ne_true unused⟩

end GuestDraw
