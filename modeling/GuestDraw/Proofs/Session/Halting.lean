/-
**Setting entries that fails.**

Up to the moment in which the entries of a palette are stored, a call that fails leaves palettes,
their blocks and the screen alone. From then on only one thing can fail, to show a visible surface.
The entries are set nevertheless, the surfaces before that one were shown, and it and those behind
it were not.

* `EntriesKept`: palettes and their blocks are as they were, and nothing was shown;
* `EntriesUnshown`: the entries are set, and showing stopped at a surface;
* `entries_kept_or_unshown`: one or the other, whenever setting entries fails.
-/

import GuestDraw.Proofs.Session.Blocks
import GuestDraw.Proofs.Session.Recolouring

namespace GuestDraw

variable {start middle final : Session} {cause : Failure} {this first count source : Nat}

/-- Palettes and their blocks are as they were, and nothing was shown. -/
structure EntriesKept (start final : Session) : Prop where
  palettes : final.objects.palette? = start.objects.palette?
  blocks : ∀ handle palette, start.objects.palette? handle = some palette →
    ∀ point, palette.block.Covers point → final.memory.byte? point = start.memory.byte? point
  presented : final.presented = start.presented

theorem EntriesKept.refl (session : Session) : EntriesKept session session :=
  ⟨rfl, fun _ _ _ _ _ => rfl, rfl⟩

/-- The entries of the palette are set, and the visible surfaces with it were shown up to one that
cannot be. -/
structure EntriesUnshown (start : Session) (this first count source : Nat) (cause : Failure)
    (final : Session) (handle : Handle) (old new : Palette) (middle : Session) : Prop
    extends EntriesStored start this first count source final handle old new middle where
  stopped : ∃ before user rest frames, start.Onlookers handle (before ++ user :: rest) ∧
    final.presented.toList = start.presented.toList ++ frames ∧
    List.Forall₂ (final.ShownAnew new.entries) before frames ∧ final.Hides user cause

/-- Settling stores pixels, which lie in no block. -/
theorem SettledAll.kept {handles : List Handle} (arranged : Arranged start)
    (settled : SettledAll start handles final) : EntriesKept start final where
  palettes := settled.palettes
  blocks handle palette there point inside := by
    refine settled.bytes point fun user _ surface live => .inr ?_
    exact arranged.not_covers (Use.reserved_paletteBlock handle)
      (Session.extent?_paletteBlock there) live inside
  presented := by
    rw [settled.only]

/-- Where setting entries stops, nothing is set, or everything is. -/
theorem Session.Halts.kept_or_unshown {spoilt : Nat → Prop} (ranked : Ranked start)
    (reflected : Reflected spoilt start) (halts : start.Halts this first count source cause final) :
    EntriesKept start final ∨ ∃ handle old new middle,
      EntriesUnshown start this first count source cause final handle old new middle := by
  have arranged := reflected.arranged
  cases halts with
  | unknown => exact .inl (.refl start)
  | refused => exact .inl (.refl start)
  | unsettled accepts users settled balks => exact .inl (settled.kept arranged)
  | unread accepts settled => exact .inl (settled.kept arranged)
  | outside accepts settled => exact .inl (settled.kept arranged)
  | faded taken unbacked =>
    rw [taken.settled.holds, reflected.backs_entries taken.there] at unbacked
    cases unbacked
  | @unshown handle user palette colours before rest _ middle _ taken backed users shown visible hides =>
    obtain ⟨frames, presented, each⟩ := taken.presented shown ranked.linked fun other member => by
      rw [users]
      exact List.mem_append_left _ member
    refine .inr ⟨handle, palette, _, middle, taken.stored shown backed, before.filter start.visible,
      user, rest.filter start.visible, frames, ?_, presented, each, hides⟩
    have onlookers := ranked.onlookers handle
    rw [shown.visible_eq, taken.visible_eq] at visible
    rwa [users, List.filter_append, List.filter_cons_of_pos visible] at onlookers

/-- **Setting entries that fails leaves palettes, blocks and screen alone, unless it is too late for
that**: then the entries are set as a whole, and one of the visible surfaces with the palette cannot
be shown, because its pixels cannot be decoded or no handle is left for its cache. So it is in every
state of a session whose heap and aperture have no memory in common, whatever the guest has
stored. -/
theorem entries_kept_or_unshown (memory : Memory) {heapBase heapSize videoBase videoSize : Nat}
    (inSpace : heapBase < addressSpace)
    (disjoint : ∀ point, heapBase ≤ point → point < rangeLimit heapBase heapSize →
      videoBase ≤ point → rangeLimit videoBase videoSize ≤ point)
    (stubs : StubTable) (firstHandle : Nat) (mode : DisplayMode) (chain : FlipChain)
    (acts : List Act)
    (reached : start = (Session.start memory (.ofRange heapBase heapSize)
      (.ofRange videoBase videoSize) stubs firstHandle mode chain).through acts)
    (failed : Engine.paletteSetEntries this first count source start = .error cause final) :
    EntriesKept start final ∨ ∃ handle old new middle,
      EntriesUnshown start this first count source cause final handle old new middle := by
  subst reached
  have ranked := ranked_through memory (.ofRange heapBase heapSize) (.ofRange videoBase videoSize)
    stubs firstHandle mode chain acts
  have reflected := Reflected.tended.through_spoilt
    (reflected_start memory inSpace disjoint stubs firstHandle mode chain) acts
  exact ((endsWith_paletteSetEntries ranked this first count source).of_error failed).kept_or_unshown
    ranked reflected

end GuestDraw
