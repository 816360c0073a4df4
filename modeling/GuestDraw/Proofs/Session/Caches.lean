/-
**Caches belong to surfaces.**

A raster is cached for one surface, which records it; the raster is as large as the surface and has
the format of its depth. While the surface is locked there is none. This is so in every state that a
session can come to, also after calls that failed half-way and after caches were thrown away with
what was drawn on them.

* `ObjectTable.Matched`: cached rasters match their surfaces, and each step keeps it so;
* `caches_owned`: no cache is without a surface or shared by two.
-/

import GuestDraw.Proofs.Session.Inheritance

namespace GuestDraw

/-! ### Cached rasters match -/

/-- Every cached raster matches the surface that it was made for. -/
def ObjectTable.Matched (table : ObjectTable) : Prop :=
  ∀ cache cached surface, table.cachedRaster? cache = some cached →
    table.surface? cached.owner = some surface → cached.raster.Matches surface

/-- What is cached once an object is created was cached before, for a surface that was there. -/
theorem Linked.cached_of_create {table after : ObjectTable} (linked : Linked table)
    {payload : Payload} {handle : Handle} (made : table.create payload = .ok (handle, after))
    (plain : payload.cachedRaster? = none) {cache : Handle} {cached : CachedRaster}
    {surface : Surface} (content : after.cachedRaster? cache = some cached)
    (live : after.surface? cached.owner = some surface) :
    table.cachedRaster? cache = some cached ∧ table.surface? cached.owner = some surface := by
  have graph := ObjectTable.payload?_create linked.numbered made
  rw [ObjectTable.cachedRaster?_of_update graph, Option.bind_some, plain, Function.update_apply]
    at content
  split at content
  · cases content
  · obtain ⟨owner, was, -⟩ := linked.fits cache _ (ObjectTable.cachedRaster?_eq_some_iff.mp content)
    have apart : cached.owner ≠ handle := by
      intro same
      rw [same, linked.fresh made] at was
      cases was
    rw [ObjectTable.surface?_of_update graph, Function.update_of_ne apart] at live
    exact ⟨content, live⟩

namespace ObjectTable.Matched

variable {table after : ObjectTable}

theorem inherit (matched : table.Matched) (inherits : table.Inherits after) : after.Matched := by
  intro cache cached surface content live
  obtain ⟨old, was, fixed⟩ := inherits.surface cached.owner surface live
  rcases inherits.cached cache cached content with
    ⟨before, there, owner, shape⟩ | ⟨other, found, matching⟩
  · rw [owner] at was
    exact (matched cache before old there was).congr shape fixed
  · cases was.symm.trans found
    exact matching.congr rfl fixed

/-- A new object is the owner of no cached raster. -/
theorem create (matched : table.Matched) (linked : Linked table) {payload : Payload}
    {handle : Handle} (made : table.create payload = .ok (handle, after))
    (plain : payload.cachedRaster? = none) : after.Matched := by
  intro cache cached surface content live
  obtain ⟨was, lived⟩ := linked.cached_of_create made plain content live
  exact matched cache cached surface was lived

end ObjectTable.Matched

/-! ### Steps -/

/-- References are in order and cached rasters match. -/
structure WellCached (session : Session) : Prop where
  linked : Linked session.objects
  matched : session.objects.Matched

namespace WellCached

variable {start final : Session}

theorem built (wellCached : WellCached start) {plan : SurfacePlan} {backBuffer : Option Handle}
    {handle : Handle} {surface : Surface}
    (built : Built start plan backBuffer handle surface final) :
    final.objects.Matched :=
  wellCached.matched.create wellCached.linked built.made rfl

/-- A back buffer alone. -/
theorem first (wellCached : WellCached start) {plan : SurfacePlan} {handle : Handle}
    {surface : Surface} (built : Built start plan none handle surface final) : WellCached final :=
  ⟨wellCached.linked.raised (.single built), wellCached.built built⟩

theorem raised (wellCached : WellCached start) {plan : SurfacePlan} {handle : Handle}
    {surface : Surface} (raised : Raised start plan handle surface final) : WellCached final := by
  refine ⟨wellCached.linked.raised raised, ?_⟩
  cases raised with
  | single built => exact wellCached.built built
  | double first second => exact (wellCached.first first).built second

theorem abandoned (wellCached : WellCached start) (abandoned : Abandoned start final) :
    WellCached final := by
  refine ⟨wellCached.linked.abandoned abandoned, ?_⟩
  cases abandoned with
  | early ground =>
    rw [ground.2]
    exact wellCached.matched
  | late first ground =>
    have middle := wellCached.first first
    exact middle.matched.inherit (.drain middle.linked.wf _)

theorem step (wellCached : WellCached start) (step : Step start final) : WellCached final := by
  cases step with
  | onward step =>
    exact ⟨wellCached.linked.onward step,
      wellCached.matched.inherit (step.inherits wellCached.linked)⟩
  | unmapped step =>
    obtain ⟨-⟩ := step
    exact ⟨wellCached.linked, wellCached.matched⟩
  | prepared ground => exact wellCached.abandoned (.early ground)
  | created created =>
    obtain ⟨plan, -, raised⟩ := created
    exact wellCached.raised raised
  | abandoned abandoned => exact wellCached.abandoned abandoned
  | mixed mixed =>
    exact ⟨wellCached.linked.mixed mixed,
      wellCached.matched.create wellCached.linked mixed.made rfl⟩

theorem kept : Kept Step WellCached := ⟨WellCached.linked, WellCached.step⟩

end WellCached

theorem wellCached_start (memory : Memory) (heap : Heap) (video : Aperture) (stubs : StubTable)
    (firstHandle : Nat) (mode : DisplayMode) (chain : FlipChain) :
    WellCached (.start memory heap video stubs firstHandle mode chain) :=
  ⟨.startingAt firstHandle, fun _ _ _ content => nomatch content⟩

/-! ### Every state -/

/-- Caches and surfaces belong together one by one. -/
structure CachesOwned (table : ObjectTable) : Prop where
  /-- A locked surface has no cache. -/
  locked : ∀ handle surface, table.surface? handle = some surface → surface.locked = true →
    surface.cache = none
  /-- A cache that is recorded is alive, and it is that of the surface. -/
  recorded : ∀ handle surface cache, table.surface? handle = some surface →
    surface.cache = some cache → ∃ cached, table.cachedRaster? cache = some cached ∧
      cached.owner = handle ∧ cached.raster.width = surface.width ∧
      cached.raster.height = surface.height ∧
      Format.ofDepth? surface.depth = some cached.raster.format
  /-- A cache that is alive is recorded by exactly one surface. -/
  sole : ∀ cache cached, table.cachedRaster? cache = some cached →
    ∃! handle, ∃ surface, table.surface? handle = some surface ∧ surface.cache = some cache

theorem WellCached.cachesOwned {session : Session} (wellCached : WellCached session) :
    CachesOwned session.objects where
  locked handle surface live locked := by
    cases has : surface.cache with
    | none => rfl
    | some cache =>
      obtain ⟨-, unlocked, -⟩ := wellCached.linked.cache live has
      rw [locked] at unlocked
      cases unlocked
  recorded handle surface cache live has := by
    obtain ⟨-, -, cached, content, owner⟩ := wellCached.linked.cache live has
    have matching := wellCached.matched cache cached surface content (owner ▸ live)
    exact ⟨cached, content, owner, matching.width, matching.height, matching.format⟩
  sole cache cached content := by
    obtain ⟨surface, live, has⟩ :=
      wellCached.linked.fits cache _ (ObjectTable.cachedRaster?_eq_some_iff.mp content)
    refine ⟨cached.owner, ⟨surface, ObjectTable.surface?_eq_some_iff.mpr live, has⟩, ?_⟩
    rintro other ⟨holder, there, records⟩
    -- What another surface records as its cache has that surface as its owner.
    obtain ⟨-, -, again, found, owner⟩ := wellCached.linked.cache there records
    cases content.symm.trans found
    exact owner.symm

/-- **Caches belong to surfaces** in every state that a session can come to, whatever is called and
whatever fails. -/
theorem caches_owned (memory : Memory) (heap : Heap) (video : Aperture) (stubs : StubTable)
    (firstHandle : Nat) (mode : DisplayMode) (chain : FlipChain) (acts : List Act) :
    CachesOwned
      ((Session.start memory heap video stubs firstHandle mode chain).through acts).objects :=
  (WellCached.kept.through (wellCached_start memory heap video stubs firstHandle mode chain)
    acts).cachesOwned

end GuestDraw
