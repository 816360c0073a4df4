/-
**What is cached can be stored.**

A raster is cached only once the pixels of its surface were decoded, so there are pixels and memory
for them. What is drawn on it is a part of other pictures, and fits the pixels as well. So what was
drawn can always be stored where it belongs, unless the pixels are indices: these are not encoded,
and whoever has drawn on such a surface ends the process when the cache is to be written back.

* `ObjectTable.Recalls`: nothing is cached but what was cached before, as after all steps but two;
* `Fitting`: cached rasters suit the pixels of their surfaces, and memory backs these;
* `Fitting.caching`, `Fitting.drawing`: so it is after those two;
* `fitting_through`: and in every state;
* `Conversion.encoded_or_indexed`: what follows for a cache that is to be written back.
-/

import GuestDraw.Proofs.Session.Caches
import GuestDraw.Proofs.Session.Sites

namespace GuestDraw

/-! ### Nothing new is cached -/

/-- Each cached raster of `after` is one of `table`, for the same surface. -/
def ObjectTable.Recalls (table after : ObjectTable) : Prop :=
  ∀ cache new, after.cachedRaster? cache = some new →
    ∃ old, table.cachedRaster? cache = some old ∧ new.owner = old.owner ∧ new.raster = old.raster

namespace ObjectTable.Recalls

variable {table middle after : ObjectTable}

theorem of_eq (same : after.cachedRaster? = table.cachedRaster?) : table.Recalls after :=
  fun _ new content => ⟨new, same ▸ content, rfl, rfl⟩

theorem of_update {handle : Handle}
    (without : after.cachedRaster? = Function.update table.cachedRaster? handle none) :
    table.Recalls after := by
  intro cache new content
  rw [without, Function.update_apply] at content
  split at content
  · cases content
  · exact ⟨new, content, rfl, rfl⟩

theorem of_payload? (same : after.payload? = table.payload?) : table.Recalls after :=
  of_eq (funext fun _ => by rw [cachedRaster?_eq_bind, same, cachedRaster?_eq_bind])

theorem trans (first : table.Recalls middle) (second : middle.Recalls after) :
    table.Recalls after := by
  intro cache new content
  obtain ⟨later, between, owner, raster⟩ := second cache new content
  obtain ⟨old, was, before, same⟩ := first cache later between
  exact ⟨old, was, owner.trans before, raster.trans same⟩

theorem drain (wf : table.WellFormed) (steps : List Teardown) :
    table.Recalls (ObjectTable.drain steps table) := by
  obtain ⟨members, swept⟩ := swept_drain wf steps
  intro cache new content
  have was := swept.was (cachedRaster?_eq_some_iff.mp content)
  exact ⟨new, cachedRaster?_eq_some_iff.mpr was, rfl, rfl⟩

theorem dropCache (linked : Linked table) {handle cache : Handle} {surface : Surface}
    (live : table.surface? handle = some surface) (has : surface.cache = some cache) :
    table.Recalls (ObjectTable.drain [.close cache]
      (table.setPayload handle (.surface { surface with cache := none }))) :=
  of_update (linked.views_dropCache live has rfl).2.2

end ObjectTable.Recalls

section Steps

variable {start final : Session}

theorem Tidying.recalls (linked : Linked start.objects) (step : Tidying start final) :
    start.objects.Recalls final.objects ∨ Caching start final := by
  cases step with
  | settling step =>
    cases step with
    | @written handle cache surface cached data live has content =>
      refine .inl fun other new there => ?_
      rw [ObjectTable.cachedRaster?_setCached content, Function.update_apply] at there
      split at there
      · next same =>
        cases there
        exact ⟨cached, same ▸ content, rfl, rfl⟩
      · exact ⟨new, there, rfl, rfl⟩
    | dropped live has => exact .inl (.dropCache linked live has)
  | caching step => exact .inr step
  | lockSet live => exact .inl (.of_eq (ObjectTable.cachedRaster?_setSurface live _))
  | contextMade live bare made =>
    exact .inl (.of_update (linked.views_createFor made live _ rfl rfl).2.2)
  | contextCounted count => exact .inl (.of_payload? (ObjectTable.payload?_recount count))
  | shown => exact .inl (.of_eq rfl)

theorem Attaching.recalls (linked : Linked start.objects) (step : Attaching start final) :
    start.objects.Recalls final.objects := by
  obtain ⟨live, bare, there, different, counted⟩ := step
  obtain ⟨same, still, attached⟩ := linked.attach live there counted
  exact ((ObjectTable.Recalls.of_payload? same).trans
    (.of_eq (ObjectTable.cachedRaster?_setSurface still _))).trans (.drain attached.wf _)

end Steps

/-! ### The invariant -/

/-- There are pixels, and memory for them. -/
def Memory.Backs (memory : Memory) (buffer : PixelBuffer) : Prop :=
  ∃ length, buffer.length = .ok length ∧ memory.holds buffer.address length = true

theorem Memory.Backs.congr {memory other : Memory} {buffer : PixelBuffer} (backs : memory.Backs buffer)
    (holds : ∀ address length, other.holds address length = memory.holds address length) :
    other.Backs buffer :=
  backs.imp fun _ ⟨fits, backed⟩ => ⟨fits, holds .. ▸ backed⟩

theorem Conversion.backs_of_decode {memory : Memory} {buffer : PixelBuffer}
    {palette : Option (Array UInt32)} {raster : Raster} (decoded : decode memory buffer palette = .ok raster) :
    memory.Backs buffer := by
  obtain ⟨-, -, length, -, -, fits, backed, -⟩ := decode_eq_ok_iff.mp decoded
  exact ⟨length, fits, backed⟩

/-- A raster that suits pixels which are there can be stored in them, unless they are indices. -/
theorem Conversion.encoded_or_indexed {memory : Memory} {buffer : PixelBuffer} {raster : Raster}
    (suits : raster.Suits buffer) (backs : memory.Backs buffer) :
    (∃ data, encoded memory raster buffer = .ok data) ∨
      ∃ feature, encoded memory raster buffer = .error (.notImplemented feature) := by
  obtain ⟨length, fits, backed⟩ := backs
  cases indexed : raster.format.isIndexed with
  | false =>
    exact .inl ⟨_, encoded_eq_ok_iff.mpr
      ⟨raster.format, length, suits.depth, indexed, suits.width, suits.height, fits, backed, rfl⟩⟩
  | true =>
    refine .inr ⟨"encoding into indexed pixel buffers", ?_⟩
    have format : buffer.format = .ok raster.format := format_eq_ok_iff.mpr suits.depth
    rw [encoded, format]
    exact if_pos indexed

/-- References are in order, cached rasters suit the pixels of their surfaces, and memory backs
these. -/
structure Fitting (session : Session) : Prop where
  linked : Linked session.objects
  fits : ∀ cache cached surface, session.objects.cachedRaster? cache = some cached →
    session.objects.surface? cached.owner = some surface →
      cached.raster.Suits surface.buffer ∧ session.memory.Backs surface.buffer

namespace Fitting

variable {start final : Session}

/-- The cache of a surface suits its pixels. -/
theorem cache (fitting : Fitting start) {handle cache : Handle} {surface : Surface}
    (live : start.objects.surface? handle = some surface) (has : surface.cache = some cache) :
    ∃ cached, start.objects.cachedRaster? cache = some cached ∧ cached.owner = handle ∧
      cached.raster.Suits surface.buffer ∧ start.memory.Backs surface.buffer := by
  obtain ⟨-, -, cached, content, owner⟩ := fitting.linked.cache live has
  exact ⟨cached, content, owner, fitting.fits cache cached surface content (owner ▸ live)⟩

/-- What a surface shows suits pixels. -/
theorem suits_of_contents (fitting : Fitting start) {handle : Handle} {raster : Raster}
    (shows : start.contents handle = some (.ok raster)) : ∃ buffer, raster.Suits buffer := by
  obtain ⟨surface, live, shown⟩ := Option.map_eq_some_iff.mp shows
  cases has : surface.cache with
  | none =>
    rw [has] at shown
    exact ⟨_, Conversion.suits_of_decode shown⟩
  | some cache =>
    obtain ⟨cached, content, -, suits, -⟩ := fitting.cache live has
    rw [has, Option.bind_some, content] at shown
    cases shown
    exact ⟨_, suits⟩

/-! ### Steps -/

/-- Surfaces and caches that stay go on to fit. -/
theorem recalled (fitting : Fitting start) (linked : Linked final.objects)
    (holds : ∀ address length, final.memory.holds address length = start.memory.holds address length)
    (surfaces : ∀ handle new, final.objects.surface? handle = some new →
      ∃ old, start.objects.surface? handle = some old ∧ new.fixed = old.fixed)
    (recalls : start.objects.Recalls final.objects) : Fitting final := by
  refine ⟨linked, fun cache cached surface content live => ?_⟩
  obtain ⟨before, was, owner, raster⟩ := recalls cache cached content
  obtain ⟨old, lived, fixed⟩ := surfaces cached.owner surface live
  obtain ⟨suits, backs⟩ := fitting.fits cache before old was (owner ▸ lived)
  rw [raster, Sited.buffer_of_fixed fixed]
  exact ⟨suits, backs.congr holds⟩

/-- What is decoded suits the pixels. -/
theorem caching (fitting : Fitting start) (step : Caching start final) : Fitting final := by
  have linked := fitting.linked.caching step
  obtain @⟨handle, cache, surface, raster, objects, live, bare, unlocked, decoded, made⟩ := step
  obtain ⟨surfaces, palettes, caches⟩ := fitting.linked.views_createFor made live
    { surface with cache := some cache } rfl rfl
  refine ⟨linked, fun other cached holder content there => ?_⟩
  rw [caches, Function.update_apply] at content
  rw [surfaces, Function.update_apply] at there
  split at content
  · cases content
    rw [if_pos rfl] at there
    cases there
    exact ⟨Conversion.suits_of_decode decoded, Conversion.backs_of_decode decoded⟩
  · split at there
    · next own =>
      cases there
      exact fitting.fits other cached surface content (own ▸ live)
    · exact fitting.fits other cached holder content there

/-- What surfaces show suits the pixels on which it is drawn. -/
theorem drawing (fitting : Fitting start) {handle : Handle} {image : Raster} {rect : Rect}
    {x y : Int32} (step : Drawing handle (fun raster => raster.blit image rect x y) start final)
    (seen : ∃ origin, start.contents origin = some (.ok image)) : Fitting final := by
  have linked := fitting.linked.drawing step
  have holds := step.places.holds
  cases step with
  | onMemory => exact fitting.recalled linked holds (fun _ new live => ⟨new, live, rfl⟩) (.of_eq rfl)
  | @onCache cache surface cached live has content =>
    obtain ⟨origin, shows⟩ := seen
    obtain ⟨_, given⟩ := fitting.suits_of_contents shows
    refine ⟨linked, fun other new holder there owns => ?_⟩
    rw [ObjectTable.cachedRaster?_setCached content, Function.update_apply] at there
    rw [ObjectTable.surface?_setCached content] at owns
    split at there
    · cases there
      obtain ⟨suits, backs⟩ := fitting.fits cache cached holder content owns
      exact ⟨suits.blit given rect x y, backs⟩
    · exact fitting.fits other new holder there owns

theorem onward (fitting : Fitting start) (step : Onward start final) : Fitting final := by
  have linked := fitting.linked.onward step
  have keep := fitting.recalled linked step.places.holds (step.inherits fitting.linked).surface
  cases step with
  | tidying step => exact (step.recalls fitting.linked).elim keep fitting.caching
  | forgotten live has => exact keep (.dropCache fitting.linked live has)
  | drawing step seen => exact fitting.drawing step seen
  | attaching step => exact keep (step.recalls fitting.linked)
  | recolouring step =>
    obtain ⟨there⟩ := step
    exact keep (.of_eq (ObjectTable.cachedRaster?_setPalette there _))
  | taking step =>
    obtain ⟨-, counted⟩ := step
    exact keep (.of_payload? (ObjectTable.payload?_addReference counted))
  | returned => exact keep (.drain fitting.linked.wf _)
  | stored => exact keep (.of_eq rfl)

theorem prepared (fitting : Fitting start) (ground : Prepared start start.objects final) :
    Fitting final :=
  fitting.recalled (ground.2 ▸ fitting.linked) ground.1.holds
    (fun _ new live => ⟨new, ground.2 ▸ live, rfl⟩) (.of_eq (by rw [ground.2]))

/-- Nothing is cached for an object that comes. -/
theorem create (fitting : Fitting start) (linked : Linked final.objects)
    (ground : Groundwork start final) {payload : Payload} {handle : Handle}
    (made : start.objects.create payload = .ok (handle, final.objects))
    (plain : payload.cachedRaster? = none) : Fitting final := by
  refine ⟨linked, fun cache cached surface content live => ?_⟩
  obtain ⟨was, lived⟩ := fitting.linked.cached_of_create made plain content live
  exact (fitting.fits cache cached surface was lived).imp_right (·.congr ground.holds)

theorem raised (fitting : Fitting start) {plan : SurfacePlan} {handle : Handle} {surface : Surface}
    (raised : Raised start plan handle surface final) : Fitting final := by
  have linked := fitting.linked.raised raised
  cases raised with
  | single built => exact fitting.create linked built.groundwork built.made rfl
  | double first second =>
    have middle := fitting.create (fitting.linked.raised (.single first)) first.groundwork first.made rfl
    exact middle.create linked second.groundwork second.made rfl

theorem abandoned (fitting : Fitting start) (abandoned : Abandoned start final) : Fitting final := by
  cases abandoned with
  | early ground => exact fitting.prepared ground
  | late first ground =>
    have linked := fitting.linked.abandoned (.late first ground)
    have middle := fitting.raised (.single first)
    exact middle.recalled linked ground.1.holds
      (ObjectTable.Inherits.drain middle.linked.wf _).surface (.drain middle.linked.wf _)

/-- Cached rasters fit after every step, also after one of a call that fails half-way. -/
theorem step (fitting : Fitting start) (step : Step start final) : Fitting final := by
  have linked := fitting.linked.step step
  cases step with
  | onward step => exact fitting.onward step
  | unmapped step =>
    obtain ⟨-⟩ := step
    exact ⟨linked, fitting.fits⟩
  | prepared ground => exact fitting.prepared ground
  | created created =>
    obtain ⟨plan, -, raised⟩ := created
    exact fitting.raised raised
  | abandoned abandoned => exact fitting.abandoned abandoned
  | mixed mixed => exact fitting.create linked mixed.groundwork mixed.made rfl

theorem kept : Kept Step Fitting := ⟨Fitting.linked, Fitting.step⟩

end Fitting

/-- Cached rasters fit in every state that a session can come to. -/
theorem fitting_through (memory : Memory) (heap : Heap) (video : Aperture) (stubs : StubTable)
    (firstHandle : Nat) (mode : DisplayMode) (chain : FlipChain) (acts : List Act) :
    Fitting ((Session.start memory heap video stubs firstHandle mode chain).through acts) := by
  have start : Fitting (.start memory heap video stubs firstHandle mode chain) :=
    ⟨.startingAt firstHandle, fun _ _ _ content => nomatch content⟩
  exact Fitting.kept.through start acts

end GuestDraw
