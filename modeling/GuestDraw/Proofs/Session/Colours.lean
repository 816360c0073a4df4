/-
**Caches have the colours of the palette.**

A cache of indexed pixels is decoded with a copy of the colours of the palette. The copy would go
stale if the surface got another palette, or the palette other colours, while the cache is there.
Neither happens: a surface has no cache when it gets a palette, and no surface with the palette has
one when the palette gets its colours. So colours and copies come apart nowhere, also not where a
call fails between the two.

* `ObjectTable.Coloured`: caches of indexed surfaces have the colours of the palette that is
  attached;
* `ObjectTable.Pales`: nothing gets colours that it did not have, as in all steps but three;
* `Coloured.caching`, `Coloured.recolouring`, `Coloured.mixed`: these three;
* `colours_current`: the colours are the current ones in every state.
-/

import GuestDraw.Proofs.Session.Inheritance

namespace GuestDraw

/-- Pixels of eight bits are decoded with the palette that is given. -/
theorem Conversion.palette_of_decode {memory : Memory} {buffer : PixelBuffer}
    {entries : Array UInt32} {raster : Raster}
    (decoded : decode memory buffer (some entries) = .ok raster) (depth : buffer.depth = 8) :
    raster.palette = entries := by
  obtain ⟨format, chosen, _, same, known, -, -, rfl⟩ := decode_eq_ok_iff.mp decoded
  have indexed : format = .indexed8 := by
    rw [depth] at same
    cases format <;> first | rfl | cases same
  subst indexed
  show chosen = entries
  unfold paletteFor at known
  split at known
  · dsimp only at known
    split at known
    · cases known
    · cases known
      rfl
  · next direct => exact absurd rfl direct

namespace ObjectTable

variable {table middle after : ObjectTable} {handle : Handle}

/-- The cache of an indexed surface has the colours of the palette that is attached to the surface,
while there is that palette. -/
def Coloured (table : ObjectTable) : Prop :=
  ∀ handle surface cache cached attached palette, table.surface? handle = some surface →
    surface.depth = 8 → surface.cache = some cache → table.cachedRaster? cache = some cached →
      surface.palette = some attached → table.palette? attached = some palette →
        cached.raster.palette = palette.entries

/-! ### Nothing gets new colours -/

/-- The colours of `after` are those of `table`, and surfaces that changed have no cache. -/
structure Pales (table after : ObjectTable) : Prop where
  surface : ∀ handle new, after.surface? handle = some new → new.cache = none ∨
    ∃ old, table.surface? handle = some old ∧ new.depth = old.depth ∧ new.cache = old.cache ∧
      new.palette = old.palette
  palette : ∀ handle new, after.palette? handle = some new → table.palette? handle = some new
  cached : ∀ handle new, after.cachedRaster? handle = some new →
    ∃ old, table.cachedRaster? handle = some old ∧ new.raster.palette = old.raster.palette

theorem Coloured.pale (coloured : table.Coloured) (pales : table.Pales after) : after.Coloured := by
  intro handle surface cache cached attached palette live depth has content uses there
  rcases pales.surface handle surface live with bare | ⟨old, was, sameDepth, sameCache, samePalette⟩
  · rw [has] at bare
    cases bare
  · obtain ⟨before, wasCached, colours⟩ := pales.cached cache cached content
    rw [colours]
    exact coloured handle old cache before attached palette was (sameDepth ▸ depth)
      (sameCache ▸ has) wasCached (samePalette ▸ uses) (pales.palette attached palette there)

namespace Pales

theorem refl (table : ObjectTable) : table.Pales table where
  surface _ new live := .inr ⟨new, live, rfl, rfl, rfl⟩
  palette _ _ there := there
  cached _ new content := ⟨new, content, rfl⟩

theorem trans (first : table.Pales middle) (second : middle.Pales after) : table.Pales after where
  surface handle new live := by
    rcases second.surface handle new live with bare | ⟨later, between, depth, cache, palette⟩
    · exact .inl bare
    · rcases first.surface handle later between with bare | ⟨old, was, before⟩
      · exact .inl (cache.trans bare)
      · exact .inr ⟨old, was, depth.trans before.1, cache.trans before.2.1,
          palette.trans before.2.2⟩
  palette handle new there := first.palette handle new (second.palette handle new there)
  cached handle new content := by
    obtain ⟨later, between, colours⟩ := second.cached handle new content
    obtain ⟨old, was, before⟩ := first.cached handle later between
    exact ⟨old, was, colours.trans before⟩

/-- What is left was there before. -/
theorem of_was (was : ∀ handle payload, after.payload? handle = some payload →
    table.payload? handle = some payload) : table.Pales after where
  surface handle new live := by
    have live := was handle _ (surface?_eq_some_iff.mp live)
    exact .inr ⟨new, surface?_eq_some_iff.mpr live, rfl, rfl, rfl⟩
  palette handle new there :=
    palette?_eq_some_iff.mpr (was handle _ (palette?_eq_some_iff.mp there))
  cached handle new content :=
    ⟨new, cachedRaster?_eq_some_iff.mpr (was handle _ (cachedRaster?_eq_some_iff.mp content)), rfl⟩

theorem of_payload? (same : after.payload? = table.payload?) : table.Pales after :=
  of_was fun handle _ found => (congrFun same handle).symm.trans found

theorem drain (wf : table.WellFormed) (steps : List Teardown) :
    table.Pales (ObjectTable.drain steps table) := by
  obtain ⟨members, swept⟩ := swept_drain wf steps
  exact of_was fun _ _ found => swept.was found

/-- One surface changes, and has no cache then or the palette and the cache that it had. -/
theorem of_surface {old new : Surface} (live : table.surface? handle = some old)
    (surfaces : after.surface? = Function.update table.surface? handle (some new))
    (palettes : after.palette? = table.palette?)
    (caches : ∀ cache cached, after.cachedRaster? cache = some cached →
      table.cachedRaster? cache = some cached)
    (same : new.cache = none ∨
      new.depth = old.depth ∧ new.cache = old.cache ∧ new.palette = old.palette) :
    table.Pales after where
  surface other surface there := by
    rw [surfaces, Function.update_apply] at there
    split at there
    · next own =>
      cases there
      exact same.imp_right fun kept => ⟨old, own ▸ live, kept⟩
    · exact .inr ⟨surface, there, rfl, rfl, rfl⟩
  palette other palette there := palettes ▸ there
  cached cache cached content := ⟨cached, caches cache cached content, rfl⟩

/-- A cached raster is replaced by one with the same colours. -/
theorem setCached {old new : CachedRaster} (content : table.cachedRaster? handle = some old)
    (same : new.raster.palette = old.raster.palette) :
    table.Pales (table.setPayload handle (.cachedRaster new)) where
  surface other surface there := by
    rw [surface?_setCached content] at there
    exact .inr ⟨surface, there, rfl, rfl, rfl⟩
  palette other palette there := by
    rw [palette?_setCached content] at there
    exact there
  cached other cached there := by
    rw [cachedRaster?_setCached content, Function.update_apply] at there
    split at there
    · next own =>
      cases there
      exact ⟨old, own ▸ content, same⟩
    · exact ⟨cached, there, rfl⟩

/-- A surface loses its cache. -/
theorem dropCache (linked : Linked table) {surface : Surface} {cache : Handle}
    (live : table.surface? handle = some surface) (has : surface.cache = some cache) :
    table.Pales (ObjectTable.drain [.close cache]
      (table.setPayload handle (.surface { surface with cache := none }))) := by
  obtain ⟨surfaces, palettes, caches⟩ := linked.views_dropCache live has rfl
  refine of_surface live surfaces palettes (fun other cached content => ?_) (.inl rfl)
  rw [caches, Function.update_apply] at content
  split at content
  · cases content
  · exact content

/-- A surface without a cache comes. -/
theorem createSurface (linked : Linked table) {surface : Surface}
    (made : table.create (.surface surface) = .ok (handle, after)) (bare : surface.cache = none) :
    table.Pales after where
  surface other new live := by
    rcases surface?_of_create linked.numbered made live with was | ⟨-, own⟩
    · exact .inr ⟨new, was, rfl, rfl, rfl⟩
    · cases own
      exact .inl bare
  palette other new there := by
    rcases palette?_of_create linked.numbered made there with was | ⟨-, own⟩
    · exact was
    · cases own
  cached other new content := by
    rw [cachedRaster?_of_update (payload?_create linked.numbered made), Function.update_apply]
      at content
    split at content
    · cases content
    · exact ⟨new, content, rfl⟩

end Pales

end ObjectTable

/-! ### Steps -/

section Steps

variable {start final : Session}

theorem Settling.pales (linked : Linked start.objects) (step : Settling start final) :
    start.objects.Pales final.objects := by
  cases step with
  | written live has content => exact .setCached content rfl
  | dropped live has => exact .dropCache linked live has

theorem Drawing.pales {handle : Handle} {image : Raster} {rect : Rect} {x y : Int32}
    (step : Drawing handle (fun raster => raster.blit image rect x y) start final) :
    start.objects.Pales final.objects := by
  cases step with
  | onCache live has content => exact .setCached content (Raster.palette_blit _ _ _ _ _)
  | onMemory => exact .refl _

/-- A surface gets another palette while it has no cache. -/
theorem Attaching.pales (linked : Linked start.objects) (step : Attaching start final) :
    start.objects.Pales final.objects := by
  obtain @⟨handle, palette, surface, colours, count, counted, live, bare, there, different, made⟩ :=
    step
  obtain ⟨same, still, attached⟩ := linked.attach live there made
  have set : counted.Pales
      (counted.setPayload handle (.surface { surface with palette := some palette })) := by
    refine .of_surface still (ObjectTable.surface?_setSurface still _)
      (ObjectTable.palette?_setSurface still _) (fun cache cached content => ?_) (.inl bare)
    rw [ObjectTable.cachedRaster?_setSurface still] at content
    exact content
  exact ((ObjectTable.Pales.of_payload? same).trans set).trans (.drain attached.wf _)

theorem Tidying.pales (linked : Linked start.objects) (step : Tidying start final) :
    start.objects.Pales final.objects ∨ Caching start final := by
  cases step with
  | settling step => exact .inl (step.pales linked)
  | caching step => exact .inr step
  | lockSet live =>
    refine .inl (.of_surface live (ObjectTable.surface?_setSurface live _)
      (ObjectTable.palette?_setSurface live _) (fun cache cached content => ?_)
      (.inr ⟨rfl, rfl, rfl⟩))
    rw [ObjectTable.cachedRaster?_setSurface live] at content
    exact content
  | contextMade live bare made =>
    obtain ⟨surfaces, palettes, caches⟩ := linked.views_createFor made live _ rfl rfl
    refine .inl (.of_surface live surfaces palettes (fun cache cached content => ?_)
      (.inr ⟨rfl, rfl, rfl⟩))
    rw [caches, Function.update_apply] at content
    split at content
    · cases content
    · exact content
  | contextCounted count => exact .inl (.of_payload? (ObjectTable.payload?_recount count))
  | shown => exact .inl (.refl _)

end Steps

namespace ObjectTable.Coloured

variable {start final : Session}

/-- What is decoded into a cache has the current colours. -/
theorem caching (coloured : start.objects.Coloured) (linked : Linked start.objects)
    (step : Caching start final) : final.objects.Coloured := by
  obtain @⟨owner, new, surface, raster, objects, live, bare, unlocked, decoded, made⟩ := step
  obtain ⟨surfaces, palettes, caches⟩ := linked.views_createFor made live
    { surface with cache := some new } rfl rfl
  intro handle holder cache cached attached palette there depth has content uses colours
  rw [surfaces, Function.update_apply] at there
  rw [caches, Function.update_apply] at content
  rw [palettes] at colours
  by_cases own : handle = owner
  · rw [if_pos own] at there
    cases there
    cases has
    rw [if_pos rfl] at content
    cases content
    rw [Session.decodeSurface, uses, Option.bind_some, colours] at decoded
    exact Conversion.palette_of_decode decoded depth
  · rw [if_neg own] at there
    obtain ⟨-, -, old, was, -⟩ := linked.cache there has
    have different : cache ≠ new := by
      rintro rfl
      rw [cachedRaster?_eq_bind, linked.fresh made] at was
      cases was
    rw [if_neg different] at content
    exact coloured handle holder cache cached attached palette there depth has content uses colours

/-- A palette gets other colours while no surface with that palette has a cache. -/
theorem recolouring (coloured : start.objects.Coloured) (step : Recolouring start final) :
    final.objects.Coloured := by
  obtain @⟨changed, old, entries, known, sized, bare⟩ := step
  intro handle surface cache cached attached palette live depth has content uses there
  rw [surface?_setPalette known] at live
  rw [cachedRaster?_setPalette known] at content
  rw [palette?_setPalette known] at there
  have different : attached ≠ changed := by
    rintro rfl
    rw [bare handle surface live uses] at has
    cases has
  rw [Function.update_of_ne different] at there
  exact coloured handle surface cache cached attached palette live depth has content uses there

/-- A palette that comes is attached to nothing. -/
theorem mixed (coloured : start.objects.Coloured) (linked : Linked start.objects)
    {made : Handle} {new : Palette} (mixed : Mixed start made new final) :
    final.objects.Coloured := by
  obtain ⟨_, own, -⟩ := ObjectTable.insert_eq_ok_iff.mp mixed.made
  intro handle surface cache cached attached palette live depth has content uses there
  have live := (surface?_of_create linked.numbered mixed.made live).resolve_right
    fun ⟨_, other⟩ => nomatch other
  have different : attached ≠ made := by
    rintro rfl
    have below := ((linked.surface live).palette attached uses).1
    rw [own] at below
    exact Nat.lt_irrefl _ below
  have there := (palette?_of_create linked.numbered mixed.made there).resolve_right
    fun ⟨same, _⟩ => different same
  rw [cachedRaster?_of_update (payload?_create linked.numbered mixed.made), Function.update_apply]
    at content
  split at content
  · cases content
  · exact coloured handle surface cache cached attached palette live depth has content uses there

theorem onward (coloured : start.objects.Coloured) (linked : Linked start.objects)
    (step : Onward start final) : final.objects.Coloured := by
  cases step with
  | tidying step =>
    rcases step.pales linked with pales | caching
    · exact coloured.pale pales
    · exact coloured.caching linked caching
  | forgotten live has => exact coloured.pale (.dropCache linked live has)
  | drawing step => exact coloured.pale step.pales
  | attaching step => exact coloured.pale (step.pales linked)
  | recolouring step => exact coloured.recolouring step
  | taking step =>
    obtain ⟨-, counted⟩ := step
    exact coloured.pale (.of_payload? (payload?_addReference counted))
  | returned => exact coloured.pale (.drain linked.wf _)
  | stored => exact coloured

theorem built (coloured : start.objects.Coloured) (linked : Linked start.objects)
    {plan : SurfacePlan} {backBuffer : Option Handle} {handle : Handle} {surface : Surface}
    (built : Built start plan backBuffer handle surface final) : final.objects.Coloured := by
  have bare : surface.cache = none := by
    rw [built.shape]
    rfl
  exact coloured.pale (.createSurface linked built.made bare)

theorem step (coloured : start.objects.Coloured) (linked : Linked start.objects)
    (step : Step start final) : final.objects.Coloured := by
  cases step with
  | onward step => exact coloured.onward linked step
  | unmapped step =>
    obtain ⟨-⟩ := step
    exact coloured
  | prepared ground =>
    rw [ground.2]
    exact coloured
  | created created =>
    obtain ⟨plan, -, built | ⟨first, second⟩⟩ := created
    · exact coloured.built linked built
    · exact (coloured.built linked first).built (linked.raised (.single first)) second
  | abandoned abandoned =>
    cases abandoned with
    | early ground =>
      rw [ground.2]
      exact coloured
    | late first ground =>
      exact (coloured.built linked first).pale (.drain (linked.raised (.single first)).wf _)
  | mixed mixed => exact coloured.mixed linked mixed

end ObjectTable.Coloured

/-- References are in order and caches have the colours of palettes. -/
structure WellColoured (session : Session) : Prop where
  linked : Linked session.objects
  coloured : session.objects.Coloured

theorem WellColoured.kept : Kept Step WellColoured where
  linked := WellColoured.linked
  step wellColoured step :=
    ⟨wellColoured.linked.step step, wellColoured.coloured.step wellColoured.linked step⟩

/-- **No stale colours.** In every state that a session can come to, whatever is called and whatever
fails on the way, the cache of an indexed surface has the colours that the palette of the surface
has now. -/
theorem colours_current (memory : Memory) (heap : Heap) (video : Aperture) (stubs : StubTable)
    (firstHandle : Nat) (mode : DisplayMode) (chain : FlipChain) (acts : List Act) :
    ((Session.start memory heap video stubs firstHandle mode chain).through acts).objects.Coloured := by
  have start : WellColoured (.start memory heap video stubs firstHandle mode chain) :=
    ⟨.startingAt firstHandle, fun _ _ _ _ _ _ live => nomatch live⟩
  exact (WellColoured.kept.through start acts).coloured

end GuestDraw
