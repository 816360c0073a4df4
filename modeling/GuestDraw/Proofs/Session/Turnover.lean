/-
**Surfaces that come and go.**

A session stays coherent while objects are created, shared and given back, and while the mode
changes. What is left when objects go is as it was, and a new surface has no cache yet. Its pixels
are its own if they were cut off the heap; whether the picture in the frame buffer is shared is up
to the guest.

* `Coherent.taking`, `Coherent.drain`, `Coherent.unmapped`: nothing new comes;
* `Coherent.raised`, `Coherent.abandoned`, `Coherent.mixed`: surfaces and palettes come;
* `Coherent.answered`: the pointer that the guest is given.
-/

import GuestDraw.Proofs.Session.Coherence

namespace GuestDraw

theorem Memory.SameOn.refl (memory : Memory) (buffer : PixelBuffer) : memory.SameOn memory buffer :=
  ⟨rfl, rfl, fun _ _ => rfl⟩

/-! ### Portraits that stay and come -/

section Objects

variable {table after : ObjectTable} {handle : Handle}

/-- A surface that is left has the palette and the cache that it had. -/
theorem ObjectTable.Swept.portrait? {steps : List Teardown} {members : Finset Handle}
    {portrait : Portrait} (swept : table.Swept steps members after) (linked : Linked after)
    (attached : after.Attached) (there : after.portrait? handle = some portrait) :
    table.portrait? handle = some portrait := by
  obtain ⟨surface, live, rfl⟩ := Option.map_eq_some_iff.mp there
  have was := surface?_eq_some_iff.mpr (swept.was (surface?_eq_some_iff.mp live))
  have palettes : surface.palette.bind after.palette? = surface.palette.bind table.palette? := by
    cases has : surface.palette with
    | none => rfl
    | some palette =>
      obtain ⟨colours, now⟩ := Option.isSome_iff_exists.mp (attached.alive handle surface palette live has)
      rw [Option.bind_some, Option.bind_some, now,
        palette?_eq_some_iff.mpr (swept.was (palette?_eq_some_iff.mp now))]
  have caches : surface.cache.bind after.cachedRaster? =
    surface.cache.bind table.cachedRaster? := by
    cases has : surface.cache with
    | none => rfl
    | some cache =>
      obtain ⟨-, -, cached, now, -⟩ := linked.cache live has
      rw [Option.bind_some, Option.bind_some, now,
        cachedRaster?_eq_some_iff.mpr (swept.was (cachedRaster?_eq_some_iff.mp now))]
  rw [portrait?_of_surface? was, Surface.portrait, Surface.portrait, palettes, caches]

/-- A new surface without palette and cache is one more portrait. -/
theorem Linked.portrait?_createSurface {surface : Surface} (linked : Linked table)
    (made : table.create (.surface surface) = .ok (handle, after))
    (colourless : surface.palette = none)
    (bare : surface.cache = none) :
    after.palette? = table.palette? ∧
      after.portrait? = Function.update table.portrait? handle (some ⟨surface.buffer, none, none⟩) := by
  have graph := ObjectTable.payload?_create linked.numbered made
  have dead := linked.fresh made
  have palettes : after.palette? = table.palette? := by
    rw [ObjectTable.palette?_of_update graph, Function.update_eq_self_iff,
      ObjectTable.palette?_eq_bind, dead]
    rfl
  have caches : after.cachedRaster? = table.cachedRaster? := by
    rw [ObjectTable.cachedRaster?_of_update graph, Function.update_eq_self_iff,
      ObjectTable.cachedRaster?_eq_bind, dead]
    rfl
  refine ⟨palettes, ?_⟩
  rw [ObjectTable.portrait?_of_update (ObjectTable.surface?_of_update graph) palettes
    fun _ _ cache _ _ _ => congrFun caches cache, Surface.portrait, colourless, bare]
  rfl

/-- A new palette changes no portrait. -/
theorem Linked.portrait?_createPalette {palette : Palette} (linked : Linked table)
    (attached : table.Attached) (made : table.create (.palette palette) = .ok (handle, after)) :
    after.palette? = Function.update table.palette? handle (some palette) ∧
      after.portrait? = table.portrait? := by
  have graph := ObjectTable.payload?_create linked.numbered made
  have dead := linked.fresh made
  have palettes := ObjectTable.palette?_of_update graph
  have surfaces : after.surface? = table.surface? := by
    rw [ObjectTable.surface?_of_update graph, Function.update_eq_self_iff,
      ObjectTable.surface?_eq_bind, dead]
    rfl
  have caches : after.cachedRaster? = table.cachedRaster? := by
    rw [ObjectTable.cachedRaster?_of_update graph, Function.update_eq_self_iff,
      ObjectTable.cachedRaster?_eq_bind, dead]
    rfl
  refine ⟨palettes, funext fun other => ?_⟩
  rw [ObjectTable.portrait?, surfaces, ObjectTable.portrait?]
  cases live : table.surface? other with
  | none => rfl
  | some surface =>
    have same : surface.palette.bind after.palette? = surface.palette.bind table.palette? := by
      cases has : surface.palette with
      | none => rfl
      | some old =>
        have alive := attached.alive other surface old live has
        rw [Option.bind_some, Option.bind_some, palettes, Function.update_of_ne]
        rintro rfl
        rw [ObjectTable.palette?_eq_bind, dead] at alive
        cases alive
    rw [Option.map_some, Option.map_some, Surface.portrait, Surface.portrait, same, caches]

/-- A new surface in bytes of its own shares none with others. -/
theorem ObjectTable.Apart.insert {new : Portrait} (apart : table.Apart)
    (portraits : after.portrait? = Function.update table.portrait? handle (some new))
    (clear : ∀ other portrait, table.portrait? other = some portrait → ∀ point,
      new.buffer.Covers point → ¬ portrait.buffer.Covers point) : after.Apart := by
  intro first second one two there again different point inside covered
  rw [portraits, Function.update_apply] at there again
  split at there
  · next own =>
    cases there
    rw [if_neg fun same => different (own.trans same.symm)] at again
    exact clear second two again point inside covered
  · split at again
    · cases again
      exact clear first one there point covered inside
    · exact apart first second one two there again different point inside covered

end Objects

namespace Coherent

variable {start final : Session} {handle : Handle} {surface : Surface}

/-- The surfaces that there are were there before, and none of their pixels changes. -/
theorem inherit (coherent : Coherent start) (linked : Linked final.objects)
    (attached : final.objects.Attached) (laid : Laid final)
    (was : ∀ handle portrait, final.objects.portrait? handle = some portrait →
      start.objects.portrait? handle = some portrait)
    (same : ∀ handle portrait, start.objects.portrait? handle = some portrait →
      start.memory.SameOn final.memory portrait.buffer) : Coherent final where
  linked := linked
  attached := attached
  laid := laid
  apart := coherent.apart.of_stays fun handle portrait there =>
    ⟨portrait, was handle portrait there, rfl⟩
  faithful handle portrait there :=
    (coherent.faithful handle portrait (was handle portrait there)).congr
      (same handle portrait (was handle portrait there))

/-! ### Nothing new comes -/

/-- A reference is taken. -/
theorem taking {pointer : Nat} (coherent : Coherent start) (step : Taking start pointer final) :
    Coherent final ∧ final.objects.portrait? = start.objects.portrait? := by
  obtain ⟨block, counted⟩ := step
  have same := ObjectTable.payload?_addReference counted
  have portraits := ObjectTable.portrait?_of_payload?_eq same
  have was : ∀ handle portrait, ObjectTable.portrait? _ handle = some portrait →
      start.objects.portrait? handle = some portrait :=
        fun handle portrait there => portraits ▸ there
  refine ⟨coherent.inherit (coherent.linked.addReference counted)
    (coherent.attached.addReference coherent.linked counted) ?_ was fun _ _ _ =>
      .refl _ _, portraits⟩
  refine coherent.laid.congr rfl rfl rfl rfl (fun other palette live => ⟨palette, ?_, rfl, rfl⟩)
    fun handle portrait there => ⟨portrait, was handle portrait there, rfl⟩
  rw [ObjectTable.palette?_eq_some_iff, same] at live
  exact ObjectTable.palette?_eq_some_iff.mpr live

/-- Surfaces are given back or closed. -/
theorem drain (coherent : Coherent start) {steps : List Teardown}
    (about : ∀ step ∈ steps, ∀ payload, start.objects.payload? step.target = some payload →
      ∃ surface, payload = .surface surface) :
    Coherent { start with objects := .drain steps start.objects } := by
  have linked := coherent.linked.drain steps fun step listed payload found =>
    .inl (about step listed payload found)
  have others : ∀ step ∈ steps, start.objects.palette? step.target = none := by
    intro step listed
    rw [ObjectTable.palette?_eq_bind]
    cases found : start.objects.payload? step.target with
    | none => rfl
    | some payload =>
      obtain ⟨surface, rfl⟩ := about step listed payload found
      rfl
  have attached := coherent.attached.drain coherent.linked others
  obtain ⟨members, swept⟩ := ObjectTable.swept_drain coherent.linked.wf steps
  refine coherent.inherit linked attached ?_ (fun _ _ => swept.portrait? linked attached)
    fun _ _ _ => .refl _ _
  refine coherent.laid.congr rfl rfl rfl rfl (fun other palette live => ⟨palette, ?_, rfl, rfl⟩)
    fun handle portrait there => ⟨portrait, swept.portrait? linked attached there, rfl⟩
  exact ObjectTable.palette?_eq_some_iff.mpr (swept.was (ObjectTable.palette?_eq_some_iff.mp live))

/-- While the mode changes no surface has its pixels in the frame buffer. -/
theorem unmapped (coherent : Coherent start) (step : Unmapped start final) : Coherent final := by
  obtain ⟨unused, base, limit, next⟩ := step
  obtain ⟨linked, attached, laid, apart, faithful⟩ := coherent
  refine ⟨linked, attached, ⟨laid.heapAbove, laid.heapBelow, ?_, ?_, (fun _ none => nomatch none),
    laid.blocks, fun handle portrait there => .inl ?_⟩, apart, faithful⟩
  · rw [base]
    rcases next with same | mapped
    · rw [same]
      exact laid.videoAbove
    · obtain ⟨size, -, above, -⟩ := laid.frame _ mapped
      exact above
  · rw [base, limit]
    exact laid.ranges
  · rcases laid.pixels handle portrait there with heap | frame
    · exact ⟨heap.above, heap.below, heap.apart⟩
    · obtain ⟨surface, live, rfl⟩ := Option.map_eq_some_iff.mp there
      rw [Session.frameBufferInUse, frame.address, List.any_eq_false] at unused
      exact absurd (decide_eq_true rfl)
        (unused (handle, surface) ((ObjectTable.mem_surfaces_iff linked.wf).mpr live))

/-! ### Something new comes -/

/-- The ground for a new object. -/
theorem prepared (coherent : Coherent start) (ground : Prepared start start.objects final) :
    Coherent final := by
  obtain ⟨groundwork, same⟩ := ground
  have palettes : final.objects.palette? = start.objects.palette? := congrArg _ same
  have portraits : final.objects.portrait? = start.objects.portrait? := congrArg _ same
  refine coherent.inherit (same.symm ▸ coherent.linked) (same.symm ▸ coherent.attached) ?_
    (fun handle portrait there => portraits ▸ there)
    fun handle portrait there => coherent.laid.sameOn groundwork there
  exact coherent.laid.grow groundwork (fun other palette live => .inl (palettes ▸ live))
    fun other portrait there => .inl ⟨portrait, portraits ▸ there, rfl⟩

/-- The portraits once a surface was created. -/
theorem portrait?_built (coherent : Coherent start) {plan : SurfacePlan}
    {backBuffer : Option Handle}
    (built : Built start plan backBuffer handle surface final) :
    final.objects.palette? = start.objects.palette? ∧ final.objects.portrait? =
      Function.update start.objects.portrait? handle (some ⟨surface.buffer, none, none⟩) :=
  coherent.linked.portrait?_createSurface built.made (by rw [built.shape]; rfl)
    (by rw [built.shape]; rfl)

/-- The pixels of a new surface lie on the heap or in the frame buffer, as the plan says. -/
theorem pixels_built (coherent : Coherent start) {plan : SurfacePlan} {backBuffer : Option Handle}
    (built : Built start plan backBuffer handle surface final) (shows : plan.Shows start.mode) :
    match plan.backing with
    | .heap => CutOff start final surface.buffer.address
        (surface.buffer.stride * surface.buffer.height) ∧ InHeap final surface.buffer
    | .frameBuffer => InFrame final surface.buffer := by
  cases backing : plan.backing with
  | heap =>
    obtain ⟨palettes, -⟩ := coherent.portrait?_built built
    obtain ⟨groundwork, -, shape, -, pixels⟩ := built
    rw [SurfacePlan.PixelsAt, backing] at pixels
    have block : CutOff start final surface.buffer.address
        (surface.buffer.stride * surface.buffer.height) := by
      rw [shape]
      exact pixels
    exact ⟨block, coherent.laid.inHeap_cutOff groundwork block palettes⟩
  | frameBuffer => exact built.inFrame shows backing

/-- Palettes and pixels lie where they should once a surface was created. -/
theorem laid_built (coherent : Coherent start) {plan : SurfacePlan} {backBuffer : Option Handle}
    (built : Built start plan backBuffer handle surface final) (shows : plan.Shows start.mode) :
    Laid final := by
  obtain ⟨palettes, portraits⟩ := coherent.portrait?_built built
  have pixels := coherent.pixels_built built shows
  refine coherent.laid.grow built.groundwork (fun _ palette live => .inl (palettes ▸ live))
    fun other portrait there => ?_
  rw [portraits, Function.update_apply] at there
  split at there
  · cases there
    split at pixels
    · exact .inr (.inl pixels.2)
    · exact .inr (.inr pixels)
  · exact .inl ⟨portrait, there, rfl⟩

/-- Pixels on the heap are shared with no other surface. -/
theorem apart_built (coherent : Coherent start) {plan : SurfacePlan} {backBuffer : Option Handle}
    (built : Built start plan backBuffer handle surface final) (heap : plan.backing = .heap) :
    final.objects.Apart := by
  have pixels := coherent.pixels_built built fun onScreen => nomatch heap.symm.trans onScreen
  rw [heap] at pixels
  have within := built.groundwork.heapWithin coherent.laid.heapBelow
  obtain ⟨⟨above, below, -⟩, -⟩ := pixels
  refine coherent.apart.insert (coherent.portrait?_built built).2 fun other portrait there point inside =>
    coherent.laid.not_covers_free there (above.trans inside.1) (Nat.lt_of_lt_of_le inside.2 ?_)
  exact below.trans within

/-- One surface is created. -/
theorem built (coherent : Coherent start) {plan : SurfacePlan} {backBuffer : Option Handle}
    (built : Built start plan backBuffer handle surface final) (linked : Linked final.objects)
    (alive : ∀ child, backBuffer = some child → ∃ back, start.objects.surface? child = some back)
    (shows : plan.Shows start.mode) (apart : final.objects.Apart) : Coherent final := by
  have laid := coherent.laid_built built shows
  obtain ⟨-, portraits⟩ := coherent.portrait?_built built
  obtain ⟨groundwork, made, shape, -, -⟩ := built
  have released : ∀ target, .release target ∈ (Payload.surface surface).teardown →
      ∃ back, start.objects.payload? target = some (.surface back) := by
    intro target step
    rw [Payload.release_mem_teardown, shape] at step
    rcases step with none | owns
    · cases none
    · obtain ⟨back, live⟩ := alive target owns
      exact ⟨back, ObjectTable.surface?_eq_some_iff.mp live⟩
  refine ⟨linked, coherent.attached.create coherent.linked made (fun target colours there step => ?_)
    (fun _ same => ?_) (fun target step => ?_), laid, apart, fun other portrait there => ?_⟩
  · obtain ⟨back, is⟩ := released target step
    rw [ObjectTable.palette?_eq_bind, is] at there
    cases there
  · cases same
    rw [shape]
    rfl
  · obtain ⟨back, is⟩ := released target step
    exact coherent.linked.number_lt is
  · rw [portraits, Function.update_apply] at there
    split at there
    · cases there
      exact fun _ none => nomatch none
    · exact (coherent.faithful other portrait there).congr (coherent.laid.sameOn groundwork there)

/-- The first surface in the frame buffer shares its pixels with no other one. -/
theorem apart_built_first (coherent : Coherent start) {plan : SurfacePlan}
    {backBuffer : Option Handle}
    (built : Built start plan backBuffer handle surface final) (shows : plan.Shows start.mode)
    (hidden : ∀ other portrait, start.objects.portrait? other = some portrait →
      InHeap start portrait.buffer) : final.objects.Apart := by
  cases backing : plan.backing with
  | heap => exact coherent.apart_built built backing
  | frameBuffer =>
    have pixels := coherent.pixels_built built shows
    rw [backing] at pixels
    refine coherent.apart.insert (coherent.portrait?_built built).2
      fun other portrait there point inside covered => ?_
    have video := (coherent.laid_built built shows).frame_covers pixels inside
    have heap := hidden other portrait there
    have low := heap.above
    have high := heap.below
    have within := coherent.laid.heapBelow
    have ranges := coherent.laid.ranges
    rw [built.groundwork.videoBase, built.groundwork.videoLimit] at video
    unfold PixelBuffer.stop at high
    unfold PixelBuffer.Covers at covered
    omega

/-- A surface is created, and before it its back buffer. -/
theorem raised (coherent : Coherent start) {plan : SurfacePlan}
    (raised : Raised start plan handle surface final) (shows : plan.Shows start.mode)
    (apart : final.objects.Apart) :
    Coherent final ∧ ∀ other portrait, final.objects.portrait? other = some portrait →
      start.objects.portrait? other = some portrait ∨ portrait.cached = none := by
  have linked := coherent.linked.raised raised
  have new : ∀ {start final : Session} {plan : SurfacePlan} {backBuffer : Option Handle}
      {handle : Handle} {surface : Surface}, Coherent start →
      Built start plan backBuffer handle surface final →
      ∀ other portrait, final.objects.portrait? other = some portrait →
        start.objects.portrait? other = some portrait ∨ portrait.cached = none := by
    intro start final plan backBuffer handle surface coherent built other portrait there
    rw [(coherent.portrait?_built built).2, Function.update_apply] at there
    split at there
    · cases there
      exact .inr rfl
    · exact .inl there
  cases raised with
  | single built =>
    exact ⟨coherent.built built linked (fun _ none => nomatch none) shows apart, new coherent built⟩
  | @double middle _ child back first second =>
    have middleCoherent : Coherent middle :=
      coherent.built first (coherent.linked.raised (.single first)) (fun _ none => nomatch none)
        (fun onScreen => nomatch onScreen) (coherent.apart_built first rfl)
    refine ⟨middleCoherent.built second linked (fun other same => ?_)
      (first.groundwork.mode.symm ▸ shows) apart, fun other portrait there => ?_⟩
    · cases same
      exact ⟨back, first.live coherent.linked.numbered⟩
    · exact (new middleCoherent second other portrait there).elim (new coherent first other portrait)
        .inr

/-- Pixels are shared only by surfaces in the frame buffer. -/
theorem apart_raised (coherent : Coherent start) {plan : SurfacePlan}
    (raised : Raised start plan handle surface final) (shows : plan.Shows start.mode)
    (hidden : ∀ other portrait, start.objects.portrait? other = some portrait →
      InHeap start portrait.buffer) : final.objects.Apart := by
  cases raised with
  | single built => exact coherent.apart_built_first built shows hidden
  | @double middle _ child back first second =>
    have onHeap : (plan.child start.chain).Shows start.mode := fun onScreen => nomatch onScreen
    have middleCoherent : Coherent middle :=
      coherent.built first (coherent.linked.raised (.single first)) (fun _ none => nomatch none)
        onHeap (coherent.apart_built first rfl)
    obtain ⟨palettes, portraits⟩ := coherent.portrait?_built first
    refine middleCoherent.apart_built_first second (first.groundwork.mode.symm ▸ shows)
      fun other portrait there => ?_
    rw [portraits, Function.update_apply] at there
    split at there
    · cases there
      exact (coherent.pixels_built first onHeap).2
    · exact Laid.inHeap_grow first.groundwork (hidden other portrait there)
        fun _ palette live => .inl (palettes ▸ live)

/-- A surface could not be created. -/
theorem abandoned (coherent : Coherent start) (abandoned : Abandoned start final) :
    Coherent final := by
  cases abandoned with
  | early ground => exact coherent.prepared ground
  | @late plan middle final child back first ground =>
    have middleCoherent : Coherent middle :=
      coherent.built first (coherent.linked.raised (.single first)) (fun _ none => nomatch none)
        (fun onScreen => nomatch onScreen) (coherent.apart_built first rfl)
    rw [← ground.2]
    refine (middleCoherent.prepared ground).drain fun step listed payload found => ?_
    cases List.mem_singleton.mp listed
    have live := ObjectTable.surface?_eq_some_iff.mp (first.live coherent.linked.numbered)
    rw [ground.2] at found
    exact ⟨back, Option.some.inj (found.symm.trans live)⟩

/-- A palette is created. -/
theorem mixed (coherent : Coherent start) {palette : Palette}
    (mixed : Mixed start handle palette final) :
    Coherent final ∧ final.objects.portrait? = start.objects.portrait? := by
  obtain ⟨palettes, portraits⟩ :=
    coherent.linked.portrait?_createPalette coherent.attached mixed.made
  refine ⟨coherent.inherit (coherent.linked.mixed mixed) ?_ ?_
    (fun other portrait there => portraits ▸ there)
    fun other portrait there => coherent.laid.sameOn mixed.groundwork there, portraits⟩
  · exact coherent.attached.create coherent.linked mixed.made (fun _ _ _ step => nomatch step)
      (fun _ same => nomatch same) fun _ step => nomatch step
  · refine coherent.laid.grow mixed.groundwork (fun other content live => ?_)
      fun other portrait there => .inl ⟨portrait, portraits ▸ there, rfl⟩
    rw [palettes, Function.update_apply] at live
    split at live
    · cases live
      exact .inr ⟨mixed.block, mixed.sized⟩
    · exact .inl live

/-- The guest is given a pointer. -/
theorem answered (coherent : Coherent start) {out pointer : Nat}
    (backed : start.memory.holds out 4 = true)
    (outside : ∀ handle portrait, start.objects.portrait? handle = some portrait →
      portrait.cached = none ∨ ∀ point, out ≤ point → point < out + 4 →
        ¬ portrait.buffer.Covers point) : Coherent (start.answered out pointer) := by
  have length := LittleEndian.length_ofDword (UInt32.ofNat pointer)
  refine coherent.remember fun handle portrait there =>
    (outside handle portrait there).imp_right fun clear =>
      Memory.sameOn_put (length.symm ▸ backed) ?_
  rw [length]
  exact clear

end Coherent

end GuestDraw
