/-
**How the objects of a session hang together.**

The objects that drawing makes refer to each other by handles: a surface to its device context and
its cache, which refer back, to its back buffer, and to the palette that is attached to it. `Fits`
says of one object that its references are in order, `Linked` of a table that those of all objects
are. The palette and the back buffer of a surface may be gone; then nothing else has their handles.

* `Fits.grow`: references stay in order while objects are added and change in place;
* `Linked.setPayload`, `Linked.create`, `Linked.createFor`: one lemma for each way of doing so;
* `Linked.dropCache`, `Linked.drain`: what leaves takes everything with it that belongs to it.
-/

import GuestDraw.Proofs.Objects.Payloads

namespace GuestDraw

/-! ### What never changes -/

/-- A surface without what may be exchanged during its life. -/
def Surface.fixed (surface : Surface) : Surface :=
  { surface with palette := none, deviceContext := none, cache := none, locked := false }

theorem Surface.backBuffer_of_fixed {old new : Surface} (fixed : new.fixed = old.fixed) :
    new.backBuffer = old.backBuffer :=
  show new.fixed.backBuffer = old.fixed.backBuffer from congrArg _ fixed

/-- A palette without its colours. -/
def Palette.fixed (palette : Palette) : Palette :=
  { palette with entries := Array.replicate palette.entries.size 0 }

namespace Payload

/-- The changes of a content in place: surfaces keep what belongs to them, palettes their size, and
cached rasters their owner. -/
inductive Becomes : Payload → Payload → Prop
  | surface {old new : Surface} (fixed : new.fixed = old.fixed)
    (context : ∀ handle, old.deviceContext = some handle → new.deviceContext = some handle)
    (cache : ∀ handle, old.cache = some handle → new.cache = some handle) :
    Becomes (surface old) (surface new)
  | palette {old new : Palette} (fixed : new.fixed = old.fixed) :
    Becomes (palette old) (palette new)
  | cachedRaster {old new : CachedRaster} (owner : new.owner = old.owner) :
    Becomes (cachedRaster old) (cachedRaster new)
  | same (content : Payload) : Becomes content content

theorem close_mem_teardown {surface : Surface} {handle : Handle} :
    .close handle ∈ (Payload.surface surface).teardown ↔
      surface.deviceContext = some handle ∨ surface.cache = some handle := by
  simp [teardown, eq_comm]

theorem release_mem_teardown {surface : Surface} {handle : Handle} :
    .release handle ∈ (Payload.surface surface).teardown ↔
      surface.palette = some handle ∨ surface.backBuffer = some handle := by
  simp [teardown, eq_comm]

end Payload

theorem count_release_toList (holder : Option Handle) (target : Handle) :
    (holder.map Teardown.release).toList.count (.release target) =
      if holder = some target then 1 else 0 := by
  cases holder with
  | none => rfl
  | some handle => simp [List.count_singleton]

/-- The teardown of a surface gives back what the surface refers to. -/
theorem Surface.count_release (surface : Surface) (target : Handle) :
    (Payload.surface surface).teardown.count (.release target) =
      (if surface.palette = some target then 1 else 0) +
        (if surface.backBuffer = some target then 1 else 0) := by
  have none : ∀ holder : Option Handle,
      (holder.map Teardown.close).toList.count (.release target) = 0 := by
    intro holder
    cases holder <;> rfl
  rw [Payload.teardown, List.count_append, List.count_append, List.count_append,
    count_release_toList, count_release_toList, none, none]
  rfl

/-! ### References in order -/

/-- The references of a surface are in order. -/
structure Surface.Fits (next : Nat) (graph : Handle → Option Payload) (handle : Handle)
    (surface : Surface) : Prop where
  context : ∀ context, surface.deviceContext = some context →
    graph context = some (.deviceContext ⟨some handle⟩)
  /-- A locked surface has no cache. -/
  cache : ∀ cache, surface.cache = some cache → surface.locked = false ∧
    ∃ cached, graph cache = some (.cachedRaster cached) ∧ cached.owner = handle
  palette : ∀ palette, surface.palette = some palette → palette.number < next ∧
    ∀ content, graph palette = some content → ∃ colours, content = .palette colours
  /-- Back buffers have no back buffers. -/
  backBuffer : ∀ child, surface.backBuffer = some child → child.number < next ∧
    ∀ content, graph child = some content →
      ∃ back, content = .surface back ∧ back.backBuffer = none
  /-- Back buffers are not shared. -/
  sole : ∀ child, surface.backBuffer = some child → ∀ other owner,
    graph other = some (.surface owner) → owner.backBuffer = some child → other = handle

/-- The references of an object are in order, and it is of a kind that drawing makes. -/
def Fits (next : Nat) (graph : Handle → Option Payload) (handle : Handle) : Payload → Prop
  | .surface surface => surface.Fits next graph handle
  | .palette _ => True
  | .deviceContext context => ∃ owner surface, context.surface = some owner ∧
    graph owner = some (.surface surface) ∧ surface.deviceContext = some handle
  | .cachedRaster cached => ∃ surface, graph cached.owner = some (.surface surface) ∧
    surface.cache = some handle
  | .event _ | .mutex _ | .fileMapping _ | .foreign _ => False

/-- Every object of `graph` is in `grown`, where at most the handle `next` is new. -/
structure Grows (next : Nat) (graph grown : Handle → Option Payload) : Prop where
  kept : ∀ handle old, graph handle = some old → ∃ new, grown handle = some new ∧ old.Becomes new
  fresh : ∀ handle new, grown handle = some new → graph handle = none → handle.number = next
  /-- The back buffer of a new surface belongs to no other one. -/
  unowned : ∀ handle surface child, grown handle = some (.surface surface) →
    graph handle = none → surface.backBuffer = some child → ∀ other owner,
      graph other = some (.surface owner) → owner.backBuffer ≠ some child

section Growing

variable {next later : Nat} {graph grown : Handle → Option Payload} {handle : Handle}

/-- Objects that are only added to and changed in place keep their references in order. -/
theorem Fits.grow (grows : Grows next graph grown) (moved : next ≤ later) {payload : Payload}
    (old : graph handle = some payload) (fits : Fits next graph handle payload) :
    Fits later grown handle payload := by
  have older : ∀ {other : Handle} {content : Payload}, other.number < next →
      grown other = some content → ∃ before, graph other = some before ∧ before.Becomes content := by
    intro other content below now
    cases before : graph other with
    | none => exact absurd (grows.fresh other content now before) (Nat.ne_of_lt below)
    | some was =>
      obtain ⟨new, found, becomes⟩ := grows.kept other was before
      exact ⟨was, rfl, Option.some.inj (found.symm.trans now) ▸ becomes⟩
  cases payload with
  | surface surface =>
    refine ⟨fun context has => ?_, fun cache has => ?_, fun palette has => ?_, fun child has => ?_,
      fun child has other owner found owns => ?_⟩
    · obtain ⟨new, now, becomes⟩ := grows.kept context _ (fits.context context has)
      cases becomes
      exact now
    · obtain ⟨unlocked, cached, found, owner⟩ := fits.cache cache has
      obtain ⟨new, now, becomes⟩ := grows.kept cache _ found
      cases becomes with
      | cachedRaster same => exact ⟨unlocked, _, now, same.trans owner⟩
      | same => exact ⟨unlocked, _, now, owner⟩
    · obtain ⟨below, kind⟩ := fits.palette palette has
      refine ⟨Nat.lt_of_lt_of_le below moved, fun content now => ?_⟩
      obtain ⟨was, before, becomes⟩ := older below now
      obtain ⟨colours, rfl⟩ := kind was before
      cases becomes with
      | palette => exact ⟨_, rfl⟩
      | same => exact ⟨_, rfl⟩
    · obtain ⟨below, kind⟩ := fits.backBuffer child has
      refine ⟨Nat.lt_of_lt_of_le below moved, fun content now => ?_⟩
      obtain ⟨was, before, becomes⟩ := older below now
      obtain ⟨back, rfl, last⟩ := kind was before
      cases becomes with
      | surface fixed => exact ⟨_, rfl, (Surface.backBuffer_of_fixed fixed).trans last⟩
      | same => exact ⟨_, rfl, last⟩
    · cases before : graph other with
      | none => exact absurd has (grows.unowned other owner child found before owns handle surface old)
      | some was =>
        obtain ⟨new, now, becomes⟩ := grows.kept other was before
        cases now.symm.trans found
        cases becomes with
        | surface fixed =>
          exact fits.sole child has other _ before ((Surface.backBuffer_of_fixed fixed).symm.trans owns)
        | same => exact fits.sole child has other _ before owns
  | palette => trivial
  | deviceContext context =>
    obtain ⟨owner, surface, belongs, found, has⟩ := fits
    obtain ⟨new, now, becomes⟩ := grows.kept owner _ found
    cases becomes with
    | surface fixed kept => exact ⟨owner, _, belongs, now, kept handle has⟩
    | same => exact ⟨owner, surface, belongs, now, has⟩
  | cachedRaster cached =>
    obtain ⟨surface, found, has⟩ := fits
    obtain ⟨new, now, becomes⟩ := grows.kept cached.owner _ found
    cases becomes with
    | surface fixed kept keptCache => exact ⟨_, now, keptCache handle has⟩
    | same => exact ⟨surface, now, has⟩
  | event => exact fits
  | mutex => exact fits
  | fileMapping => exact fits
  | foreign => exact fits

/-- Nothing leaves that something else needs: a surface and what belongs to it leave together. -/
theorem Fits.leave {payload : Payload} {members : Finset Handle}
    (fits : Fits next graph handle payload)
    (live : graph handle = some payload) (stays : handle ∉ members)
    (together : ∀ owner surface other, graph owner = some (.surface surface) →
      .close other ∈ (Payload.surface surface).teardown → (owner ∈ members ↔ other ∈ members)) :
    Fits next (fun other => if other ∈ members then none else graph other) handle payload := by
  have fewer : ∀ {other : Handle} {content : Payload},
      (if other ∈ members then none else graph other) = some content →
        graph other = some content := by
    intro other content found
    split at found
    · cases found
    · exact found
  cases payload with
  | surface surface =>
    refine ⟨fun context has => ?_, fun cache has => ?_, fun palette has => ?_, fun child has => ?_,
      fun child has other owner found owns => fits.sole child has other owner (fewer found) owns⟩
    · have kept := (together handle surface context live
        (Payload.close_mem_teardown.mpr (.inl has))).not.mp stays
      rw [if_neg kept]
      exact fits.context context has
    · have kept := (together handle surface cache live
        (Payload.close_mem_teardown.mpr (.inr has))).not.mp stays
      rw [if_neg kept]
      exact fits.cache cache has
    · obtain ⟨below, kind⟩ := fits.palette palette has
      exact ⟨below, fun content found => kind content (fewer found)⟩
    · obtain ⟨below, kind⟩ := fits.backBuffer child has
      exact ⟨below, fun content found => kind content (fewer found)⟩
  | palette => trivial
  | deviceContext context =>
    obtain ⟨owner, surface, belongs, found, has⟩ := fits
    have kept := (together owner surface handle found
      (Payload.close_mem_teardown.mpr (.inl has))).not.mpr stays
    exact ⟨owner, surface, belongs, (if_neg kept).trans found, has⟩
  | cachedRaster cached =>
    obtain ⟨surface, found, has⟩ := fits
    have kept := (together cached.owner surface handle found
      (Payload.close_mem_teardown.mpr (.inr has))).not.mpr stays
    exact ⟨surface, (if_neg kept).trans found, has⟩
  | event => exact fits
  | mutex => exact fits
  | fileMapping => exact fits
  | foreign => exact fits

/-- A surface lets go of its cache, which no other object refers to. -/
theorem Fits.dropCache {payload : Payload} {owner cache : Handle} {surface : Surface}
    {cached : CachedRaster} (fits : Fits next graph handle payload)
    (live : graph owner = some (.surface surface)) (has : surface.cache = some cache)
    (content : graph cache = some (.cachedRaster cached)) (notCache : handle ≠ cache)
    (needless : ∀ holder, payload = .surface holder → holder.cache ≠ some cache) :
    Fits next (Function.update (Function.update graph owner
      (some (.surface { surface with cache := none }))) cache none) handle payload := by
  have elsewhere : ∀ other, other ≠ owner → other ≠ cache → Function.update (Function.update graph
      owner (some (.surface { surface with cache := none }))) cache none other = graph other := by
    intro other notOwner notCache
    rw [Function.update_of_ne notCache, Function.update_of_ne notOwner]
  have apart : owner ≠ cache := fun same => by
    rw [same, content] at live
    cases live
  have atOwner : Function.update (Function.update graph owner
      (some (.surface { surface with cache := none }))) cache none owner =
        some (.surface { surface with cache := none }) := by
    rw [Function.update_of_ne apart, Function.update_self]
  -- A content of the changed graph, unless it is that of the owner, was there before.
  have was : ∀ {other : Handle} {now : Payload}, Function.update (Function.update graph owner
      (some (.surface { surface with cache := none }))) cache none other = some now →
        other = owner ∧ now = .surface { surface with cache := none } ∨ graph other = some now := by
    intro other now found
    by_cases isOwner : other = owner
    · subst isOwner
      exact .inl ⟨rfl, Option.some.inj (found.symm.trans atOwner)⟩
    · have isLive : other ≠ cache := fun same => by simp [same] at found
      exact .inr ((elsewhere other isOwner isLive).symm.trans found)
  have stays : ∀ {other : Handle} {content : Payload}, graph other = some content →
      (∀ surface, content ≠ .surface surface) → other ≠ cache →
        Function.update (Function.update graph owner
          (some (.surface { surface with cache := none }))) cache none other = some content := by
    intro other content found leaf notCache
    have notOwner : other ≠ owner := fun same => leaf surface (by
      rw [same, live] at found
      exact (Option.some.inj found).symm)
    exact (elsewhere other notOwner notCache).trans found
  cases payload with
  | surface holder =>
    refine ⟨fun context owns => ?_, fun kept owns => ?_, fun palette owns => ?_,
      fun child owns => ?_, fun child owns other second found shares => ?_⟩
    · have old := fits.context context owns
      refine stays old (fun _ same => nomatch same) fun same => ?_
      rw [same, content] at old
      cases old
    · obtain ⟨unlocked, raster, old, own⟩ := fits.cache kept owns
      have different : kept ≠ cache := fun same => needless holder rfl (same ▸ owns)
      exact ⟨unlocked, raster, stays old (fun _ same => nomatch same) different, own⟩
    · obtain ⟨below, kind⟩ := fits.palette palette owns
      refine ⟨below, fun now found => ?_⟩
      rcases was found with ⟨rfl, -⟩ | old
      · obtain ⟨colours, other⟩ := kind _ live
        cases other
      · exact kind now old
    · obtain ⟨below, kind⟩ := fits.backBuffer child owns
      refine ⟨below, fun now found => ?_⟩
      rcases was found with ⟨rfl, rfl⟩ | old
      · obtain ⟨back, same, last⟩ := kind _ live
        cases same
        exact ⟨_, rfl, last⟩
      · exact kind now old
    · rcases was found with ⟨rfl, same⟩ | old
      · cases same
        exact fits.sole child owns other surface live shares
      · exact fits.sole child owns other second old shares
  | palette => trivial
  | deviceContext context =>
    obtain ⟨holder, holding, belongs, found, owns⟩ := fits
    by_cases isOwner : holder = owner
    · subst isOwner
      cases live.symm.trans found
      exact ⟨holder, _, belongs, atOwner, owns⟩
    · have isLive : holder ≠ cache := fun same => by
        rw [same, content] at found
        cases found
      exact ⟨holder, holding, belongs, (elsewhere holder isOwner isLive).trans found, owns⟩
  | cachedRaster raster =>
    obtain ⟨holding, found, owns⟩ := fits
    have isOwner : raster.owner ≠ owner := fun same => by
      rw [same, live] at found
      cases found
      exact notCache (Option.some.inj (owns.symm.trans has))
    have isLive : raster.owner ≠ cache := fun same => by
      rw [same, content] at found
      cases found
    exact ⟨holding, (elsewhere _ isOwner isLive).trans found, owns⟩
  | event => exact fits
  | mutex => exact fits
  | fileMapping => exact fits
  | foreign => exact fits

end Growing

/-! ### Tables -/

/-- A well-formed table of objects that drawing made, with all references in order. -/
structure Linked (table : ObjectTable) : Prop where
  wf : table.WellFormed
  numbered : table.Numbered 0
  fits : ∀ handle payload, table.payload? handle = some payload →
    Fits table.next table.payload? handle payload

namespace Linked

variable {table after : ObjectTable} {handle : Handle} {payload : Payload}

theorem startingAt (base : Nat) : Linked (.startingAt base) :=
  ⟨ObjectTable.wellFormed_startingAt base,
    { ObjectTable.numbered_startingAt base with
      first_le_next := Nat.zero_le _
      first_le := fun _ _ => Nat.zero_le _ },
    fun _ _ found => nomatch found⟩

theorem number_lt (linked : Linked table) (live : table.payload? handle = some payload) :
    handle.number < table.next := by
  obtain ⟨object, member, rfl, -⟩ := ObjectTable.exists_of_payload? live
  exact linked.numbered.below object member

theorem next_eq_none (linked : Linked table) : table.payload? ⟨table.next⟩ = none := by
  rw [ObjectTable.payload?, linked.numbered.find?_next]
  rfl

/-- The handle of a new object had no object before. -/
theorem fresh (linked : Linked table) (made : table.create payload = .ok (handle, after)) :
    table.payload? handle = none := by
  obtain ⟨_, own, -⟩ := ObjectTable.insert_eq_ok_iff.mp made
  rw [own]
  exact linked.next_eq_none

theorem surface (linked : Linked table) {surface : Surface}
    (found : table.surface? handle = some surface) :
    surface.Fits table.next table.payload? handle :=
  linked.fits handle _ (ObjectTable.surface?_eq_some_iff.mp found)

/-- What belongs to an object is alive. -/
theorem alive_of_close (linked : Linked table) {target : Handle}
    (found : table.payload? handle = some payload) (step : .close target ∈ payload.teardown) :
    (table.payload? target).isSome := by
  have fits := linked.fits handle payload found
  cases payload with
  | surface surface =>
    rcases Payload.close_mem_teardown.mp step with has | has
    · rw [fits.context target has]
      rfl
    · obtain ⟨_, _, there, _⟩ := fits.cache target has
      rw [there]
      rfl
  | fileMapping => exact fits.elim
  | _ => cases step

/-- A new object leaves live surfaces alone. -/
theorem surface?_create (linked : Linked table) (made : table.create payload = .ok (handle, after))
    {owner : Handle} {surface : Surface} (live : table.surface? owner = some surface) :
    owner ≠ handle ∧ after.surface? owner = some surface := by
  have apart : owner ≠ handle := fun same => by
    have below := linked.number_lt (ObjectTable.surface?_eq_some_iff.mp live)
    obtain ⟨-, own, -⟩ := ObjectTable.insert_eq_ok_iff.mp made
    rw [same, own] at below
    exact Nat.lt_irrefl _ below
  refine ⟨apart, ?_⟩
  rw [ObjectTable.surface?_of_update (ObjectTable.payload?_create linked.numbered made),
    Function.update_of_ne apart, live]

/-- The cache of a surface, which is another object. -/
theorem cache (linked : Linked table) {surface : Surface} {cache : Handle}
    (live : table.surface? handle = some surface) (has : surface.cache = some cache) :
    handle ≠ cache ∧ surface.locked = false ∧ ∃ cached,
      table.cachedRaster? cache = some cached ∧ cached.owner = handle := by
  obtain ⟨unlocked, cached, content, belongs⟩ := (linked.surface live).cache cache has
  refine ⟨fun same => ?_, unlocked, cached,
    ObjectTable.cachedRaster?_eq_some_iff.mpr content, belongs⟩
  rw [← same, ObjectTable.surface?_eq_some_iff.mp live] at content
  cases content

/-- A table that has grown is in order if the objects that are new or changed fit. -/
theorem grow (linked : Linked table) (wf : after.WellFormed) (numbered : after.Numbered 0)
    (moved : table.next ≤ after.next) (grows : Grows table.next table.payload? after.payload?)
    (changed : ∀ handle payload, after.payload? handle = some payload →
      table.payload? handle ≠ some payload → Fits after.next after.payload? handle payload) :
    Linked after := by
  refine ⟨wf, numbered, fun handle payload found => ?_⟩
  by_cases same : table.payload? handle = some payload
  · exact (linked.fits handle payload same).grow grows moved same
  · exact changed handle payload found same

/-! ### Changes in place and new objects -/

theorem setPayload (linked : Linked table) {old : Payload}
    (live : table.payload? handle = some old) (becomes : old.Becomes payload)
    (fits : ∀ graph, Grows table.next table.payload? graph → Fits table.next graph handle old →
      Fits table.next graph handle payload) : Linked (table.setPayload handle payload) := by
  have graph := ObjectTable.payload?_setPayload live payload
  have grows : Grows table.next table.payload? (table.setPayload handle payload).payload? := by
    refine ⟨fun other was before => ?_, fun other new now dead => ?_,
      fun other surface child now dead => ?_⟩
    all_goals rw [graph, Function.update_apply] at *
    · split
      · next same =>
        subst same
        cases live.symm.trans before
        exact ⟨payload, rfl, becomes⟩
      · exact ⟨was, before, .same was⟩
    · split at now
      · next same => simp [same, live] at dead
      · simp [now] at dead
    · split at now
      · next same => simp [same, live] at dead
      · simp [now] at dead
  refine linked.grow (linked.wf.setPayload handle payload) (linked.numbered.update fun _ => rfl)
    (Nat.le_refl _) grows fun other new now different => ?_
  by_cases same : other = handle
  · subst same
    rw [graph, Function.update_self] at now
    cases now
    exact fits _ grows ((linked.fits other old live).grow grows (Nat.le_refl _) live)
  · rw [graph, Function.update_of_ne same] at now
    exact absurd now different

theorem create (linked : Linked table) (made : table.create payload = .ok (handle, after))
    (unowned : ∀ surface child, payload = .surface surface → surface.backBuffer = some child →
      ∀ other owner, table.payload? other = some (.surface owner) → owner.backBuffer ≠ some child)
    (fits : ∀ graph, Grows table.next table.payload? graph → Fits after.next graph handle payload) :
    Linked after := by
  have graph := ObjectTable.payload?_create linked.numbered made
  obtain ⟨_, own, counted⟩ := ObjectTable.insert_eq_ok_iff.mp made
  have dead := linked.fresh made
  have grows : Grows table.next table.payload? after.payload? := by
    refine ⟨fun other was before => ?_, fun other new now gone => ?_,
      fun other surface child now gone owns => ?_⟩
    all_goals rw [graph, Function.update_apply] at *
    · have different : other ≠ handle := fun same => by simp [same, dead] at before
      rw [if_neg different]
      exact ⟨was, before, .same was⟩
    · split at now
      · next same => rw [same, own]
      · simp [now] at gone
    · split at now
      · exact unowned surface child (Option.some.inj now) owns
      · simp [now] at gone
  refine linked.grow (linked.wf.insert linked.numbered (fun _ named => by cases named) made)
    (linked.numbered.insert made) (by rw [counted]; exact Nat.le_succ _) grows
    fun other new now different => ?_
  by_cases same : other = handle
  · subst same
    rw [graph, Function.update_self] at now
    cases now
    exact fits _ grows
  · rw [graph, Function.update_of_ne same] at now
    exact absurd now different

/-- A new object together with the reference to it from a live one. -/
theorem createFor (linked : Linked table) {old new : Payload} {owner : Handle}
    (made : table.create payload = .ok (handle, after)) (live : table.payload? owner = some old)
    (becomes : old.Becomes new) (leaf : ∀ surface, payload ≠ .surface surface)
    (fits : ∀ graph, graph owner = some new → graph handle = some payload →
      Fits after.next graph owner old →
      Fits after.next graph owner new ∧ Fits after.next graph handle payload) :
    Linked (after.setPayload owner new) := by
  have made? := ObjectTable.payload?_create linked.numbered made
  obtain ⟨_, own, counted⟩ := ObjectTable.insert_eq_ok_iff.mp made
  have dead := linked.fresh made
  have apart : owner ≠ handle := fun same => by simp [same, dead] at live
  have still : after.payload? owner = some old := by
    rw [made?, Function.update_of_ne apart, live]
  have graph := ObjectTable.payload?_setPayload still new
  rw [made?] at graph
  have atOwner : (after.setPayload owner new).payload? owner = some new := by
    rw [graph, Function.update_self]
  have atHandle : (after.setPayload owner new).payload? handle = some payload := by
    rw [graph, Function.update_of_ne apart.symm, Function.update_self]
  have elsewhere : ∀ other, other ≠ owner → other ≠ handle →
      (after.setPayload owner new).payload? other = table.payload? other := by
    intro other notOwner notHandle
    rw [graph, Function.update_of_ne notOwner, Function.update_of_ne notHandle]
  have grows : Grows table.next table.payload? (after.setPayload owner new).payload? := by
    refine ⟨fun other was before => ?_, fun other now found gone => ?_,
      fun other surface child now gone owns => ?_⟩
    · by_cases notOwner : other = owner
      · subst notOwner
        cases live.symm.trans before
        exact ⟨new, atOwner, becomes⟩
      · have notHandle : other ≠ handle := fun same => by simp [same, dead] at before
        exact ⟨was, (elsewhere other notOwner notHandle).trans before, .same was⟩
    · have notOwner : other ≠ owner := fun same => by simp [same, live] at gone
      by_cases notHandle : other = handle
      · rw [notHandle, own]
      · simp [elsewhere other notOwner notHandle, gone] at found
    · have notOwner : other ≠ owner := fun same => by simp [same, live] at gone
      by_cases notHandle : other = handle
      · subst notHandle
        exact absurd (Option.some.inj (atHandle.symm.trans now)) (leaf surface)
      · simp [elsewhere other notOwner notHandle, gone] at now
  have moved : table.next ≤ after.next := by
    rw [counted]
    exact Nat.le_succ _
  refine linked.grow
    ((linked.wf.insert linked.numbered (fun _ named => by cases named) made).setPayload owner new)
    ((linked.numbered.insert made).update fun _ => rfl) moved grows fun other now found different => ?_
  obtain ⟨fitsOwner, fitsHandle⟩ :=
    fits _ atOwner atHandle ((linked.fits owner old live).grow grows moved live)
  by_cases notOwner : other = owner
  · subst notOwner
    cases atOwner.symm.trans found
    exact fitsOwner
  · by_cases notHandle : other = handle
    · subst notHandle
      cases atHandle.symm.trans found
      exact fitsHandle
    · exact absurd ((elsewhere other notOwner notHandle).symm.trans found) different

/-- Counts have no part in the references of a table. -/
theorem recount (linked : Linked table) (count : Nat → Nat)
    (positive : ∀ object, table.find? handle = some object → 0 < count object.references) :
    Linked (table.update handle fun object =>
      { object with references := count object.references }) := by
  have graph : (table.update handle fun object =>
      { object with references := count object.references }).payload? = table.payload? :=
    ObjectTable.payload?_update (fun _ => rfl) fun _ => rfl
  refine ⟨linked.wf.update (fun _ => rfl) (fun _ => rfl) positive,
    linked.numbered.update fun _ => rfl, fun other payload found => ?_⟩
  rw [graph] at found ⊢
  exact linked.fits other payload found

theorem addReference {count : Nat} (linked : Linked table)
    (counted : table.addReference handle = .ok (count, after)) : Linked after := by
  obtain ⟨object, -, rfl, rfl⟩ := ObjectTable.addReference_eq_ok_iff.mp counted
  exact linked.recount (fun _ => min (object.references + 1) (UInt32.size - 1))
    fun _ _ => Nat.lt_min.mpr ⟨Nat.succ_pos _, by decide⟩

/-- A surface refers to another palette. -/
theorem setPalette {palette : Handle} {surface : Surface} {colours : Palette}
    (linked : Linked table) (live : table.surface? handle = some surface)
    (there : table.palette? palette = some colours) :
    Linked (table.setPayload handle (.surface { surface with palette := some palette })) := by
  have found := ObjectTable.palette?_eq_some_iff.mp there
  refine linked.setPayload (ObjectTable.surface?_eq_some_iff.mp live)
    (.surface rfl (fun _ has => has) fun _ has => has) fun graph grows fits =>
      ⟨fits.context, fits.cache, fun other has => ?_, fits.backBuffer, fits.sole⟩
  cases has
  refine ⟨linked.number_lt found, fun content now => ?_⟩
  obtain ⟨new, now', becomes⟩ := grows.kept palette _ found
  cases now.symm.trans now'
  cases becomes with
  | palette => exact ⟨_, rfl⟩
  | same => exact ⟨_, rfl⟩

/-! ### Leaving -/

/-- An object that is neither a surface nor a palette leaves only together with its surface. -/
theorem mem_of_belongs (linked : Linked table) {steps : List Teardown} {members : Finset Handle}
    (swept : table.Swept steps members after)
    (about : ∀ step ∈ steps, ∀ payload, table.payload? step.target = some payload →
      (∃ surface, payload = .surface surface) ∨ ∃ palette, payload = .palette palette)
    {owner other : Handle} {surface : Surface}
    (found : table.payload? owner = some (.surface surface))
    (belongs : .close other ∈ (Payload.surface surface).teardown) (inside : other ∈ members) :
    owner ∈ members := by
  have fits := linked.fits owner _ found
  have kind : table.payload? other = some (.deviceContext ⟨some owner⟩) ∨
      ∃ cached, table.payload? other = some (.cachedRaster cached) ∧ cached.owner = owner := by
    rcases Payload.close_mem_teardown.mp belongs with has | has
    · exact .inl (fits.context other has)
    · exact .inr (fits.cache other has).2
  have neither : ∀ payload, table.payload? other = some payload →
      ¬ ((∃ surface, payload = .surface surface) ∨ ∃ palette, payload = .palette palette) := by
    rintro payload content (⟨_, rfl⟩ | ⟨_, rfl⟩) <;> rcases kind with is | ⟨_, is, _⟩ <;>
      rw [is] at content <;> cases content
  obtain ⟨object, member, rfl⟩ :=
    ObjectTable.isSome_find?_iff.mp (swept.least.1.live other inside)
  have content := ObjectTable.payload?_of_mem linked.wf.distinct member
  have elsewhere : ∀ step ∈ steps, step.target ≠ object.handle := fun step listed same =>
    neither _ content (about step listed _ (same ▸ content))
  rcases swept.demanded linked.wf member inside with closes | spent
  · rcases closes with listed | ⟨holder, held, inSet, step⟩
    · exact absurd rfl (elsewhere _ listed)
    · have holds := ObjectTable.payload?_of_mem linked.wf.distinct held
      have holderFits := linked.fits holder.handle _ holds
      cases shape : holder.payload with
      | surface holding =>
        rw [shape] at step holderFits
        have same : holder.handle = owner := by
          rcases Payload.close_mem_teardown.mp step with has | has <;>
            rcases kind with is | ⟨cached, is, of⟩
          · have other := (holderFits.context _ has).symm.trans is
            simpa using other
          · have other := (holderFits.context _ has).symm.trans is
            simp at other
          · obtain ⟨_, _, other, _⟩ := holderFits.cache _ has
            simp [is] at other
          · obtain ⟨_, _, other, belongs⟩ := holderFits.cache _ has
            cases other.symm.trans is
            exact belongs.symm.trans of
        exact same ▸ inSet
      | _ => simp [shape, Payload.teardown] at step holderFits
  · have unasked : table.demand steps members object.handle = 0 := by
      rw [ObjectTable.demand, List.count_eq_zero.mpr fun listed => elsewhere _ listed rfl,
        Nat.zero_add]
      refine ObjectTable.total_eq_zero_iff.mpr fun holder held => ?_
      have holds := ObjectTable.payload?_of_mem linked.wf.distinct held
      have holderFits := linked.fits holder.handle _ holds
      unfold ObjectTable.share
      split
      · refine List.count_eq_zero.mpr fun step => ?_
        cases shape : holder.payload with
        | surface holding =>
          rw [shape] at step holderFits
          rcases Payload.release_mem_teardown.mp step with has | has
          · obtain ⟨colours, is⟩ := (holderFits.palette _ has).2 _ content
            exact neither _ content (.inr ⟨colours, is⟩)
          · obtain ⟨back, is, _⟩ := (holderFits.backBuffer _ has).2 _ content
            exact neither _ content (.inl ⟨back, is⟩)
        | _ => simp [shape, Payload.teardown, Fits] at step holderFits
      · rfl
    have referenced := linked.wf.referenced object member
    omega

/-- References stay in order when surfaces or palettes are given back or closed. -/
theorem drain (linked : Linked table) (steps : List Teardown)
    (about : ∀ step ∈ steps, ∀ payload, table.payload? step.target = some payload →
      (∃ surface, payload = .surface surface) ∨ ∃ palette, payload = .palette palette) :
    Linked (ObjectTable.drain steps table) := by
  obtain ⟨members, swept⟩ := ObjectTable.swept_drain linked.wf steps
  have graph : (ObjectTable.drain steps table).payload? =
      fun other => if other ∈ members then none else table.payload? other :=
    funext swept.payload?
  refine ⟨linked.wf.drain steps, linked.numbered.drain linked.wf steps, fun other payload found => ?_⟩
  rw [graph] at found ⊢
  rw [swept.next]
  dsimp only at found
  split at found
  · cases found
  · next stays =>
    refine (linked.fits other payload found).leave found stays fun owner surface belonging owns step =>
      ⟨fun inside => ?_, linked.mem_of_belongs swept about owns step⟩
    obtain ⟨object, member, rfl, shape⟩ := ObjectTable.exists_of_payload? owns
    refine swept.least.1.closed belonging ?_ (.inr ⟨object, member, inside, shape ▸ step⟩)
    exact ObjectTable.isSome_payload? ▸ linked.alive_of_close owns step

/-- A cache that is dropped is taken out of the table, and nothing goes with it. -/
theorem eq_remove_of_dropCache (linked : Linked table) {surface : Surface} {cache : Handle}
    (live : table.payload? handle = some (.surface surface)) (has : surface.cache = some cache)
    (dropped : after = ObjectTable.drain [.close cache]
      (table.setPayload handle (.surface { surface with cache := none }))) :
    ∃ object ∈ (table.setPayload handle (.surface { surface with cache := none })).objects,
      object.handle = cache ∧ object.payload.palette? = none ∧
        after = (table.setPayload handle (.surface { surface with cache := none })).remove object := by
  obtain ⟨-, cached, content, -⟩ := (linked.fits handle _ live).cache cache has
  have wf := linked.wf.setPayload handle (.surface { surface with cache := none })
  have apart : cache ≠ handle := fun same => by
    rw [same, live] at content
    cases content
  obtain ⟨object, member, own, shape⟩ := ObjectTable.exists_of_payload?
    (show (table.setPayload handle (.surface { surface with cache := none })).payload? cache =
        some (.cachedRaster cached) by
      rw [ObjectTable.payload?_setPayload live, Function.update_of_ne apart, content])
  refine ⟨object, member, own, by rw [shape]; rfl, ?_⟩
  rw [dropped, ObjectTable.drain_close_of_teardown_eq_nil
    (own ▸ ObjectTable.find?_of_mem wf.distinct member) (by rw [shape]; rfl)]

/-- A surface without its cache, and the cache gone. -/
theorem dropCache (linked : Linked table) {surface : Surface} {cache : Handle}
    (live : table.payload? handle = some (.surface surface)) (has : surface.cache = some cache)
    (dropped : after = ObjectTable.drain [.close cache]
      (table.setPayload handle (.surface { surface with cache := none }))) :
    after.payload? = Function.update (Function.update table.payload? handle
      (some (.surface { surface with cache := none }))) cache none ∧ Linked after := by
  obtain ⟨-, cached, content, belongs⟩ := (linked.fits handle _ live).cache cache has
  obtain ⟨object, member, own, -, gone⟩ := linked.eq_remove_of_dropCache live has dropped
  have wf := linked.wf.setPayload handle (.surface { surface with cache := none })
  have unlinked := ObjectTable.payload?_setPayload live (.surface { surface with cache := none })
  have graph : after.payload? = Function.update (Function.update table.payload? handle
      (some (.surface { surface with cache := none }))) cache none := by
    rw [gone, ObjectTable.payload?_remove, unlinked, own]
  refine ⟨graph, gone ▸ wf.remove member, ?_, fun other payload found => ?_⟩
  · refine linked.numbered.of_handles (by rw [gone]; rfl) fun left inside => ?_
    rw [gone] at inside
    obtain ⟨original, was, rfl⟩ := List.mem_map.mp (List.mem_of_mem_filter inside)
    refine ⟨original, was, ?_⟩
    split <;> rfl
  · have next : after.next = table.next := by
      rw [gone]
      rfl
    rw [graph] at found ⊢
    rw [next]
    have isLive : other ≠ cache := fun same => by simp [same] at found
    rw [Function.update_of_ne isLive, Function.update_apply] at found
    split at found
    · next same =>
      cases found
      subst same
      have old := linked.fits other _ live
      have fits : Fits table.next table.payload? other (.surface { surface with cache := none }) :=
        ⟨old.context, (fun _ none => nomatch none), old.palette, old.backBuffer, old.sole⟩
      refine fits.dropCache live has content isLive fun holder same owns => ?_
      cases same
      cases owns
    · next different =>
      refine (linked.fits other payload found).dropCache live has content isLive
        fun holder same owns => ?_
      subst same
      obtain ⟨-, raster, old, own⟩ := (linked.fits other _ found).cache cache owns
      cases content.symm.trans old
      exact different (own.symm.trans belongs)

/-- What is left of surfaces, palettes and caches once a cache is dropped. -/
theorem views_dropCache (linked : Linked table) {surface : Surface} {cache : Handle}
    (live : table.surface? handle = some surface) (has : surface.cache = some cache)
    (dropped : after = ObjectTable.drain [.close cache]
      (table.setPayload handle (.surface { surface with cache := none }))) :
    after.surface? = Function.update table.surface? handle (some { surface with cache := none }) ∧
      after.palette? = table.palette? ∧
      after.cachedRaster? = Function.update table.cachedRaster? cache none := by
  have lives := ObjectTable.surface?_eq_some_iff.mp live
  obtain ⟨-, cached, content, -⟩ := (linked.surface live).cache cache has
  have gone := (linked.dropCache lives has dropped).1
  rw [← ObjectTable.payload?_setPayload lives] at gone
  have surfaces := ObjectTable.surface?_setSurface live { surface with cache := none }
  have palettes := ObjectTable.palette?_setSurface live { surface with cache := none }
  have caches := ObjectTable.cachedRaster?_setSurface live { surface with cache := none }
  have apart : cache ≠ handle := fun same => by
    rw [same, lives] at content
    cases content
  refine ⟨?_, ?_, ?_⟩
  · rw [ObjectTable.surface?_of_update gone, ← surfaces, Function.update_eq_self_iff, surfaces,
      Function.update_of_ne apart, ObjectTable.surface?_eq_bind, content]
    rfl
  · rw [ObjectTable.palette?_of_update gone, ← palettes, Function.update_eq_self_iff, palettes,
      ObjectTable.palette?_eq_bind, content]
    rfl
  · rw [ObjectTable.cachedRaster?_of_update gone, caches]
    rfl

/-- What becomes of surfaces, palettes and caches when a surface changes for a new object. -/
theorem views_createFor (linked : Linked table) {owner : Handle} {old : Surface}
    (made : table.create payload = .ok (handle, after)) (live : table.surface? owner = some old)
    (new : Surface) (leaf : payload.surface? = none) (colourless : payload.palette? = none) :
    (after.setPayload owner (.surface new)).surface? =
        Function.update table.surface? owner (some new) ∧
      (after.setPayload owner (.surface new)).palette? = table.palette? ∧
      (after.setPayload owner (.surface new)).cachedRaster? =
        Function.update table.cachedRaster? handle payload.cachedRaster? := by
  have graph := ObjectTable.payload?_create linked.numbered made
  obtain ⟨-, still⟩ := linked.surface?_create made live
  have dead := linked.fresh made
  have surfaces : after.surface? = table.surface? := by
    rw [ObjectTable.surface?_of_update graph, Option.bind_some, leaf, Function.update_eq_self_iff,
      ObjectTable.surface?_eq_bind, dead]
    rfl
  have palettes : after.palette? = table.palette? := by
    rw [ObjectTable.palette?_of_update graph, Option.bind_some, colourless,
      Function.update_eq_self_iff, ObjectTable.palette?_eq_bind, dead]
    rfl
  refine ⟨?_, ?_, ?_⟩
  · rw [ObjectTable.surface?_setSurface still, surfaces]
  · rw [ObjectTable.palette?_setSurface still, palettes]
  · rw [ObjectTable.cachedRaster?_setSurface still, ObjectTable.cachedRaster?_of_update graph]
    rfl

end Linked

end GuestDraw
