/-
**Keeping the books.**

Between drawing and being looked at, a surface goes through steps that the guest does not ask for:
its pixels are decoded into a cache, the cache is written back and dropped, a device context is
made, a picture is shown. These steps are listed once (`Settling`, `Tidying`), with all that is
known when they are taken. A call made of such steps keeps whatever each of them keeps.

* `ends_settle`, `ends_cacheOf`, `ends_picture`, `ends_drawOn` and so on: the calls, for any
  property `holds` that the steps keep;
* `Linked.settling`, `Linked.tidying`, `Linked.drawing`: the steps keep references in order.
-/

import GuestDraw.Proofs.Objects.Links
import GuestDraw.Proofs.Session.Ends

namespace GuestDraw

/-! ### The steps -/

/-- A step towards a surface without a cache. -/
inductive Settling (start : Session) : Session → Prop
  /-- What was drawn on a cache is written to the pixels. -/
  | written {handle cache : Handle} {surface : Surface} {cached : CachedRaster} {data : List UInt8}
    (live : start.objects.surface? handle = some surface) (has : surface.cache = some cache)
    (content : start.objects.cachedRaster? cache = some cached) (dirty : cached.dirty = true)
    (encoded : Conversion.encoded start.memory cached.raster surface.buffer = .ok data)
    (backed : start.memory.holds surface.memory data.length = true) :
    Settling start { start with
      memory := start.memory.put surface.memory data
      objects := start.objects.setPayload cache (.cachedRaster { cached with dirty := false }) }
  /-- A cache on which nothing was drawn since goes. -/
  | dropped {handle cache : Handle} {surface : Surface}
    (live : start.objects.surface? handle = some surface) (has : surface.cache = some cache)
    (clean : ∀ cached, start.objects.cachedRaster? cache = some cached → cached.dirty = false) :
    Settling start { start with
      objects := .drain [.close cache]
        (start.objects.setPayload handle (.surface { surface with cache := none })) }

/-- The pixels of a surface are decoded into a cache. -/
inductive Caching (start : Session) : Session → Prop
  | made {handle cache : Handle} {surface : Surface} {raster : Raster} {objects : ObjectTable}
    (live : start.objects.surface? handle = some surface) (bare : surface.cache = none)
    (unlocked : surface.locked = false) (decoded : start.decodeSurface surface = .ok raster)
    (made : start.objects.create (.cachedRaster ⟨handle, raster, false⟩) = .ok (cache, objects)) :
    Caching start { start with
      objects := objects.setPayload handle (.surface { surface with cache := some cache }) }

/-- A step that shows the guest nothing new. -/
inductive Tidying (start : Session) : Session → Prop
  | settling {final : Session} (step : Settling start final) : Tidying start final
  | caching {final : Session} (step : Caching start final) : Tidying start final
  /-- A surface without a cache is locked, or any one is unlocked. -/
  | lockSet {handle : Handle} {surface : Surface} {locked : Bool}
    (live : start.objects.surface? handle = some surface)
    (bare : locked = true → surface.cache = none) :
    Tidying start { start with
      objects := start.objects.setPayload handle (.surface { surface with locked := locked }) }
  | contextMade {handle context : Handle} {surface : Surface} {objects : ObjectTable}
    (live : start.objects.surface? handle = some surface) (bare : surface.deviceContext = none)
    (made : start.objects.create (.deviceContext ⟨some handle⟩) = .ok (context, objects)) :
    Tidying start { start with
      objects := objects.setPayload handle
        (.surface { surface with deviceContext := some context }) }
  /-- References to a device context are taken or given back. -/
  | contextCounted {context : Handle} {content : DeviceContext} (count : Nat)
    (live : start.objects.payload? context = some (.deviceContext content))
    (positive : 0 < count) :
    Tidying start { start with
      objects := start.objects.update context fun object => { object with references := count } }
  | shown (picture : Raster) :
    Tidying start { start with presented := start.presented.push picture }

/-- A step that draws on a surface. -/
inductive Drawing (handle : Handle) (draw : Raster → Raster) (start : Session) : Session → Prop
  | onCache {cache : Handle} {surface : Surface} {cached : CachedRaster}
    (live : start.objects.surface? handle = some surface) (has : surface.cache = some cache)
    (content : start.objects.cachedRaster? cache = some cached) :
    Drawing handle draw start { start with
      objects := start.objects.setPayload cache
        (.cachedRaster { cached with raster := draw cached.raster, dirty := true }) }
  | onMemory {surface : Surface} {raster : Raster} {data : List UInt8}
    (live : start.objects.surface? handle = some surface) (bare : surface.cache = none)
    (decoded : start.decodeSurface surface = .ok raster)
    (encoded : Conversion.encoded start.memory (draw raster) surface.buffer = .ok data)
    (backed : start.memory.holds surface.memory data.length = true) :
    Drawing handle draw start { start with memory := start.memory.put surface.memory data }

/-! ### References stay in order -/

namespace Linked

variable {start final : Session}

theorem settling (linked : Linked start.objects) (step : Settling start final) :
    Linked final.objects := by
  cases step with
  | written live has content =>
    exact linked.setPayload (ObjectTable.cachedRaster?_eq_some_iff.mp content) (.cachedRaster rfl)
      fun graph _ fits => fits
  | dropped live has =>
    exact (linked.dropCache (ObjectTable.surface?_eq_some_iff.mp live) has rfl).2

theorem caching (linked : Linked start.objects) (step : Caching start final) :
    Linked final.objects := by
  obtain ⟨live, bare, unlocked, -, made⟩ := step
  refine linked.createFor made (ObjectTable.surface?_eq_some_iff.mp live)
    (.surface rfl (fun _ has => has) fun _ has => by simp [bare] at has)
    (fun _ same => nomatch same) fun graph owner cache fits => ⟨?_, _, owner, rfl⟩
  refine ⟨fits.context, fun other has => ?_, fits.palette, fits.backBuffer, fits.sole⟩
  cases has
  exact ⟨unlocked, _, cache, rfl⟩

theorem tidying (linked : Linked start.objects) (step : Tidying start final) :
    Linked final.objects := by
  cases step with
  | settling step => exact linked.settling step
  | caching step => exact linked.caching step
  | lockSet live bare =>
    refine linked.setPayload (ObjectTable.surface?_eq_some_iff.mp live)
      (.surface rfl (fun _ has => has) fun _ has => has) fun graph _ fits =>
        ⟨fits.context, fun other has => ⟨?_, (fits.cache other has).2⟩, fits.palette,
          fits.backBuffer, fits.sole⟩
    refine eq_false_of_ne_true fun locked => ?_
    simp [bare locked] at has
  | contextMade live bare made =>
    refine linked.createFor made (ObjectTable.surface?_eq_some_iff.mp live)
      (.surface rfl (fun _ has => by simp [bare] at has) fun _ has => has)
      (fun _ same => nomatch same) fun graph owner context fits => ⟨?_, _, _, rfl, owner, rfl⟩
    refine ⟨fun other has => ?_, fits.cache, fits.palette, fits.backBuffer, fits.sole⟩
    cases has
    exact context
  | contextCounted count live positive => exact linked.recount (fun _ => count) fun _ _ => positive
  | shown picture => exact linked

theorem drawing {handle : Handle} {draw : Raster → Raster} (linked : Linked start.objects)
    (step : Drawing handle draw start final) : Linked final.objects := by
  cases step with
  | onCache live has content =>
    exact linked.setPayload (ObjectTable.cachedRaster?_eq_some_iff.mp content) (.cachedRaster rfl)
      fun graph _ fits => fits
  | onMemory => exact linked

end Linked

/-! ### What settling leaves alone -/

namespace Settling

variable {start final : Session}

theorem palette?_eq (linked : Linked start.objects) (step : Settling start final) :
    final.objects.palette? = start.objects.palette? := by
  cases step with
  | written live has content => exact ObjectTable.palette?_setCached content _
  | dropped live has => exact (linked.views_dropCache live has rfl).2.1

/-- Settling takes caches away and leaves surfaces alone otherwise. -/
theorem surface?_eq (linked : Linked start.objects) (step : Settling start final)
    (handle : Handle) :
    final.objects.surface? handle = start.objects.surface? handle ∨
      ∃ surface, start.objects.surface? handle = some surface ∧
        final.objects.surface? handle = some { surface with cache := none } := by
  cases step with
  | written live has content => exact .inl (by rw [ObjectTable.surface?_setCached content])
  | @dropped owner cache surface live has =>
    rw [(linked.views_dropCache live has rfl).1, Function.update_apply]
    split
    · next own => exact .inr ⟨surface, own ▸ live, rfl⟩
    · exact .inl rfl

/-- Settling adds no references. -/
theorem references_le (linked : Linked start.objects) (step : Settling start final)
    {handle : Handle} {object : Object} (found : final.objects.find? handle = some object) :
    ∃ before, start.objects.find? handle = some before ∧ object.references ≤ before.references := by
  have kept : ∀ {table : ObjectTable} {owner : Handle} {payload : Payload} {object : Object},
      (table.setPayload owner payload).find? handle = some object →
        ∃ before, table.find? handle = some before ∧ object.references = before.references := by
    intro table owner payload object found
    rw [ObjectTable.find?_setPayload] at found
    split at found
    · obtain ⟨before, was, rfl⟩ := Option.map_eq_some_iff.mp found
      exact ⟨before, was, rfl⟩
    · exact ⟨object, found, rfl⟩
  cases step with
  | written =>
    obtain ⟨before, was, same⟩ := kept found
    exact ⟨before, was, same.le⟩
  | dropped =>
    obtain ⟨members, swept⟩ := ObjectTable.swept_drain (linked.wf.setPayload _ _) _
    rw [swept.find?] at found
    split at found
    · cases found
    · obtain ⟨middle, there, rfl⟩ := Option.map_eq_some_iff.mp found
      obtain ⟨before, was, same⟩ := kept there
      exact ⟨before, was, same ▸ Nat.sub_le _ _⟩

end Settling

/-! ### The calls -/

theorem ends_storePixels {start : Session} {failed : Session → Prop} (held : failed start)
    (surface : Surface) (raster : Raster) :
    Ends (Engine.storePixels surface raster) start
      (fun _ final => ∃ data, Conversion.encoded start.memory raster surface.buffer = .ok data ∧
        start.memory.holds surface.memory data.length = true ∧
        final = { start with memory := start.memory.put surface.memory data }) failed := by
  refine .read ((Ends.ofExcept held).bind ?_)
  rintro data _ ⟨rfl, encoded⟩
  exact (ends_write held surface.memory data).weaken
    fun _ _ stored => ⟨data, encoded, stored.1, stored.2⟩

theorem ends_decodeSurface {start : Session} {failed : Session → Prop} (held : failed start)
    (handle : Handle) :
    Ends (Engine.decodeSurface handle) start
      (fun raster final => final = start ∧ ∃ surface,
        start.objects.surface? handle = some surface ∧ start.decodeSurface surface = .ok raster)
      failed := by
  refine (ends_surfaceAt held handle).bind ?_
  rintro surface _ ⟨rfl, live⟩
  exact .read ((Ends.ofExcept held).weaken
    fun _ _ ⟨same, decoded⟩ => ⟨same, surface, live, decoded⟩)

/-- Dropping the cache of a live surface succeeds. -/
theorem ends_dropCache_live {start : Session} {failed : Session → Prop}
    (linked : Linked start.objects) {handle : Handle} {surface : Surface}
    (live : start.objects.surface? handle = some surface) :
    Ends (Engine.dropCache handle) start
      (fun _ final => surface.cache = none ∧ final = start ∨
        ∃ cache, surface.cache = some cache ∧ final = { start with
          objects := .drain [.close cache]
            (start.objects.setPayload handle (.surface { surface with cache := none })) }) failed := by
  unfold Engine.dropCache
  refine (ends_surfaceAt_live live).bind ?_
  rintro surface start ⟨rfl, rfl⟩
  cases has : surface.cache with
  | none => exact .inl ⟨rfl, rfl⟩
  | some cache =>
    obtain ⟨apart, -, cached, content, -⟩ := linked.cache live has
    have content := ObjectTable.cachedRaster?_eq_some_iff.mp content
    refine (ends_updateSurface_live live _).bind ?_
    rintro _ _ rfl
    refine (ends_close_live ?_).weaken fun _ _ same => .inr ⟨cache, rfl, same⟩
    rw [← ObjectTable.isSome_payload?, ObjectTable.payload?_setPayload
      (ObjectTable.surface?_eq_some_iff.mp live), Function.update_of_ne apart.symm, content]
    rfl

/-- Dropping a cache is taking it away from its surface and closing it. -/
theorem ends_dropCache_of {holds : Session → Prop} {start : Session} (held : holds start)
    (linked : Linked start.objects) (handle : Handle)
    (drops : ∀ surface cache, start.objects.surface? handle = some surface →
      surface.cache = some cache → holds { start with
        objects := .drain [.close cache]
          (start.objects.setPayload handle (.surface { surface with cache := none })) }) :
    Ends (Engine.dropCache handle) start
      (fun _ final => holds final ∧ ∃ surface, final.objects.surface? handle = some surface ∧
        surface.cache = none) holds := by
  cases live : start.objects.surface? handle with
  | none =>
    unfold Engine.dropCache
    refine (ends_surfaceAt held handle).bind ?_
    rintro _ _ ⟨rfl, found⟩
    cases live.symm.trans found
  | some surface =>
    refine (ends_dropCache_live linked live).weaken ?_
    rintro _ _ (⟨bare, rfl⟩ | ⟨cache, has, rfl⟩)
    · exact ⟨held, surface, live, bare⟩
    · refine ⟨drops surface cache live has, { surface with cache := none }, ?_, rfl⟩
      rw [(linked.views_dropCache live has rfl).1, Function.update_self]

/-- What `holds` says outlives the steps in `steps`, and it says that references are in order. -/
structure Kept (steps : Session → Session → Prop) (holds : Session → Prop) : Prop where
  linked : ∀ {start}, holds start → Linked start.objects
  step : ∀ {start final}, holds start → steps start final → holds final

theorem Kept.caching {holds : Session → Prop} (kept : Kept Tidying holds) : Kept Caching holds :=
  ⟨kept.linked, fun held step => kept.step held (.caching step)⟩

theorem Kept.settling {holds : Session → Prop} (kept : Kept Tidying holds) : Kept Settling holds :=
  ⟨kept.linked, fun held step => kept.step held (.settling step)⟩

section Settling

variable {holds : Session → Prop} (kept : Kept Settling holds) {start : Session}
  (held : holds start) (handle : Handle)

include kept held

theorem ends_writeBack :
    Ends (Engine.writeBack handle) start
      (fun _ final => holds final ∧ ∃ surface, final.objects.surface? handle = some surface ∧
        ∀ cache cached, surface.cache = some cache →
          final.objects.cachedRaster? cache = some cached → cached.dirty = false) holds := by
  unfold Engine.writeBack
  refine (ends_surfaceAt held handle).bind ?_
  rintro surface _ ⟨rfl, live⟩
  cases has : surface.cache with
  | none => exact ⟨held, surface, live, fun cache _ some => by simp [has] at some⟩
  | some cache =>
    refine (ends_cachedAt held cache).bind ?_
    rintro cached start ⟨rfl, content⟩
    by_cases dirty : cached.dirty = true
    · rw [if_pos dirty]
      refine (ends_storePixels held surface cached.raster).bind ?_
      rintro _ _ ⟨data, encoded, backed, rfl⟩
      refine ⟨kept.step held (.written live has content dirty encoded backed), surface, ?_, ?_⟩
      · rw [ObjectTable.surface?_setCached content, live]
      · intro other raster same there
        cases has.symm.trans same
        rw [ObjectTable.cachedRaster?_setCached content, Function.update_self] at there
        cases there
        rfl
    · rw [if_neg dirty]
      refine ⟨held, surface, live, fun other raster same there => ?_⟩
      cases has.symm.trans same
      cases content.symm.trans there
      exact eq_false_of_ne_true dirty

theorem ends_dropCache
    (clean : ∀ surface cache cached, start.objects.surface? handle = some surface →
      surface.cache = some cache → start.objects.cachedRaster? cache = some cached →
        cached.dirty = false) :
    Ends (Engine.dropCache handle) start
      (fun _ final => holds final ∧ ∃ surface, final.objects.surface? handle = some surface ∧
        surface.cache = none) holds :=
  ends_dropCache_of held (kept.linked held) handle fun surface cache live has =>
    kept.step held (.dropped live has fun cached => clean surface cache cached live has)

/-- Settling leaves a surface without a cache. -/
theorem ends_settle :
    Ends (Engine.settle handle) start
      (fun _ final => holds final ∧ ∃ surface, final.objects.surface? handle = some surface ∧
        surface.cache = none) holds := by
  refine (ends_writeBack kept held handle).bind ?_
  rintro _ final ⟨held, surface, live, clean⟩
  refine ends_dropCache kept held handle fun other cache cached same has content => ?_
  cases live.symm.trans same
  exact clean cache cached has content

end Settling

/-- From `start` to `final` a surface has got a device context, which it may have had before. -/
inductive Contexted (start : Session) (handle context : Handle) : Session → Prop
  | known {surface : Surface} (live : start.objects.surface? handle = some surface)
    (has : surface.deviceContext = some context) : Contexted start handle context start
  | made {surface : Surface} {objects : ObjectTable}
    (live : start.objects.surface? handle = some surface) (bare : surface.deviceContext = none)
    (made : start.objects.create (.deviceContext ⟨some handle⟩) = .ok (context, objects)) :
    Contexted start handle context { start with
      objects := objects.setPayload handle
        (.surface { surface with deviceContext := some context }) }

theorem Contexted.payload?_eq {start final : Session} {handle context : Handle}
    (linked : Linked start.objects) (contexted : Contexted start handle context final) :
    final.objects.payload? context = some (.deviceContext ⟨some handle⟩) := by
  cases contexted with
  | known live has => exact (linked.surface live).context context has
  | made live bare made =>
    obtain ⟨apart, still⟩ := linked.surface?_create made live
    rw [ObjectTable.payload?_setPayload (ObjectTable.surface?_eq_some_iff.mp still),
      Function.update_of_ne apart.symm, ObjectTable.payload?_create linked.numbered made,
      Function.update_self]

/-- Where no device context can be made, nothing changes. -/
theorem ends_contextOf_refusing {start : Session} (linked : Linked start.objects) (handle : Handle) :
    Ends (Engine.contextOf handle) start (fun context final => Contexted start handle context final)
      (fun final => final = start) := by
  unfold Engine.contextOf
  refine Ends.bind (ends_surfaceAt (by rfl) handle) ?_
  rintro surface start ⟨rfl, live⟩
  cases has : surface.deviceContext with
  | some context => exact .known live has
  | none =>
    refine Ends.bind (ends_onObjects (by rfl)) ?_
    rintro context _ ⟨objects, made, rfl⟩
    obtain ⟨-, still⟩ := linked.surface?_create made live
    refine (ends_updateSurface_live still _).bind ?_
    rintro _ _ rfl
    exact .made live has made

/-- What a surface shows: its cache if it has one, and its pixels otherwise. -/
def Session.contents (session : Session) (handle : Handle) : Option (Except PixelError Raster) :=
  (session.objects.surface? handle).map fun surface =>
    match surface.cache.bind session.objects.cachedRaster? with
    | some cached => .ok cached.raster
    | none => session.decodeSurface surface

section Caching

variable {holds : Session → Prop} (kept : Kept Caching holds) {start : Session}
  (held : holds start) (handle : Handle)

include kept held

theorem ends_cacheOf (make : Bool) :
    Ends (Engine.cacheOf handle make) start
      (fun cache final => holds final ∧ ∃ surface,
        final.objects.surface? handle = some surface ∧ surface.cache = cache) holds := by
  unfold Engine.cacheOf
  refine (ends_surfaceAt held handle).bind ?_
  rintro surface _ ⟨rfl, live⟩
  by_cases cached : surface.cache.isSome = true
  · rw [if_pos cached]
    exact ⟨held, surface, live, rfl⟩
  rw [if_neg cached]
  have bare : surface.cache = none := by simpa using cached
  by_cases refused : (!make) = true ∨ surface.locked = true
  · rw [if_pos refused]
    exact ⟨held, surface, live, bare⟩
  rw [if_neg refused]
  have unlocked : surface.locked = false := eq_false_of_ne_true fun locked => refused (.inr locked)
  refine (ends_decodeSurface held handle).bind ?_
  rintro raster _ ⟨rfl, again, live', decoded⟩
  cases live.symm.trans live'
  refine (ends_onObjects held).bind ?_
  rintro cache _ ⟨objects, made, rfl⟩
  obtain ⟨-, still⟩ := (kept.linked held).surface?_create made live
  have step := kept.step held (.made live bare unlocked decoded made)
  refine (ends_updateSurface_live still _).bind ?_
  rintro _ _ rfl
  refine ⟨step, { surface with cache := some cache }, ?_, rfl⟩
  rw [ObjectTable.surface?_setSurface still, Function.update_self]

/-- The picture of a surface is what it shows. -/
theorem ends_picture :
    Ends (Engine.picture handle) start
      (fun raster final => holds final ∧ final.contents handle = some (.ok raster)) holds := by
  unfold Engine.picture
  refine (ends_cacheOf kept held handle true).bind ?_
  rintro cache final ⟨held, surface, live, has⟩
  have decode : (surface.cache.bind final.objects.cachedRaster?) = none →
      Ends (Engine.decodeSurface handle) final
        (fun raster final => holds final ∧ final.contents handle = some (.ok raster)) holds := by
    intro absent
    refine (ends_decodeSurface held handle).weaken ?_
    rintro raster _ ⟨rfl, again, live', decoded⟩
    cases live.symm.trans live'
    refine ⟨held, ?_⟩
    rw [Session.contents, live, Option.map_some, absent, decoded]
  cases cache with
  | none => exact decode (by rw [has]; rfl)
  | some cache =>
    refine .read ?_
    cases content : final.objects.cachedRaster? cache with
    | none => exact decode (by rw [has]; exact content)
    | some cached =>
      refine ⟨held, ?_⟩
      rw [Session.contents, live, Option.map_some, has, Option.bind_some, content]

theorem ends_drawOn (draw : Raster → Raster) :
    Ends (Engine.drawOn handle draw) start
      (fun _ final => ∃ middle, holds middle ∧ Drawing handle draw middle final) holds := by
  unfold Engine.drawOn
  refine (ends_cacheOf kept held handle true).bind ?_
  rintro cache middle ⟨held, surface, live, has⟩
  cases cache with
  | none =>
    refine (ends_surfaceAt held handle).bind ?_
    rintro _ _ ⟨rfl, again⟩
    cases live.symm.trans again
    refine (ends_decodeSurface held handle).bind ?_
    rintro raster _ ⟨rfl, _, again, decoded⟩
    cases live.symm.trans again
    refine (ends_storePixels held surface (draw raster)).weaken ?_
    rintro _ _ ⟨data, encoded, backed, rfl⟩
    exact ⟨_, held, .onMemory live has decoded encoded backed⟩
  | some cache =>
    refine (ends_cachedAt held cache).bind ?_
    rintro cached _ ⟨rfl, content⟩
    exact ⟨_, held, .onCache live has content⟩

end Caching

section Tidying

variable {holds : Session → Prop} (kept : Kept Tidying holds) {start : Session}
  (held : holds start) (handle : Handle)

include kept held

theorem ends_present (picture : Raster) :
    Ends (Engine.present picture) start (fun _ => holds) holds :=
  kept.step held (.shown picture)

theorem ends_presentIfVisible :
    Ends (Engine.presentIfVisible handle) start (fun _ => holds) holds := by
  unfold Engine.presentIfVisible
  refine (ends_surfaceAt held handle).bind ?_
  rintro surface _ ⟨rfl, live⟩
  split
  · refine (ends_picture kept.caching held handle).bind fun raster final ended => ?_
    exact ends_present kept ended.1 raster
  · exact held

/-! ### Locks and device contexts -/

theorem ends_unlockSurface :
    Ends (Engine.setLocked handle false) start (fun _ => holds) holds := by
  refine (ends_updateSurface held handle _).weaken ?_
  rintro _ _ ⟨surface, live, rfl⟩
  exact kept.step held (.lockSet live fun locked => nomatch locked)

theorem ends_lockSurface {surface : Surface} (live : start.objects.surface? handle = some surface)
    (bare : surface.cache = none) :
    Ends (Engine.setLocked handle true) start (fun _ => holds) holds := by
  refine (ends_updateSurface_live live _).weaken ?_
  rintro _ _ rfl
  exact kept.step held (.lockSet live fun _ => bare)

/-- Settling a surface and locking it. -/
theorem ends_settleAndLock :
    Ends (do Engine.settle handle; Engine.setLocked handle true) start (fun _ => holds) holds := by
  refine (ends_settle kept.settling held handle).bind ?_
  rintro _ final ⟨held, surface, live, bare⟩
  exact ends_lockSurface kept held handle live bare

theorem ends_contextOf :
    Ends (Engine.contextOf handle) start
      (fun context final => holds final ∧
        final.objects.payload? context = some (.deviceContext ⟨some handle⟩)) holds := by
  have linked := kept.linked held
  refine (ends_contextOf_refusing linked handle).imp ?_ fun _ same => same ▸ held
  intro context final contexted
  refine ⟨?_, contexted.payload?_eq linked⟩
  cases contexted with
  | known => exact held
  | made live bare made => exact kept.step held (.contextMade live bare made)

end Tidying

end GuestDraw
