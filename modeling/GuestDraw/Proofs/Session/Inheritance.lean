/-
**What a step leaves as it was.**

Most steps make nothing that has memory of its own. Surfaces and palettes change in place or go,
keep their size and their place while they stay, and a raster that is cached has the size and the
format of the surface that it shows.

* `ObjectTable.Inherits`: the surfaces, palettes and cached rasters of one table come from another
  one;
* `Onward.inherits`, `Onward.places`: what steps leave of objects, and of what was handed out.
-/

import GuestDraw.Proofs.Pixel.Codec
import GuestDraw.Proofs.Session.Steps

namespace GuestDraw

/-! ### Rasters and surfaces -/

/-- A raster has the size of a surface, and the format of its depth. -/
structure Raster.Matches (raster : Raster) (surface : Surface) : Prop where
  width : raster.width = surface.width
  height : raster.height = surface.height
  format : Format.ofDepth? surface.depth = some raster.format

theorem Raster.Matches.congr {raster other : Raster} {surface new : Surface}
    (matching : raster.Matches surface) (shape : other.shape = raster.shape)
    (fixed : new.fixed = surface.fixed) : other.Matches new := by
  obtain ⟨width, height, format⟩ := matching
  obtain ⟨sameWidth, sameHeight, sameFormat⟩ := Raster.shape_eq_iff.mp shape
  have fixedWidth : new.fixed.width = surface.fixed.width := congrArg _ fixed
  have fixedHeight : new.fixed.height = surface.fixed.height := congrArg _ fixed
  have fixedDepth : new.fixed.depth = surface.fixed.depth := congrArg _ fixed
  refine ⟨?_, ?_, ?_⟩
  · exact sameWidth.trans (width.trans fixedWidth.symm)
  · exact sameHeight.trans (height.trans fixedHeight.symm)
  · rw [sameFormat, ← format]
    exact congrArg Format.ofDepth? fixedDepth

/-- What is decoded from the pixels of a surface matches it. -/
theorem Session.matches_of_decodeSurface {session : Session} {surface : Surface} {raster : Raster}
    (decoded : session.decodeSurface surface = .ok raster) : raster.Matches surface := by
  have suits : raster.Suits surface.buffer := Conversion.suits_of_decode decoded
  exact ⟨suits.width, suits.height, Format.ofDepth?_eq_some_iff.mpr suits.depth⟩

/-! ### Tables -/

namespace ObjectTable

/-- The surfaces, palettes and cached rasters of `after` come from those of `table`; only a raster
that matches its surface may be new. -/
structure Inherits (table after : ObjectTable) : Prop where
  surface : ∀ handle new, after.surface? handle = some new →
    ∃ old, table.surface? handle = some old ∧ new.fixed = old.fixed
  palette : ∀ handle new, after.palette? handle = some new →
    ∃ old, table.palette? handle = some old ∧ new.fixed = old.fixed
  cached : ∀ handle new, after.cachedRaster? handle = some new →
    (∃ old, table.cachedRaster? handle = some old ∧ new.owner = old.owner ∧
      new.raster.shape = old.raster.shape) ∨
    ∃ surface, table.surface? new.owner = some surface ∧ new.raster.Matches surface

namespace Inherits

variable {table middle after : ObjectTable} {handle : Handle}

theorem refl (table : ObjectTable) : table.Inherits table where
  surface _ new live := ⟨new, live, rfl⟩
  palette _ new live := ⟨new, live, rfl⟩
  cached _ new content := .inl ⟨new, content, rfl, rfl⟩

theorem trans (first : table.Inherits middle) (second : middle.Inherits after) :
    table.Inherits after where
  surface handle new live := by
    obtain ⟨later, between, fixed⟩ := second.surface handle new live
    obtain ⟨old, was, before⟩ := first.surface handle later between
    exact ⟨old, was, fixed.trans before⟩
  palette handle new live := by
    obtain ⟨later, between, fixed⟩ := second.palette handle new live
    obtain ⟨old, was, before⟩ := first.palette handle later between
    exact ⟨old, was, fixed.trans before⟩
  cached handle new content := by
    rcases second.cached handle new content with
      ⟨later, between, owner, shape⟩ | ⟨surface, live, matching⟩
    · rcases first.cached handle later between with
        ⟨old, was, before, shaped⟩ | ⟨surface, live, matching⟩
      · exact .inl ⟨old, was, owner.trans before, shape.trans shaped⟩
      · exact .inr ⟨surface, owner ▸ live, matching.congr shape rfl⟩
    · obtain ⟨old, was, fixed⟩ := first.surface new.owner surface live
      exact .inr ⟨old, was, matching.congr rfl fixed.symm⟩

/-- Tables with the same contents. -/
theorem of_payload? (same : after.payload? = table.payload?) : table.Inherits after where
  surface handle new live := by
    rw [surface?_eq_bind, same, ← surface?_eq_bind] at live
    exact ⟨new, live, rfl⟩
  palette handle new live := by
    rw [palette?_eq_bind, same, ← palette?_eq_bind] at live
    exact ⟨new, live, rfl⟩
  cached handle new content := by
    rw [cachedRaster?_eq_bind, same, ← cachedRaster?_eq_bind] at content
    exact .inl ⟨new, content, rfl, rfl⟩

/-- One surface changes in place, and of the cached rasters nothing else is new. -/
theorem of_surface {old new : Surface} (live : table.surface? handle = some old)
    (surfaces : after.surface? = Function.update table.surface? handle (some new))
    (palettes : after.palette? = table.palette?) (fixed : new.fixed = old.fixed)
    (caches : ∀ cache cached, after.cachedRaster? cache = some cached →
      table.cachedRaster? cache = some cached ∨
        cached.owner = handle ∧ cached.raster.Matches old) : table.Inherits after where
  surface other surface there := by
    rw [surfaces, Function.update_apply] at there
    split at there
    · next same =>
      cases there
      exact ⟨old, same ▸ live, fixed⟩
    · exact ⟨surface, there, rfl⟩
  palette other palette there := ⟨palette, palettes ▸ there, rfl⟩
  cached other cached there := by
    rcases caches other cached there with was | ⟨owner, matching⟩
    · exact .inl ⟨cached, was, rfl, rfl⟩
    · exact .inr ⟨old, owner ▸ live, matching⟩

/-- One cached raster changes in place. -/
theorem of_cached {old new : CachedRaster} (content : table.cachedRaster? handle = some old)
    (owner : new.owner = old.owner) (shape : new.raster.shape = old.raster.shape) :
    table.Inherits (table.setPayload handle (.cachedRaster new)) where
  surface other surface there := by
    rw [surface?_setCached content] at there
    exact ⟨surface, there, rfl⟩
  palette other palette there := by
    rw [palette?_setCached content] at there
    exact ⟨palette, there, rfl⟩
  cached other cached there := by
    rw [cachedRaster?_setCached content, Function.update_apply] at there
    split at there
    · next same =>
      cases there
      exact .inl ⟨old, same ▸ content, owner, shape⟩
    · exact .inl ⟨cached, there, rfl, rfl⟩

/-- What a teardown leaves was there before. -/
theorem drain (wf : table.WellFormed) (steps : List Teardown) :
    table.Inherits (ObjectTable.drain steps table) := by
  obtain ⟨members, swept⟩ := swept_drain wf steps
  refine ⟨fun other surface live => ?_, fun other palette live => ?_, fun other cached content => ?_⟩
  · exact ⟨surface, surface?_eq_some_iff.mpr (swept.was (surface?_eq_some_iff.mp live)), rfl⟩
  · exact ⟨palette, palette?_eq_some_iff.mpr (swept.was (palette?_eq_some_iff.mp live)), rfl⟩
  · exact .inl ⟨cached,
      cachedRaster?_eq_some_iff.mpr (swept.was (cachedRaster?_eq_some_iff.mp content)), rfl, rfl⟩

/-- A surface without its cache. -/
theorem dropCache (linked : Linked table) {surface : Surface} {cache : Handle}
    (live : table.surface? handle = some surface) (has : surface.cache = some cache) :
    table.Inherits (ObjectTable.drain [.close cache]
      (table.setPayload handle (.surface { surface with cache := none }))) := by
  obtain ⟨surfaces, palettes, caches⟩ := linked.views_dropCache live has rfl
  refine .of_surface live surfaces palettes rfl fun other cached content => .inl ?_
  rw [caches, Function.update_apply] at content
  split at content
  · cases content
  · exact content

end Inherits

end ObjectTable

/-! ### Steps -/

variable {start final : Session}

theorem Tidying.inherits (linked : Linked start.objects) (step : Tidying start final) :
    start.objects.Inherits final.objects := by
  cases step with
  | settling step =>
    cases step with
    | written live has content => exact .of_cached content rfl rfl
    | dropped live has => exact .dropCache linked live has
  | caching step =>
    obtain ⟨live, bare, unlocked, decoded, made⟩ := step
    obtain ⟨surfaces, palettes, caches⟩ := linked.views_createFor made live _ rfl rfl
    refine .of_surface live surfaces palettes rfl fun other cached content => ?_
    rw [caches, Function.update_apply] at content
    split at content
    · cases content
      exact .inr ⟨rfl, Session.matches_of_decodeSurface decoded⟩
    · exact .inl content
  | lockSet live bare =>
    refine .of_surface live (ObjectTable.surface?_setSurface live _)
      (ObjectTable.palette?_setSurface live _) rfl fun other cached content => .inl ?_
    rw [ObjectTable.cachedRaster?_setSurface live] at content
    exact content
  | contextMade live bare made =>
    obtain ⟨surfaces, palettes, caches⟩ := linked.views_createFor made live _ rfl rfl
    refine .of_surface live surfaces palettes rfl fun other cached content => .inl ?_
    rw [caches, Function.update_apply] at content
    split at content
    · cases content
    · exact content
  | contextCounted count live positive => exact .of_payload? (ObjectTable.payload?_recount count)
  | shown picture => exact .refl _

theorem Drawing.inherits {handle : Handle} {image : Raster} {rect : Rect} {x y : Int32}
    (step : Drawing handle (fun raster => raster.blit image rect x y) start final) :
    start.objects.Inherits final.objects := by
  cases step with
  | onCache live has content => exact .of_cached content rfl (Raster.shape_blit _ _ _ _ _)
  | onMemory => exact .refl _

/-- Nothing with memory of its own is new after a step onward. -/
theorem Onward.inherits (linked : Linked start.objects) (step : Onward start final) :
    start.objects.Inherits final.objects := by
  cases step with
  | tidying step => exact step.inherits linked
  | forgotten live has => exact .dropCache linked live has
  | drawing step => exact step.inherits
  | attaching step =>
    obtain ⟨live, bare, there, different, counted⟩ := step
    obtain ⟨same, still, attached⟩ := linked.attach live there counted
    refine ((ObjectTable.Inherits.of_payload? same).trans ?_).trans (.drain attached.wf _)
    refine .of_surface still (ObjectTable.surface?_setSurface still _)
      (ObjectTable.palette?_setSurface still _) rfl fun other cached content => .inl ?_
    rw [ObjectTable.cachedRaster?_setSurface still] at content
    exact content
  | recolouring step =>
    obtain @⟨handle, palette, entries, there, sized, bare⟩ := step
    refine ⟨fun other surface live => ?_, fun other new live => ?_, fun other cached content => ?_⟩
    · rw [ObjectTable.surface?_setPalette there] at live
      exact ⟨surface, live, rfl⟩
    · rw [ObjectTable.palette?_setPalette there, Function.update_apply] at live
      split at live
      · next same =>
        cases live
        refine ⟨palette, same ▸ there, ?_⟩
        rw [Palette.fixed, Palette.fixed, sized]
      · exact ⟨new, live, rfl⟩
    · rw [ObjectTable.cachedRaster?_setPalette there] at content
      exact .inl ⟨cached, content, rfl, rfl⟩
  | taking step =>
    obtain ⟨-, counted⟩ := step
    exact .of_payload? (ObjectTable.payload?_addReference counted)
  | returned block => exact .drain linked.wf _
  | stored => exact .refl _

/-- What was handed out of heap and aperture, which is where the memory that is in use lies. -/
structure SamePlaces (start final : Session) : Prop where
  heap : final.heap = start.heap
  video : final.video = start.video
  mode : final.mode = start.mode
  frameBuffer : final.frameBuffer = start.frameBuffer
  stubs : final.stubs = start.stubs
  vtables : final.vtables = start.vtables
  memoryBase : final.memory.base = start.memory.base
  memorySize : final.memory.size = start.memory.size

theorem SamePlaces.refl (session : Session) : SamePlaces session session :=
  ⟨rfl, rfl, rfl, rfl, rfl, rfl, rfl, rfl⟩

theorem SamePlaces.holds (places : SamePlaces start final) (address length : Nat) :
    final.memory.holds address length = start.memory.holds address length := by
  rw [Memory.holds, Memory.holds, places.memoryBase, places.memorySize]

theorem Drawing.places {handle : Handle} {draw : Raster → Raster}
    (step : Drawing handle draw start final) : SamePlaces start final := by
  cases step with
  | onCache => exact { SamePlaces.refl start with }
  | onMemory => exact { SamePlaces.refl start with memorySize := Memory.size_put _ _ _ }

/-- A step onward hands out nothing. -/
theorem Onward.places (step : Onward start final) : SamePlaces start final := by
  cases step with
  | tidying step =>
    cases step with
    | settling step =>
      cases step with
      | written => exact { SamePlaces.refl start with memorySize := Memory.size_put _ _ _ }
      | dropped => exact { SamePlaces.refl start with }
    | caching step =>
      obtain ⟨-⟩ := step
      exact { SamePlaces.refl start with }
    | _ => exact { SamePlaces.refl start with }
  | drawing step => exact step.places
  | attaching step =>
    obtain ⟨-⟩ := step
    exact { SamePlaces.refl start with }
  | recolouring step =>
    obtain ⟨-⟩ := step
    exact { SamePlaces.refl start with }
  | taking step =>
    obtain ⟨-⟩ := step
    exact { SamePlaces.refl start with }
  | stored => exact { SamePlaces.refl start with memorySize := Memory.size_put _ _ _ }
  | _ => exact { SamePlaces.refl start with }

/-- What is kept when a back buffer is built, on prepared ground and while objects go is kept when a
surface could not be created. -/
theorem Abandoned.keeps {holds : Session → Prop} (abandoned : Abandoned start final)
    (linked : Linked start.objects) (held : holds start)
    (first : ∀ {plan : SurfacePlan} {child : Handle} {back : Surface} {middle : Session},
      Built start (plan.child start.chain) none child back middle → holds middle)
    (prepared : ∀ {start final : Session}, holds start → Prepared start start.objects final → holds final)
    (shrink : ∀ {start final : Session}, holds start → Linked final.objects → SamePlaces start final →
      start.objects.Inherits final.objects → holds final) : holds final := by
  have linkedFinal := linked.abandoned abandoned
  cases abandoned with
  | early ground => exact prepared held ground
  | late built ground =>
    have middle := linked.raised (.single built)
    refine shrink (prepared (first built) ground) linkedFinal { SamePlaces.refl _ with } ?_
    rw [ground.2]
    exact .drain middle.wf _

end GuestDraw
