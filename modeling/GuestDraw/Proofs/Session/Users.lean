/-
**The users of a palette.**

Before a palette gets other colours, all surfaces with that palette are settled, one after the
other, and afterwards those that are visible are shown, again one after the other. Each may fail on
the way, and then those before it were settled or shown and those behind it were not.

* `SettledAll`, `endsWith_settleAll`: surfaces without caches, and the pixels that were stored for
  them;
* `ShownAll`, `endsWith_presentAll`: one picture for each visible surface, of its pixels as they are
  stored.
-/

import GuestDraw.Proofs.Session.Portraits
import GuestDraw.Proofs.Session.Settling

namespace GuestDraw

variable {start middle final : Session} {handle : Handle} {surface : Surface} {handles rest : List Handle}

/-! ### Settling -/

theorem Stored.holds {memory : Memory} (stored : Stored start handle surface memory)
    (address length : Nat) : memory.holds address length = start.memory.holds address length := by
  cases stored with
  | nothing => rfl
  | pixels => exact Memory.holds_put _ _ _ _ _

section Settled

variable (linked : Linked start.objects) (live : start.objects.surface? handle = some surface)
  (settled : Settled start handle surface final)

include linked live settled

/-- Settling a surface takes its cache away, and leaves other surfaces alone. -/
theorem Settled.surface?_eq (other : Handle) : final.objects.surface? other =
    (start.objects.surface? other).map fun surface =>
      if other = handle then { surface with cache := none } else surface := by
  by_cases own : other = handle
  · subst own
    rw [settled.surface? linked live, live, Option.map_some, if_pos rfl]
  · simp only [if_neg own, Option.map_id']
    rw [ObjectTable.surface?, settled.found, if_neg own]
    split
    · next has =>
      obtain ⟨-, -, cached, content, -⟩ := linked.cache live has
      rw [ObjectTable.surface?_eq_bind, ObjectTable.cachedRaster?_eq_some_iff.mp content]
      rfl
    · rfl

/-- Nothing is drawn by settling. -/
theorem Settled.drawn?_eq {other : Handle} (apart : other ≠ handle) :
    final.drawn? other = start.drawn? other := by
  unfold Session.drawn?
  rw [settled.surface?_eq linked live]
  simp only [if_neg apart, Option.map_id']
  cases lives : start.objects.surface? other with
  | none => rfl
  | some there =>
    rw [Option.bind_some, Option.bind_some]
    cases has : there.cache with
    | none => rfl
    | some cache =>
      -- A cache has one owner, so that of another surface is left alone.
      obtain ⟨-, -, cached, content, owner⟩ := linked.cache lives has
      have foreign : surface.cache ≠ some cache := by
        intro same
        obtain ⟨-, -, again, found, own⟩ := linked.cache live same
        cases content.symm.trans found
        exact apart (owner.symm.trans own)
      have other : cache ≠ handle := by
        rintro rfl
        have lives := ObjectTable.surface?_eq_some_iff.mp live
        rw [ObjectTable.cachedRaster?_eq_some_iff.mp content] at lives
        cases lives
      rw [Option.bind_some, Option.bind_some, ObjectTable.cachedRaster?, settled.found,
        if_neg foreign, if_neg other]
      rfl

end Settled

/-- From `start` to `final` one surface after the other was settled. -/
structure SettledAll (start : Session) (handles : List Handle) (final : Session) : Prop where
  only : final = { start with memory := final.memory, objects := final.objects }
  linked : Linked final.objects
  palettes : final.objects.palette? = start.objects.palette?
  surfaces : ∀ other, final.objects.surface? other = (start.objects.surface? other).map fun surface =>
    if other ∈ handles then { surface with cache := none } else surface
  drawn : ∀ other, other ∉ handles → final.drawn? other = start.drawn? other
  holds : ∀ address length, final.memory.holds address length = start.memory.holds address length
  /-- Only pixels are stored, and only where something was drawn. -/
  bytes : ∀ point, (∀ handle ∈ handles, ∀ surface, start.objects.surface? handle = some surface →
    start.drawn? handle = none ∨ ¬ surface.buffer.Covers point) →
      final.memory.byte? point = start.memory.byte? point

namespace SettledAll

theorem refl (linked : Linked start.objects) : SettledAll start [] start where
  only := rfl
  linked := linked
  palettes := rfl
  surfaces other := by simp
  drawn _ _ := rfl
  holds _ _ := rfl
  bytes _ _ := rfl

/-- One surface is settled before the others. -/
theorem cons (linked : Linked start.objects) (live : start.objects.surface? handle = some surface)
    (settled : Settled start handle surface middle)
    (palettes : middle.objects.palette? = start.objects.palette?)
    (all : SettledAll middle rest final) (once : handle ∉ rest) :
    SettledAll start (handle :: rest) final where
  only := by
    rw [all.only, settled.only]
  linked := all.linked
  palettes := all.palettes.trans palettes
  surfaces other := by
    rw [all.surfaces, settled.surface?_eq linked live, Option.map_map]
    congr 1
    funext surface
    by_cases own : other = handle
    · simp [own, once]
    · simp [own]
  drawn other outside := by
    rw [List.mem_cons, not_or] at outside
    rw [all.drawn other outside.2, settled.drawn?_eq linked live outside.1]
  holds address length := (all.holds address length).trans (settled.stored.holds address length)
  bytes point spared := by
    rw [all.bytes point, settled.stored.byte? (spared handle (.head _) surface live)]
    intro other inside there lives
    have apart : other ≠ handle := fun same => once (same ▸ inside)
    rw [settled.surface?_eq linked live] at lives
    simp only [if_neg apart, Option.map_id'] at lives
    rw [settled.drawn?_eq linked live apart]
    exact spared other (.tail _ inside) there lives

end SettledAll

/-- Surfaces are settled one after the other, until one cannot be. -/
theorem endsWith_settleAll (linked : Linked start.objects) (once : handles.Nodup)
    (live : ∀ handle ∈ handles, (start.objects.surface? handle).isSome) :
    EndsWith (handles.forM Engine.settle) start
      (fun _ final => SettledAll start handles final)
      (fun cause final => ∃ before handle rest, handles = before ++ handle :: rest ∧
        SettledAll start before final ∧ final.Balks handle cause) := by
  induction handles generalizing start with
  | nil => exact SettledAll.refl linked
  | cons handle rest ih =>
    obtain ⟨fresh, once⟩ := List.nodup_cons.mp once
    obtain ⟨surface, lives⟩ := Option.isSome_iff_exists.mp (live handle (.head _))
    have kept : Kept Settling fun session => Linked session.objects ∧
        session.objects.palette? = start.objects.palette? :=
      ⟨And.left, fun held step => ⟨held.1.settling step, (step.palette?_eq held.1).trans held.2⟩⟩
    have ordered : EndsWith (Engine.settle handle) start
        (fun _ middle => Linked middle.objects ∧
          middle.objects.palette? = start.objects.palette?) fun _ _ => True :=
      EndsWith.imp (ends_settle kept ⟨linked, rfl⟩ handle) (fun _ _ ended => ended.1)
        fun _ _ _ => trivial
    refine ((endsWith_settle linked lives).and ordered).andThen ?_ ?_
    · rintro cause _ ⟨⟨rfl, balks⟩, -⟩
      exact ⟨[], handle, rest, rfl, .refl linked, balks⟩
    · rintro _ middle ⟨settled, linkedToo, palettes⟩
      have alive : ∀ other ∈ rest, (middle.objects.surface? other).isSome := by
        intro other inside
        rw [settled.surface?_eq linked lives, Option.isSome_map]
        exact live other (.tail _ inside)
      refine (ih linkedToo once alive).imp
        (fun _ _ all => .cons linked lives settled palettes all fresh) ?_
      rintro cause final ⟨before, other, behind, rfl, all, balks⟩
      refine ⟨handle :: before, other, behind, rfl, ?_, balks⟩
      exact .cons linked lives settled palettes all fun inside =>
        fresh (List.mem_append_left _ inside)

/-! ### Showing -/

/-- A surface shows this picture. -/
def Session.Shows (session : Session) (handle : Handle) (frame : Raster) : Prop :=
  session.contents handle = some (.ok frame)

/-- What is known of a surface apart from its cache. -/
def ObjectTable.uncached? (table : ObjectTable) (handle : Handle) : Option Surface :=
  (table.surface? handle).map fun surface => { surface with cache := none }

/-- Whether a surface is a visible one. -/
def Session.visible (session : Session) (handle : Handle) : Bool :=
  (session.objects.surface? handle).any (·.caps.contains SurfaceCaps.visible)

/-- A surface cannot be shown, and this is the cause: its pixels cannot be decoded, or no handle is
left for a cache. -/
inductive Session.Hides (session : Session) (handle : Handle) : Failure → Prop
  | undecoded {error : PixelError} (shows : session.contents handle = some (.error error)) :
    Hides session handle (.pixel error)
  | exhausted (full : UInt32.size ≤ session.objects.next + 1) :
    Hides session handle (.object .exhausted)

/-- From `start` to `final` surfaces were looked at, which gives them caches, and may have been
shown. -/
structure Looked (start final : Session) : Prop where
  only : final = { start with objects := final.objects, presented := final.presented }
  linked : Linked final.objects
  contents : final.contents = start.contents
  palettes : final.objects.palette? = start.objects.palette?
  surfaces : final.objects.uncached? = start.objects.uncached?

namespace Looked

theorem refl (linked : Linked start.objects) : Looked start start :=
  ⟨rfl, linked, rfl, rfl, rfl⟩

theorem trans (first : Looked start middle) (second : Looked middle final) : Looked start final where
  only := by
    rw [second.only, first.only]
  linked := second.linked
  contents := second.contents.trans first.contents
  palettes := second.palettes.trans first.palettes
  surfaces := second.surfaces.trans first.surfaces

theorem caching (linked : Linked start.objects) (step : Caching start final) : Looked start final := by
  have linkedToo := linked.caching step
  have contents := step.contents_eq linked
  obtain @⟨owner, cache, surface, raster, objects, live, bare, unlocked, decoded, made⟩ := step
  obtain ⟨surfaces, palettes, -⟩ := linked.views_createFor made live
    { surface with cache := some cache } rfl rfl
  refine ⟨rfl, linkedToo, contents, palettes, funext fun handle => ?_⟩
  rw [ObjectTable.uncached?, ObjectTable.uncached?, surfaces, Function.update_apply]
  split
  · next own => rw [own, live, Option.map_some, Option.map_some]
  · rfl

theorem visible_eq (looked : Looked start final) (handle : Handle) :
    final.visible handle = start.visible handle := by
  have any (session : Session) : session.visible handle =
      (session.objects.uncached? handle).any (·.caps.contains SurfaceCaps.visible) := by
    rw [ObjectTable.uncached?, Option.any_map]
    rfl
  rw [any, any, looked.surfaces]

theorem isSome_surface? (looked : Looked start final) (handle : Handle) :
    (final.objects.surface? handle).isSome = (start.objects.surface? handle).isSome := by
  have same := congrArg Option.isSome (congrFun looked.surfaces handle)
  rwa [ObjectTable.uncached?, ObjectTable.uncached?, Option.isSome_map, Option.isSome_map] at same

end Looked

/-- Objects can be created until there is no handle left. -/
theorem endsWith_create (start : Session) (payload : Payload) :
    EndsWith (Engine.create payload) start
      (fun handle final => ∃ objects, start.objects.create payload = .ok (handle, objects) ∧
        final = { start with objects := objects })
      (fun cause final => final = start ∧ UInt32.size ≤ start.objects.next + 1 ∧
        cause = .object .exhausted) := by
  unfold EndsWith Engine.create Engine.onObjects
  dsimp only
  cases made : start.objects.create payload with
  | ok result => exact ⟨result.2, rfl, rfl⟩
  | error cause =>
    obtain ⟨full, rfl⟩ := ObjectTable.insert_eq_error_iff.mp made
    exact ⟨rfl, full, rfl⟩

section Looking

variable (live : start.objects.surface? handle = some surface)

include live

/-- Decoding a live surface fails only where its pixels cannot be decoded. -/
theorem endsWith_decodeSurface : EndsWith (Engine.decodeSurface handle) start
    (fun raster final => start.decodeSurface surface = .ok raster ∧ final = start)
    (fun cause final => final = start ∧
      ∃ error, start.decodeSurface surface = .error error ∧ cause = .pixel error) := by
  refine (ends_surfaceAt_live live).whatever.bind ?_
  rintro surface start ⟨rfl, rfl⟩
  refine .read ?_
  cases decoded : start.decodeSurface surface with
  | ok raster => exact ⟨rfl, rfl⟩
  | error error => exact ⟨rfl, error, rfl, rfl⟩

theorem Session.contents_of_bare (bare : surface.cache = none) :
    start.contents handle = some (start.decodeSurface surface) := by
  rw [contents, live, Option.map_some, bare]
  rfl

variable (linked : Linked start.objects)

include linked

/-- A surface has got a cache unless it is locked. -/
theorem endsWith_cacheOf : EndsWith (Engine.cacheOf handle true) start
    (fun cache middle => Looked start middle ∧ middle.presented = start.presented ∧
      ∃ surface, middle.objects.surface? handle = some surface ∧ surface.cache = cache ∧
        (cache = none → middle = start))
    (fun cause final => final = start ∧ start.Hides handle cause) := by
  unfold Engine.cacheOf
  refine (ends_surfaceAt_live live).whatever.bind ?_
  rintro surface start ⟨rfl, rfl⟩
  by_cases cached : surface.cache.isSome = true
  · rw [if_pos cached]
    exact ⟨.refl linked, rfl, surface, live, rfl, fun _ => rfl⟩
  rw [if_neg cached]
  have bare : surface.cache = none := by simpa using cached
  by_cases locked : surface.locked = true
  · rw [if_pos (.inr locked)]
    exact ⟨.refl linked, rfl, surface, live, bare, fun _ => rfl⟩
  rw [if_neg (by simpa using locked)]
  refine (endsWith_decodeSurface live).andThen ?_ ?_
  · rintro cause _ ⟨rfl, error, undecoded, rfl⟩
    refine ⟨rfl, .undecoded ?_⟩
    rw [Session.contents_of_bare live bare, undecoded]
  rintro raster start ⟨decoded, rfl⟩
  refine (endsWith_create start _).andThen ?_ ?_
  · rintro cause _ ⟨rfl, full, rfl⟩
    exact ⟨rfl, .exhausted full⟩
  rintro cache _ ⟨objects, made, rfl⟩
  obtain ⟨-, still⟩ := linked.surface?_create made live
  have looked := Looked.caching linked
    (.made live bare (eq_false_of_ne_true locked) decoded made)
  refine (ends_updateSurface_live still _).whatever.bind ?_
  rintro _ _ rfl
  refine ⟨looked, rfl, { surface with cache := some cache }, ?_, rfl, nofun⟩
  rw [ObjectTable.surface?_setSurface still, Function.update_self]

/-- Looking at a live surface fails only where it cannot be shown. -/
theorem endsWith_picture : EndsWith (Engine.picture handle) start
    (fun frame final => start.Shows handle frame ∧ Looked start final ∧
      final.presented = start.presented)
    (fun cause final => final = start ∧ start.Hides handle cause) := by
  refine (endsWith_cacheOf live linked).bind ?_
  rintro cache middle ⟨looked, presented, pictured, there, has, none⟩
  cases cache with
  | none =>
    obtain rfl := none rfl
    have shown := Session.contents_of_bare there has
    refine (endsWith_decodeSurface there).imp ?_ ?_
    · rintro frame final ⟨decoded, rfl⟩
      exact ⟨shown.trans (congrArg some decoded), looked, rfl⟩
    · rintro cause _ ⟨rfl, error, undecoded, rfl⟩
      exact ⟨rfl, .undecoded (shown.trans (congrArg some undecoded))⟩
  | some cache =>
    obtain ⟨-, -, cached, content, -⟩ := looked.linked.cache there has
    refine .read ?_
    rw [content]
    refine ⟨?_, looked, presented⟩
    rw [Session.Shows, ← looked.contents, Session.contents, there, Option.map_some, has,
      Option.bind_some, content]

end Looking

/-- From `start` to `final` one surface after the other was shown if it is visible. -/
structure ShownAll (start : Session) (handles : List Handle) (final : Session) : Prop
    extends Looked start final where
  presented : ∃ frames, final.presented.toList = start.presented.toList ++ frames ∧
    List.Forall₂ start.Shows (handles.filter start.visible) frames

namespace ShownAll

theorem refl (linked : Linked start.objects) : ShownAll start [] start :=
  ⟨.refl linked, [], (List.append_nil _).symm, .nil⟩

theorem trans (first : ShownAll start handles middle) (second : ShownAll middle rest final) :
    ShownAll start (handles ++ rest) final := by
  obtain ⟨frames, shown, each⟩ := first.presented
  obtain ⟨more, shownToo, eachToo⟩ := second.presented
  have shows : middle.Shows = start.Shows := by
    funext handle frame
    rw [Session.Shows, Session.Shows, first.contents]
  have visible : rest.filter middle.visible = rest.filter start.visible :=
    congrArg (rest.filter ·) (funext first.visible_eq)
  rw [shows, visible] at eachToo
  refine ⟨first.toLooked.trans second.toLooked, frames ++ more, ?_, ?_⟩
  · rw [shownToo, shown, List.append_assoc]
  · rw [List.filter_append]
    exact List.rel_append each eachToo

end ShownAll

/-- A surface is shown if it is visible, or it is visible and cannot be shown. -/
theorem endsWith_presentIfVisible (linked : Linked start.objects)
    (live : start.objects.surface? handle = some surface) :
    EndsWith (Engine.presentIfVisible handle) start (fun _ final => ShownAll start [handle] final)
      (fun cause final => final = start ∧ start.visible handle = true ∧ start.Hides handle cause) := by
  have seen : start.visible handle = surface.caps.contains SurfaceCaps.visible := by
    rw [Session.visible, live, Option.any_some]
  unfold Engine.presentIfVisible
  refine (ends_surfaceAt_live live).whatever.bind ?_
  rintro surface start ⟨rfl, rfl⟩
  split
  · next visible =>
    refine (endsWith_picture live linked).andThen ?_ ?_
    · exact fun _ _ ended => ⟨ended.1, seen.trans visible, ended.2⟩
    rintro frame middle ⟨shows, looked, presented⟩
    refine ⟨⟨?_, looked.linked, looked.contents, looked.palettes, looked.surfaces⟩, [frame], ?_, ?_⟩
    · rw [looked.only]
    · rw [Array.toList_push, presented]
    · rw [List.filter_cons_of_pos (seen.trans visible), List.filter_nil]
      exact .cons shows .nil
  · next hidden =>
    refine ⟨.refl linked, [], (List.append_nil _).symm, ?_⟩
    rw [List.filter_cons_of_neg (seen ▸ hidden)]
    exact .nil

/-- Surfaces are shown one after the other if they are visible, until one cannot be. -/
theorem endsWith_presentAll (linked : Linked start.objects)
    (live : ∀ handle ∈ handles, (start.objects.surface? handle).isSome) :
    EndsWith (handles.forM Engine.presentIfVisible) start
      (fun _ final => ShownAll start handles final)
      (fun cause final => ∃ before handle rest, handles = before ++ handle :: rest ∧
        ShownAll start before final ∧ final.visible handle = true ∧ final.Hides handle cause) := by
  induction handles generalizing start with
  | nil => exact ShownAll.refl linked
  | cons handle rest ih =>
    obtain ⟨surface, lives⟩ := Option.isSome_iff_exists.mp (live handle (.head _))
    refine (endsWith_presentIfVisible linked lives).andThen ?_ ?_
    · rintro cause _ ⟨rfl, visible, hides⟩
      exact ⟨[], handle, rest, rfl, .refl linked, visible, hides⟩
    · intro _ middle (shown : ShownAll start [handle] middle)
      have alive : ∀ other ∈ rest, (middle.objects.surface? other).isSome := by
        intro other inside
        rw [shown.isSome_surface?]
        exact live other (.tail _ inside)
      refine (ih shown.linked alive).imp (fun _ _ all => shown.trans all) ?_
      rintro cause final ⟨before, other, behind, rfl, all, hides⟩
      exact ⟨handle :: before, other, behind, rfl, shown.trans all, hides⟩

end GuestDraw
