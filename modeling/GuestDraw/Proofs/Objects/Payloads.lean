/-
**What the handles hold.**

Apart from counts and names, a table is the content that each handle has. `payload?` is that view,
and every change of a table is a change of it at one or two handles.

* `payload?_setPayload`, `payload?_create`, `payload?_update`: the view after a change;
* `Swept.payload?`: the view after a teardown.
-/

import Mathlib.Logic.Function.Basic
import GuestDraw.Proofs.Objects.Numbering

namespace GuestDraw

theorem Payload.palette?_eq_some_iff {payload : Payload} {content : Palette} :
    payload.palette? = some content ↔ payload = .palette content := by
  cases payload <;> simp [palette?]

namespace ObjectTable

variable {table : ObjectTable}

/-- What the object with a handle holds. -/
def payload? (table : ObjectTable) (handle : Handle) : Option Payload :=
  (table.find? handle).map (·.payload)

theorem payload?_of_mem (distinct : (table.objects.map (·.handle)).Nodup) {object : Object}
    (member : object ∈ table.objects) : table.payload? object.handle = some object.payload := by
  rw [payload?, find?_of_mem distinct member]
  rfl

theorem exists_of_payload? {handle : Handle} {payload : Payload}
    (holds : table.payload? handle = some payload) :
    ∃ object ∈ table.objects, object.handle = handle ∧ object.payload = payload := by
  obtain ⟨object, found, rfl⟩ := Option.map_eq_some_iff.mp holds
  exact ⟨object, mem_of_find? found, handle_of_find? found, rfl⟩

theorem isSome_payload? {handle : Handle} :
    (table.payload? handle).isSome = (table.find? handle).isSome := by
  rw [payload?, Option.isSome_map]

/-! ### Contents of one kind -/

theorem surface?_eq_bind (handle : Handle) :
    table.surface? handle = (table.payload? handle).bind Payload.surface? := by
  rw [surface?, payload?, Option.bind_map]
  rfl

theorem palette?_eq_bind (handle : Handle) :
    table.palette? handle = (table.payload? handle).bind Payload.palette? := by
  rw [palette?, payload?, Option.bind_map]
  rfl

theorem cachedRaster?_eq_bind (handle : Handle) :
    table.cachedRaster? handle = (table.payload? handle).bind Payload.cachedRaster? := by
  rw [cachedRaster?, payload?, Option.bind_map]
  rfl

theorem surface?_eq_some_iff {handle : Handle} {surface : Surface} :
    table.surface? handle = some surface ↔ table.payload? handle = some (.surface surface) := by
  rw [surface?_eq_bind]
  cases table.payload? handle with
  | none => simp
  | some payload => cases payload <;> simp [Payload.surface?]

theorem palette?_eq_some_iff {handle : Handle} {palette : Palette} :
    table.palette? handle = some palette ↔ table.payload? handle = some (.palette palette) := by
  rw [palette?_eq_bind]
  cases table.payload? handle with
  | none => simp
  | some payload => cases payload <;> simp [Payload.palette?]

theorem cachedRaster?_eq_some_iff {handle : Handle} {cached : CachedRaster} :
    table.cachedRaster? handle = some cached ↔
      table.payload? handle = some (.cachedRaster cached) := by
  rw [cachedRaster?_eq_bind]
  cases table.payload? handle with
  | none => simp
  | some payload => cases payload <;> simp [Payload.cachedRaster?]

theorem nodup_surfaces (wf : table.WellFormed) : table.surfaces.Nodup := by
  rw [List.Nodup, surfaces, List.pairwise_filterMap]
  refine (List.pairwise_map.mp wf.distinct).imp ?_
  rintro first second different _ one _ two rfl
  obtain ⟨_, -, rfl⟩ := Option.map_eq_some_iff.mp one
  obtain ⟨_, -, same⟩ := Option.map_eq_some_iff.mp two
  exact different (congrArg Prod.fst same).symm

theorem mem_surfaces_iff (wf : table.WellFormed) {handle : Handle} {surface : Surface} :
    (handle, surface) ∈ table.surfaces ↔ table.surface? handle = some surface := by
  rw [surface?_eq_some_iff, surfaces, List.mem_filterMap]
  constructor
  · rintro ⟨object, member, is⟩
    obtain ⟨content, shape, same⟩ := Option.map_eq_some_iff.mp is
    cases same
    rw [payload?_of_mem wf.distinct member]
    cases payload : object.payload <;> simp_all [Payload.surface?]
  · intro found
    obtain ⟨object, member, rfl, shape⟩ := exists_of_payload? found
    exact ⟨object, member, by rw [shape]; rfl⟩

section Update

variable {after : ObjectTable} {handle : Handle} {content : Option Payload}
  (graph : after.payload? = Function.update table.payload? handle content)

include graph

theorem surface?_of_update :
    after.surface? = Function.update table.surface? handle (content.bind Payload.surface?) := by
  funext other
  rw [surface?_eq_bind, graph, Function.update_apply, Function.update_apply, surface?_eq_bind]
  split <;> rfl

theorem palette?_of_update :
    after.palette? = Function.update table.palette? handle (content.bind Payload.palette?) := by
  funext other
  rw [palette?_eq_bind, graph, Function.update_apply, Function.update_apply, palette?_eq_bind]
  split <;> rfl

theorem cachedRaster?_of_update :
    after.cachedRaster? =
      Function.update table.cachedRaster? handle (content.bind Payload.cachedRaster?) := by
  funext other
  rw [cachedRaster?_eq_bind, graph, Function.update_apply, Function.update_apply,
    cachedRaster?_eq_bind]
  split <;> rfl

end Update

/-! ### After a change -/

/-- A change that keeps handle and content changes no content. -/
theorem payload?_update {handle : Handle} {change : Object → Object}
    (keepsHandle : ∀ object, (change object).handle = object.handle)
    (keepsPayload : ∀ object, (change object).payload = object.payload) :
    (table.update handle change).payload? = table.payload? := by
  funext other
  rw [payload?, payload?, find?_update keepsHandle]
  split
  · cases table.find? other with
    | none => rfl
    | some object => exact congrArg some (keepsPayload object)
  · rfl

theorem payload?_setPayload {handle : Handle} {old : Payload}
    (live : table.payload? handle = some old) (payload : Payload) :
    (table.setPayload handle payload).payload? = Function.update table.payload? handle (some payload) := by
  funext other
  rw [payload?, find?_setPayload, Function.update_apply]
  by_cases same : other = handle
  · subst same
    obtain ⟨object, found, -⟩ := Option.map_eq_some_iff.mp live
    simp [found]
  · simp [same, payload?]

theorem payload?_create {payload : Payload} {handle : Handle} {after : ObjectTable}
    (numbered : table.Numbered 0) (made : table.create payload = .ok (handle, after)) :
    after.payload? = Function.update table.payload? handle (some payload) := by
  obtain ⟨_, rfl, rfl⟩ := insert_eq_ok_iff.mp made
  funext other
  rw [payload?, find?_append, Function.update_apply]
  by_cases same : other = ⟨table.next⟩
  · subst same
    simp [numbered.find?_next]
  · have different : (⟨table.next⟩ : Handle) ≠ other := fun equal => same equal.symm
    rw [if_neg same, if_neg different, Option.or_none]
    rfl

/-- Surfaces that are alive after an object was created were alive before, but for a new one. -/
theorem surface?_of_create {payload : Payload} {handle other : Handle} {after : ObjectTable}
    {surface : Surface} (numbered : table.Numbered 0)
    (made : table.create payload = .ok (handle, after)) (live : after.surface? other = some surface) :
    table.surface? other = some surface ∨ other = handle ∧ payload = .surface surface := by
  rw [surface?_of_update (payload?_create numbered made), Function.update_apply] at live
  split at live
  · next same => exact .inr ⟨same, by cases payload <;> cases live; rfl⟩
  · exact .inl live

theorem palette?_of_create {payload : Payload} {handle other : Handle} {after : ObjectTable}
    {palette : Palette} (numbered : table.Numbered 0)
    (made : table.create payload = .ok (handle, after)) (live : after.palette? other = some palette) :
    table.palette? other = some palette ∨ other = handle ∧ payload = .palette palette := by
  rw [palette?_of_update (payload?_create numbered made), Function.update_apply] at live
  split at live
  · next same => exact .inr ⟨same, by cases payload <;> cases live; rfl⟩
  · exact .inl live

theorem Swept.payload? {steps : List Teardown} {members : Finset Handle} {after : ObjectTable}
    (swept : table.Swept steps members after) (handle : Handle) :
    after.payload? handle = if handle ∈ members then none else table.payload? handle := by
  rw [ObjectTable.payload?, swept.find?]
  split
  · rfl
  · rw [ObjectTable.payload?, Option.map_map]
    rfl

/-- What is left was there before. -/
theorem Swept.was {steps : List Teardown} {members : Finset Handle} {after : ObjectTable}
    {handle : Handle} {payload : Payload} (swept : table.Swept steps members after)
    (found : after.payload? handle = some payload) : table.payload? handle = some payload := by
  rw [swept.payload?] at found
  split at found
  · cases found
  · exact found

/-! ### Surfaces, palettes and caches after a change -/

section SetPayload

variable {handle : Handle}

theorem surface?_setSurface {old : Surface} (live : table.surface? handle = some old)
    (new : Surface) : (table.setPayload handle (.surface new)).surface? =
      Function.update table.surface? handle (some new) :=
  surface?_of_update (payload?_setPayload (surface?_eq_some_iff.mp live) _)

theorem palette?_setSurface {old : Surface} (live : table.surface? handle = some old)
    (new : Surface) : (table.setPayload handle (.surface new)).palette? = table.palette? := by
  have live := surface?_eq_some_iff.mp live
  rw [palette?_of_update (payload?_setPayload live _), Function.update_eq_self_iff,
    palette?_eq_bind, live]
  rfl

theorem cachedRaster?_setSurface {old : Surface} (live : table.surface? handle = some old)
    (new : Surface) :
    (table.setPayload handle (.surface new)).cachedRaster? = table.cachedRaster? := by
  have live := surface?_eq_some_iff.mp live
  rw [cachedRaster?_of_update (payload?_setPayload live _), Function.update_eq_self_iff,
    cachedRaster?_eq_bind, live]
  rfl

theorem surface?_setCached {old : CachedRaster} (live : table.cachedRaster? handle = some old)
    (new : CachedRaster) :
    (table.setPayload handle (.cachedRaster new)).surface? = table.surface? := by
  have live := cachedRaster?_eq_some_iff.mp live
  rw [surface?_of_update (payload?_setPayload live _), Function.update_eq_self_iff,
    surface?_eq_bind, live]
  rfl

theorem palette?_setCached {old : CachedRaster} (live : table.cachedRaster? handle = some old)
    (new : CachedRaster) :
    (table.setPayload handle (.cachedRaster new)).palette? = table.palette? := by
  have live := cachedRaster?_eq_some_iff.mp live
  rw [palette?_of_update (payload?_setPayload live _), Function.update_eq_self_iff,
    palette?_eq_bind, live]
  rfl

theorem cachedRaster?_setCached {old : CachedRaster}
    (live : table.cachedRaster? handle = some old) (new : CachedRaster) :
    (table.setPayload handle (.cachedRaster new)).cachedRaster? =
      Function.update table.cachedRaster? handle (some new) :=
  cachedRaster?_of_update (payload?_setPayload (cachedRaster?_eq_some_iff.mp live) _)

theorem surface?_setPalette {old : Palette} (live : table.palette? handle = some old)
    (new : Palette) : (table.setPayload handle (.palette new)).surface? = table.surface? := by
  have live := palette?_eq_some_iff.mp live
  rw [surface?_of_update (payload?_setPayload live _), Function.update_eq_self_iff,
    surface?_eq_bind, live]
  rfl

theorem palette?_setPalette {old : Palette} (live : table.palette? handle = some old)
    (new : Palette) : (table.setPayload handle (.palette new)).palette? =
      Function.update table.palette? handle (some new) :=
  palette?_of_update (payload?_setPayload (palette?_eq_some_iff.mp live) _)

theorem cachedRaster?_setPalette {old : Palette} (live : table.palette? handle = some old)
    (new : Palette) :
    (table.setPayload handle (.palette new)).cachedRaster? = table.cachedRaster? := by
  have live := palette?_eq_some_iff.mp live
  rw [cachedRaster?_of_update (payload?_setPayload live _), Function.update_eq_self_iff,
    cachedRaster?_eq_bind, live]
  rfl

end SetPayload

/-! ### Counting references -/

theorem addReference_eq_ok_iff {handle : Handle} {count : Nat} {after : ObjectTable} :
    table.addReference handle = .ok (count, after) ↔ ∃ object, table.find? handle = some object ∧
      count = min (object.references + 1) (UInt32.size - 1) ∧
      after = table.update handle fun object => { object with references := count } := by
  unfold addReference
  cases table.find? handle with
  | none => simp
  | some object =>
    simp only [Except.ok.injEq, Prod.mk.injEq, Option.some.injEq, exists_eq_left']
    constructor
    · rintro ⟨rfl, rfl⟩
      exact ⟨rfl, rfl⟩
    · rintro ⟨rfl, rfl⟩
      exact ⟨rfl, rfl⟩

theorem payload?_recount {handle : Handle} (count : Nat) :
    (table.update handle fun object => { object with references := count }).payload? =
      table.payload? := payload?_update (fun _ => rfl) fun _ => rfl

theorem payload?_addReference {handle : Handle} {count : Nat} {after : ObjectTable}
    (counted : table.addReference handle = .ok (count, after)) :
    after.payload? = table.payload? := by
  obtain ⟨_, -, -, rfl⟩ := addReference_eq_ok_iff.mp counted
  exact payload?_recount count

theorem release_eq_ok_iff {handle : Handle} {count : Nat} {after : ObjectTable} :
    table.release handle = .ok (count, after) ↔ ∃ object, table.find? handle = some object ∧
      count = object.references - 1 ∧ after = drain [.release handle] table := by
  unfold release
  cases table.find? handle with
  | none => simp
  | some object => simp [eq_comm]

/-- Changes that agree on the object with the handle are the same change. -/
theorem update_congr (wf : table.WellFormed) {object : Object} {first second : Object → Object}
    (found : table.find? object.handle = some object) (same : first object = second object) :
    table.update object.handle first = table.update object.handle second := by
  unfold update
  congr 1
  refine List.map_congr_left fun other member => ?_
  split
  · next own =>
    have equal : other = object :=
      List.inj_on_of_nodup_map wf.distinct member (mem_of_find? found) own
    rw [equal, same]
  · rfl

theorem payload?_remove (object : Object) :
    (table.remove object).payload? = Function.update table.payload? object.handle none := by
  funext other
  rw [payload?, find?_remove, Function.update_apply]
  split
  · rfl
  · rfl

end ObjectTable

end GuestDraw
