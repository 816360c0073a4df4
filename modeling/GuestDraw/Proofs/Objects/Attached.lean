/-
**Attached palettes.**

A palette is referred to by the guest that made it and by the surfaces that it is attached to. As
long as the guest keeps its own reference, every palette has one to spare, so palettes outlive all
surfaces, and a surface always finds the palette that is attached to it.

* `referrers_lt`: surfaces are too few to fill the count of a palette;
* `Attached.setPayload`, `Attached.create`, `Attached.drain` and so on: palettes keep a reference to
  spare while surfaces come and go;
* `Attached.attach`: also while one palette is attached in place of another.
-/

import GuestDraw.Proofs.Objects.Balance
import GuestDraw.Proofs.Objects.Links

namespace GuestDraw.ObjectTable

variable {table after : ObjectTable} {handle : Handle}

/-- A table of handles has at most as many objects as there are handles. -/
theorem Numbered.length_le (numbered : table.Numbered 0) (wf : table.WellFormed) :
    table.objects.length ≤ UInt32.size - 1 := by
  have numbers : (table.objects.map (·.handle.number)).Nodup := by
    have apart : Function.Injective Handle.number := by
      rintro ⟨first⟩ ⟨second⟩ same
      exact congrArg Handle.mk same
    rw [show table.objects.map (·.handle.number) = (table.objects.map (·.handle)).map Handle.number
      from List.map_map.symm]
    exact wf.distinct.map apart
  have within : table.objects.map (·.handle.number) ⊆ List.range (UInt32.size - 1) := by
    intro number inside
    obtain ⟨object, member, rfl⟩ := List.mem_map.mp inside
    have narrow := numbered.narrow object member
    exact List.mem_range.mpr (by omega)
  have bound := (List.subperm_of_subset numbers within).length_le
  rw [List.length_map, List.length_range] at bound
  exact bound

/-- An object refers to a palette at most once. -/
theorem count_release_le (linked : Linked table) {colours : Palette}
    (live : table.palette? handle = some colours) {object : Object}
    (member : object ∈ table.objects) : object.payload.teardown.count (.release handle) ≤ 1 := by
  have fits := linked.fits _ _ (payload?_of_mem linked.wf.distinct member)
  cases shape : object.payload with
  | surface surface =>
    rw [shape] at fits
    rw [Surface.count_release]
    by_cases owns : surface.backBuffer = some handle
    · obtain ⟨back, is, -⟩ := (fits.backBuffer handle owns).2 _ (palette?_eq_some_iff.mp live)
      cases is
    · rw [if_neg owns]
      split <;> omega
  | fileMapping => simp [shape, Fits] at fits
  | _ => simp [Payload.teardown]

/-- Surfaces are too few to fill the count of a palette. -/
theorem referrers_lt (linked : Linked table) {colours : Palette}
    (live : table.palette? handle = some colours) : table.referrers handle < UInt32.size - 1 := by
  obtain ⟨object, member, rfl, shape⟩ := exists_of_payload? (palette?_eq_some_iff.mp live)
  -- The palette itself is an object that does not refer to it.
  have others := total_remove linked.wf.distinct
    (fun other => other.payload.teardown.count (.release object.handle)) member
  have none : object.payload.teardown.count (.release object.handle) = 0 := by
    rw [shape]
    rfl
  have most : (table.remove object).total
      (fun other => other.payload.teardown.count (.release object.handle)) ≤
        (table.remove object).objects.length := by
    have bound := List.sum_le_card_nsmul ((table.remove object).objects.map
      fun other => other.payload.teardown.count (.release object.handle)) 1 fun count inside => by
        obtain ⟨other, kept, rfl⟩ := List.mem_map.mp inside
        exact count_release_le linked live (List.mem_of_mem_filter kept)
    rw [List.length_map, Nat.nsmul_eq_mul, Nat.mul_one] at bound
    exact bound
  have fewer := length_remove_lt (find?_of_mem linked.wf.distinct member)
  have room := linked.numbered.length_le linked.wf
  rw [referrers]
  omega

section Count

variable {count : Nat} (counted : table.addReference handle = .ok (count, after))

include counted

theorem referrers_addReference (target : Handle) :
    after.referrers target = table.referrers target := by
  obtain ⟨object, -, rfl, rfl⟩ := addReference_eq_ok_iff.mp counted
  refine referrers_update handle _ (fun _ => ?_) target
  rfl

/-- An object before another reference was taken, and how often it is referred to since. -/
theorem exists_of_addReference {other : Handle} {object : Object}
    (found : after.find? other = some object) :
    ∃ before, table.find? other = some before ∧ before.payload = object.payload ∧
      object.references = if other = handle then min (before.references + 1) (UInt32.size - 1)
        else before.references := by
  obtain ⟨counting, was, rfl, rfl⟩ := addReference_eq_ok_iff.mp counted
  have kept : ∀ object : Object, ({ object with
      references := min (counting.references + 1) (UInt32.size - 1) } : Object).handle =
        object.handle := fun _ => rfl
  rw [find?_update kept] at found
  split at found
  · next own =>
    subst own
    obtain ⟨before, again, rfl⟩ := Option.map_eq_some_iff.mp found
    cases was.symm.trans again
    exact ⟨counting, was, rfl, (if_pos rfl).symm⟩
  · next own => exact ⟨object, found, rfl, (if_neg own).symm⟩

end Count

/-- Attached palettes are alive, and all palettes have a reference to spare. -/
structure Attached (table : ObjectTable) : Prop where
  alive : ∀ handle surface palette, table.surface? handle = some surface →
    surface.palette = some palette → (table.palette? palette).isSome
  spare : ∀ handle object colours, table.find? handle = some object →
    object.payload = .palette colours → table.referrers handle < object.references

theorem attached_startingAt (base : Nat) : (startingAt base).Attached :=
  ⟨(fun _ _ _ live => nomatch live), fun _ _ _ found => nomatch found⟩

namespace Attached

/-! ### Changes in place -/

/-- A new count that leaves a palette a reference to spare, or any count of another object. -/
theorem update (attached : table.Attached) {change : Object → Object}
    (keepsHandle : ∀ object, (change object).handle = object.handle)
    (keepsPayload : ∀ object, (change object).payload = object.payload)
    (enough : ∀ object colours, table.find? handle = some object →
      object.payload = .palette colours → table.referrers handle < (change object).references) :
    (table.update handle change).Attached := by
  have graph : (table.update handle change).payload? = table.payload? :=
    payload?_update keepsHandle keepsPayload
  refine ⟨fun owner surface palette live has => ?_, fun other object colours found shape => ?_⟩
  · rw [surface?_eq_some_iff, graph, ← surface?_eq_some_iff] at live
    rw [palette?_eq_bind, graph, ← palette?_eq_bind]
    exact attached.alive owner surface palette live has
  · rw [referrers_update handle change keepsPayload]
    rw [find?_update keepsHandle] at found
    split at found
    · next same =>
      subst same
      obtain ⟨before, was, rfl⟩ := Option.map_eq_some_iff.mp found
      rw [keepsPayload] at shape
      exact enough before colours was shape
    · exact attached.spare other object colours found shape

theorem addReference (attached : table.Attached) (linked : Linked table) {count : Nat}
    (counted : table.addReference handle = .ok (count, after)) : after.Attached := by
  have graph := payload?_addReference counted
  refine ⟨fun owner surface palette live has => ?_, fun other object colours found shape => ?_⟩
  · rw [surface?_eq_some_iff, graph, ← surface?_eq_some_iff] at live
    rw [palette?_eq_bind, graph, ← palette?_eq_bind]
    exact attached.alive owner surface palette live has
  · obtain ⟨before, was, is, references⟩ := exists_of_addReference counted found
    have spare := attached.spare other before colours was (is.trans shape)
    have room := referrers_lt linked (palette?_eq_some_iff.mpr (by
      rw [payload?, was, Option.map_some, is, shape]))
    rw [referrers_addReference counted, references]
    split
    · exact Nat.lt_min.mpr ⟨by omega, room⟩
    · exact spare

/-- An object other than a palette changes, and refers to nothing that it did not refer to
before. -/
theorem setPayload (attached : table.Attached) (wf : table.WellFormed) {old new : Payload}
    (live : table.payload? handle = some old) (kind : new.palette?.isSome = old.palette?.isSome)
    (fewer : ∀ target, new.teardown.count (.release target) ≤ old.teardown.count (.release target))
    (same : ∀ surface palette, new = .surface surface → surface.palette = some palette →
      (table.palette? palette).isSome) : (table.setPayload handle new).Attached := by
  have graph := payload?_setPayload live new
  have palettes : ∀ palette, ((table.setPayload handle new).palette? palette).isSome =
      (table.palette? palette).isSome := by
    intro palette
    rw [palette?_of_update graph, Function.update_apply]
    split
    · next own => rw [own, palette?_eq_bind, live, Option.bind_some, Option.bind_some, kind]
    · rfl
  refine ⟨fun owner surface palette found has => ?_, fun other object colours found shape => ?_⟩
  · rw [palettes]
    rw [surface?_eq_some_iff, graph, Function.update_apply] at found
    split at found
    · exact same surface palette (Option.some.inj found) has
    · exact attached.alive owner surface palette (surface?_eq_some_iff.mpr found) has
  · have referring := referrers_setPayload wf live new other
    have less := fewer other
    obtain ⟨before, content, was, is, references⟩ : ∃ before content, table.find? other = some before ∧
        before.payload = .palette content ∧ object.references = before.references := by
      rw [find?_setPayload] at found
      split at found
      · next own =>
        subst own
        obtain ⟨before, was, rfl⟩ := Option.map_eq_some_iff.mp found
        rw [payload?, was] at live
        cases live
        have shape : new = .palette colours := shape
        rw [shape] at kind
        obtain ⟨content, is⟩ := Option.isSome_iff_exists.mp kind.symm
        exact ⟨before, content, was, Payload.palette?_eq_some_iff.mp is, rfl⟩
      · exact ⟨object, colours, found, shape, rfl⟩
    have spare := attached.spare other before content was is
    omega

/-- A surface changes, but not what it refers to. -/
theorem setSurface (attached : table.Attached) (wf : table.WellFormed) {old new : Surface}
    (live : table.surface? handle = some old) (palette : new.palette = old.palette)
    (backBuffer : new.backBuffer = old.backBuffer) :
    (table.setPayload handle (.surface new)).Attached := by
  refine attached.setPayload wf (surface?_eq_some_iff.mp live) rfl (fun target => ?_) ?_
  · rw [Surface.count_release, Surface.count_release, palette, backBuffer]
  · rintro _ attachedTo ⟨⟩ has
    exact attached.alive handle old attachedTo live (palette ▸ has)

/-! ### Objects that come and go -/

/-- A new object that refers to no palette. -/
theorem create (attached : table.Attached) (linked : Linked table) {payload : Payload}
    (made : table.create payload = .ok (handle, after))
    (apart : ∀ target colours, table.palette? target = some colours →
      .release target ∉ payload.teardown)
    (bare : ∀ surface, payload = .surface surface → surface.palette = none)
    (older : ∀ target, .release target ∈ payload.teardown → target.number < table.next) :
    after.Attached := by
  have graph := payload?_create linked.numbered made
  have dead := linked.fresh made
  have unreferred : after.referrers handle = 0 := by
    obtain ⟨_, own, -⟩ := insert_eq_ok_iff.mp made
    have fresh : ¬ handle.number < table.next := by rw [own]; exact Nat.lt_irrefl _
    rw [referrers_create made, Nat.add_eq_zero_iff]
    refine ⟨(referrers_eq_zero_iff linked.wf).mpr fun owner content found step => fresh ?_,
      List.count_eq_zero.mpr fun step => fresh (older handle step)⟩
    have fits := linked.fits owner content found
    cases content with
    | surface surface =>
      rcases Payload.release_mem_teardown.mp step with has | has
      · exact (fits.palette handle has).1
      · exact (fits.backBuffer handle has).1
    | fileMapping => exact fits.elim
    | _ => cases step
  refine ⟨fun owner surface palette found has => ?_, fun other object colours found shape => ?_⟩
  · rw [surface?_eq_some_iff, graph, Function.update_apply] at found
    split at found
    · rw [bare surface (Option.some.inj found)] at has
      cases has
    · have alive := attached.alive owner surface palette (surface?_eq_some_iff.mpr found) has
      have different : palette ≠ handle := fun same => by
        rw [same, palette?_eq_bind, dead] at alive
        cases alive
      rw [palette?_of_update graph, Function.update_of_ne different]
      exact alive
  · rw [find?_create linked.numbered made] at found
    split at found
    · next same =>
      cases found
      rw [same, unreferred]
      exact Nat.one_pos
    · have live : table.palette? other = some colours := by
        rw [palette?_eq_some_iff, payload?, found, Option.map_some, shape]
      rw [referrers_create made, List.count_eq_zero.mpr (apart other colours live)]
      exact attached.spare other object colours found shape

/-- Another object than a palette leaves alone. -/
theorem remove (attached : table.Attached) (wf : table.WellFormed) {object : Object}
    (member : object ∈ table.objects) (other : object.payload.palette? = none) :
    (table.remove object).Attached := by
  have graph : (table.remove object).payload? =
      Function.update table.payload? object.handle none := payload?_remove object
  have palettes : (table.remove object).palette? = table.palette? := by
    rw [palette?_of_update graph, Function.update_eq_self_iff, palette?_eq_bind,
      payload?_of_mem wf.distinct member, Option.bind_some, other]
    rfl
  refine ⟨fun owner surface palette found has => ?_, fun handle content colours found shape => ?_⟩
  · rw [palettes]
    rw [surface?_of_update graph, Function.update_apply] at found
    split at found
    · cases found
    · exact attached.alive owner surface palette found has
  · rw [find?_remove] at found
    split at found
    · cases found
    · have less := total_remove wf.distinct
        (fun object => object.payload.teardown.count (.release handle)) member
      have spare := attached.spare handle content colours found shape
      unfold referrers at spare ⊢
      omega

section Drain

variable {steps : List Teardown} (attached : table.Attached) (linked : Linked table)
  (others : ∀ step ∈ steps, table.palette? step.target = none)

include attached linked others

/-- Palettes stay when other objects are given back or closed. -/
theorem notMem {members : Finset Handle} (swept : table.Swept steps members after)
    {colours : Palette} (live : table.palette? handle = some colours) : handle ∉ members := by
  intro inside
  obtain ⟨object, member, rfl, shape⟩ := exists_of_payload? (palette?_eq_some_iff.mp live)
  rcases swept.demanded linked.wf member inside with closes | spent
  · rcases closes with listed | ⟨owner, held, -, step⟩
    · cases live.symm.trans (others _ listed)
    · have fits := linked.fits _ _ (payload?_of_mem linked.wf.distinct held)
      have there := palette?_eq_some_iff.mp live
      cases is : owner.payload with
      | surface surface =>
        rw [is] at fits step
        rcases Payload.close_mem_teardown.mp step with has | has
        · rw [fits.context _ has] at there
          cases there
        · obtain ⟨-, cached, content, -⟩ := fits.cache _ has
          rw [content] at there
          cases there
      | _ => simp [is, Payload.teardown] at step fits
  · have spare := attached.spare _ object colours (find?_of_mem linked.wf.distinct member) shape
    have unlisted : steps.count (.release object.handle) = 0 :=
      List.count_eq_zero.mpr fun listed => by cases live.symm.trans (others _ listed)
    have returns := Balanced.referrers_swept swept object.handle
    rw [demand, unlisted] at spent
    omega

theorem drain : (ObjectTable.drain steps table).Attached := by
  obtain ⟨members, swept⟩ := swept_drain linked.wf steps
  refine ⟨fun owner surface palette found has => ?_, fun other object colours found shape => ?_⟩
  · rw [surface?_eq_some_iff, swept.payload?] at found
    split at found
    · cases found
    · have alive := attached.alive owner surface palette (surface?_eq_some_iff.mpr found) has
      obtain ⟨colours, live⟩ := Option.isSome_iff_exists.mp alive
      rw [palette?_eq_bind, swept.payload?, if_neg (notMem attached linked others swept live),
        ← palette?_eq_bind]
      exact alive
  · rw [swept.find?] at found
    split at found
    · cases found
    · obtain ⟨before, was, rfl⟩ := Option.map_eq_some_iff.mp found
      have own := handle_of_find? was
      have live : table.palette? other = some colours := by
        rw [palette?_eq_some_iff, payload?, was]
        exact congrArg some shape
      have unlisted : steps.count (.release other) = 0 :=
        List.count_eq_zero.mpr fun listed => by cases live.symm.trans (others _ listed)
      have spare := attached.spare other before colours was shape
      have returns := Balanced.referrers_swept swept other
      simp only [lower, demand, own, unlisted]
      omega

end Drain

/-! ### Attaching -/

section Attach

variable {palette : Handle} {surface : Surface} {colours : Palette} {count : Nat}
  (attached : table.Attached) (linked : Linked table) (live : table.surface? handle = some surface)
  (there : table.palette? palette = some colours) (different : surface.palette ≠ some palette)
  (counted : table.addReference palette = .ok (count, after))

include attached linked live there different counted

/-- Before the reference to the palette that was attached is given back, that palette has two to
spare. -/
theorem spare_setPalette {other : Handle} {object : Object} {content : Palette}
    (found : (after.setPayload handle (.surface { surface with palette := some palette })).find? other =
      some object) (shape : object.payload = .palette content) :
    (after.setPayload handle (.surface { surface with palette := some palette })).referrers other +
      (if surface.palette = some other then 1 else 0) < object.references := by
  have linkedAfter := linked.addReference counted
  have same := payload?_addReference counted
  have still : after.payload? handle = some (.surface surface) := by
    rw [same, surface?_eq_some_iff.mp live]
  have thereStill : after.palette? palette = some colours := by
    rw [palette?_eq_some_iff, same, palette?_eq_some_iff.mp there]
  have linkedNow := linkedAfter.setPalette (surface?_eq_some_iff.mpr still) thereStill
  have isLive : (after.setPayload handle
      (.surface { surface with palette := some palette })).palette? other = some content := by
    rw [palette?_eq_some_iff, payload?, found, Option.map_some, shape]
  have room := referrers_lt linkedNow isLive
  have moved := referrers_setPayload linkedAfter.wf still
    (.surface { surface with palette := some palette }) other
  have notSurface : other ≠ handle := by
    rintro rfl
    rw [palette?_setSurface (surface?_eq_some_iff.mpr still), palette?_eq_some_iff, still] at isLive
    cases isLive
  rw [find?_setPayload_of_ne notSurface] at found
  obtain ⟨before, was, is, references⟩ := exists_of_addReference counted found
  have spare := attached.spare other before content was (is.trans shape)
  rw [referrers_addReference counted, Surface.count_release, Surface.count_release] at moved
  simp only [Option.some.injEq] at moved
  split at references
  · next own =>
    rw [own] at moved room spare ⊢
    rw [if_neg different] at moved ⊢
    rw [if_pos rfl] at moved
    rw [references]
    exact Nat.lt_min.mpr ⟨by omega, room⟩
  · next own =>
    rw [if_neg (show ¬ palette = other from fun equal => own equal.symm)] at moved
    omega

/-- A palette is attached in place of another one, which stays alive. -/
theorem attach :
    (ObjectTable.drain (surface.palette.map Teardown.release).toList
      (after.setPayload handle (.surface { surface with palette := some palette }))).Attached ∧
    (ObjectTable.drain (surface.palette.map Teardown.release).toList
      (after.setPayload handle (.surface { surface with palette := some palette }))).payload? =
        Function.update table.payload? handle
          (some (.surface { surface with palette := some palette })) := by
  have same := payload?_addReference counted
  have still : after.surface? handle = some surface := by
    rw [surface?_eq_some_iff, same, surface?_eq_some_iff.mp live]
  have palettes : after.palette? = table.palette? := by
    funext other
    rw [palette?_eq_bind, same, palette?_eq_bind]
  have surfaces : after.surface? = table.surface? := by
    funext other
    rw [surface?_eq_bind, same, surface?_eq_bind]
  have spares := @spare_setPalette _ _ _ _ _ _ _ attached linked live there different counted
  have graph := payload?_setPayload (surface?_eq_some_iff.mp still)
    (.surface { surface with palette := some palette })
  have found := surface?_setSurface still { surface with palette := some palette }
  have stays := palette?_setSurface still { surface with palette := some palette }
  generalize after.setPayload handle (.surface { surface with palette := some palette }) = now
    at spares graph found stays ⊢
  rw [same] at graph
  rw [surfaces] at found
  rw [palettes] at stays
  have attachedNow : now.Attached := by
    refine ⟨fun owner holder held is has => ?_, fun other object content is shape => ?_⟩
    · rw [stays]
      rw [found, Function.update_apply] at is
      split at is
      · cases is
        cases has
        rw [there]
        rfl
      · exact attached.alive owner holder held is has
    · have spare := spares is shape
      omega
  cases has : surface.palette with
  | none =>
    rw [Option.map_none, Option.toList_none, ObjectTable.drain]
    exact ⟨attachedNow, graph⟩
  | some previous =>
    obtain ⟨former, alive⟩ := Option.isSome_iff_exists.mp (attached.alive handle surface previous live has)
    rw [← stays, palette?_eq_some_iff] at alive
    obtain ⟨object, is, shape⟩ := Option.map_eq_some_iff.mp alive
    have spare := spares is shape
    rw [if_pos has] at spare
    rw [Option.map_some, Option.toList_some, drain_release_of_several is (by omega)]
    refine ⟨attachedNow.update Object.handle_giveBack Object.payload_giveBack
      fun again content there _ => ?_, (payload?_update Object.handle_giveBack
        Object.payload_giveBack).trans graph⟩
    cases is.symm.trans there
    show now.referrers previous < object.references - 1
    omega

end Attach

end Attached

end GuestDraw.ObjectTable
