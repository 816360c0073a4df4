/-
**Coherence.**

A session is coherent if every cache can be trusted: it tells what the pixels in memory tell, or it
was drawn on and can be written back. For that to last, palettes have to stay alive while they are
attached, and what is written to memory for one surface must not reach the pixels of another one.

* `Coherent`: the invariant;
* `Coherent.tidying`: keeping the books is not seen;
* `Coherent.drawing`: drawing changes the picture of one surface as it says;
* `Coherent.attaching`, `Coherent.recolouring`: palettes change no raw value of a pixel.
-/

import GuestDraw.Proofs.Objects.Attached
import GuestDraw.Proofs.Session.Layout
import GuestDraw.Proofs.Session.Sharing

namespace GuestDraw

/-! ### The invariant -/

/-- Every cache can be trusted. -/
structure Coherent (session : Session) : Prop where
  linked : Linked session.objects
  attached : session.objects.Attached
  laid : Laid session
  apart : session.objects.Apart
  faithful : ∀ handle portrait, session.objects.portrait? handle = some portrait →
    portrait.Faithful session.memory

/-- A picture suits the pixels that it is of. -/
theorem Coherent.suits {session : Session} (coherent : Coherent session) {handle : Handle}
    {raster : Raster} (shows : session.contents handle = some (.ok raster)) :
    ∃ portrait, session.objects.portrait? handle = some portrait ∧
      raster.Suits portrait.buffer := by
  rw [Session.contents_eq] at shows
  obtain ⟨portrait, there, shown⟩ := Option.map_eq_some_iff.mp shows
  exact ⟨portrait, there, (coherent.faithful handle portrait there).suits shown⟩

/-! ### Keeping the books -/

namespace Tidying

variable {start final : Session}

theorem palette?_eq (linked : Linked start.objects) (step : Tidying start final) :
    final.objects.palette? = start.objects.palette? := by
  cases step with
  | settling step => exact step.palette?_eq linked
  | caching step =>
    obtain ⟨live, -, -, -, made⟩ := step
    exact (linked.views_createFor made live _ rfl rfl).2.1
  | lockSet live => exact ObjectTable.palette?_setSurface live _
  | contextMade live bare made => exact (linked.views_createFor made live _ rfl rfl).2.1
  | contextCounted count =>
    funext other
    rw [ObjectTable.palette?_eq_bind, ObjectTable.payload?_recount, ObjectTable.palette?_eq_bind]
  | shown => rfl

/-- Nothing is mapped or cut off, and the mode stays. -/
theorem places_eq (step : Tidying start final) : final.heap = start.heap ∧
    final.video = start.video ∧ final.mode = start.mode ∧ final.frameBuffer = start.frameBuffer := by
  cases step with
  | settling step => cases step <;> exact ⟨rfl, rfl, rfl, rfl⟩
  | caching step => cases step; exact ⟨rfl, rfl, rfl, rfl⟩
  | _ => exact ⟨rfl, rfl, rfl, rfl⟩

/-- Palettes keep a reference to spare. -/
theorem attached (linked : Linked start.objects) (attached : start.objects.Attached)
    (step : Tidying start final) : final.objects.Attached := by
  cases step with
  | settling step =>
    cases step with
    | written live has content =>
      exact attached.setPayload linked.wf (ObjectTable.cachedRaster?_eq_some_iff.mp content) rfl
        (fun _ => Nat.le_refl _) fun _ _ same => nomatch same
    | @dropped handle cache surface live has =>
      obtain ⟨object, member, -, other, gone⟩ :=
        linked.eq_remove_of_dropCache (ObjectTable.surface?_eq_some_iff.mp live) has rfl
      have bare : (start.objects.setPayload handle
          (.surface { surface with cache := none })).Attached :=
        attached.setSurface linked.wf live rfl rfl
      rw [gone]
      exact bare.remove (linked.wf.setPayload _ _) member other
  | caching step =>
    obtain ⟨live, -, -, -, made⟩ := step
    have more := attached.create linked made (fun _ _ _ step => nomatch step)
      (fun _ same => nomatch same) fun _ step => nomatch step
    exact more.setSurface (linked.wf.insert linked.numbered (fun _ named => by cases named) made)
      (linked.surface?_create made live).2 rfl rfl
  | lockSet live => exact attached.setSurface linked.wf live rfl rfl
  | contextMade live bare made =>
    have more := attached.create linked made (fun _ _ _ step => nomatch step)
      (fun _ same => nomatch same) fun _ step => nomatch step
    exact more.setSurface (linked.wf.insert linked.numbered (fun _ named => by cases named) made)
      (linked.surface?_create made live).2 rfl rfl
  | contextCounted count live =>
    refine attached.update (fun _ => rfl) (fun _ => rfl) fun object colours found shape => ?_
    rw [ObjectTable.payload?, found, Option.map_some, shape] at live
    cases live
  | shown => exact attached

end Tidying

namespace Coherent

variable {start final : Session}

/-- Keeping the books is not seen. -/
theorem tidying (coherent : Coherent start) (step : Tidying start final) :
    Coherent final ∧ Unseen start final := by
  obtain ⟨linked, attached, laid, apart, faithful⟩ := coherent
  obtain ⟨unseen, faithfulNow⟩ := step.unseen linked apart faithful
  obtain ⟨heap, video, mode, frame⟩ := step.places_eq
  have stays := ObjectTable.Stays.of_buffer? unseen.buffers
  refine ⟨⟨linked.tidying step, step.attached linked attached, ?_, apart.of_stays stays,
    faithfulNow⟩, unseen⟩
  refine laid.congr heap video mode frame (fun handle palette live => ?_) stays
  rw [step.palette?_eq linked] at live
  exact ⟨palette, live, rfl, rfl⟩

/-! ### Stores -/

/-- Memory changes, but no pixel of a surface with a cache. -/
theorem remember (coherent : Coherent start) {memory : Memory}
    (spared : ∀ handle portrait, start.objects.portrait? handle = some portrait →
      portrait.cached = none ∨ start.memory.SameOn memory portrait.buffer) :
    Coherent { start with memory := memory } := by
  obtain ⟨linked, attached, laid, apart, faithful⟩ := coherent
  refine ⟨linked, attached, ?_, apart, fun handle portrait there => ?_⟩
  · exact laid.congr rfl rfl rfl rfl (fun handle palette live => ⟨palette, live, rfl, rfl⟩)
      fun handle portrait there => ⟨portrait, there, rfl⟩
  · rcases spared handle portrait there with bare | same
    · intro cached has
      rw [bare] at has
      cases has
    · exact (faithful handle portrait there).congr same

end Coherent

/-- A store to bytes that a buffer does not have. -/
theorem Memory.sameOn_put {memory : Memory} {place : Nat} {data : List UInt8} {buffer : PixelBuffer}
    (backed : memory.holds place data.length = true)
    (outside : ∀ point, place ≤ point → point < place + data.length → ¬ buffer.Covers point) :
    memory.SameOn (memory.put place data) buffer := by
  refine ⟨rfl, size_put _ _ _, fun point inside => ?_⟩
  rw [byte?_put backed, if_neg]
  rintro ⟨above, below⟩
  exact outside point above below inside

/-- A change of memory that changes no pixel of a live surface. -/
theorem Unseen.of_sameOn {start final : Session} (objects : final.objects = start.objects)
    (same : ∀ handle portrait, start.objects.portrait? handle = some portrait →
      start.memory.SameOn final.memory portrait.buffer) : Unseen start final := by
  refine ⟨?_, ?_, ?_⟩ <;> funext handle
  · rw [Session.contents_eq, Session.contents_eq, objects]
    cases there : start.objects.portrait? handle with
    | none => rw [Option.map_none, Option.map_none]
    | some portrait =>
      rw [Option.map_some, Option.map_some, Portrait.shown_eq (same handle portrait there)]
  · rw [Session.cells, Session.cells, objects]
    cases there : start.objects.portrait? handle with
    | none => rw [Option.map_none, Option.map_none]
    | some portrait =>
      rw [Option.map_some, Option.map_some, Portrait.cells_eq (same handle portrait there)]
  · rw [Session.buffer?, Session.buffer?, objects]

/-! ### Drawing -/

namespace Drawing

variable {handle : Handle} {draw : Raster → Raster} {start final : Session}

/-- Drawing changes one portrait: the picture is drawn on. -/
theorem retouched (linked : Linked start.objects)
    (keeps : ∀ (buffer : PixelBuffer) (raster : Raster), raster.Suits buffer → (draw raster).Suits buffer)
    (step : Drawing handle draw start final) :
    ∃ old new raster, Retouched start final handle old new ∧
      old.shown start.memory = .ok raster ∧ new.shown final.memory = .ok (draw raster) ∧
        (old.Faithful start.memory → new.Faithful final.memory) := by
  cases step with
  | @onCache cache surface cached live has content =>
    have old : (surface.portrait start.objects).cached = some cached := by
      rw [Surface.portrait, has]
      exact content
    refine ⟨_, _, cached.raster, ⟨ObjectTable.portrait?_of_surface? live,
      linked.portrait?_setCached live has content _, rfl, rfl, rfl, fun _ _ => rfl⟩,
      ?_, rfl, fun faithful => ?_⟩
    · rw [Portrait.shown, old]
    · rintro again found
      cases found
      refine ⟨keeps _ _ (faithful cached old).1, ?_⟩
      intro clean
      cases clean
  | @onMemory surface raster data live bare decoded encoded backed =>
    have uncached : (surface.portrait start.objects).cached = none := by
      rw [Surface.portrait, bare]
      rfl
    refine ⟨_, surface.portrait start.objects, raster, ⟨ObjectTable.portrait?_of_surface? live, ?_,
      rfl, rfl, Memory.size_put _ _ _, fun point outside => ?_⟩, ?_, ?_, fun _ cached has => ?_⟩
    · rw [eq_comm, Function.update_eq_self_iff, ObjectTable.portrait?_of_surface? live]
    · exact Conversion.byte?_of_encoded encoded backed outside
    · rw [Portrait.shown, uncached]
      exact decoded
    · rw [Portrait.shown, uncached]
      exact Conversion.decode_of_encoded (keeps _ _ (Conversion.suits_of_decode decoded)) encoded _
    · rw [uncached] at has
      cases has

/-- No palette and no place changes. -/
theorem laid (laid : Laid start) (stays : start.objects.Stays final.objects)
    (step : Drawing handle draw start final) : Laid final := by
  cases step with
  | onCache live has content =>
    refine laid.congr rfl rfl rfl rfl (fun other palette there => ?_) stays
    rw [ObjectTable.palette?_setCached content] at there
    exact ⟨palette, there, rfl, rfl⟩
  | onMemory => exact laid.congr rfl rfl rfl rfl (fun _ palette live => ⟨palette, live, rfl, rfl⟩) stays

theorem attached (linked : Linked start.objects) (attached : start.objects.Attached)
    (step : Drawing handle draw start final) : final.objects.Attached := by
  cases step with
  | onCache live has content =>
    exact attached.setPayload linked.wf (ObjectTable.cachedRaster?_eq_some_iff.mp content) rfl
      (fun _ => Nat.le_refl _) fun _ _ same => nomatch same
  | onMemory => exact attached

end Drawing

namespace Coherent

variable {start final : Session}

/-- Drawing changes the picture of one surface as it says. -/
theorem drawing (coherent : Coherent start) {handle : Handle} {draw : Raster → Raster}
    (keeps : ∀ (buffer : PixelBuffer) (raster : Raster), raster.Suits buffer → (draw raster).Suits buffer)
    (step : Drawing handle draw start final) :
    Coherent final ∧ ∃ raster, start.contents handle = some (.ok raster) ∧
      final.contents = Function.update start.contents handle (some (.ok (draw raster))) := by
  obtain ⟨linked, attached, laid, apart, faithful⟩ := coherent
  obtain ⟨old, new, raster, retouched, before, after, keepsFaith⟩ := step.retouched linked keeps
  have stays := ObjectTable.Stays.of_buffer? retouched.buffer?_eq
  refine ⟨⟨linked.drawing step, step.attached linked attached, step.laid laid stays,
    apart.of_stays stays, retouched.faithful apart faithful
      (keepsFaith (faithful handle old retouched.before))⟩, raster, ?_, ?_⟩
  · rw [Session.contents_eq, retouched.before, Option.map_some, before]
  · rw [retouched.contents_eq apart, after]

end Coherent

/-! ### Colours -/

/-- Every surface has the pixels that it had, and shows them in the colours of some palette. -/
structure Recoloured (start final : Session) : Prop where
  buffers : final.buffer? = start.buffer?
  cells : final.cells = start.cells
  pictures : ∀ handle raster, start.contents handle = some (.ok raster) →
    ∃ palette, final.contents handle = some (.ok { raster with palette := palette })

/-- From `start` to `final` surfaces without a cache came to have other colours. -/
structure Tinted (start final : Session) : Prop where
  memory : final.memory = start.memory
  portraits : ∀ handle, final.objects.portrait? handle = start.objects.portrait? handle ∨
    ∃ old colours, start.objects.portrait? handle = some old ∧ old.cached = none ∧
      colours.size ≤ maxPalette ∧
        final.objects.portrait? handle = some { old with colours := some colours }

namespace Recoloured

variable {start middle final : Session}

theorem of_unseen (unseen : Unseen start final) : Recoloured start final where
  buffers := unseen.buffers
  cells := unseen.cells
  pictures handle raster shows := ⟨raster.palette, by rw [unseen.contents, shows]⟩

theorem trans_unseen (recoloured : Recoloured start middle) (unseen : Unseen middle final) :
    Recoloured start final where
  buffers := unseen.buffers.trans recoloured.buffers
  cells := unseen.cells.trans recoloured.cells
  pictures := unseen.contents ▸ recoloured.pictures

theorem after_unseen (unseen : Unseen start middle) (recoloured : Recoloured middle final) :
    Recoloured start final where
  buffers := recoloured.buffers.trans unseen.buffers
  cells := recoloured.cells.trans unseen.cells
  pictures := unseen.contents ▸ recoloured.pictures

end Recoloured

namespace Tinted

variable {start final : Session} (tinted : Tinted start final)

include tinted

theorem faithful
    (before : ∀ handle portrait, start.objects.portrait? handle = some portrait →
      portrait.Faithful start.memory) :
    ∀ handle portrait, final.objects.portrait? handle = some portrait →
      portrait.Faithful final.memory := by
  intro handle portrait there
  rw [tinted.memory]
  rcases tinted.portraits handle with same | ⟨old, colours, was, bare, -, now⟩
  · exact before handle portrait (same ▸ there)
  · cases now.symm.trans there
    intro cached has
    cases bare.symm.trans has

theorem recoloured : Recoloured start final := by
  refine ⟨funext fun handle => ?_, funext fun handle => ?_, fun handle raster shows => ?_⟩
  · rw [Session.buffer?, Session.buffer?]
    rcases tinted.portraits handle with same | ⟨old, colours, was, -, -, now⟩
    · rw [same]
    · rw [was, now, Option.map_some, Option.map_some]
  · rw [Session.cells, Session.cells, tinted.memory]
    rcases tinted.portraits handle with same | ⟨old, colours, was, bare, -, now⟩
    · rw [same]
    · rw [was, now, Option.map_some, Option.map_some, Portrait.cells, Portrait.cells, bare]
  · rw [Session.contents_eq] at shows
    rw [Session.contents_eq, tinted.memory]
    rcases tinted.portraits handle with same | ⟨old, colours, was, bare, fits, now⟩
    · exact ⟨raster.palette, by rw [same, shows]⟩
    · rw [was, Option.map_some, Portrait.shown, bare] at shows
      obtain ⟨palette, decoded⟩ := Conversion.decode_recoloured (Option.some.inj shows) fits
      refine ⟨palette, ?_⟩
      rw [now, Option.map_some, Portrait.shown, bare, decoded]

theorem stays : start.objects.Stays final.objects := .of_buffer? tinted.recoloured.buffers

end Tinted

theorem Recolouring.tinted {start final : Session} (laid : Laid start)
    (step : Recolouring start final) : Tinted start final := by
  obtain @⟨handle, palette, entries, there, sized, bare⟩ := step
  have surfaces := ObjectTable.surface?_setPalette there { palette with entries := entries }
  have palettes := ObjectTable.palette?_setPalette there { palette with entries := entries }
  have caches := ObjectTable.cachedRaster?_setPalette there { palette with entries := entries }
  refine ⟨rfl, fun other => ?_⟩
  simp only [ObjectTable.portrait?, surfaces]
  cases live : start.objects.surface? other with
  | none => exact .inl rfl
  | some surface =>
    simp only [Option.map_some, Surface.portrait, palettes, caches]
    by_cases uses : surface.palette = some handle
    · refine .inr ⟨_, entries, rfl, ?_, sized ▸ (laid.blocks handle palette there).2.2, ?_⟩
      · rw [bare other surface live uses]
        rfl
      · rw [uses, Option.bind_some, Function.update_self]
        rfl
    · left
      congr 3
      cases has : surface.palette with
      | none => rfl
      | some attached =>
        rw [Option.bind_some, Option.bind_some, Function.update_of_ne]
        rintro rfl
        exact uses has

theorem Attaching.tinted {start final : Session} (linked : Linked start.objects)
    (attached : start.objects.Attached) (laid : Laid start) (step : Attaching start final) :
    Tinted start final := by
  obtain @⟨handle, palette, surface, colours, count, counted, live, bare, there, different, made⟩ := step
  have graph := (attached.attach linked live there different made).2
  rw [← ObjectTable.payload?_setPayload (ObjectTable.surface?_eq_some_iff.mp live)] at graph
  have portraits := ObjectTable.portrait?_of_payload?_eq graph
  have palettes := ObjectTable.palette?_setSurface live { surface with palette := some palette }
  have caches := ObjectTable.cachedRaster?_setSurface live { surface with palette := some palette }
  rw [ObjectTable.portrait?_of_update (ObjectTable.surface?_setSurface live _) palettes
    fun _ _ cache _ _ _ => congrFun caches cache] at portraits
  refine ⟨rfl, fun other => ?_⟩
  rw [show (_ : Session).objects.portrait? = _ from portraits]
  by_cases own : other = handle
  · subst own
    refine .inr ⟨_, colours.entries, ObjectTable.portrait?_of_surface? live, ?_,
      (laid.blocks palette colours there).2.2, ?_⟩
    · rw [Surface.portrait, bare]
      rfl
    · rw [Function.update_self, Surface.portrait, Surface.portrait, palettes, caches,
        Option.bind_some, there]
      rfl
  · exact .inl (Function.update_of_ne own _ _)

namespace Coherent

variable {start final : Session}

/-- Other colours for a palette change no pixel. -/
theorem recolouring (coherent : Coherent start) (step : Recolouring start final) :
    Coherent final ∧ Recoloured start final := by
  obtain ⟨linked, attached, laid, apart, faithful⟩ := coherent
  have tinted := step.tinted laid
  refine ⟨⟨linked.recolouring step, ?_, ?_, apart.of_stays tinted.stays,
    tinted.faithful faithful⟩, tinted.recoloured⟩
  all_goals obtain @⟨handle, palette, entries, there, sized, bare⟩ := step
  · exact attached.setPayload linked.wf (ObjectTable.palette?_eq_some_iff.mp there) rfl
      (fun _ => Nat.le_refl _) fun _ _ same => nomatch same
  · refine laid.congr rfl rfl rfl rfl (fun other new live => ?_) tinted.stays
    rw [ObjectTable.palette?_setPalette there, Function.update_apply] at live
    split at live
    · next own =>
      cases live
      exact ⟨palette, own ▸ there, rfl, sized⟩
    · exact ⟨new, live, rfl, rfl⟩

/-- Another palette for a surface changes no pixel. -/
theorem attaching (coherent : Coherent start) (step : Attaching start final) :
    Coherent final ∧ Recoloured start final := by
  obtain ⟨linked, attached, laid, apart, faithful⟩ := coherent
  have tinted := step.tinted linked attached laid
  refine ⟨⟨linked.attaching step, ?_, ?_, apart.of_stays tinted.stays,
    tinted.faithful faithful⟩, tinted.recoloured⟩
  all_goals
    obtain @⟨handle, palette, surface, colours, count, counted, live, bare, there, different,
      made⟩ := step
  all_goals obtain ⟨now, graph⟩ := attached.attach linked live there different made
  · exact now
  · rw [← ObjectTable.payload?_setPayload (ObjectTable.surface?_eq_some_iff.mp live)] at graph
    refine laid.congr rfl rfl rfl rfl (fun other new found => ?_) tinted.stays
    rw [ObjectTable.palette?_eq_bind, show (_ : ObjectTable).payload? = _ from graph,
      ← ObjectTable.palette?_eq_bind, ObjectTable.palette?_setSurface live] at found
    exact ⟨new, found, rfl, rfl⟩

end Coherent

end GuestDraw
