/-
**References that the guest takes and gives back, and changes of the mode.**

These calls do one thing each. A reference is taken to the object behind an interface pointer, to a
back buffer or to a palette, and given back; the mode changes while no surface has its pixels in the
frame buffer, which is given back first.

* `Taking`, `Unmapped`: what such a call does;
* `ends_getAttachedSurface`, `ends_surfaceRelease`, `ends_setDisplayMode` and so on: the calls.
-/

import GuestDraw.Proofs.Objects.Balance
import GuestDraw.Proofs.Session.Calls

namespace GuestDraw

/-- One more reference to an object that the guest has a pointer to. -/
inductive Taking (start : Session) (pointer : Nat) : Session → Prop
  | taken {handle : Handle} {count : Nat} {objects : ObjectTable}
    (block : start.objects.block? handle = some pointer)
    (counted : start.objects.addReference handle = .ok (count, objects)) :
    Taking start pointer { start with objects := objects }

section Taking

variable {start : Session}

theorem ends_surfaceAddReference (this : Nat) :
    Ends (Engine.surfaceAddReference this) start (fun _ final => Taking start this final)
      fun final => final = start := by
  refine Ends.bind (ends_resolveSurface (by rfl) _ this) ?_
  rintro handle _ ⟨rfl, resolved⟩
  obtain ⟨surface, live, rfl⟩ := Session.surface?_of_surfaceFor? _ resolved
  refine Ends.weaken (ends_onObjects (by rfl)) ?_
  rintro count _ ⟨objects, counted, rfl⟩
  exact .taken (ObjectTable.block?_of_surface? live) counted

theorem ends_paletteAddReference (this : Nat) :
    Ends (Engine.paletteAddReference this) start (fun _ final => Taking start this final)
      fun final => final = start := by
  refine Ends.bind (ends_resolvePalette (by rfl) _ this) ?_
  rintro handle _ ⟨rfl, resolved⟩
  obtain ⟨palette, live, rfl⟩ := Session.palette?_of_paletteFor? _ resolved
  refine Ends.weaken (ends_onObjects (by rfl)) ?_
  rintro count _ ⟨objects, counted, rfl⟩
  exact .taken (ObjectTable.block?_of_palette? live) counted

/-- Handing out a reference that was taken needs room for the pointer and nothing else. -/
theorem ends_answer {middle : Session} {out pointer : Nat} (taking : Taking start pointer middle) :
    Ends (do
      Engine.writeDword out (UInt32.ofNat pointer)
      return pointer) middle
      (fun value final => start.memory.holds out 4 = true ∧ ∃ middle, Taking start value middle ∧
        final = middle.answered out value)
      (fun final => final = start ∨ start.memory.holds out 4 = false ∧
        ∃ pointer, Taking start pointer final) := by
  have same : middle.memory = start.memory := by cases taking; rfl
  cases backed : start.memory.holds out 4 with
  | true =>
    refine (ends_write_backed (by rw [LittleEndian.length_ofDword, same, backed])).bind ?_
    rintro _ _ rfl
    exact ⟨rfl, middle, taking, rfl⟩
  | false =>
    refine (ends_write (.inr ⟨rfl, pointer, taking⟩) _ _).bind ?_
    rintro _ _ ⟨inside, -⟩
    rw [LittleEndian.length_ofDword, same, backed] at inside
    cases inside

theorem ends_getAttachedSurface (linked : Linked start.objects) (this caps out : Nat) :
    Ends (Engine.getAttachedSurface this caps out) start
      (fun pointer final => start.memory.holds out 4 = true ∧
        ∃ middle, Taking start pointer middle ∧ final = middle.answered out pointer)
      (fun final => final = start ∨ start.memory.holds out 4 = false ∧
        ∃ pointer, Taking start pointer final) := by
  unfold Engine.getAttachedSurface
  refine (ends_resolveSurface (.inl rfl) _ this).bind ?_
  rintro handle _ ⟨rfl, resolved⟩
  refine (ends_surfaceAt (.inl rfl) handle).bind ?_
  rintro surface _ ⟨rfl, live⟩
  refine .guarded (.inl rfl) fun notNull => ?_
  refine (ends_readDword (.inl rfl) caps).bind ?_
  rintro word start ⟨rfl, -⟩
  refine .guarded (.inl rfl) fun wanted => ?_
  cases has : surface.backBuffer with
  | none => exact .inl rfl
  | some child =>
    refine Ends.bind (ends_onObjects (.inl rfl)) ?_
    rintro count _ ⟨objects, counted, rfl⟩
    obtain ⟨object, found, -, -⟩ := ObjectTable.addReference_eq_ok_iff.mp counted
    have there : start.objects.payload? child = some object.payload := by
      rw [ObjectTable.payload?, found]
      rfl
    obtain ⟨back, shape, -⟩ := ((linked.surface live).backBuffer child has).2 _ there
    have alive : start.objects.surface? child = some back :=
      ObjectTable.surface?_eq_some_iff.mpr (shape ▸ there)
    have still : objects.surface? child = some back := by
      rw [ObjectTable.surface?_eq_some_iff, ObjectTable.payload?_addReference counted,
        ← ObjectTable.surface?_eq_some_iff, alive]
    refine Ends.bind (ends_surfaceAt_live still) ?_
    rintro _ _ ⟨rfl, rfl⟩
    exact ends_answer (.taken (ObjectTable.block?_of_surface? alive) counted)

theorem ends_getPalette (this out : Nat) :
    Ends (Engine.getPalette this out) start
      (fun pointer final => start.memory.holds out 4 = true ∧
        ∃ middle, Taking start pointer middle ∧ final = middle.answered out pointer)
      (fun final => final = start ∨ start.memory.holds out 4 = false ∧
        ∃ pointer, Taking start pointer final) := by
  unfold Engine.getPalette
  refine (ends_resolveSurface (.inl rfl) _ this).bind ?_
  rintro handle _ ⟨rfl, resolved⟩
  refine (ends_surfaceAt (.inl rfl) handle).bind ?_
  rintro surface start ⟨rfl, live⟩
  refine .guarded (.inl rfl) fun notNull => ?_
  cases has : surface.palette with
  | none => exact .inl rfl
  | some attached =>
    refine Ends.bind (ends_paletteAt (.inl rfl) attached) ?_
    rintro palette start ⟨rfl, there⟩
    refine Ends.bind (ends_onObjects (.inl rfl)) ?_
    rintro count _ ⟨objects, counted, rfl⟩
    exact ends_answer (.taken (ObjectTable.block?_of_palette? there) counted)

/-! ### Giving back -/

theorem ends_surfaceRelease (this : Nat) :
    Ends (Engine.surfaceRelease this) start
      (fun _ final => ∃ handle surface, start.objects.surface? handle = some surface ∧
        surface.object = this ∧
        final = { start with objects := .drain [.release handle] start.objects })
      fun final => final = start := by
  refine Ends.bind (ends_resolveSurface (by rfl) _ this) ?_
  rintro handle _ ⟨rfl, resolved⟩
  obtain ⟨surface, live, own⟩ := Session.surface?_of_surfaceFor? _ resolved
  refine Ends.weaken (ends_onObjects (by rfl)) ?_
  rintro count _ ⟨objects, released, rfl⟩
  obtain ⟨_, -, -, rfl⟩ := ObjectTable.release_eq_ok_iff.mp released
  exact ⟨handle, surface, live, own, rfl⟩

theorem ends_paletteRelease (this : Nat) :
    Ends (Engine.paletteRelease this) start
      (fun _ final => ∃ handle palette, start.objects.palette? handle = some palette ∧
        palette.object = this ∧
        final = { start with objects := .drain [.release handle] start.objects })
      fun final => final = start := by
  refine Ends.bind (ends_resolvePalette (by rfl) _ this) ?_
  rintro handle _ ⟨rfl, resolved⟩
  obtain ⟨palette, live, own⟩ := Session.palette?_of_paletteFor? _ resolved
  refine Ends.weaken (ends_onObjects (by rfl)) ?_
  rintro count _ ⟨objects, released, rfl⟩
  obtain ⟨_, -, -, rfl⟩ := ObjectTable.release_eq_ok_iff.mp released
  exact ⟨handle, palette, live, own, rfl⟩

end Taking

/-! ### The mode -/

/-- The frame buffer, in which no surface had its pixels, is gone. The mode may be another one,
which has scanlines. -/
inductive Unmapped (start : Session) : Session → Prop
  | unmapped {video : Aperture} {mode : DisplayMode} (unused : start.frameBufferInUse = false)
    (base : video.base = start.video.base) (limit : video.limit = start.video.limit)
    (next : video.next = start.video.next ∨ start.frameBuffer = some video.next)
    (mappings : ∀ mapping, mapping ∈ video.mappings ↔
      mapping ∈ start.video.mappings ∧ start.frameBuffer ≠ some mapping.1)
    (sized : mode = start.mode ∨ mode.height ≠ 0) :
    Unmapped start { start with video := video, mode := mode, frameBuffer := none }

theorem Aperture.unmap_eq_ok {aperture after : Aperture} {address : Nat}
    (unmapped : aperture.unmap address = .ok after) :
    after.base = aperture.base ∧ after.limit = aperture.limit ∧
      (after.next = aperture.next ∨ after.next = address) ∧
      after.mappings = aperture.mappings.filter (·.1 ≠ address) := by
  unfold Aperture.unmap at unmapped
  split at unmapped
  · cases unmapped
    refine ⟨rfl, rfl, ?_, rfl⟩
    dsimp only
    split
    · exact .inr rfl
    · exact .inl rfl
  · cases unmapped

/-- Only what is not mapped cannot be given back. -/
theorem Aperture.unmap_eq_error {aperture : Aperture} {address : Nat} {cause : MemoryError}
    (refused : aperture.unmap address = .error cause) :
    ∀ mapping ∈ aperture.mappings, mapping.1 ≠ address := by
  unfold Aperture.unmap at refused
  split at refused
  · cases refused
  · next absent =>
    intro mapping inside same
    have different := List.lookup_eq_none_iff.mp absent mapping inside
    simp [same] at different

theorem ends_setDisplayMode (start : Session) (width height depth : Nat) :
    Ends (Engine.setDisplayMode width height depth) start (fun _ => Unmapped start)
      (fun final => final = start ∨ Unmapped start final) := by
  unfold Engine.setDisplayMode
  refine .guarded (.inl rfl) fun known => .guarded (.inl rfl) fun positive => .read ?_
  refine .guarded (.inl rfl) fun used => ?_
  have unused : start.frameBufferInUse = false := by simpa using used
  have emptied : Ends Engine.unmapFrameBuffer start
      (fun _ final => ∃ video : Aperture,
        final = { start with video := video, frameBuffer := none } ∧
          video.base = start.video.base ∧ video.limit = start.video.limit ∧
          (video.next = start.video.next ∨ start.frameBuffer = some video.next) ∧
          ∀ mapping, mapping ∈ video.mappings ↔
            mapping ∈ start.video.mappings ∧ start.frameBuffer ≠ some mapping.1)
      (fun final => final = start ∨ Unmapped start final) := by
    unfold Engine.unmapFrameBuffer
    refine .read ?_
    cases mapped : start.frameBuffer with
    | none =>
      exact ⟨start.video, by rw [← mapped], rfl, rfl, .inl rfl,
        fun mapping => (and_iff_left nofun).symm⟩
    | some address =>
      refine .change (.read ?_)
      cases unmapping : start.video.unmap address with
      | error cause =>
        have absent := Aperture.unmap_eq_error unmapping
        have lost : Unmapped start { start with frameBuffer := none } := by
          refine .unmapped unused rfl rfl (.inl rfl) (fun mapping =>
            (and_iff_left_of_imp fun inside same => ?_).symm) (.inl rfl)
          exact absent mapping inside (Option.some.inj (mapped.symm.trans same)).symm
        exact Or.inr lost
      | ok video =>
        obtain ⟨base, limit, next, mappings⟩ := Aperture.unmap_eq_ok unmapping
        refine ⟨video, rfl, base, limit, next.imp_right fun same => congrArg some same.symm,
          fun mapping => ?_⟩
        rw [mappings, List.mem_filter, decide_eq_true_iff, ne_eq, ne_eq, Option.some.injEq,
          eq_comm]
  refine Ends.bind emptied ?_
  rintro _ _ ⟨video, rfl, base, limit, next, mappings⟩
  exact Unmapped.unmapped unused base limit next mappings (.inr (not_or.mp positive).2)

end GuestDraw
