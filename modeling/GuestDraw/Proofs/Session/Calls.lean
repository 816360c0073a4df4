/-
**The calls on surfaces and palettes.**

Each call is a run of steps that keep the books, with at most one step among them that the guest
asked for. Here every call is taken apart into these steps once. What a call answers is stored in
the guest's buffer, so a property that is to outlive the call has to outlive stores to that buffer
(`Spares`).

* `ends_lock`, `ends_unlock`, `ends_getDC`, `ends_releaseDC`, `ends_flip`: nothing but books and
  answers;
* `ends_bltFast`: one step of drawing;
* `ends_setPalette` and `ends_paletteSetEntries`: one palette attached or recoloured.
-/

import GuestDraw.Proofs.Pixel.Codec
import GuestDraw.Proofs.Session.Housekeeping

namespace GuestDraw

/-! ### Extents -/

/-- A piece of guest memory. -/
structure Extent where
  address : Nat
  length : Nat

namespace Extent

def stop (extent : Extent) : Nat := extent.address + extent.length

def Covers (extent : Extent) (point : Nat) : Prop :=
  extent.address ≤ point ∧ point < extent.stop

/-- One of the two ends before the other one begins. -/
def Apart (first second : Extent) : Prop :=
  first.stop ≤ second.address ∨ second.stop ≤ first.address

theorem Apart.symm {first second : Extent} (apart : first.Apart second) : second.Apart first :=
  Or.symm apart

end Extent

/-! ### Buffers -/

/-- What `holds` says outlives stores to the `length` bytes from `address` on. -/
def Spares (holds : Session → Prop) (address length : Nat) : Prop :=
  ∀ start place data, holds start → start.memory.holds place data.length = true →
    address ≤ place → place + data.length ≤ address + length →
      holds { start with memory := start.memory.put place data }

theorem Session.palette?_of_paletteFor? (session : Session) {this : Nat} {handle : Handle}
    (resolved : session.paletteFor? this = some handle) :
    ∃ palette, session.objects.palette? handle = some palette ∧ palette.object = this := by
  unfold Session.paletteFor? at resolved
  dsimp only at resolved
  split at resolved
  · next palette found =>
    split at resolved
    · next own =>
      cases resolved
      exact ⟨palette, found, own⟩
    · cases resolved
  · cases resolved

theorem Session.surface?_of_surfaceFor? (session : Session) {this : Nat} {handle : Handle}
    (resolved : session.surfaceFor? this = some handle) :
    ∃ surface, session.objects.surface? handle = some surface ∧ surface.object = this := by
  unfold Session.surfaceFor? at resolved
  dsimp only at resolved
  split at resolved
  · next surface found =>
    split at resolved
    · next own =>
      cases resolved
      exact ⟨surface, found, own⟩
    · cases resolved
  · cases resolved

/-- Only a reference to what is gone cannot be given back, and then nothing changes. -/
theorem ends_release_refusing (start : Session) (handle : Handle) :
    Ends (Engine.release handle) start
      (fun _ final => (start.objects.find? handle).isSome ∧
        final = { start with objects := .drain [.release handle] start.objects })
      (fun final => start.objects.find? handle = none ∧ final = start) := by
  cases found : start.objects.find? handle with
  | none =>
    have refused : start.objects.release handle = .error (.invalidHandle handle) := by
      simp only [ObjectTable.release, found]
    exact (ends_onObjects_of_error refused).imp (fun _ _ ended => ended) fun _ same => ⟨rfl, same⟩
  | some object =>
    have released : start.objects.release handle =
        .ok (object.references - 1, .drain [.release handle] start.objects) := by
      simp only [ObjectTable.release, found]
    exact (ends_onObjects_of_ok released).weaken fun _ _ ends => ⟨rfl, ends.2⟩

/-- Giving back a reference ends with the teardown done, also if there was nothing to give back. -/
theorem ends_release {start : Session} (handle : Handle) :
    Ends (Engine.release handle) start
      (fun _ final => final = { start with objects := .drain [.release handle] start.objects })
      fun final => final = { start with objects := .drain [.release handle] start.objects } := by
  refine (ends_release_refusing start handle).imp (fun _ _ ended => ended.2) ?_
  rintro _ ⟨dead, rfl⟩
  rw [ObjectTable.drain_release_of_dead dead]

theorem Palette.length_blockBytes (palette : Palette) :
    palette.blockBytes.length = 4 * palette.entries.size := by
  rw [Palette.blockBytes, List.length_flatMap, ← Array.length_toList]
  induction palette.entries.toList with
  | nil => rfl
  | cons entry rest ih =>
    rw [List.map_cons, List.sum_cons, ih, LittleEndian.length_ofDword, List.length_cons]
    omega

theorem Surface.fieldsFit (surface : Surface) :
    Descriptor.pixelsOffset + 4 ≤ surface.descriptorSize := by
  unfold Surface.descriptorSize GuestDraw.descriptorSize
  split <;> decide

/-- A field of a record that is there is no longer there if its address wraps around, so that
storing it fails. -/
theorem Surface.inSpace_of_field {surface : Surface} {memory : Memory} {out length : Nat}
    {data : List UInt8} (backed : memory.holds out length = true)
    (fits : surface.descriptorSize ≤ length)
    (held : (memory.put out data).holds (wrapped (out + Descriptor.pixelsOffset)) 4 = true) :
    out + Descriptor.pixelsOffset < addressSpace := by
  have inside := surface.fieldsFit
  exact Memory.lt_of_holds_wrapped backed (by omega) ((Memory.holds_put ..).symm.trans held)

/-- A palette is attached to a surface without a cache, and the one attached before is given
back. -/
inductive Attaching (start : Session) : Session → Prop
  | attached {handle palette : Handle} {surface : Surface} {colours : Palette} {count : Nat}
    {counted : ObjectTable} (live : start.objects.surface? handle = some surface)
    (bare : surface.cache = none) (there : start.objects.palette? palette = some colours)
    (different : surface.palette ≠ some palette)
    (made : start.objects.addReference palette = .ok (count, counted)) :
    Attaching start { start with
      objects := .drain (surface.palette.map Teardown.release).toList
        (counted.setPayload handle (.surface { surface with palette := some palette })) }

/-- A palette that no cache was decoded with gets other colours. -/
inductive Recolouring (start : Session) : Session → Prop
  | recoloured {handle : Handle} {palette : Palette} {entries : Array UInt32}
    (there : start.objects.palette? handle = some palette)
    (sized : entries.size = palette.entries.size)
    (bare : ∀ other surface, start.objects.surface? other = some surface →
      surface.palette = some handle → surface.cache = none) :
    Recolouring start { start with
      objects := start.objects.setPayload handle (.palette { palette with entries := entries }) }

/-- What is known of the colours that a palette gets: there are as many as before, the new ones are
words `0x00RRGGBB`, and no cache was decoded with the old ones. -/
structure Repaints (session : Session) (handle : Handle) (palette : Palette)
    (entries : Array UInt32) : Prop where
  there : session.objects.palette? handle = some palette
  sized : entries.size = palette.entries.size
  toned : ∀ (index : Nat) (colour : UInt32), entries[index]? = some colour →
    palette.entries[index]? = some colour ∨ colour.toNat < 0x1000000
  bare : ∀ other surface, session.objects.surface? other = some surface →
    surface.palette = some handle → surface.cache = none

/-- A palette has other colours. -/
def Session.recoloured (session : Session) (handle : Handle) (palette : Palette)
    (entries : Array UInt32) : Session :=
  { session with
    objects := session.objects.setPayload handle (.palette { palette with entries := entries }) }

/-- A palette has other colours, and its block repeats them. -/
def Session.repainted (session : Session) (handle : Handle) (palette : Palette)
    (entries : Array UInt32) : Session :=
  { session.recoloured handle palette entries with
    memory := session.memory.put (palette.object + Block.dataOffset)
      (Palette.blockBytes { palette with entries := entries }) }

theorem Repaints.recolouring {session : Session} {handle : Handle} {palette : Palette}
    {entries : Array UInt32} (repaints : Repaints session handle palette entries) :
    Recolouring session (session.recoloured handle palette entries) :=
  .recoloured repaints.there repaints.sized repaints.bare

/-- Colours that are laid over others are new, or they were there. -/
theorem getElem?_overwrite_or {entries : Array UInt32} {offset index : Nat} {colours : List UInt32}
    {colour : UInt32} (found : (overwrite entries offset colours)[index]? = some colour) :
    entries[index]? = some colour ∨ colour ∈ colours := by
  induction colours generalizing entries offset with
  | nil => exact .inl found
  | cons first rest ih =>
    rcases ih found with was | later
    · rw [Array.getElem?_setIfInBounds] at was
      split at was
      · split at was
        · cases was
          exact .inr (.head _)
        · cases was
      · exact .inl was
    · exact .inr (.tail _ later)

namespace Linked

variable {start final : Session}

theorem recolouring (linked : Linked start.objects) (step : Recolouring start final) :
    Linked final.objects := by
  obtain ⟨there, sized, -⟩ := step
  refine linked.setPayload (ObjectTable.palette?_eq_some_iff.mp there) (.palette ?_)
    fun _ _ fits => fits
  rw [Palette.fixed, Palette.fixed, sized]

/-- A palette is attached to a surface once it is counted. -/
theorem attach {table counted : ObjectTable} {handle palette : Handle} {surface : Surface}
    {colours : Palette} {count : Nat} (linked : Linked table)
    (live : table.surface? handle = some surface) (there : table.palette? palette = some colours)
    (made : table.addReference palette = .ok (count, counted)) :
    counted.payload? = table.payload? ∧ counted.surface? handle = some surface ∧
      Linked (counted.setPayload handle (.surface { surface with palette := some palette })) := by
  have same := ObjectTable.payload?_addReference made
  have still : counted.surface? handle = some surface := by
    rw [ObjectTable.surface?_eq_some_iff, same, ← ObjectTable.surface?_eq_some_iff, live]
  have known : counted.palette? palette = some colours := by
    rw [ObjectTable.palette?_eq_some_iff, same, ← ObjectTable.palette?_eq_some_iff, there]
  exact ⟨same, still, (linked.addReference made).setPalette still known⟩

theorem attaching (linked : Linked start.objects) (step : Attaching start final) :
    Linked final.objects := by
  obtain ⟨live, bare, there, -, counted⟩ := step
  obtain ⟨same, still, attached⟩ := linked.attach live there counted
  refine attached.drain _ fun step listed payload found => ?_
  obtain ⟨previous, has, rfl⟩ := Option.map_eq_some_iff.mp (Option.mem_toList.mp listed)
  rw [ObjectTable.payload?_setPayload (ObjectTable.surface?_eq_some_iff.mp still), Function.update_apply,
    same] at found
  split at found
  · cases found
    exact .inl ⟨_, rfl⟩
  · exact .inr (((linked.surface live).palette previous has).2 payload found)

end Linked

/-- An interface pointer is stored at `out`. -/
def Session.answered (session : Session) (out pointer : Nat) : Session :=
  { session with memory := session.memory.put out (LittleEndian.ofDword (UInt32.ofNat pointer)) }

@[simp] theorem Session.objects_answered (session : Session) (out pointer : Nat) :
    (session.answered out pointer).objects = session.objects := by
  dsimp only [answered]

@[simp] theorem Session.frameBuffer_answered (session : Session) (out pointer : Nat) :
    (session.answered out pointer).frameBuffer = session.frameBuffer := by
  dsimp only [answered]

@[simp] theorem Session.video_answered (session : Session) (out pointer : Nat) :
    (session.answered out pointer).video = session.video := by
  dsimp only [answered]

@[simp] theorem Session.heap_answered (session : Session) (out pointer : Nat) :
    (session.answered out pointer).heap = session.heap := by
  dsimp only [answered]

@[simp] theorem Session.mode_answered (session : Session) (out pointer : Nat) :
    (session.answered out pointer).mode = session.mode := by
  dsimp only [answered]

@[simp] theorem Session.chain_answered (session : Session) (out pointer : Nat) :
    (session.answered out pointer).chain = session.chain := by
  dsimp only [answered]

@[simp] theorem Session.vtables_answered (session : Session) (out pointer : Nat) :
    (session.answered out pointer).vtables = session.vtables := by
  dsimp only [answered]

/-- What outlives stores to a buffer outlives an answer that is stored there. -/
theorem Spares.answered {holds : Session → Prop} {out pointer : Nat} (answers : Spares holds out 4)
    {session : Session} (held : holds session) (backed : session.memory.holds out 4 = true) :
    holds (session.answered out pointer) := by
  have length := LittleEndian.length_ofDword (UInt32.ofNat pointer)
  exact answers _ _ _ held (length.symm ▸ backed) (Nat.le_refl _) (by rw [length])

section Books

variable {holds : Session → Prop} (kept : Kept Tidying holds) {start : Session}
  (held : holds start)

include kept held

/-! ### Locks and device contexts -/

theorem ends_lock (this out : Nat) (flags : LockFlags)
    (answers : ∀ handle surface, start.surfaceFor? this = some handle →
      start.objects.surface? handle = some surface → Spares holds out surface.descriptorSize) :
    Ends (Engine.lock this out flags) start (fun _ => holds) holds := by
  unfold Engine.lock
  refine (ends_resolveSurface held _ _).bind ?_
  rintro handle _ ⟨rfl, resolved⟩
  refine .guarded held fun supported => .guarded held fun notNull => ?_
  refine (ends_surfaceAt held handle).bind ?_
  rintro surface _ ⟨rfl, live⟩
  refine (ends_readDword held out).bind ?_
  rintro size _ ⟨rfl, taken⟩
  refine .guarded held fun sized => ?_
  have spares := answers handle surface resolved live
  refine (ends_move held _ _ _).bind ?_
  rintro _ _ ⟨data, copied, backed, rfl⟩
  have length := Memory.length_of_read copied
  have held := spares _ _ _ held backed (Nat.le_refl _) (by omega)
  refine (ends_write held _ _).bind ?_
  rintro _ _ ⟨stored, rfl⟩
  have fits := surface.fieldsFit
  have inSpace := surface.inSpace_of_field backed length.ge stored
  rw [wrapped_of_lt inSpace] at stored ⊢
  have held := spares _ _ _ held stored (Nat.le_add_right _ _)
    (by rw [LittleEndian.length_ofDword]; omega)
  exact ends_settleAndLock kept held handle

theorem ends_unlock (this : Nat) : Ends (Engine.unlock this) start (fun _ => holds) holds := by
  unfold Engine.unlock
  refine (ends_resolveSurface held _ _).bind ?_
  rintro handle _ ⟨rfl, -⟩
  exact ends_unlockSurface kept held handle

theorem ends_getDC (this out : Nat) (answers : Spares holds out 4) :
    Ends (Engine.getDC this out) start (fun _ => holds) holds := by
  unfold Engine.getDC
  refine (ends_resolveSurface held _ _).bind ?_
  rintro handle _ ⟨rfl, -⟩
  refine .guarded held fun notNull => ?_
  refine (ends_contextOf kept held handle).bind ?_
  rintro context middle ⟨held, live⟩
  refine (ends_onObjects held).bind ?_
  rintro count _ ⟨objects, counted, rfl⟩
  obtain ⟨object, -, rfl, rfl⟩ := ObjectTable.addReference_eq_ok_iff.mp counted
  have positive : 0 < min (object.references + 1) (UInt32.size - 1) :=
    Nat.lt_min.mpr ⟨Nat.succ_pos _, by decide⟩
  have held := kept.step held (.contextCounted _ live positive)
  refine (ends_write held _ _).bind ?_
  rintro _ _ ⟨backed, rfl⟩
  have held := answers _ _ _ held backed (Nat.le_refl _) (by rw [LittleEndian.length_ofDword])
  refine (ends_settle kept.settling held handle).bind ?_
  rintro _ final ⟨held, surface, live, bare⟩
  refine (ends_lockSurface kept held handle live bare).bind fun _ _ held => ?_
  exact held

theorem ends_releaseDC (this context : Nat) :
    Ends (Engine.releaseDC this context) start (fun _ => holds) holds := by
  unfold Engine.releaseDC
  refine (ends_resolveSurface held _ _).bind ?_
  rintro handle _ ⟨rfl, -⟩
  refine (ends_surfaceAt held handle).bind ?_
  rintro surface start ⟨rfl, live⟩
  refine .guarded held fun belongs => .read ?_
  have has : surface.deviceContext = some ⟨context⟩ := by
    by_contra different
    exact belongs (.inr different)
  have linked := kept.linked held
  have content := (linked.surface live).context _ has
  cases found : start.objects.find? ⟨context⟩ with
  | none => exact ends_unlockSurface kept held handle
  | some object =>
    dsimp only
    split
    · next several =>
      refine Ends.bind (ends_onObjects held) ?_
      rintro count _ ⟨objects, released, rfl⟩
      obtain ⟨again, same, -, rfl⟩ := ObjectTable.release_eq_ok_iff.mp released
      cases found.symm.trans same
      have own := ObjectTable.handle_of_find? found
      have counted := kept.step held (.contextCounted (object.references - 1) content (by omega))
      have lowered : ObjectTable.drain [.release ⟨context⟩] start.objects =
          start.objects.update ⟨context⟩ fun object' =>
            { object' with references := object.references - 1 } := by
        rw [ObjectTable.drain_release_of_several found several, ← own]
        exact ObjectTable.update_congr linked.wf (own ▸ found) rfl
      rw [lowered]
      exact ends_unlockSurface kept counted handle
    · exact ends_unlockSurface kept held handle

/-! ### Showing -/

theorem ends_show (handle : Handle) :
    Ends (do Engine.present (← Engine.picture handle)) start (fun _ => holds) holds := by
  refine (ends_picture kept.caching held handle).bind fun raster final ended => ?_
  exact ends_present kept ended.1 raster

theorem ends_flip (this target : Nat) :
    Ends (Engine.flip this target) start (fun _ => holds) holds := by
  unfold Engine.flip
  refine (ends_resolveSurface held _ _).bind ?_
  rintro front _ ⟨rfl, -⟩
  split
  · refine Ends.bind (ends_resolveSurface held _ _) ?_
    rintro shown _ ⟨rfl, -⟩
    exact ends_show kept held shown
  · refine Ends.bind (ends_surfaceAt held front) ?_
    rintro surface _ ⟨rfl, -⟩
    exact ends_show kept held _

/-! ### Drawing -/

omit kept in
/-- A copy is one step of drawing, with what the source shows and the given rectangle. -/
theorem ends_bltFast {drawn : Session → Prop} (kept : Kept Caching holds)
    (keptDrawn : Kept Tidying drawn) (this : Nat) (x y : Int32) (source region : Nat) (flags : BltFastFlags)
    (draws : ∀ target origin before image rect middle final,
      start.surfaceFor? this = some target → start.surfaceFor? source = some origin →
      holds before → before.contents origin = some (.ok image) →
      (if region = 0 then rect = image.bounds else Rect.read start.memory region = .ok rect) →
      holds middle → Drawing target (fun raster => raster.blit image rect x y) middle final →
        drawn final) :
    Ends (Engine.bltFast this x y source region flags) start (fun _ => drawn)
      (fun final => holds final ∨ drawn final) := by
  unfold Engine.bltFast
  refine (ends_resolveSurface (.inl held) _ _).bind ?_
  rintro target _ ⟨rfl, resolved⟩
  refine .guarded (.inl held) fun notNull => ?_
  refine (ends_resolveSurface (.inl held) _ _).bind ?_
  rintro origin start ⟨rfl, resolvedSource⟩
  refine .guarded (.inl held) fun plain => ?_
  have viewing : Kept Caching fun session => holds session ∧ session.memory = start.memory :=
    ⟨fun held => kept.linked held.1, fun held step =>
      ⟨kept.step held.1 step, by cases step; exact held.2⟩⟩
  refine Ends.bind ((ends_picture viewing ⟨held, rfl⟩ origin).imp (fun _ _ ended => ended)
    fun _ failed => .inl failed.1) ?_
  rintro image before ⟨⟨heldBefore, memory⟩, shows⟩
  have finish : ∀ rect,
      (if region = 0 then rect = image.bounds else Rect.read start.memory region = .ok rect) →
      Ends (do
        Engine.drawOn target fun raster => raster.blit image rect x y
        Engine.presentIfVisible target) before (fun _ => drawn)
        (fun final => holds final ∨ drawn final) := by
    intro rect read
    refine Ends.bind ((ends_drawOn kept heldBefore target _).imp
      (fun _ _ ended => ended) fun _ failed => .inl failed) ?_
    rintro _ final ⟨middle, heldMiddle, step⟩
    have after := draws target origin before image rect middle final resolved resolvedSource
      heldBefore shows read heldMiddle step
    exact (ends_presentIfVisible keptDrawn after target).imp (fun _ _ ended => ended)
      fun _ failed => .inr failed
  by_cases null : region = 0
  · rw [if_pos null]
    exact finish image.bounds (by rw [if_pos null])
  · rw [if_neg null]
    refine .read (Ends.bind (.ofExcept (.inl heldBefore)) ?_)
    rintro rect _ ⟨rfl, read⟩
    refine finish rect ?_
    rw [if_neg null, ← memory]
    exact read

/-! ### Palettes -/

omit kept in
/-- A palette is attached to a surface in place of the one attached before, which is given back. -/
theorem ends_setPalette {attached : Session → Prop} (kept : Kept Settling holds)
    (this palette : Nat)
    (attaches : ∀ middle final, holds middle → Attaching middle final → attached final) :
    Ends (Engine.setPalette this palette) start (fun _ final => holds final ∨ attached final)
      (fun final => holds final ∨ attached final) := by
  unfold Engine.setPalette
  refine (ends_resolveSurface (.inl held) _ _).bind ?_
  rintro handle _ ⟨rfl, -⟩
  refine .guarded (.inl held) fun notNull => ?_
  refine (ends_resolvePalette (.inl held) _ _).bind ?_
  rintro new _ ⟨rfl, resolved⟩
  refine (ends_surfaceAt (.inl held) handle).bind ?_
  rintro before start ⟨rfl, now⟩
  split
  · next different =>
    have settling : Kept Settling fun session =>
        holds session ∧ session.objects.palette? = start.objects.palette? ∧ ∀ surface,
          session.objects.surface? handle = some surface → surface.palette ≠ some new := by
      refine ⟨fun held => kept.linked held.1, fun held step => ⟨kept.step held.1 step,
        (step.palette?_eq (kept.linked held.1)).trans held.2.1, fun surface live => ?_⟩⟩
      rcases step.surface?_eq (kept.linked held.1) handle with same | ⟨earlier, was, dropped⟩
      · exact held.2.2 surface (same ▸ live)
      · cases live.symm.trans dropped
        exact held.2.2 earlier was
    have other : ∀ surface, start.objects.surface? handle = some surface →
        surface.palette ≠ some new := by
      intro surface live
      cases now.symm.trans live
      exact different
    refine Ends.bind ((ends_settle settling ⟨held, rfl, other⟩ handle).imp (fun _ _ ended => ended)
      fun _ failed => .inl failed.1) ?_
    rintro _ middle ⟨⟨held, palettes, other⟩, surface, live, bare⟩
    obtain ⟨colours, there⟩ : ∃ colours, middle.objects.palette? new = some colours := by
      rw [palettes]
      obtain ⟨colours, there, -⟩ := start.palette?_of_paletteFor? resolved
      exact ⟨colours, there⟩
    refine Ends.bind (ends_onObjects (.inl held)) ?_
    rintro count _ ⟨counted, made, rfl⟩
    have still : counted.surface? handle = some surface := by
      rw [ObjectTable.surface?_eq_some_iff, ObjectTable.payload?_addReference made,
        ← ObjectTable.surface?_eq_some_iff, live]
    have done := attaches _ _ held (.attached live bare there (other surface live) made)
    refine (ends_surfaceAt_live still).bind ?_
    rintro surface _ ⟨rfl, rfl⟩
    refine (ends_updateSurface_live still _).bind ?_
    rintro _ _ rfl
    cases previous : surface.palette with
    | none =>
      rw [previous] at done
      rw [Option.map_none, Option.toList_none, ObjectTable.drain] at done
      exact .inr done
    | some previous =>
      rw [previous] at done
      exact ((ends_release _).imp (fun _ _ same => .inr (same ▸ done))
        fun _ same => .inr (same ▸ done)).forget
  · exact .inl held

omit kept in
theorem ends_readColours (address count : Nat) :
    Ends (Engine.readColours address count) start
      (fun colours final => final = start ∧ colours.length = count ∧
        ∀ colour ∈ colours, colour.toNat < 0x1000000) holds := by
  induction count generalizing address with
  | zero => exact ⟨rfl, rfl, nofun⟩
  | succ count ih =>
    refine (ends_read held _ _).bind ?_
    rintro data _ ⟨rfl, -⟩
    refine (ih _).bind ?_
    rintro colours _ ⟨rfl, length, toned⟩
    exact ⟨rfl, congrArg _ length, List.forall_mem_cons.mpr ⟨Colour.toNat_rgb_lt _, toned⟩⟩

omit kept in
/-- A step for each handle keeps what every single one keeps. -/
theorem ends_forM (each : Handle → Engine Unit) (handles : List Handle)
    (one : ∀ handle session, holds session → Ends (each handle) session (fun _ => holds) holds) :
    Ends (handles.forM each) start (fun _ => holds) holds := by
  induction handles generalizing start with
  | nil => exact held
  | cons handle rest ih => exact (one handle start held).bind fun _ _ held => ih held

omit kept in
/-- Settling one surface after the other leaves all of them without a cache. -/
theorem ends_settleAll (kept : Kept Settling holds) (handles : List Handle) :
    Ends (handles.forM Engine.settle) start
      (fun _ final => holds final ∧ ∀ handle ∈ handles, ∀ surface,
        final.objects.surface? handle = some surface → surface.cache = none) holds := by
  induction handles generalizing start holds with
  | nil => exact ⟨held, fun _ inside => nomatch inside⟩
  | cons handle rest ih =>
    refine (ends_settle kept held handle).bind ?_
    rintro _ middle ⟨held, settled, live, bare⟩
    have staying : Kept Settling fun session => holds session ∧ ∀ surface,
        session.objects.surface? handle = some surface → surface.cache = none := by
      refine ⟨fun held => kept.linked held.1, fun held step => ⟨kept.step held.1 step, ?_⟩⟩
      intro surface now
      rcases step.surface?_eq (kept.linked held.1) handle with same | ⟨before, -, dropped⟩
      · exact held.2 surface (same ▸ now)
      · cases now.symm.trans dropped
        rfl
    have settledFirst : ∀ surface, middle.objects.surface? handle = some surface →
        surface.cache = none := by
      intro surface again
      cases live.symm.trans again
      exact bare
    refine (ih ⟨held, settledFirst⟩ staying).imp ?_ fun _ failed => failed.1
    rintro _ final ⟨⟨held, first⟩, others⟩
    refine ⟨held, fun other inside => ?_⟩
    rcases List.mem_cons.mp inside with rfl | inside
    · exact first
    · exact others other inside

/-- New colours for a palette are repeated in its block, with all the surfaces that use it
settled. -/
theorem ends_repaint {recoloured : Session → Prop} (keptAfter : Kept Tidying recoloured)
    (this first count source : Nat)
    (paints : ∀ handle palette middle entries, start.paletteFor? this = some handle →
      start.objects.palette? handle = some palette → holds middle →
      Repaints middle handle palette entries →
      middle.memory.holds (palette.object + Block.dataOffset) (4 * palette.entries.size) = true →
        recoloured (middle.repainted handle palette entries))
    (fades : ∀ handle palette middle entries, holds middle →
      Repaints middle handle palette entries →
      middle.memory.holds (palette.object + Block.dataOffset) (4 * palette.entries.size) = false →
        recoloured (middle.recoloured handle palette entries)) :
    Ends (Engine.paletteSetEntries this first count source) start (fun _ => recoloured)
      (fun final => holds final ∨ recoloured final) := by
  unfold Engine.paletteSetEntries
  refine (ends_resolvePalette (.inl held) _ _).bind ?_
  rintro handle start ⟨rfl, resolved⟩
  obtain ⟨old, there, -⟩ := start.palette?_of_paletteFor? resolved
  refine Ends.bind (show Ends (Engine.checkEntries _ _ _ _ _) start
    (fun _ final => final = start) _ from ?_) ?_
  · unfold Engine.checkEntries
    refine (ends_paletteAt (.inl held) _).bind ?_
    rintro palette _ ⟨rfl, -⟩
    split
    · exact Or.inl held
    · exact rfl
  rintro _ start rfl
  refine .read ?_
  have linked := kept.linked held
  have listed : ∀ other surface, start.objects.surface? other = some surface →
      surface.palette = some handle → other ∈ (start.objects.surfaces.filter fun entry =>
        decide (entry.2.palette = some handle)).map Prod.fst := by
    intro other surface live uses
    refine List.mem_map.mpr ⟨(other, surface), List.mem_filter.mpr ⟨?_, by simpa using uses⟩, rfl⟩
    exact (ObjectTable.mem_surfaces_iff linked.wf).mpr live
  generalize (start.objects.surfaces.filter fun entry =>
    decide (entry.2.palette = some handle)).map Prod.fst = users at listed ⊢
  -- The surfaces that use the palette are the same in every state on the way.
  have settling : Kept Settling fun session => holds session ∧
      session.objects.palette? = start.objects.palette? ∧
      ∀ other surface, session.objects.surface? other = some surface →
        surface.palette = some handle → other ∈ users := by
    refine ⟨fun held => kept.linked held.1, fun {before after} held step =>
      ⟨kept.step held.1 (.settling step),
        (step.palette?_eq (kept.linked held.1)).trans held.2.1, fun other surface now uses => ?_⟩⟩
    rcases step.surface?_eq (kept.linked held.1) other with same | ⟨earlier, was, dropped⟩
    · exact held.2.2 other surface (same ▸ now) uses
    · cases now.symm.trans dropped
      exact held.2.2 other earlier was uses
  refine Ends.bind ((ends_settleAll ⟨held, rfl, listed⟩ settling users).imp
    (fun _ _ ended => ended) fun _ failed => .inl failed.1) ?_
  rintro _ middle ⟨⟨held, palettes, known⟩, settled⟩
  refine Ends.bind (ends_readColours (.inl held) _ _) ?_
  rintro colours _ ⟨rfl, -, toned⟩
  refine Ends.bind (ends_paletteAt (.inl held) handle) ?_
  rintro palette middle ⟨rfl, now⟩
  obtain rfl : palette = old :=
    Option.some.inj (now.symm.trans ((congrFun palettes handle).trans there))
  have repaints : Repaints middle handle palette (overwrite palette.entries first colours) :=
    ⟨now, size_overwrite _ _ _, fun index colour found =>
      (getElem?_overwrite_or found).imp_right (toned colour),
      fun other surface live uses => settled other (known other surface live uses) surface live⟩
  have length : (Palette.blockBytes
      { palette with entries := overwrite palette.entries first colours }).length =
        4 * palette.entries.size := by
    rw [Palette.length_blockBytes, size_overwrite]
  refine Ends.bind (ends_setPayload _ _) ?_
  rintro _ _ rfl
  cases backed : middle.memory.holds (palette.object + Block.dataOffset)
      (4 * palette.entries.size) with
  | true =>
    refine Ends.bind (ends_write_backed (by rw [length]; exact backed)) ?_
    rintro _ _ rfl
    have painted := paints handle palette middle _ resolved there held repaints backed
    exact (ends_forM painted _ users fun other session held =>
      ends_presentIfVisible keptAfter held other).imp (fun _ _ ended => ended)
      fun _ failed => .inr failed
  | false =>
    refine Ends.bind (ends_write (.inr (fades handle palette middle _ held repaints backed)) _ _) ?_
    rintro _ _ ⟨inside, -⟩
    rw [length, backed] at inside
    cases inside

/-- New colours for a palette are one step, with all the surfaces that use it settled. -/
theorem ends_paletteSetEntries {recoloured : Session → Prop} (keptAfter : Kept Tidying recoloured)
    (this first count source : Nat)
    (recolours : ∀ middle final, holds middle → Recolouring middle final → recoloured final)
    (mirror : ∀ handle palette, start.paletteFor? this = some handle →
      start.objects.palette? handle = some palette →
        Spares recoloured (palette.object + Block.dataOffset) (4 * palette.entries.size)) :
    Ends (Engine.paletteSetEntries this first count source) start (fun _ => recoloured)
      (fun final => holds final ∨ recoloured final) := by
  refine ends_repaint kept held keptAfter this first count source
    (fun handle palette middle entries resolved there held repaints backed => ?_)
    fun handle palette middle entries held repaints _ => recolours _ _ held repaints.recolouring
  have length : (Palette.blockBytes { palette with entries := entries }).length =
      4 * palette.entries.size := by
    rw [Palette.length_blockBytes, repaints.sized]
  exact mirror handle palette resolved there _ _ _ (recolours _ _ held repaints.recolouring)
    (by rw [length]; exact backed) (Nat.le_refl _) (by rw [length])

end Books

end GuestDraw
