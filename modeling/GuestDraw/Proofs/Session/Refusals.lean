/-
**What calls leave behind when they fail.**

A call that hands something out creates it or takes a reference to it first, and stores the pointer
to it last. A palette is attached first, and the one that was attached before is given back last.
Nothing is undone when the last step fails. Whatever else goes wrong is found out before an object
changes, or it is undone, as a back buffer is closed again.

* `ends_settle_refusing`, `ends_contextOf_refusing`: steps that change no object when they fail;
* `Residue`: what is left of a call that failed in its last step;
* `failed_or_residue`: a call that fails changes no object, or this is left of it;
* `failed_unchanged`, `concludes_of_succeeded`: it changes none if nothing can go wrong in its last
  step, and no call succeeds otherwise.
-/

import GuestDraw.Proofs.Session.Settling
import GuestDraw.Proofs.Session.Steps

namespace GuestDraw

/-! ### Counts -/

namespace ObjectTable

variable {table after : ObjectTable} {handle : Handle}

/-- The number of references to an object. -/
def references? (table : ObjectTable) (handle : Handle) : Option Nat :=
  (table.find? handle).map (·.references)

theorem isSome_references? (table : ObjectTable) (handle : Handle) :
    (table.references? handle).isSome = (table.find? handle).isSome := Option.isSome_map

theorem references?_setPayload (table : ObjectTable) (handle : Handle) (payload : Payload) :
    (table.setPayload handle payload).references? = table.references? := by
  funext other
  rw [references?, references?, find?_setPayload]
  split
  · rw [Option.map_map]
    rfl
  · rfl

theorem references?_addReference {count : Nat}
    (counted : table.addReference handle = .ok (count, after)) :
    after.references? = Function.update table.references? handle (some count) := by
  obtain ⟨object, found, -, rfl⟩ := addReference_eq_ok_iff.mp counted
  have kept : ∀ object : Object, ({ object with references := count } : Object).handle =
      object.handle := fun _ => rfl
  funext other
  rw [references?, find?_update kept, Function.update_apply]
  split
  · next same =>
    rw [same, found]
    rfl
  · rfl

/-- A live object has a number of references, to which another one can be added. -/
theorem exists_addReference {payload : Payload} (live : table.payload? handle = some payload) :
    ∃ count after, table.addReference handle = .ok (count, after) := by
  obtain ⟨object, found, -⟩ := Option.map_eq_some_iff.mp live
  exact ⟨_, _, addReference_eq_ok_iff.mpr ⟨object, found, rfl, rfl⟩⟩

end ObjectTable

/-! ### Settling -/

/-- From `start` to `final` a surface lost its cache, if it had one, and no other object was lost or
counted anew. -/
structure Bared (start : Session) (handle : Handle) (surface : Surface)
    (final : Session) : Prop where
  surfaces : final.objects.surface? =
    Function.update start.objects.surface? handle (some { surface with cache := none })
  palettes : final.objects.palette? = start.objects.palette?
  references : ∀ other, final.objects.references? other =
    if surface.cache = some other then none else start.objects.references? other

section Settling

variable {start final : Session} (linked : Linked start.objects) {handle : Handle}
  {surface : Surface}
  (live : start.objects.surface? handle = some surface)

include linked live

theorem Settled.bared (settled : Settled start handle surface final) :
    Bared start handle surface final := by
  have payload := ObjectTable.surface?_eq_some_iff.mp live
  have graph : ∀ other, final.objects.payload? other = if surface.cache = some other then none
      else Function.update start.objects.payload? handle
        (some (.surface { surface with cache := none })) other := by
    intro other
    rw [ObjectTable.payload?, settled.found, Function.update_apply]
    split
    · rfl
    · split
      · next own =>
        obtain ⟨object, found, -⟩ := Option.map_eq_some_iff.mp payload
        rw [own, found]
        rfl
      · rfl
  -- The cache, which is gone, was neither a surface nor a palette.
  have hidden : ∀ cache, surface.cache = some cache → cache ≠ handle ∧
      start.objects.surface? cache = none ∧ start.objects.palette? cache = none := by
    intro cache has
    obtain ⟨apart, -, cached, content, -⟩ := linked.cache live has
    have content := ObjectTable.cachedRaster?_eq_some_iff.mp content
    rw [ObjectTable.surface?_eq_bind, ObjectTable.palette?_eq_bind, content]
    exact ⟨apart.symm, rfl, rfl⟩
  refine ⟨funext fun other => ?_, funext fun other => ?_, fun other => ?_⟩
  · rw [ObjectTable.surface?_eq_bind, graph]
    split
    · next has =>
      obtain ⟨apart, noSurface, -⟩ := hidden other has
      rw [Function.update_of_ne apart, noSurface]
      rfl
    · rw [Function.update_apply, Function.update_apply, ObjectTable.surface?_eq_bind]
      split <;> rfl
  · rw [ObjectTable.palette?_eq_bind, graph]
    split
    · next has =>
      rw [(hidden other has).2.2]
      rfl
    · rw [Function.update_apply, ObjectTable.palette?_eq_bind]
      split
      · next own =>
        rw [own, payload]
        rfl
      · rfl
  · rw [ObjectTable.references?, settled.found]
    split
    · rfl
    · split
      · rw [Option.map_map]
        rfl
      · rfl

/-- Settling a surface fails only where its cache cannot be stored, and then it changes nothing. -/
theorem ends_settle_refusing :
    Ends (Engine.settle handle) start
      (fun _ final => start.Settles handle ∧ Bared start handle surface final)
      (fun final => final = start ∧ ¬ start.Settles handle) :=
  (endsWith_settle linked live).imp
    (fun _ _ settled => ⟨settled.stored.settles, settled.bared linked live⟩)
    fun _ _ failed => ⟨failed.1, failed.2.not_settles⟩

end Settling

/-! ### What is left -/

/-- From `start` to `final` a palette was attached to a surface in place of one that was gone
already: it is counted once more, and the surface has lost its cache. -/
structure Supplanted (start : Session) (handle attached gone : Handle) (surface : Surface)
    (final : Session) : Prop where
  live : start.objects.surface? handle = some surface
  had : surface.palette = some gone
  dead : start.objects.find? gone = none
  surfaces : final.objects.surface? = Function.update start.objects.surface? handle
    (some { surface with palette := some attached, cache := none })
  raised : final.objects.references? attached =
    (start.objects.references? attached).map fun count => min (count + 1) (UInt32.size - 1)
  others : ∀ other, other ≠ attached → final.objects.references? other =
    if surface.cache = some other then none else start.objects.references? other

/-- What is left of a call that failed in its last step. -/
inductive Residue (start : Session) : Call → Session → Prop
  /-- The surface was created, and the pointer to it not stored. -/
  | surface {request out : Nat} {handle : Handle} {surface : Surface} {final : Session}
    (unbacked : start.memory.holds out 4 = false) (created : Created start handle surface final) :
    Residue start (.createSurface request out) final
  /-- The palette was created, and the pointer to it not stored. -/
  | palette {caps : PaletteCaps} {colours out : Nat} {handle : Handle} {palette : Palette}
    {final : Session} (unbacked : start.memory.holds out 4 = false)
    (mixed : Mixed start handle palette final) :
    Residue start (.createPalette caps colours out) final
  /-- A reference to the back buffer was taken, and the pointer to it not stored. -/
  | backBuffer {this caps out pointer : Nat} {final : Session}
    (unbacked : start.memory.holds out 4 = false) (taking : Taking start pointer final) :
    Residue start (.getAttachedSurface this caps out) final
  /-- A reference to the palette was taken, and the pointer to it not stored. -/
  | attached {this out pointer : Nat} {final : Session}
    (unbacked : start.memory.holds out 4 = false) (taking : Taking start pointer final) :
    Residue start (.getPalette this out) final
  /-- A reference to the device context was taken, and its handle not stored, or the surface not
  settled. -/
  | context {this out count : Nat} {handle context : Handle} {middle final : Session}
    (leads : start.surfaceFor? this = some handle)
    (contexted : Contexted start handle context middle)
    (counted : middle.objects.addReference context = .ok (count, final.objects))
    (unable : start.memory.holds out 4 = false ∨ ¬ start.Settles handle) :
    Residue start (.getDC this out) final
  /-- The palette was attached, and the one before was not there to be given back. -/
  | supplanted {this palette : Nat} {handle attached gone : Handle}
    {surface : Surface} {final : Session}
    (leads : start.surfaceFor? this = some handle)
    (names : start.paletteFor? palette = some attached)
    (supplanted : Supplanted start handle attached gone surface final) :
    Residue start (.setPalette this palette) final

/-- The calls that create an object or take a reference to one. -/
def Call.Acquires : Call → Prop
  | createSurface .. | createPalette .. | surfaceAddReference _ | paletteAddReference _
  | getAttachedSurface .. | getPalette .. | getDC .. | setPalette .. => True
  | _ => False

/-- Nothing can go wrong in the last step of a call: memory backs the place for the answer, the
cache that is to go can be stored, and the palette that is to be given back is alive. -/
def Session.Concludes (session : Session) : Call → Prop
  | .createSurface _ out | .createPalette _ _ out | .getAttachedSurface _ _ out | .getPalette _ out =>
    session.memory.holds out 4 = true
  | .getDC this out => session.memory.holds out 4 = true ∧
    ∀ handle, session.surfaceFor? this = some handle → session.Settles handle
  | .setPalette this _ => ∀ handle surface previous, session.surfaceFor? this = some handle →
    session.objects.surface? handle = some surface → surface.palette = some previous →
      (session.objects.find? previous).isSome
  | _ => True

/-- Something is left only where the last step can go wrong. -/
theorem Residue.not_concludes {start final : Session} {call : Call}
    (residue : Residue start call final) : ¬ start.Concludes call := by
  intro concludes
  cases residue with
  | surface unbacked | palette unbacked | backBuffer unbacked | attached unbacked =>
    exact Bool.false_ne_true (unbacked.symm.trans concludes)
  | context leads _ _ unable =>
    exact unable.elim (fun unbacked => Bool.false_ne_true (unbacked.symm.trans concludes.1))
      fun stuck => stuck (concludes.2 _ leads)
  | supplanted leads _ supplanted =>
    have alive := concludes _ _ _ leads supplanted.live supplanted.had
    rw [supplanted.dead] at alive
    cases alive

/-! ### Device contexts -/

section Contexts

variable {start middle final : Session} {handle context : Handle}

/-- A device context changes nothing that is drawn. -/
theorem Contexted.drawn?_eq (contexted : Contexted start handle context middle)
    (linked : Linked start.objects) : middle.drawn? handle = start.drawn? handle := by
  cases contexted with
  | known => rfl
  | @made surface objects live bare made =>
    obtain ⟨surfaces, -, caches⟩ := linked.views_createFor made live
      { surface with deviceContext := some context } rfl rfl
    have fresh : start.objects.cachedRaster? context = none := by
      rw [ObjectTable.cachedRaster?_eq_bind, linked.fresh made]
      rfl
    have same : Function.update start.objects.cachedRaster? context none =
        start.objects.cachedRaster? := Function.update_eq_self_iff.mpr fresh.symm
    rw [Session.drawn?, Session.drawn?, surfaces, Function.update_self, live, caches]
    exact congrArg (fun views => ((surface.cache.bind views).filter (·.dirty)).map fun cached =>
      (cached.raster, surface.buffer)) same

theorem Contexted.linked (contexted : Contexted start handle context middle)
    (linked : Linked start.objects) : Linked middle.objects := by
  cases contexted with
  | known => exact linked
  | made live bare made => exact linked.tidying (.contextMade live bare made)

theorem Contexted.memory_eq (contexted : Contexted start handle context middle) :
    middle.memory = start.memory := by
  cases contexted <;> rfl

theorem Contexted.live (contexted : Contexted start handle context middle)
    (linked : Linked start.objects) : ∃ surface,
      middle.objects.surface? handle = some surface ∧ surface.deviceContext = some context := by
  cases contexted with
  | known live has => exact ⟨_, live, has⟩
  | @made surface objects live bare made =>
    obtain ⟨surfaces, -⟩ := linked.views_createFor made live
      { surface with deviceContext := some context } rfl rfl
    exact ⟨_, by rw [surfaces, Function.update_self], rfl⟩

/-- The device context of the surface is handed out, or nothing changes, or it is left with one
reference too many. -/
theorem ends_getDC_refusing (linked : Linked start.objects) (this out : Nat) :
    Ends (Engine.getDC this out) start
      (fun context final => start.Concludes (.getDC this out) ∧
        ∃ handle surface, start.surfaceFor? this = some handle ∧
          final.objects.surface? handle = some surface ∧ surface.deviceContext = some context)
      (fun final => final.objects = start.objects ∨ Residue start (.getDC this out) final) := by
  unfold Engine.getDC
  refine (ends_resolveSurface (.inl rfl) _ this).bind ?_
  rintro handle start ⟨rfl, leads⟩
  refine .guarded (.inl rfl) fun notNull => ?_
  refine Ends.bind ((ends_contextOf_refusing linked handle).imp (fun _ _ ended => ended)
    fun _ same => .inl (same ▸ rfl)) ?_
  intro context middle contexted
  obtain ⟨count, objects, counted⟩ := ObjectTable.exists_addReference (contexted.payload?_eq linked)
  have payloads := ObjectTable.payload?_addReference counted
  have linkedCounted := (contexted.linked linked).addReference counted
  obtain ⟨surface, live, has⟩ := contexted.live linked
  have still : objects.surface? handle = some surface := by
    rw [ObjectTable.surface?_eq_some_iff, payloads, ← ObjectTable.surface?_eq_some_iff, live]
  refine (ends_onObjects_of_ok counted).bind ?_
  rintro _ _ ⟨rfl, rfl⟩
  have memory := contexted.memory_eq
  have settles_iff : ∀ data, Session.Settles { middle with
      objects := objects, memory := middle.memory.put out data } handle ↔ start.Settles handle := by
    refine fun data => Session.settles_congr (Eq.trans ?_ (contexted.drawn?_eq linked)) fun _ _ => by
      rw [Memory.holds_put, memory]
    simp only [Session.drawn?, ObjectTable.surface?_eq_bind,
      ObjectTable.cachedRaster?_eq_bind, payloads]
  refine Ends.bind (ends_write_refusing fun unbacked => ?_) ?_
  · rw [LittleEndian.length_ofDword, memory] at unbacked
    exact .inr (.context leads contexted counted (.inl unbacked))
  rintro _ _ ⟨backed, rfl⟩
  refine Ends.bind ((ends_settle_refusing linkedCounted still).imp (fun _ _ ended => ended) ?_) ?_
  · rintro _ ⟨rfl, stuck⟩
    exact .inr (.context leads contexted counted (.inr fun settles => stuck ((settles_iff _).mpr settles)))
  rintro _ settled ⟨settles, bared⟩
  have left : settled.objects.surface? handle = some { surface with cache := none } := by
    rw [bared.surfaces, Function.update_self]
  refine (ends_updateSurface_live left _).bind ?_
  rintro _ _ rfl
  refine ⟨⟨?_, fun other again => ?_⟩, handle,
    { surface with cache := none, locked := true }, leads,
    ?_, has⟩
  · rwa [LittleEndian.length_ofDword, memory] at backed
  · cases leads.symm.trans again
    exact (settles_iff _).mp settles
  · rw [ObjectTable.surface?_setSurface left, Function.update_self]

end Contexts

/-! ### Palettes -/

/-- What a surface has for a palette is no cache of it. -/
theorem Linked.palette_ne_cache {table : ObjectTable} (linked : Linked table)
    {handle palette : Handle}
    {surface : Surface} (live : table.surface? handle = some surface)
    (has : surface.palette = some palette) : surface.cache ≠ some palette := by
  intro same
  obtain ⟨-, -, cached, content, -⟩ := linked.cache live same
  have content := ObjectTable.cachedRaster?_eq_some_iff.mp content
  obtain ⟨colours, is⟩ := ((linked.surface live).palette palette has).2 _ content
  cases is

section Attached

variable {start middle : Session} {handle attached gone : Handle} {surface : Surface} {count : Nat}
  {objects : ObjectTable} (bared : Bared start handle surface middle)
  (counted : middle.objects.addReference attached = .ok (count, objects))

include bared counted

/-- The counts after a palette was counted for a surface that has lost its cache. -/
theorem Bared.references?_addReference :
    (start.objects.references? attached).map (fun count => min (count + 1) (UInt32.size - 1)) =
        some count ∧
      ∀ other, objects.references? other = if other = attached then some count
        else if surface.cache = some other then none else start.objects.references? other := by
  constructor
  · obtain ⟨object, found, raised, -⟩ := ObjectTable.addReference_eq_ok_iff.mp counted
    have before := bared.references attached
    rw [ObjectTable.references?, found] at before
    split at before
    · cases before
    · rw [← before, Option.map_some, Option.map_some, raised]
  · intro other
    rw [ObjectTable.references?_addReference counted, Function.update_apply, bared.references]

theorem Bared.surface?_addReference : objects.surface? =
    Function.update start.objects.surface? handle (some { surface with cache := none }) := by
  rw [← bared.surfaces]
  funext other
  rw [ObjectTable.surface?_eq_bind, ObjectTable.payload?_addReference counted,
    ← ObjectTable.surface?_eq_bind]

/-- The palette before is as alive after the new one was attached as it was at the start. -/
theorem Bared.isSome_previous (linked : Linked start.objects)
    (live : start.objects.surface? handle = some surface) (had : surface.palette = some gone)
    (payload : Payload) :
    ((objects.setPayload handle payload).find? gone).isSome =
      (start.objects.find? gone).isSome := by
  obtain ⟨raised, counts⟩ := bared.references?_addReference counted
  rw [← ObjectTable.isSome_references?, ObjectTable.references?_setPayload, counts,
    if_neg (linked.palette_ne_cache live had), ← ObjectTable.isSome_references? start.objects]
  split
  · next same =>
    rw [same, eq_comm]
    exact Option.isSome_map.symm.trans (congrArg Option.isSome raised)
  · rfl

theorem Bared.supplanted (live : start.objects.surface? handle = some surface)
    (had : surface.palette = some gone) (dead : start.objects.find? gone = none) :
    Supplanted start handle attached gone surface { middle with
      objects := objects.setPayload handle
        (.surface { surface with cache := none, palette := some attached }) } := by
  obtain ⟨raised, counts⟩ := bared.references?_addReference counted
  have surfaces := bared.surface?_addReference counted
  have left : objects.surface? handle = some { surface with cache := none } := by
    rw [surfaces, Function.update_self]
  rw [← ObjectTable.references?_setPayload objects handle] at counts
  refine ⟨live, had, dead, ?_, ?_, fun other different => ?_⟩
  · rw [ObjectTable.surface?_setSurface left, surfaces, Function.update_idem]
  · rw [counts, if_pos rfl, raised]
  · rw [counts, if_neg different]

end Attached

/-- A palette is attached, or nothing changes, or it is attached in place of one that was gone. -/
theorem ends_setPalette_refusing {start : Session} (linked : Linked start.objects)
    (this palette : Nat) :
    Ends (Engine.setPalette this palette) start
      (fun _ _ => start.Concludes (.setPalette this palette))
      (fun final => final = start ∨ Residue start (.setPalette this palette) final) := by
  unfold Engine.setPalette
  refine (ends_resolveSurface (.inl rfl) _ this).bind ?_
  rintro handle _ ⟨rfl, leads⟩
  refine .guarded (.inl rfl) fun notNull => ?_
  refine (ends_resolvePalette (.inl rfl) _ palette).bind ?_
  rintro attached start ⟨rfl, names⟩
  obtain ⟨surface, live, -⟩ := Session.surface?_of_surfaceFor? _ leads
  obtain ⟨colours, there, -⟩ := Session.palette?_of_paletteFor? _ names
  refine (ends_surfaceAt_live live).bind ?_
  rintro surface start ⟨rfl, rfl⟩
  -- One surface is meant throughout.
  have concludes_of : (∀ previous, surface.palette = some previous →
      (start.objects.find? previous).isSome) → start.Concludes (.setPalette this palette) := by
    intro alive other same previous again there had
    cases leads.symm.trans again
    cases live.symm.trans there
    exact alive previous had
  split
  · refine Ends.bind ((ends_settle_refusing linked live).imp (fun _ _ ended => ended)
      fun _ ended => .inl ended.1) ?_
    rintro _ middle ⟨-, bared⟩
    have alive := ObjectTable.palette?_eq_some_iff.mp ((congrFun bared.palettes attached).trans there)
    obtain ⟨count, objects, counted⟩ := ObjectTable.exists_addReference alive
    have left : objects.surface? handle = some { surface with cache := none } := by
      rw [bared.surface?_addReference counted, Function.update_self]
    refine (ends_onObjects_of_ok counted).bind ?_
    rintro _ _ ⟨rfl, rfl⟩
    refine (ends_surfaceAt_live left).bind ?_
    rintro _ _ ⟨rfl, rfl⟩
    refine (ends_updateSurface_live left _).bind ?_
    rintro _ _ rfl
    dsimp only
    cases had : surface.palette with
    | none => exact concludes_of fun _ has => nomatch had.symm.trans has
    | some gone =>
      have same := bared.isSome_previous counted linked live had
      refine ((ends_release_refusing _ gone).imp (fun _ _ ended => ?_) ?_).forget
      · refine concludes_of fun previous has => ?_
        cases had.symm.trans has
        exact same _ ▸ ended.1
      · rintro _ ⟨dead, rfl⟩
        refine .inr (.supplanted leads names (bared.supplanted counted live had ?_))
        rw [← Option.not_isSome_iff_eq_none, ← same, dead]
        exact nofun
  · next attachedAlready =>
    refine concludes_of fun previous has => ?_
    have own : surface.palette = some attached := Decidable.not_not.mp attachedAlready
    cases own.symm.trans has
    rw [← ObjectTable.isSome_payload?, ObjectTable.palette?_eq_some_iff.mp there]
    rfl

/-! ### New objects -/

/-- A back buffer that is closed again leaves no object behind. -/
theorem Abandoned.find?_eq {start final : Session} (abandoned : Abandoned start final)
    (numbered : start.objects.Numbered 0) : final.objects.find? = start.objects.find? := by
  cases abandoned with
  | early ground => rw [ground.2]
  | @late plan middle final child back first ground =>
    have finds := ObjectTable.find?_create numbered first.made
    have found : middle.objects.find? child = some ⟨child, none, 1, .surface back⟩ := by
      rw [finds, if_pos rfl]
    have alone : (Payload.surface back).teardown = [] := by
      rw [first.shape]
      rfl
    have fresh : start.objects.find? child = none := by
      obtain ⟨-, own, -⟩ := ObjectTable.insert_eq_ok_iff.mp first.made
      rw [own, numbered.find?_next]
    funext other
    show (ObjectTable.drain [.close child] middle.objects).find? other = _
    rw [ObjectTable.drain_close_of_teardown_eq_nil found alone, ObjectTable.find?_remove]
    split
    · next same => rw [same, fresh]
    · next different => rw [finds, if_neg different]

/-! ### Calls -/

/-- A call that creates an object or takes a reference succeeds only if nothing can go wrong in its
last step. When it fails it changes no object, or what is left of it was left by that step. -/
theorem ends_residue {start : Session} (linked : Linked start.objects) {call : Call}
    (acquires : call.Acquires) :
    Ends call.run start (fun _ _ => start.Concludes call)
      (fun final => final.objects.find? = start.objects.find? ∨ Residue start call final) := by
  cases call with
  | createSurface request out =>
    refine (ends_createSurface linked.numbered request out).discard.imp ?_ ?_
    · rintro _ _ ⟨_, _, _, _, -, -, backed, -⟩
      exact backed
    · rintro final (abandoned | ⟨unbacked, handle, surface, created⟩)
      · exact .inl (abandoned.find?_eq linked.numbered)
      · exact .inr (.surface unbacked created)
  | createPalette caps colours out =>
    refine (ends_createPalette start caps colours out).discard.imp ?_ ?_
    · rintro _ _ ⟨_, _, _, _, -, -, backed, -⟩
      exact backed
    · rintro final (ground | ⟨unbacked, handle, palette, mixed⟩)
      · exact .inl (congrArg ObjectTable.find? ground.2)
      · exact .inr (.palette unbacked mixed)
  | surfaceAddReference this =>
    exact (ends_surfaceAddReference this).discard.imp (fun _ _ _ => trivial)
      fun _ same => .inl (same ▸ rfl)
  | paletteAddReference this =>
    exact (ends_paletteAddReference this).discard.imp (fun _ _ _ => trivial)
      fun _ same => .inl (same ▸ rfl)
  | getAttachedSurface this caps out =>
    refine (ends_getAttachedSurface linked this caps out).discard.imp ?_ ?_
    · exact fun _ _ ended => ended.elim fun _ taken => taken.1
    · rintro final (same | ⟨unbacked, pointer, taking⟩)
      · exact .inl (same ▸ rfl)
      · exact .inr (.backBuffer unbacked taking)
  | getPalette this out =>
    refine (ends_getPalette this out).discard.imp ?_ ?_
    · exact fun _ _ ended => ended.elim fun _ taken => taken.1
    · rintro final (same | ⟨unbacked, pointer, taking⟩)
      · exact .inl (same ▸ rfl)
      · exact .inr (.attached unbacked taking)
  | getDC this out =>
    exact (ends_getDC_refusing linked this out).discard.imp
      (fun _ _ ended => ended.elim fun _ given => given.1)
      fun _ failed => failed.imp_left (congrArg ObjectTable.find?)
  | setPalette this palette =>
    refine (ends_setPalette_refusing linked this palette).imp (fun _ _ ended => ended) ?_
    rintro final (same | residue)
    · exact .inl (same ▸ rfl)
    · exact .inr residue
  | _ => cases acquires

section Reached

variable (memory : Memory) (heap : Heap) (video : Aperture) (stubs : StubTable) (firstHandle : Nat)
  (mode : DisplayMode) (chain : FlipChain) (acts : List Act) {session : Session}
  (reached : session = (Session.start memory heap video stubs firstHandle mode chain).through acts)
  {call : Call} (acquires : call.Acquires) {final : Session}

include reached acquires

theorem ends_residue_reached :
    Ends call.run session (fun _ _ => session.Concludes call)
      (fun final => final.objects.find? = session.objects.find? ∨ Residue session call final) := by
  have kept : Kept Step fun session => Linked session.objects :=
    ⟨id, fun held step => held.step step⟩
  have linked : Linked session.objects := reached ▸ kept.through (.startingAt firstHandle) acts
  exact ends_residue linked acquires

/-- A call fails if its last step goes wrong, in every state that a session can come to. -/
theorem concludes_of_succeeded (succeeded : call.run session = .ok () final) :
    session.Concludes call :=
  (ends_residue_reached memory heap video stubs firstHandle mode chain acts reached acquires).of_ok
    succeeded

variable {cause : Failure} (failed : call.run session = .error cause final)

include failed

/-- **A call that fails changes no object**, or what is left of it is left by its last step, in
every state that a session can come to. -/
theorem failed_or_residue :
    final.objects.find? = session.objects.find? ∨ Residue session call final :=
  (ends_residue_reached memory heap video stubs firstHandle mode chain acts reached
    acquires).of_error failed

/-- **A call that fails changes no object** if its last step cannot go wrong: none is created or
lost, and none refers to others than before or is referred to by more or fewer. -/
theorem failed_unchanged (concludes : session.Concludes call) :
    final.objects.find? = session.objects.find? := by
  refine (failed_or_residue memory heap video stubs firstHandle mode chain acts reached acquires
    failed).resolve_right fun residue => ?_
  exact residue.not_concludes concludes

end Reached

/-- Without a request no surface is created, and none is left. -/
theorem failed_unchanged_one_pixel :
    Call.Acquires (.createSurface 0 0x1AC) ∧ onePixel.Concludes (.createSurface 0 0x1AC) ∧
      ∃ cause final, Call.run (.createSurface 0 0x1AC) onePixel = .error cause final ∧
        final.objects.find? = onePixel.objects.find? := by
  have acquires : Call.Acquires (.createSurface 0 0x1AC) := trivial
  have concludes : onePixel.Concludes (.createSurface 0 0x1AC) :=
    show onePixel.memory.holds 0x1AC 4 = true by decide +kernel
  refine ⟨acquires, concludes, _, _, rfl, ?_⟩
  exact failed_unchanged _ _ _ _ _ _ _ [] rfl acquires rfl concludes

end GuestDraw
