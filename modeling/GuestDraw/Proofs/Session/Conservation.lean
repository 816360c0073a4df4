/-
**Conservation of references.**

The guest keeps a ledger of the references that it was given and has not given back, under interface
pointers. Calls that create objects or share them add to it, calls that release them take from it,
and all others move references between objects without making or losing any. So every count is at
all times the sum of what the ledger says and of what live objects refer to.

* `Conserved`: the invariant of sessions;
* `Conserved.tidying`, `Conserved.drawing`, `Conserved.attaching` and so on: one lemma for each
  step;
* `ends_conserved`: every call keeps it, with the ledger that the call leads to.
-/

import GuestDraw.Proofs.Session.Runs

namespace GuestDraw

/-- What belongs to a surface has no block. -/
theorem Linked.plain {table : ObjectTable} (linked : Linked table) {handle target : Handle}
    {surface : Surface} (live : table.surface? handle = some surface)
    (step : .close target ∈ (Payload.surface surface).teardown) : table.block? target = none := by
  have fits := linked.surface live
  rw [ObjectTable.block?]
  rcases Payload.close_mem_teardown.mp step with has | has
  · rw [fits.context target has]
    rfl
  · obtain ⟨-, cached, content, -⟩ := fits.cache target has
    rw [content]
    rfl

/-! ### The invariant -/

/-- One more reference is held under `pointer`. -/
def gain (held : Nat → Nat) (pointer : Nat) : Nat → Nat :=
  Function.update held pointer (held pointer + 1)

/-- One reference less is held under `pointer`. -/
def lose (held : Nat → Nat) (pointer : Nat) : Nat → Nat :=
  Function.update held pointer (held pointer - 1)

namespace ObjectTable.Balanced

variable {table : ObjectTable} {held : Nat → Nat} {limit : Nat} {handle other : Handle}
  {pointer place : Nat}

/-- What the ledger says of an object after a reference to one object was added. -/
theorem gain_eq (balanced : table.Balanced held limit) (ledger : Nat → Nat)
    (block : table.block? handle = some pointer) (has : table.block? other = some place) :
    gain ledger pointer place = ledger place + if handle = other then 1 else 0 := by
  unfold gain
  by_cases same : handle = other
  · rw [same, has] at block
    cases block
    rw [Function.update_self, if_pos same]
  · rw [if_neg same, Function.update_of_ne, Nat.add_zero]
    rintro rfl
    exact same (balanced.apart handle other place block has)

theorem lose_eq (balanced : table.Balanced held limit) {ledger : Nat → Nat}
    (owed : 0 < ledger pointer) (block : table.block? handle = some pointer)
    (has : table.block? other = some place) :
    ledger place = lose ledger pointer place + if handle = other then 1 else 0 := by
  unfold lose
  by_cases same : handle = other
  · rw [same, has] at block
    cases block
    rw [Function.update_self, if_pos same]
    omega
  · rw [if_neg same, Function.update_of_ne, Nat.add_zero]
    rintro rfl
    exact same (balanced.apart handle other place block has)

end ObjectTable.Balanced

theorem pos_of_gain {held : Nat → Nat} {pointer place : Nat} (positive : 0 < gain held pointer place) :
    place = pointer ∨ 0 < held place := by
  unfold gain at positive
  by_cases same : place = pointer
  · exact .inl same
  · rw [Function.update_of_ne same] at positive
    exact .inr positive

theorem pos_of_lose {held : Nat → Nat} {pointer place : Nat} (positive : 0 < lose held pointer place) :
    0 < held place := by
  unfold lose at positive
  by_cases same : place = pointer
  · subst same
    rw [Function.update_self] at positive
    omega
  · rw [Function.update_of_ne same] at positive
    exact positive

theorem lose_gain (held : Nat → Nat) (pointer : Nat) : lose (gain held pointer) pointer = held := by
  unfold lose gain
  rw [Function.update_self, Function.update_idem, Nat.add_sub_cancel, Function.update_eq_self]

/-- Blocks lie below this address. -/
def Session.ceiling (session : Session) : Nat := min session.heap.next addressSpace

theorem Session.ceiling_answered (session : Session) (out pointer : Nat) :
    (session.answered out pointer).ceiling = session.ceiling := by
  dsimp only [ceiling, answered]

/-- The objects of a session are in order, and all references are either held by the guest or by
other objects. -/
structure Conserved (held : Nat → Nat) (session : Session) : Prop where
  linked : Linked session.objects
  balanced : session.objects.Balanced held session.ceiling

/-- A surface changes neither its block nor what it refers to. -/
theorem ObjectTable.Balanced.setSurface {table : ObjectTable} {held : Nat → Nat} {limit : Nat}
    (balanced : table.Balanced held limit) (wf : table.WellFormed) {handle : Handle}
    {old new : Surface} (live : table.surface? handle = some old) (fixed : new.fixed = old.fixed)
    (palette : new.palette = old.palette)
    (closed : ∀ target, new.deviceContext = some target ∨ new.cache = some target →
      table.block? target = none) :
    (table.setPayload handle (.surface new)).Balanced held limit := by
  have object : new.object = old.object :=
    show new.fixed.object = old.fixed.object from congrArg _ fixed
  refine balanced.setPlain wf (surface?_eq_some_iff.mp live) (congrArg some object) (fun target => ?_)
    fun target step => closed target (Payload.close_mem_teardown.mp step)
  rw [Surface.count_release, Surface.count_release, palette, Surface.backBuffer_of_fixed fixed]

/-- A surface comes to own a new object without a block. -/
theorem ObjectTable.Balanced.createFor {table after : ObjectTable} {held : Nat → Nat} {limit : Nat}
    (balanced : table.Balanced held limit) (linked : Linked table) {owner handle : Handle}
    {payload : Payload} (made : table.create payload = .ok (handle, after))
    (block : payload.block? = none) (alone : payload.teardown = []) {old new : Surface}
    (live : table.surface? owner = some old) (fixed : new.fixed = old.fixed)
    (palette : new.palette = old.palette)
    (belongs : ∀ target, new.deviceContext = some target ∨ new.cache = some target →
      target = handle ∨ old.deviceContext = some target ∨ old.cache = some target) :
    (after.setPayload owner (.surface new)).Balanced held limit := by
  have wf := linked.wf.insert linked.numbered (fun _ named => by cases named) made
  refine (balanced.createPlain linked.numbered made block alone).setSurface wf
    (linked.surface?_create made live).2 fixed palette fun target has => ?_
  rw [ObjectTable.block?, payload?_create linked.numbered made, Function.update_apply]
  split
  · exact block
  · next different =>
    exact linked.plain live (Payload.close_mem_teardown.mpr ((belongs target has).resolve_left different))

namespace Conserved

variable {start final : Session} {held : Nat → Nat}

theorem settling (conserved : Conserved held start) (step : Settling start final) :
    Conserved held final := by
  obtain ⟨linked, balanced⟩ := conserved
  refine ⟨linked.settling step, ?_⟩
  cases step with
  | written live has content =>
    exact balanced.setPlain linked.wf (ObjectTable.cachedRaster?_eq_some_iff.mp content) rfl
      (fun _ => rfl) fun _ step => nomatch step
  | @dropped handle cache surface live has =>
    have bare : (start.objects.setPayload handle
        (.surface { surface with cache := none })).Balanced held start.ceiling :=
      balanced.setSurface linked.wf live rfl rfl fun target has =>
        linked.plain live (Payload.close_mem_teardown.mpr (has.imp_right fun none => nomatch none))
    refine bare.drain (linked.wf.setPayload _ _) _ (fun target step => ?_) (fun _ _ _ => rfl)
      fun _ positive => positive
    obtain ⟨apart, -, cached, content, -⟩ := linked.cache live has
    cases List.mem_singleton.mp step
    rw [ObjectTable.block?, ObjectTable.payload?_setPayload
      (ObjectTable.surface?_eq_some_iff.mp live), Function.update_of_ne apart.symm,
      ObjectTable.cachedRaster?_eq_some_iff.mp content]
    rfl

theorem caching (conserved : Conserved held start) (step : Caching start final) :
    Conserved held final := by
  have after := conserved.linked.caching step
  obtain ⟨linked, balanced⟩ := conserved
  obtain ⟨live, bare, unlocked, -, made⟩ := step
  refine ⟨after, balanced.createFor linked made rfl rfl live rfl rfl fun target has => ?_⟩
  rcases has with context | same
  · exact .inr (.inl context)
  · exact .inl (Option.some.inj same).symm

theorem tidying (conserved : Conserved held start) (step : Tidying start final) :
    Conserved held final := by
  have after := conserved.linked.tidying step
  cases step with
  | settling step => exact conserved.settling step
  | caching step => exact conserved.caching step
  | lockSet live =>
    obtain ⟨linked, balanced⟩ := conserved
    exact ⟨after, balanced.setSurface linked.wf live rfl rfl fun target has =>
      linked.plain live (Payload.close_mem_teardown.mpr has)⟩
  | contextMade live bare made =>
    obtain ⟨linked, balanced⟩ := conserved
    refine ⟨after, balanced.createFor linked made rfl rfl live rfl rfl fun target has => ?_⟩
    rcases has with same | cache
    · exact .inl (Option.some.inj same).symm
    · exact .inr (.inr cache)
  | contextCounted count live positive =>
    refine ⟨after, conserved.balanced.recountPlain ?_ count⟩
    rw [ObjectTable.block?, live]
    rfl
  | shown picture => exact ⟨after, conserved.balanced⟩

theorem drawing {handle : Handle} {draw : Raster → Raster} (conserved : Conserved held start)
    (step : Drawing handle draw start final) : Conserved held final := by
  refine ⟨conserved.linked.drawing step, ?_⟩
  cases step with
  | onCache live has content =>
    exact conserved.balanced.setPlain conserved.linked.wf
      (ObjectTable.cachedRaster?_eq_some_iff.mp content) rfl (fun _ => rfl) fun _ step => nomatch step
  | onMemory => exact conserved.balanced

theorem recolouring (conserved : Conserved held start) (step : Recolouring start final) :
    Conserved held final := by
  refine ⟨conserved.linked.recolouring step, ?_⟩
  obtain ⟨there, -, -⟩ := step
  exact conserved.balanced.setPlain conserved.linked.wf (ObjectTable.palette?_eq_some_iff.mp there)
    rfl (fun _ => rfl) fun _ step => nomatch step

/-- The guest takes a reference to an object. -/
theorem taking {pointer : Nat} (conserved : Conserved held start) (step : Taking start pointer final)
    (room : ∀ object ∈ start.objects.objects, object.references < UInt32.size - 1) :
    Conserved (gain held pointer) final := by
  obtain ⟨linked, balanced⟩ := conserved
  obtain ⟨block, counted⟩ := step
  exact ⟨linked.addReference counted, balanced.addReference block counted room⟩

/-- The guest gives a reference back. -/
theorem releasing {handle : Handle} {pointer : Nat} (conserved : Conserved held start)
    (block : start.objects.block? handle = some pointer) (owed : 0 < held pointer) :
    Conserved (lose held pointer)
      { start with objects := .drain [.release handle] start.objects } := by
  obtain ⟨linked, balanced⟩ := conserved
  refine ⟨linked.drain _ fun step listed payload found => ?_,
    balanced.drain linked.wf _ (fun target listed => ?_) (fun other place has => ?_)
      fun place positive => pos_of_lose positive⟩
  · cases List.mem_singleton.mp listed
    obtain ⟨content, there, has⟩ := Option.bind_eq_some_iff.mp block
    cases there.symm.trans found
    exact Payload.of_block? has
  · cases List.mem_singleton.mp listed
  · rw [balanced.lose_eq owed block has]
    congr 1
    simpa using (count_release_toList (some handle) other).symm

/-- A palette is attached: the guest has as many references to it and to the one before as it
had. -/
theorem attaching (conserved : Conserved held start) (step : Attaching start final)
    (room : ∀ object ∈ start.objects.objects, object.references < UInt32.size - 1) :
    Conserved held final := by
  refine ⟨conserved.linked.attaching step, ?_⟩
  obtain ⟨linked, balanced⟩ := conserved
  obtain @⟨handle, palette, surface, colours, count, counted, live, bare, there, -, made⟩ := step
  have block := ObjectTable.block?_of_palette? there
  have more := balanced.addReference block made room
  have same := ObjectTable.payload?_addReference made
  have blocks := ObjectTable.block?_of_payload?_eq same
  have still := (congrFun same handle).trans (ObjectTable.surface?_eq_some_iff.mp live)
  -- On the way the guest holds a reference to the palette that was attached before.
  obtain ⟨middle, holds, known⟩ : ∃ middle : Nat → Nat,
      (∀ other place, start.objects.block? other = some place →
        middle place = held place + if surface.palette = some other then 1 else 0) ∧
      ∀ place, 0 < middle place → ∃ handle, start.objects.block? handle = some place := by
    cases has : surface.palette with
    | none => exact ⟨held, fun _ _ _ => by simp, balanced.known⟩
    | some previous =>
      have alive := balanced.alive handle _ previous (ObjectTable.surface?_eq_some_iff.mp live)
        (Payload.release_mem_teardown.mpr (.inl has))
      obtain ⟨pointer, former⟩ := Option.isSome_iff_exists.mp alive
      refine ⟨gain held pointer, fun other place found => ?_, fun place positive => ?_⟩
      · rw [balanced.gain_eq held former found]
        simp
      · rcases pos_of_gain positive with rfl | old
        · exact ⟨previous, former⟩
        · exact balanced.known place old
  have attached : (counted.setPayload handle
      (.surface { surface with palette := some palette })).Balanced middle start.ceiling := by
    refine more.setPayload (linked.addReference made).wf still rfl (fun target step => ?_)
      (fun target step => ?_) (fun other place has => ?_) (fun place positive => ?_)
    all_goals rw [blocks] at *
    · rcases Payload.release_mem_teardown.mp step with has | has
      · cases has
        rw [block]
        rfl
      · exact balanced.alive handle _ target (ObjectTable.surface?_eq_some_iff.mp live)
          (Payload.release_mem_teardown.mpr (.inr has))
    · have has := Payload.close_mem_teardown.mp step
      exact linked.plain live (Payload.close_mem_teardown.mpr has)
    · have gained := balanced.gain_eq held block has
      unfold gain at gained
      rw [gained, holds other place has, Surface.count_release, Surface.count_release]
      simp only [Option.some.injEq]
      omega
    · exact known place positive
  have unmoved := ObjectTable.block?_setPayload still
    (show (Payload.surface { surface with palette := some palette }).block? = _ from rfl)
  refine attached.drain ((linked.addReference made).wf.setPayload _ _) _ (fun target step => ?_)
    (fun other place has => ?_) fun place positive => ?_
  · cases surface.palette <;> simp at step
  · rw [unmoved, blocks] at has
    rw [count_release_toList]
    exact holds other place has
  · obtain ⟨other, has⟩ := balanced.known place positive
    rw [holds other place has]
    omega

/-! ### Creating -/

theorem ceiling_mono {start final : Session} (groundwork : Groundwork start final) :
    start.ceiling ≤ final.ceiling := by
  have grows := groundwork.heapNext
  unfold Session.ceiling
  omega

theorem prepared (conserved : Conserved held start) {session : Session}
    (ground : Prepared start start.objects session) : Conserved held session := by
  obtain ⟨linked, balanced⟩ := conserved
  obtain ⟨groundwork, same⟩ := ground
  refine ⟨same.symm ▸ linked, ?_⟩
  rw [same]
  exact balanced.raise (ceiling_mono groundwork)

/-- A new object with a block, which takes over the references that the ledger gives up for it. -/
theorem create (conserved : Conserved held start) {kept : Nat → Nat} {handle : Handle}
    {payload : Payload} {pointer size : Nat} (linked : Linked final.objects)
    (made : start.objects.create payload = .ok (handle, final.objects))
    (block : payload.block? = some pointer) (cut : CutOff start final pointer size)
    (roomy : 0 < size) (closed : ∀ target, .close target ∉ payload.teardown)
    (released : ∀ target, .release target ∈ payload.teardown →
      (start.objects.block? target).isSome)
    (spent : ∀ other place, start.objects.block? other = some place →
      held place = kept place + payload.teardown.count (.release other))
    (known : ∀ place, 0 < kept place → 0 < held place) : Conserved (gain kept pointer) final := by
  obtain ⟨linkedStart, balanced⟩ := conserved
  have above : start.ceiling ≤ pointer := (Nat.min_le_left _ _).trans cut.above
  have below : pointer < final.ceiling := by
    have inHeap := cut.below
    have narrow := cut.narrow
    unfold Session.ceiling
    omega
  have apart : ∀ other place, start.objects.block? other = some place → place ≠ pointer := by
    intro other place has same
    have old := balanced.placed other place has
    omega
  have unheld : kept pointer = 0 := by
    by_contra positive
    obtain ⟨other, has⟩ := balanced.known pointer (known pointer (Nat.pos_of_ne_zero positive))
    exact apart other pointer has rfl
  refine ⟨linked, balanced.create linkedStart.wf linkedStart.numbered made block above below
    released closed (fun owner content found step => ?_) (fun other place has => ?_) ?_
    fun place different positive => known place ?_⟩
  · have dead := linkedStart.next_eq_none
    obtain ⟨_, own, -⟩ := ObjectTable.insert_eq_ok_iff.mp made
    have live := linkedStart.alive_of_close found step
    rw [own, dead] at live
    cases live
  · rw [gain, Function.update_of_ne (apart other place has)]
    exact spent other place has
  · rw [gain, Function.update_self, unheld]
  · rw [gain, Function.update_of_ne different] at positive
    exact positive

theorem built (conserved : Conserved held start) {kept : Nat → Nat} {plan : SurfacePlan}
    {backBuffer : Option Handle} {handle : Handle} {surface : Surface}
    (linked : Linked final.objects) (built : Built start plan backBuffer handle surface final)
    (alive : ∀ child, backBuffer = some child → (start.objects.block? child).isSome)
    (spent : ∀ other place, start.objects.block? other = some place →
      held place = kept place + if backBuffer = some other then 1 else 0)
    (known : ∀ place, 0 < kept place → 0 < held place) :
    Conserved (gain kept surface.object) final := by
  obtain ⟨-, made, shape, cut, -⟩ := built
  have bare : surface.palette = none ∧ surface.deviceContext = none ∧ surface.cache = none ∧
      surface.backBuffer = backBuffer := by
    rw [shape]
    exact ⟨rfl, rfl, rfl, rfl⟩
  obtain ⟨palette, context, cache, owns⟩ := bare
  refine conserved.create linked made rfl cut (by decide) (fun target step => ?_)
    (fun target step => ?_) (fun other place has => ?_) known
  · rw [Payload.close_mem_teardown, context, cache] at step
    rcases step with step | step <;> cases step
  · rw [Payload.release_mem_teardown, palette, owns] at step
    rcases step with step | step
    · cases step
    · exact alive target step
  · rw [Surface.count_release, palette, owns, if_neg (by simp), Nat.zero_add]
    exact spent other place has

theorem raised (conserved : Conserved held start) {plan : SurfacePlan} {handle : Handle}
    {surface : Surface} (raised : Raised start plan handle surface final) :
    Conserved (gain held surface.object) final := by
  have linked := conserved.linked.raised raised
  cases raised with
  | single built =>
    exact conserved.built linked built (fun _ none => nomatch none) (fun _ _ _ => by simp)
      fun _ positive => positive
  | @double middle _ child back first second =>
    have conservedMiddle : Conserved (gain held back.object) middle :=
      conserved.built (conserved.linked.raised (.single first)) first (fun _ none => nomatch none)
        (fun _ _ _ => by simp) fun _ positive => positive
    have block := ObjectTable.block?_of_surface? (first.live conserved.linked.numbered)
    refine conservedMiddle.built linked second (fun other same => ?_) (fun other place has => ?_)
      fun place positive => ?_
    · cases same
      rw [block]
      rfl
    · rw [conservedMiddle.balanced.gain_eq held block has]
      simp
    · unfold gain
      rw [Function.update_apply]
      split <;> omega

theorem abandoned (conserved : Conserved held start) (abandoned : Abandoned start final) :
    Conserved held final := by
  cases abandoned with
  | early ground => exact conserved.prepared ground
  | @late plan middle final child back first ground =>
    have numbered := conserved.linked.numbered
    have conservedFinal : Conserved (gain held back.object) final :=
      (conserved.built (conserved.linked.raised (.single first)) first (fun _ none => nomatch none)
        (fun _ _ _ => by simp) fun _ positive => positive).prepared ground
    have found : final.objects.find? child = some ⟨child, none, 1, .surface back⟩ := by
      rw [ground.2, ObjectTable.find?_create numbered first.made, if_pos rfl]
    have block : final.objects.block? child = some back.object := by
      rw [ground.2]
      exact ObjectTable.block?_of_surface? (first.live numbered)
    have returned := conservedFinal.releasing block (by rw [gain, Function.update_self]; omega)
    rw [lose_gain, ObjectTable.drain_release_of_last found (Nat.le_refl 1)] at returned
    rw [← ground.2]
    exact returned

theorem mixed (conserved : Conserved held start) {handle : Handle} {palette : Palette}
    (mixed : Mixed start handle palette final) : Conserved (gain held palette.object) final :=
  conserved.create (conserved.linked.mixed mixed) mixed.made rfl mixed.block
    (by decide) (fun _ step => nomatch step) (fun _ step => nomatch step) (fun _ _ _ => rfl)
    fun _ positive => positive

end Conserved

/-! ### Calls -/

namespace Call

/-- Where a call stores an interface pointer that comes with a reference. -/
def answer? : Call → Option Nat
  | createSurface _ out | createPalette _ _ out | getAttachedSurface _ _ out | getPalette _ out =>
    some out
  | _ => none

/-- The interface pointer a reference to which a call gives back. -/
def returns? : Call → Option Nat
  | surfaceRelease this | paletteRelease this => some this
  | _ => none

/-- The ledger of the guest after a call that succeeded. -/
def settle (held : Nat → Nat) (final : Session) : Call → Nat → Nat
  | createSurface _ out | createPalette _ _ out | getAttachedSurface _ _ out | getPalette _ out =>
    gain held (final.pointerAt out)
  | surfaceAddReference this | paletteAddReference this => gain held this
  | surfaceRelease this | paletteRelease this => lose held this
  | _ => held

/-- The ledger of the guest after a call. -/
def ledger (held : Nat → Nat) (session : Session) (call : Call) : Nat → Nat :=
  match call.run session with
  | .ok _ final => call.settle held final
  | .error _ _ => held

/-- There is memory for the pointers that are asked for, and references that are given back were
had. -/
structure Fair (held : Nat → Nat) (session : Session) (call : Call) : Prop where
  backed : ∀ out, call.answer? = some out → session.memory.holds out 4 = true
  owed : ∀ pointer, call.returns? = some pointer → 0 < held pointer

end Call

theorem Conserved.kept (held : Nat → Nat) : Kept Tidying (Conserved held) :=
  ⟨Conserved.linked, Conserved.tidying⟩

theorem Conserved.spares (held : Nat → Nat) (address length : Nat) :
    Spares (Conserved held) address length :=
  fun _ _ _ conserved _ _ _ => ⟨conserved.linked, conserved.balanced⟩

theorem Conserved.answered {held : Nat → Nat} {middle : Session} {pointer out : Nat}
    {handle : Handle} (conserved : Conserved (gain held pointer) middle)
    (block : middle.objects.block? handle = some pointer)
    (backed : middle.memory.holds out 4 = true) :
    Conserved (gain held ((middle.answered out pointer).pointerAt out))
      (middle.answered out pointer) := by
  have below := conserved.balanced.placed handle pointer block
  rw [Session.pointerAt_answered backed (Nat.lt_of_lt_of_le below (Nat.min_le_right _ _))]
  constructor
  · rw [Session.objects_answered]
    exact conserved.linked
  · rw [Session.objects_answered, Session.ceiling_answered]
    exact conserved.balanced

/-- A call that hands out a reference conserves references, if there is memory for the pointer. -/
theorem Conserved.handed {held : Nat → Nat} {session final : Session} {out pointer : Nat}
    (conserved : Conserved held session)
    (room : ∀ object ∈ session.objects.objects, object.references < UInt32.size - 1)
    (ended : session.memory.holds out 4 = true ∧ ∃ middle, Taking session pointer middle ∧
      final = middle.answered out pointer) :
    Conserved (gain held (final.pointerAt out)) final := by
  obtain ⟨backed, middle, taking, rfl⟩ := ended
  have taken := conserved.taking taking room
  obtain @⟨handle, count, objects, block, counted⟩ := taking
  have same := ObjectTable.block?_of_payload?_eq (ObjectTable.payload?_addReference counted)
  exact taken.answered ((congrFun same handle).trans block) backed

/-- Every call conserves references. -/
theorem ends_conserved {held : Nat → Nat} {session : Session} (conserved : Conserved held session)
    (call : Call) (fair : call.Fair held session)
    (room : ∀ object ∈ session.objects.objects, object.references < UInt32.size - 1) :
    Ends call.run session (fun _ final => Conserved (call.settle held final) final)
      (Conserved held) := by
  have kept := Conserved.kept held
  have spares := Conserved.spares held
  have unchanged : ∀ final, final = session → Conserved held final := fun _ same => same ▸ conserved
  cases call with
  | createSurface request out =>
    have numbered := conserved.linked.numbered
    refine ((ends_createSurface numbered request out).discard).imp ?_ ?_
    · rintro _ _ ⟨_, handle, surface, middle, created, rfl, backed, rfl⟩
      have block := ObjectTable.block?_of_surface? (created.live numbered)
      rw [← created.holds] at backed
      obtain ⟨plan, -, raised⟩ := created
      exact (conserved.raised raised).answered block backed
    · rintro final (abandoned | ⟨unbacked, -⟩)
      · exact conserved.abandoned abandoned
      · rw [fair.backed out rfl] at unbacked
        cases unbacked
  | createPalette caps colours out =>
    refine ((ends_createPalette session caps colours out).discard).imp ?_ ?_
    · rintro _ _ ⟨_, handle, palette, middle, mixed, rfl, backed, rfl⟩
      rw [← mixed.groundwork.holds] at backed
      have block : middle.objects.block? handle = some palette.object := by
        rw [ObjectTable.block?, ObjectTable.payload?_create conserved.linked.numbered mixed.made,
          Function.update_self]
        rfl
      exact (conserved.mixed mixed).answered block backed
    · rintro final (ground | ⟨unbacked, -⟩)
      · exact conserved.prepared ground
      · rw [fair.backed out rfl] at unbacked
        cases unbacked
  | setDisplayMode width height depth =>
    have unmapped : ∀ final, Unmapped session final → Conserved held final := by
      rintro _ ⟨-⟩
      exact ⟨conserved.linked, conserved.balanced⟩
    refine (ends_setDisplayMode session width height depth).imp (fun _ => unmapped) ?_
    rintro final (same | changed)
    · exact unchanged final same
    · exact unmapped final changed
  | surfaceAddReference this =>
    refine ((ends_surfaceAddReference this).discard).imp ?_ unchanged
    rintro _ final ⟨_, taking⟩
    exact conserved.taking taking room
  | surfaceRelease this =>
    refine ((ends_surfaceRelease this).discard).imp ?_ unchanged
    rintro _ _ ⟨_, handle, surface, live, rfl, rfl⟩
    exact conserved.releasing (ObjectTable.block?_of_surface? live) (fair.owed _ rfl)
  | getAttachedSurface this caps out =>
    refine ((ends_getAttachedSurface conserved.linked this caps out).discard).imp ?_ ?_
    · rintro _ final ⟨_, ended⟩
      exact conserved.handed room ended
    · rintro final (same | ⟨unbacked, -⟩)
      · exact unchanged final same
      · rw [fair.backed out rfl] at unbacked
        cases unbacked
  | getPalette this out =>
    refine ((ends_getPalette this out).discard).imp ?_ ?_
    · rintro _ final ⟨_, ended⟩
      exact conserved.handed room ended
    · rintro final (same | ⟨unbacked, -⟩)
      · exact unchanged final same
      · rw [fair.backed out rfl] at unbacked
        cases unbacked
  | setPalette this palette =>
    -- Settling adds no references, so there is still room for one when the palette is attached.
    have settling : Kept Settling fun session => Conserved held session ∧
        ∀ object ∈ session.objects.objects, object.references < UInt32.size - 1 := by
      refine ⟨fun held => held.1.linked, fun {before after} held step =>
        ⟨held.1.settling step, fun object member => ?_⟩⟩
      have wf := (held.1.settling step).linked.wf
      obtain ⟨old, was, fewer⟩ := step.references_le held.1.linked
        (ObjectTable.find?_of_mem wf.distinct member)
      exact Nat.lt_of_le_of_lt fewer (held.2 old (ObjectTable.mem_of_find? was))
    exact (ends_setPalette ⟨conserved, room⟩ settling this palette
      fun middle final held step => held.1.attaching step held.2).imp
      (fun _ _ ended => ended.elim And.left id) fun _ failed => failed.elim And.left id
  | lock this out flags => exact ends_lock kept conserved this out flags fun _ _ _ _ => spares _ _
  | unlock this => exact ends_unlock kept conserved this
  | getDC this out =>
    exact (ends_getDC kept conserved this out (spares _ _)).forget
  | releaseDC this context => exact ends_releaseDC kept conserved this context
  | bltFast this x y source region flags =>
    exact (ends_bltFast conserved kept.caching kept this x y source region flags
      fun _ _ _ _ _ _ _ _ _ _ _ _ held step => held.drawing step).imp (fun _ _ ended => ended)
      fun _ failed => failed.elim id id
  | flip this target => exact ends_flip kept conserved this target
  | paletteAddReference this =>
    refine ((ends_paletteAddReference this).discard).imp ?_ unchanged
    rintro _ final ⟨_, taking⟩
    exact conserved.taking taking room
  | paletteRelease this =>
    refine ((ends_paletteRelease this).discard).imp ?_ unchanged
    rintro _ _ ⟨_, handle, palette, live, rfl, rfl⟩
    exact conserved.releasing (ObjectTable.block?_of_palette? live) (fair.owed _ rfl)
  | paletteSetEntries this first count source =>
    exact (ends_paletteSetEntries kept conserved kept this first count source
      (fun _ _ held step => held.recolouring step) fun _ _ _ _ => spares _ _).imp
      (fun _ _ ended => ended) fun _ failed => failed.elim id id
  | cacheOf handle make =>
    exact ((ends_cacheOf kept.caching conserved handle make).weaken fun _ _ ended => ended.1).forget
  | writeBack handle =>
    exact (ends_writeBack kept.settling conserved handle).weaken fun _ _ ended => ended.1
  | picture handle =>
    exact ((ends_picture kept.caching conserved handle).weaken fun _ _ ended => ended.1).forget

end GuestDraw
