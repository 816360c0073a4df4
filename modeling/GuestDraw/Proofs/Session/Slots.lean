/-
**Calls through vtables.**

A vtable has a stub for each method of its interface, and the stub leads to that method. An attempt
to build it that fails leaves stubs behind which nobody finds, since the next attempt hands out new
ones. Once a vtable is built it stays, as do its stubs, and nothing but a store of the guest can
change what is in its slots.

* `Step.issued`: stubs and vtables stay, in every step;
* `Fitted`: what is in the slots, save for bytes that were spoilt; `Fitted.tended`: it stays there;
* `vtables_faithful`: calls through a vtable in every state that a run comes to which heeds the
  vtables.
-/

import GuestDraw.Proofs.Interface.Records
import GuestDraw.Proofs.Session.Heeding
import GuestDraw.Proofs.Session.Stores

namespace GuestDraw

variable {start middle final session : Session}

/-! ### Stubs stay -/

/-- Stubs and vtables of `start` are those of `final`, where there may be more of them. -/
structure Issued (start final : Session) : Prop where
  next : start.stubs.next ≤ final.stubs.next
  methods : ∀ stub, stub < start.stubs.next → final.methodAt? stub = start.methodAt? stub
  known : ∀ stub method, final.methodAt? stub = some method →
    start.methodAt? stub = some method ∨ stub < final.stubs.next
  tables : ∀ interface vtable, start.vtables.table? interface = some vtable →
    final.vtables.table? interface = some vtable

namespace Issued

theorem refl (session : Session) : Issued session session :=
  ⟨Nat.le_refl _, fun _ _ => rfl, fun _ _ known => .inl known, fun _ _ has => has⟩

theorem trans (first : Issued start middle) (second : Issued middle final) :
    Issued start final where
  next := first.next.trans second.next
  methods stub handed := (second.methods stub (Nat.lt_of_lt_of_le handed first.next)).trans
    (first.methods stub handed)
  known stub method known := by
    rcases second.known stub method known with was | handed
    · exact (first.known stub method was).imp_right fun handed =>
        Nat.lt_of_lt_of_le handed second.next
    · exact .inr handed
  tables interface vtable has := second.tables interface vtable (first.tables interface vtable has)

theorem of_groundwork (ground : Groundwork start final) : Issued start final :=
  ⟨ground.stubsNext, ground.methodsKept, ground.methodsNew, ground.tablesKept⟩

theorem of_same (stubs : final.stubs = start.stubs) (vtables : final.vtables = start.vtables) :
    Issued start final where
  next := by rw [stubs]
  methods stub _ := by rw [Session.methodAt?, vtables, Session.methodAt?]
  known stub method known := by
    rw [Session.methodAt?, vtables] at known
    exact .inl known
  tables interface vtable has := by rw [vtables, has]

end Issued

theorem Step.issued (step : Step start final) : Issued start final := by
  cases step with
  | onward step => exact .of_same step.places.stubs step.places.vtables
  | unmapped step =>
    obtain ⟨-⟩ := step
    exact .of_same rfl rfl
  | prepared ground => exact .of_groundwork ground.1
  | created created => exact .of_groundwork created.groundwork
  | abandoned abandoned =>
    cases abandoned with
    | early ground => exact .of_groundwork ground.1
    | late first ground =>
      have issued := Issued.of_groundwork (first.groundwork.trans ground.1)
      exact ⟨issued.next, issued.methods, issued.known, issued.tables⟩
  | mixed mixed => exact .of_groundwork mixed.groundwork

/-- Every stub that has a method was handed out. -/
def Session.Registered (session : Session) : Prop :=
  ∀ stub method, session.methodAt? stub = some method → stub < session.stubs.next

theorem Session.Registered.issued (registered : start.Registered) (issued : Issued start final) :
    final.Registered := by
  intro stub method known
  rcases issued.known stub method known with was | handed
  · exact Nat.lt_of_lt_of_le (registered stub method was) issued.next
  · exact handed

/-- Whatever is called and whatever fails, stubs and vtables stay. -/
theorem Issued.through (linked : Linked session.objects) (acts : List Act) :
    Issued session (session.through acts) := by
  have kept : Kept Step fun final => Linked final.objects ∧ Issued session final :=
    ⟨And.left, fun held step => ⟨held.1.step step, held.2.trans step.issued⟩⟩
  exact (kept.through ⟨linked, .refl session⟩ acts).2

/-! ### What is in the slots -/

/-- The slots of the vtables hold stubs for their methods, save for the bytes in `spoilt`. -/
structure Fitted (spoilt : Nat → Prop) (session : Session) : Prop where
  arranged : Arranged session
  registered : session.Registered
  slots : ∀ interface vtable, session.vtables.table? interface = some vtable →
    vtable + interface.tableSize < addressSpace ∧
      ∀ index method, interface.methods[index]? = some method →
        Leads spoilt session (vtable + 4 * index) method

theorem Interface.covers_slot {interface : Interface} {vtable index : Nat} {method : Method}
    (slot : interface.methods[index]? = some method) {offset : Nat} (small : offset < 4) :
    (interface.extent vtable).Covers (vtable + 4 * index + offset) := by
  have inside := slot_lt slot
  unfold Extent.Covers Extent.stop extent
  dsimp only
  omega

namespace Fitted

variable {spoilt : Nat → Prop}

/-- Vtables that were there keep their slots, and new ones are filled. -/
theorem carry (fitted : Fitted spoilt start) (arranged : Arranged final)
    (issued : Issued start final)
    (bytes : ∀ interface vtable, start.vtables.table? interface = some vtable →
      ∀ point, (interface.extent vtable).Covers point →
        final.memory.byte? point = start.memory.byte? point ∨ spoilt point)
    (tables : ∀ interface vtable, final.vtables.table? interface = some vtable →
      start.vtables.table? interface = some vtable ∨ vtable + interface.tableSize < addressSpace ∧
        ∀ index method, interface.methods[index]? = some method →
          Leads spoilt final (vtable + 4 * index) method) : Fitted spoilt final where
  arranged := arranged
  registered := fitted.registered.issued issued
  slots interface vtable has := by
    rcases tables interface vtable has with was | new
    · obtain ⟨narrow, leads⟩ := fitted.slots interface vtable was
      refine ⟨narrow, fun index method slot => ?_⟩
      exact (leads index method slot).keep issued.next issued.methods fun offset small =>
        bytes interface vtable was _ (Interface.covers_slot slot small)
    · exact new

/-- Groundwork fills the slots of a vtable that comes with it. -/
theorem grow (fitted : Fitted spoilt start) (arranged : Arranged final)
    (ground : Groundwork start final) : Fitted spoilt final := by
  have sited := fitted.arranged.sited
  refine fitted.carry arranged (.of_groundwork ground) ?_ ?_
  · intro interface vtable has point inside
    exact .inl (sited.byte?_eq ground (Session.extent?_vtable has) inside)
  · intro interface vtable has
    refine (ground.tablesFilled interface vtable has).imp_right fun ⟨narrow, filled⟩ => ?_
    refine ⟨narrow, fun index method slot => ?_⟩
    obtain ⟨stub, handed, small, known, bytes⟩ := filled index method slot
    refine ⟨stub, handed, small, known, fun offset inside => (bytes offset inside).imp_right ?_⟩
    intro mapped
    exact absurd mapped (arranged.sited.not_mappable (Use.reserved_vtable interface)
      (Session.extent?_vtable has) ground sited.ranges.videoAbove
      (Interface.covers_slot slot inside))

/-- Nothing is done to vtables, and bytes of them are stored only in `spoilt`. -/
theorem same (fitted : Fitted spoilt start) (arranged : Arranged final)
    (stubs : final.stubs = start.stubs) (vtables : final.vtables = start.vtables)
    (bytes : ∀ interface vtable, start.vtables.table? interface = some vtable →
      ∀ point, (interface.extent vtable).Covers point →
        final.memory.byte? point = start.memory.byte? point ∨ spoilt point) :
    Fitted spoilt final := by
  refine fitted.carry arranged (.of_same stubs vtables) bytes fun interface vtable has => ?_
  rw [vtables] at has
  exact .inl has

/-- What happens without a new surface keeps the slots. -/
theorem step (fitted : Fitted spoilt start) (step : Discreet start final) :
    Fitted spoilt final := by
  have arranged := Arranged.kept.quiet.discreet.step fitted.arranged step
  have bytes : ∀ interface vtable, start.vtables.table? interface = some vtable →
      ∀ point, (interface.extent vtable).Covers point →
        final.memory.byte? point = start.memory.byte? point ∨ spoilt point := by
    intro interface vtable has point inside
    have reserved := Use.reserved_vtable interface
    have there := Session.extent?_vtable has
    rcases step.still fitted.arranged with still | ⟨handle, palette, entries, repaints, colours⟩ |
      ⟨handle, palette, mixed⟩
    · exact .inl (still.bytes _ _ reserved there point inside)
    · rcases colours with ⟨backed, rfl⟩ | ⟨-, rfl⟩
      · exact .inl (repaints.byte?_repainted fitted.arranged backed reserved there nofun inside)
      · exact .inl rfl
    · exact .inl (fitted.arranged.sited.byte?_eq mixed.groundwork there inside)
  cases step with
  | prepared ground => exact fitted.grow arranged ground.1
  | mixed mixed => exact fitted.grow arranged mixed.groundwork
  | tidying step =>
    have places := (Onward.tidying step).places
    exact fitted.same arranged places.stubs places.vtables bytes
  | drawing step =>
    have places := step.places
    exact fitted.same arranged places.stubs places.vtables bytes
  | attaching step =>
    have places := (Onward.attaching step).places
    exact fitted.same arranged places.stubs places.vtables bytes
  | taking step =>
    have places := (Onward.taking step).places
    exact fitted.same arranged places.stubs places.vtables bytes
  | unmapped step =>
    obtain ⟨-⟩ := step
    exact fitted.same arranged rfl rfl bytes
  | _ => exact fitted.same arranged rfl rfl bytes

theorem abandoned (fitted : Fitted spoilt start) (step : Abandoned start final) :
    Fitted spoilt final := by
  have arranged := fitted.arranged.step (.abandoned step)
  cases step with
  | early ground => exact fitted.grow arranged ground.1
  | late first ground =>
    exact fitted.grow arranged { first.groundwork.trans ground.1 with }

/-- The slots have their stubs as long as the vtables are heeded. -/
theorem tended : Tended (fun use => ∃ interface, use = .vtable interface) Fitted where
  arranged := Fitted.arranged
  discreet := Fitted.step
  created fitted created :=
    fitted.grow (fitted.arranged.step (.created created)) created.groundwork
  abandoned := Fitted.abandoned
  grazed fitted arranged grazed := by
    refine fitted.same arranged grazed.stubs grazed.vtables fun interface vtable has => ?_
    rw [← grazed.vtables] at has
    exact grazed.bytes _ _ (Use.reserved_vtable interface) (Session.extent?_vtable has)
  mono fewer fitted :=
    ⟨fitted.arranged, fitted.registered, fun interface vtable has =>
      ⟨(fitted.slots interface vtable has).1, fun index method slot =>
        ((fitted.slots interface vtable has).2 index method slot).mono fewer⟩⟩
  mend fitted heeds := by
    refine ⟨fitted.arranged, fitted.registered, fun interface vtable has => ?_⟩
    obtain ⟨narrow, leads⟩ := fitted.slots interface vtable has
    refine ⟨narrow, fun index method slot => ?_⟩
    obtain ⟨stub, handed, small, known, bytes⟩ := leads index method slot
    refine ⟨stub, handed, small, known, fun offset inside => .inl ?_⟩
    exact (bytes offset inside).resolve_right (heeds _ _ ⟨interface, rfl⟩
      (Session.extent?_vtable has) _ (Interface.covers_slot slot inside))

end Fitted

/-! ### Slots -/

theorem Method.nodup_surfaces : Method.surfaces.Nodup := by decide

theorem Method.nodup_palettes : Method.palettes.Nodup := by decide

/-- No method has two slots, be it in one vtable or in both. -/
theorem Interface.slot_unique {one other : Interface} {index place : Nat} {method : Method}
    (slot : one.methods[index]? = some method) (more : other.methods[place]? = some method) :
    one = other ∧ index = place := by
  have surface : ∀ {index : Nat}, Interface.surface.methods[index]? = some method →
      ∃ own, method = .surface own := by
    intro index slot
    obtain ⟨own, -, rfl⟩ := List.mem_map.mp (List.mem_of_getElem? slot)
    exact ⟨own, rfl⟩
  have palette : ∀ {index : Nat}, Interface.palette.methods[index]? = some method →
      ∃ own, method = .palette own := by
    intro index slot
    obtain ⟨own, -, rfl⟩ := List.mem_map.mp (List.mem_of_getElem? slot)
    exact ⟨own, rfl⟩
  have inside := (List.getElem?_eq_some_iff.mp slot).1
  cases one with
  | surface =>
    cases other with
    | surface => exact ⟨rfl, (List.getElem?_inj inside Method.nodup_surfaces).mp (slot.trans more.symm)⟩
    | palette =>
      obtain ⟨own, rfl⟩ := surface slot
      obtain ⟨_, ⟨⟩⟩ := palette more
  | palette =>
    cases other with
    | surface =>
      obtain ⟨own, rfl⟩ := surface more
      obtain ⟨_, ⟨⟩⟩ := palette slot
    | palette => exact ⟨rfl, (List.getElem?_inj inside Method.nodup_palettes).mp (slot.trans more.symm)⟩

/-- The slot at `place` holds a stub for the method. -/
def Session.SlotOf (session : Session) (place : Nat) (method : Method) (stub : UInt32) : Prop :=
  session.memory.readDword place = .ok stub ∧ session.methodAt? stub.toNat = some method

theorem Fitted.slot (fitted : Fitted (fun _ => False) session)
    {interface : Interface} {vtable : Nat}
    (has : session.vtables.table? interface = some vtable) {index : Nat} {method : Method}
    (slot : interface.methods[index]? = some method) :
    ∃ stub, session.SlotOf (vtable + 4 * index) method stub := by
  obtain ⟨stub, -, narrow, known, bytes⟩ := (fitted.slots interface vtable has).2 index method slot
  refine ⟨UInt32.ofNat stub, Memory.readDword_of_bytes fun offset small => ?_, ?_⟩
  · exact (bytes offset small).resolve_right id
  · rw [UInt32.toNat_ofNat_of_lt' narrow, known]

/-! ### Vtables -/

/-- Builds the vtable of an interface, unless it is there. -/
def Interface.build : Interface → Engine Nat
  | surface => Engine.surfaceVtable
  | palette => Engine.paletteVtable

theorem Interface.build_of_table? {interface : Interface} {vtable : Nat}
    (has : session.vtables.table? interface = some vtable) :
    interface.build session = .ok vtable session := by
  have ends : Ends interface.build session
      (fun answer left => True ∧ answer = vtable ∧ left = session) fun _ => ¬ True := by
    cases interface with
    | surface =>
      have there : session.vtables.surface = some vtable := has
      refine .read ?_
      rw [there]
      exact ⟨trivial, rfl, rfl⟩
    | palette =>
      have there : session.vtables.palette = some vtable := has
      refine .read ?_
      rw [there]
      exact ⟨trivial, rfl, rfl⟩
  exact ends.ok_iff.mpr ⟨trivial, rfl⟩

/-- A vtable is there once it is built. -/
theorem Interface.build_eq_ok {interface : Interface} {vtable : Nat}
    (built : interface.build session = .ok vtable final) :
    Prepared session session.objects final ∧ final.vtables.table? interface = some vtable := by
  have ground : Prepared session session.objects session := ⟨.refl session, rfl⟩
  cases interface with
  | surface =>
    obtain ⟨prepared, -, has⟩ := (ends_surfaceVtable ground).of_ok built
    exact ⟨prepared, has⟩
  | palette =>
    obtain ⟨prepared, -, has⟩ := (ends_paletteVtable ground).of_ok built
    exact ⟨prepared, has⟩

/-- What the guest finds in the vtables, and what it gets when it calls what it finds there. -/
structure VtablesFaithful (session : Session) : Prop where
  /-- A vtable that was built is there for ever, whatever happens next. -/
  built : ∀ (interface : Interface) (vtable : Nat) (final : Session),
    interface.build session = .ok vtable final →
    final.vtables.table? interface = some vtable ∧
      ∀ acts, interface.build (final.through acts) = .ok vtable (final.through acts)
  /-- Each slot of a vtable that is there holds a stub for its method, and to call that stub is to
  call the method. -/
  slots : ∀ interface vtable, session.vtables.table? interface = some vtable →
    ∀ index method, interface.methods[index]? = some method →
      ∃ stub, session.SlotOf (vtable + 4 * index) method stub ∧
        ∀ words, Engine.callStub stub.toNat words session = Engine.dispatch method words session
  /-- No two slots hold the same stub. -/
  distinct : ∀ one other first second, session.vtables.table? one = some first →
    session.vtables.table? other = some second → ∀ index place,
      index < one.methods.length → place < other.methods.length →
        session.memory.readDword (first + 4 * index) =
          session.memory.readDword (second + 4 * place) →
          one = other ∧ index = place
  /-- Only stubs that were handed out have methods. -/
  handed : ∀ stub method, session.methodAt? stub = some method → stub < session.stubs.next
  /-- A stub that was handed out keeps its method, whatever happens next. -/
  kept : ∀ stub, stub < session.stubs.next →
    ∀ acts, (session.through acts).methodAt? stub = session.methodAt? stub

theorem Fitted.vtablesFaithful (fitted : Fitted (fun _ => False) session) :
    VtablesFaithful session where
  built interface vtable final built := by
    obtain ⟨prepared, has⟩ := Interface.build_eq_ok built
    have linked : Linked final.objects := prepared.2.symm ▸ fitted.arranged.sited.linked
    refine ⟨has, fun acts => ?_⟩
    exact Interface.build_of_table? ((Issued.through linked acts).tables interface vtable has)
  slots interface vtable has index method slot := by
    obtain ⟨stub, taken, known⟩ := fitted.slot has slot
    refine ⟨stub, ⟨taken, known⟩, fun words => ?_⟩
    rw [Engine.callStub_eq, known]
  distinct one other first second hasOne hasOther index place inside insideOther same := by
    obtain ⟨stub, taken, known⟩ := fitted.slot hasOne (List.getElem?_eq_getElem inside)
    obtain ⟨again, takenOther, knownOther⟩ :=
      fitted.slot hasOther (List.getElem?_eq_getElem insideOther)
    rw [taken, takenOther] at same
    cases same
    refine Interface.slot_unique (List.getElem?_eq_getElem inside) ?_
    rw [List.getElem?_eq_getElem insideOther, ← knownOther, known]
  handed := fitted.registered
  kept stub handed acts := (Issued.through fitted.arranged.sited.linked acts).methods stub handed

/-- **Calls through vtables reach their methods** in every state that a session comes to while
nothing is stored on its vtables on account of the guest, whatever is called and whatever fails. -/
theorem vtables_faithful (memory : Memory) {heapBase heapSize videoBase videoSize : Nat}
    (inSpace : heapBase < addressSpace)
    (disjoint : ∀ point, heapBase ≤ point → point < rangeLimit heapBase heapSize →
      videoBase ≤ point → rangeLimit videoBase videoSize ≤ point)
    (stubs : StubTable) (firstHandle : Nat) (mode : DisplayMode) (chain : FlipChain)
    (acts : List Act)
    (heeds : (Session.start memory (.ofRange heapBase heapSize) (.ofRange videoBase videoSize) stubs
      firstHandle mode chain).Heeds (fun use => ∃ interface, use = .vtable interface) acts) :
    VtablesFaithful ((Session.start memory (.ofRange heapBase heapSize) (.ofRange videoBase videoSize)
      stubs firstHandle mode chain).through acts) := by
  have arranged := arranged_start memory inSpace disjoint stubs firstHandle mode chain
  have fitted : Fitted (fun _ => False) (.start memory (.ofRange heapBase heapSize)
      (.ofRange videoBase videoSize) stubs firstHandle mode chain) :=
    ⟨arranged, nofun, fun interface _ has => by cases interface <;> cases has⟩
  exact (Fitted.tended.through fitted heeds).vtablesFaithful

/-- The vtable of surfaces is built, and a surface comes that uses it. -/
theorem vtables_faithful_one_pixel :
    0x70 < addressSpace ∧
      (∀ point, 0x70 ≤ point → point < rangeLimit 0x70 0x140 → 0x10000 ≤ point →
        rangeLimit 0x10000 0x10000 ≤ point) ∧
      onePixel.Heeds (fun use => ∃ interface, use = .vtable interface)
        [.surfaceVtable, .call (.createSurface 4 4)] ∧
      VtablesFaithful (onePixel.through [.surfaceVtable, .call (.createSurface 4 4)]) := by
  have sited := sited_one_pixel
  have heeds : onePixel.Heeds (fun use => ∃ interface, use = .vtable interface)
      [.surfaceVtable, .call (.createSurface 4 4)] := by
    refine sited.heeds_cons ?_ ((Sited.kept.next sited _).heeds_cons ?_ trivial)
    · rintro point ⟨_, target, ⟨⟩, ⟨⟩, -⟩
    · rintro point ⟨_, target, ⟨⟩, ⟨⟩, ⟨-, below⟩, -⟩
      exact ((SameRanges.next sited.linked _).beyond_iff point).mpr (beyond_one_pixel below)
  exact ⟨by decide, disjoint_one_pixel, heeds,
    vtables_faithful _ (by decide) disjoint_one_pixel _ _ _ _ _ heeds⟩

end GuestDraw
