/-
**Primary surfaces.**

A primary surface shows what the display shows: it has its pixels in the frame buffer and the size
of the mode. Several primary surfaces can be there at once, and the frame buffer has to stay while
one of them does. So the mode can change exactly when there is none.

Which surfaces are primary is not written on them, since the capabilities that they and their back
buffers end up with are a setting. It is a matter of how they came (`Session.Primary`). What tells
them apart is where their pixels lie: those of a primary surface, and of no other one, are in the
aperture.

* `Session.Brings`, `Session.Primary`: the surfaces that requests for primary surfaces created;
* `brings_of_createSurface`: a request that succeeds creates one;
* `arrives_of_raised`: what a request brings, and where the pixels of it are;
* `told_through`: primary surfaces are told by their pixels, by induction on the run;
* `primaries_on_screen`: primary surfaces show the frame buffer, and keep the mode.
-/

import GuestDraw.Proofs.Session.Modes
import GuestDraw.Proofs.Session.Screen

namespace GuestDraw

/-! ### What primary surfaces are -/

namespace Session

/-- What is stored at `request` asks for a primary surface. -/
def AsksForPrimary (session : Session) (request : Nat) : Prop :=
  ∃ wanted, Request.read session.memory request = .ok wanted ∧
    wanted.caps.contains SurfaceCaps.primarySurface = true

/-- The request creates the primary surface with this handle. -/
structure Brings (session : Session) (request out : Nat) (handle : Handle) : Prop where
  asked : session.AsksForPrimary request
  fresh : session.objects.surface? handle = none
  there : ((session.next (.call (.createSurface request out))).objects.surface? handle).isSome
  /-- It is not the back buffer of the surface that was asked for. -/
  front : ∀ other owner,
    (session.next (.call (.createSurface request out))).objects.surface? other = some owner →
      owner.backBuffer ≠ some handle

/-- One of the acts since `start` created the primary surface with this handle. -/
def Primary (start : Session) (acts : List Act) (handle : Handle) : Prop :=
  ∃ before request out after, acts = before ++ .call (.createSurface request out) :: after ∧
    (start.through before).Brings request out handle

theorem primary_concat {start : Session} {acts : List Act} {act : Act} {handle : Handle} :
    start.Primary (acts ++ [act]) handle ↔ start.Primary acts handle ∨
      ∃ request out, act = .call (.createSurface request out) ∧
        (start.through acts).Brings request out handle := by
  constructor
  · rintro ⟨before, request, out, after, split, brings⟩
    rcases List.eq_nil_or_concat after with rfl | ⟨more, last, rfl⟩
    · obtain ⟨rfl, same⟩ := List.append_inj' split rfl
      exact .inr ⟨request, out, List.singleton_inj.mp same, brings⟩
    · rw [List.concat_eq_append, ← List.cons_append, ← List.append_assoc] at split
      obtain ⟨rfl, -⟩ := List.append_inj' split rfl
      exact .inl ⟨before, request, out, more, rfl, brings⟩
  · rintro (⟨before, request, out, after, rfl, brings⟩ | ⟨request, out, rfl, brings⟩)
    · exact ⟨before, request, out, after ++ [act], by rw [List.append_assoc, List.cons_append],
        brings⟩
    · exact ⟨acts, request, out, [], rfl, brings⟩

theorem through_concat (start : Session) (acts : List Act) (act : Act) :
    start.through (acts ++ [act]) = (start.through acts).next act := by
  rw [through, List.foldl_append]
  rfl

/-- The address lies in the aperture. -/
def InAperture (session : Session) (address : Nat) : Prop :=
  session.video.base ≤ address ∧ address < session.video.limit

end Session

/-! ### While time goes by -/

/-- No surface has a handle that is yet to be given out. -/
theorem Linked.surface?_of_next_le {table : ObjectTable} (linked : Linked table) {handle : Handle}
    (later : table.next ≤ handle.number) : table.surface? handle = none := by
  cases live : table.surface? handle with
  | none => rfl
  | some surface =>
    have below := linked.number_lt (ObjectTable.surface?_eq_some_iff.mp live)
    exact absurd below (Nat.not_lt.mpr later)

/-- A teardown gives no handle back. -/
theorem ObjectTable.le_next_drain {bound : Nat} {steps : List Teardown} {table : ObjectTable}
    (grown : bound ≤ table.next) : bound ≤ (ObjectTable.drain steps table).next := by
  fun_induction ObjectTable.drain steps table with
  | case1 => exact grown
  | case2 table handle rest dead ih => exact ih grown
  | case3 table handle rest object found last ih => exact ih grown
  | case4 table handle rest object found several ih => exact ih grown
  | case5 table handle rest dead ih => exact ih grown
  | case6 table handle rest object found ih => exact ih grown

/-- A closed object is gone. -/
theorem ObjectTable.payload?_drain_close {table : ObjectTable} (wf : table.WellFormed)
    (handle : Handle) : (ObjectTable.drain [.close handle] table).payload? handle = none := by
  cases found : table.find? handle with
  | none =>
    obtain ⟨members, swept⟩ := swept_drain wf [.close handle]
    rw [swept.payload?, payload?, found]
    split <;> rfl
  | some object =>
    rw [drain_close found]
    obtain ⟨members, swept⟩ := swept_drain (wf.remove (mem_of_find? found)) object.payload.teardown
    rw [swept.payload?, payload?_remove, handle_of_find? found, Function.update_self]
    split <;> rfl

theorem next_le_of_create {table after : ObjectTable} {payload : Payload} {handle : Handle}
    (made : table.create payload = .ok (handle, after)) : table.next ≤ after.next := by
  obtain ⟨-, -, rfl⟩ := ObjectTable.insert_eq_ok_iff.mp made
  exact Nat.le_succ _

/-- The handle of a new object was not given out before. -/
theorem next_le_number_of_create {table after : ObjectTable} {payload : Payload} {handle : Handle}
    (made : table.create payload = .ok (handle, after)) : table.next ≤ handle.number := by
  obtain ⟨-, own, -⟩ := ObjectTable.insert_eq_ok_iff.mp made
  exact Nat.le_of_eq (congrArg Handle.number own).symm

/-- Handles are given out in order, and the aperture stays where it is. -/
structure Aged (start final : Session) : Prop where
  next : start.objects.next ≤ final.objects.next
  videoBase : final.video.base = start.video.base
  videoLimit : final.video.limit = start.video.limit

namespace Aged

variable {start middle final : Session}

theorem refl (session : Session) : Aged session session := ⟨Nat.le_refl _, rfl, rfl⟩

theorem trans (first : Aged start middle) (second : Aged middle final) : Aged start final :=
  ⟨first.next.trans second.next, second.videoBase.trans first.videoBase,
    second.videoLimit.trans first.videoLimit⟩

theorem inAperture_iff (aged : Aged start final) (address : Nat) :
    final.InAperture address ↔ start.InAperture address := by
  rw [Session.InAperture, aged.videoBase, aged.videoLimit, Session.InAperture]

theorem prepared (ground : Prepared start start.objects final) : Aged start final :=
  ⟨Nat.le_of_eq (congrArg ObjectTable.next ground.2.symm), ground.1.videoBase, ground.1.videoLimit⟩

/-- An object is created, and the ground for it laid. -/
theorem created (ground : Groundwork start final) {payload : Payload} {handle : Handle}
    (made : start.objects.create payload = .ok (handle, final.objects)) : Aged start final :=
  ⟨next_le_of_create made, ground.videoBase, ground.videoLimit⟩

end Aged

theorem Tidying.next_le {start final : Session} (step : Tidying start final) :
    start.objects.next ≤ final.objects.next := by
  cases step with
  | settling step =>
    cases step with
    | written => exact Nat.le_refl _
    | dropped => exact ObjectTable.le_next_drain (Nat.le_refl _)
  | caching step =>
    obtain ⟨-, -, -, -, made⟩ := step
    have grown := next_le_of_create made
    exact grown
  | contextMade live bare made =>
    have grown := next_le_of_create made
    exact grown
  | _ => exact Nat.le_refl _

theorem Onward.next_le {start final : Session} (step : Onward start final) :
    start.objects.next ≤ final.objects.next := by
  cases step with
  | tidying step => exact step.next_le
  | drawing step => cases step <;> exact Nat.le_refl _
  | attaching step =>
    obtain ⟨-, -, -, -, counted⟩ := step
    obtain ⟨_, -, -, rfl⟩ := ObjectTable.addReference_eq_ok_iff.mp counted
    exact ObjectTable.le_next_drain (Nat.le_refl _)
  | recolouring step =>
    obtain ⟨-⟩ := step
    exact Nat.le_refl _
  | taking step =>
    obtain ⟨-, counted⟩ := step
    obtain ⟨_, -, -, rfl⟩ := ObjectTable.addReference_eq_ok_iff.mp counted
    exact Nat.le_refl _
  | stored => exact Nat.le_refl _
  | _ => exact ObjectTable.le_next_drain (Nat.le_refl _)

theorem Step.aged {start final : Session} (step : Step start final) : Aged start final := by
  cases step with
  | onward step =>
    have places := step.places
    exact ⟨step.next_le, congrArg Aperture.base places.video, congrArg Aperture.limit places.video⟩
  | unmapped step =>
    obtain ⟨-, base, limit, -⟩ := step
    exact ⟨Nat.le_refl _, base, limit⟩
  | prepared ground => exact .prepared ground
  | created created =>
    obtain ⟨plan, -, built | ⟨first, second⟩⟩ := created
    · exact .created built.groundwork built.made
    · exact (Aged.created first.groundwork first.made).trans
        (.created second.groundwork second.made)
  | abandoned abandoned =>
    cases abandoned with
    | early ground => exact .prepared ground
    | @late plan middle final child back first ground =>
      have aged := (Aged.created first.groundwork first.made).trans (.prepared ground)
      exact ⟨ObjectTable.le_next_drain (ground.2 ▸ aged.next), aged.videoBase, aged.videoLimit⟩
  | mixed mixed => exact .created mixed.groundwork mixed.made

/-- All surfaces of `final` were there at `start`. -/
def NoneNew (start final : Session) : Prop :=
  ∀ handle surface, final.objects.surface? handle = some surface →
    ∃ old, start.objects.surface? handle = some old ∧ surface.fixed = old.fixed

namespace NoneNew

variable {start middle final : Session}

theorem same (objects : final.objects = start.objects) : NoneNew start final :=
  fun _ surface live => ⟨surface, objects ▸ live, rfl⟩

theorem trans (first : NoneNew start middle) (second : NoneNew middle final) :
    NoneNew start final := by
  intro handle surface live
  obtain ⟨later, between, fixed⟩ := second handle surface live
  obtain ⟨old, was, before⟩ := first handle later between
  exact ⟨old, was, fixed.trans before⟩

theorem quiet (linked : Linked start.objects) (quiet : Quiet start final) : NoneNew start final := by
  cases quiet with
  | onward step => exact (step.inherits linked).surface
  | unmapped step =>
    obtain ⟨-⟩ := step
    exact .same rfl
  | prepared ground => exact .same ground.2
  | mixed mixed =>
    intro other surface live
    rcases ObjectTable.surface?_of_create linked.numbered mixed.made live with was | ⟨-, is⟩
    · exact ⟨surface, was, rfl⟩
    · cases is

/-- Surfaces that could not be created are gone. -/
theorem abandoned (linked : Linked start.objects) (abandoned : Abandoned start final) :
    NoneNew start final := by
  cases abandoned with
  | early ground => exact .same ground.2
  | @late plan middle final child back first ground =>
    intro handle surface live
    have between := linked.raised (.single first)
    have closed : (ObjectTable.drain [.close child] middle.objects).surface? child = none := by
      rw [ObjectTable.surface?_eq_bind, ObjectTable.payload?_drain_close between.wf]
      rfl
    obtain ⟨old, before, fixed⟩ :=
      (ObjectTable.Inherits.drain between.wf [.close child]).surface handle surface live
    rcases ObjectTable.surface?_of_create linked.numbered first.made before with was | ⟨rfl, -⟩
    · exact ⟨old, was, fixed⟩
    · cases closed.symm.trans live

/-- No act but one brings a surface. -/
theorem next {session : Session} (linked : Linked session.objects) {act : Act}
    (other : ∀ request out, act ≠ .call (.createSurface request out)) :
    NoneNew session (session.next act) := by
  have kept : Kept Quiet fun final => Linked final.objects ∧ NoneNew session final :=
    ⟨And.left, fun held quiet =>
      ⟨held.1.step quiet.step, held.2.trans (.quiet held.1 quiet)⟩⟩
  exact (ends_act kept ⟨linked, .same rfl⟩ act
    fun request out same => absurd same (other request out)).next.2

end NoneNew

/-- Time goes by with every act. -/
theorem Aged.of_act {session : Session} (linked : Linked session.objects) (act : Act) :
    Aged session (session.next act) := by
  have kept : Kept Step fun final => Linked final.objects ∧ Aged session final :=
    ⟨And.left, fun held step => ⟨held.1.step step, held.2.trans step.aged⟩⟩
  exact (kept.next ⟨linked, .refl session⟩ act).2

/-! ### Scanlines -/

/-- Surfaces have scanlines of the length that their width and depth need. -/
def Pitched (objects : ObjectTable) : Prop :=
  ∀ handle surface, objects.surface? handle = some surface →
    surface.pitch = pitch surface.width surface.depth

namespace Pitched

variable {start final : Session}

theorem noneNew (pitched : Pitched start.objects) (same : NoneNew start final) :
    Pitched final.objects := by
  intro handle surface live
  obtain ⟨old, was, fixed⟩ := same handle surface live
  have pitch : surface.fixed.pitch = old.fixed.pitch := congrArg _ fixed
  have width : surface.fixed.width = old.fixed.width := congrArg _ fixed
  have depth : surface.fixed.depth = old.fixed.depth := congrArg _ fixed
  show surface.fixed.pitch = GuestDraw.pitch surface.fixed.width surface.fixed.depth
  rw [pitch, width, depth]
  exact pitched handle old was

theorem built (pitched : Pitched start.objects) (numbered : start.objects.Numbered 0)
    {plan : SurfacePlan} {backBuffer : Option Handle} {handle : Handle} {surface : Surface}
    (built : Built start plan backBuffer handle surface final) : Pitched final.objects := by
  intro other found live
  rcases ObjectTable.surface?_of_create numbered built.made live with was | ⟨-, is⟩
  · exact pitched other found was
  · cases is
    rw [built.shape]
    rfl

theorem step (pitched : Pitched start.objects) (linked : Linked start.objects)
    (step : Step start final) : Pitched final.objects := by
  cases step with
  | onward step => exact pitched.noneNew (.quiet linked (.onward step))
  | unmapped step => exact pitched.noneNew (.quiet linked (.unmapped step))
  | prepared ground => exact pitched.noneNew (.quiet linked (.prepared ground))
  | created created =>
    obtain ⟨plan, -, built | ⟨first, second⟩⟩ := created
    · exact pitched.built linked.numbered built
    · exact (pitched.built linked.numbered first).built (linked.numbered.insert first.made) second
  | abandoned abandoned => exact pitched.noneNew (.abandoned linked abandoned)
  | mixed mixed => exact pitched.noneNew (.quiet linked (.mixed mixed))

end Pitched

/-! ### Where pixels are -/

/-- The frame buffer lies in the aperture. -/
theorem Ranges.inAperture {session : Session} (ranges : Ranges session) {address : Nat}
    (mapped : session.frameBuffer = some address) : session.InAperture address := by
  obtain ⟨-, -, low, inside, -⟩ := ranges.frame address mapped
  exact ⟨low, inside⟩

/-- Nothing on the heap lies in the aperture. -/
theorem Ranges.not_inAperture {session : Session} (ranges : Ranges session) {extent : Extent}
    (heap : OnHeap session extent) : ¬ session.InAperture extent.address := by
  rintro ⟨low, inside⟩
  have above := heap.above
  have begins := heap.inside
  have limit := ranges.heapBelow
  have common := ranges.apart extent.address above (by omega) low
  omega

/-- The pixels of a surface lie in the aperture if they are in the frame buffer, and only then. -/
theorem Sited.inAperture_iff {session : Session} (sited : Sited session) {handle : Handle}
    {surface : Surface} (live : session.objects.surface? handle = some surface) :
    session.InAperture surface.memory ↔ session.frameBuffer = some surface.memory := by
  refine ⟨fun inside => ?_, sited.ranges.inAperture⟩
  rcases sited.pictured handle surface live with heap | framed
  · exact absurd inside (sited.ranges.not_inAperture heap)
  · exact framed.address

/-- A new surface has its pixels in the aperture if that was the plan. -/
theorem Built.inAperture_iff {start final : Session} (ranges : Ranges start) {plan : SurfacePlan}
    {backBuffer : Option Handle} {handle : Handle} {surface : Surface}
    (built : Built start plan backBuffer handle surface final) :
    final.InAperture surface.memory ↔ plan.backing = .frameBuffer := by
  have grown := ranges.grow built.groundwork
  cases backing : plan.backing with
  | frameBuffer =>
    have pixels := built.pixels
    rw [SurfacePlan.PixelsAt, backing] at pixels
    exact iff_of_true (grown.inAperture pixels) rfl
  | heap =>
    have heap := (built.onNewHeap backing).onHeap ranges built.groundwork
    refine iff_of_false (grown.not_inAperture heap) fun shown => ?_
    cases shown

/-! ### What a request brings -/

/-- What a request is understood as decides whether it asks for a primary surface. -/
theorem Session.Orders.asksForPrimary_iff {session : Session} {request : Nat} {plan : SurfacePlan}
    (orders : session.Orders request plan) :
    session.AsksForPrimary request ↔ plan.backing = .frameBuffer := by
  obtain ⟨wanted, read, planned⟩ := orders
  rw [planSurface_backing planned]
  refine ⟨?_, fun primary => ⟨wanted, read, primary⟩⟩
  rintro ⟨same, again, primary⟩
  cases read.symm.trans again
  exact primary

/-- A surface is new: it is what the plan is for, or the back buffer of that. -/
inductive Arrives (start final : Session) (plan : SurfacePlan) (handle : Handle)
    (surface : Surface) : Prop
  | front (fresh : start.objects.next ≤ handle.number)
    (unowned : ∀ other owner, final.objects.surface? other = some owner →
      owner.backBuffer ≠ some handle)
    (shown : final.InAperture surface.memory ↔ plan.backing = .frameBuffer)
  | back (fresh : start.objects.next ≤ handle.number)
    (owned : ∃ other owner, final.objects.surface? other = some owner ∧
      owner.backBuffer = some handle)
    (hidden : ¬ final.InAperture surface.memory)

theorem Arrives.fresh {start final : Session} {plan : SurfacePlan} {handle : Handle}
    {surface : Surface} (arrives : Arrives start final plan handle surface) :
    start.objects.next ≤ handle.number := by
  cases arrives with
  | front fresh => exact fresh
  | back fresh => exact fresh

/-- The surface that a plan is for has a handle that was not given out before. -/
theorem Raised.fresh {start final : Session} {plan : SurfacePlan} {handle : Handle}
    {surface : Surface} (raised : Raised start plan handle surface final) :
    start.objects.next ≤ handle.number := by
  cases raised with
  | single built => exact next_le_number_of_create built.made
  | double first second =>
    exact (next_le_of_create first.made).trans (next_le_number_of_create second.made)

/-- The surface that a plan is for is nobody's back buffer. -/
theorem Linked.unowned_raised {start final : Session} (linked : Linked start.objects)
    {plan : SurfacePlan} {handle : Handle} {surface : Surface}
    (raised : Raised start plan handle surface final) {other : Handle} {owner : Surface}
    (live : final.objects.surface? other = some owner) : owner.backBuffer ≠ some handle := by
  have after := linked.raised raised
  cases raised with
  | single built => exact linked.unowned_built built live
  | double first second =>
    -- Back buffers have no back buffers, but this surface has one.
    intro owns
    have there := second.live (linked.raised (.single first)).numbered
    obtain ⟨-, kind⟩ := (after.surface live).backBuffer handle owns
    obtain ⟨_, same, alone⟩ := kind _ (ObjectTable.surface?_eq_some_iff.mp there)
    cases same
    rw [second.shape] at alone
    cases alone

/-- The surfaces that are there after one was created were there before, or they have just come. -/
theorem arrives_of_raised {start final : Session} (sited : Sited start) {plan : SurfacePlan}
    {handle : Handle} {surface : Surface} (raised : Raised start plan handle surface final)
    {other : Handle} {found : Surface} (live : final.objects.surface? other = some found) :
    start.objects.surface? other = some found ∨ Arrives start final plan other found := by
  have linked := sited.linked
  have unowned : ∀ owner holder, final.objects.surface? owner = some holder →
      holder.backBuffer ≠ some handle := fun _ _ lives => linked.unowned_raised raised lives
  have fresh := raised.fresh
  cases raised with
  | single built =>
    rcases ObjectTable.surface?_of_create linked.numbered built.made live with before | ⟨rfl, is⟩
    · exact .inl before
    · cases is
      exact .inr (.front fresh unowned (built.inAperture_iff sited.ranges))
  | @double middle _ child back first second =>
    have between := sited.first first
    rcases ObjectTable.surface?_of_create between.linked.numbered second.made live with
      before | ⟨rfl, is⟩
    · refine (ObjectTable.surface?_of_create linked.numbered first.made before).imp_right ?_
      rintro ⟨rfl, is⟩
      cases is
      have owns : surface.backBuffer = some other := by rw [second.shape]; rfl
      refine .back (next_le_number_of_create first.made)
        ⟨handle, surface, second.live between.linked.numbered, owns⟩ ?_
      rw [(Aged.created second.groundwork second.made).inAperture_iff,
        first.inAperture_iff sited.ranges]
      exact nofun
    · cases is
      exact .inr (.front fresh unowned (second.inAperture_iff between.ranges))

/-- The surfaces of `final` were there before the request, or they have come with it. -/
def Session.Fulfilled (session : Session) (request : Nat) (final : Session) : Prop :=
  ∀ handle surface, final.objects.surface? handle = some surface →
    (∃ old, session.objects.surface? handle = some old ∧ surface.fixed = old.fixed) ∨
      ∃ plan, session.Orders request plan ∧ Arrives session final plan handle surface

theorem Sited.fulfilled_of_raised {session final : Session} (sited : Sited session) {request : Nat}
    {plan : SurfacePlan} (orders : session.Orders request plan) {handle : Handle} {surface : Surface}
    (raised : Raised session plan handle surface final) : session.Fulfilled request final := by
  intro other found live
  exact (arrives_of_raised sited raised live).imp (fun was => ⟨found, was, rfl⟩)
    fun arrives => ⟨plan, orders, arrives⟩

/-- The pointer to a surface is stored, which changes neither objects nor ranges. -/
theorem Session.Fulfilled.answered {session middle : Session} {request : Nat}
    (fulfilled : session.Fulfilled request middle) (out pointer : Nat) :
    session.Fulfilled request (middle.answered out pointer) := by
  intro handle surface live
  rw [objects_answered] at live
  refine (fulfilled handle surface live).imp_right ?_
  rintro ⟨plan, orders, arrives⟩
  refine ⟨plan, orders, ?_⟩
  cases arrives with
  | front fresh unowned shown =>
    refine .front fresh ?_ ?_
    · rwa [objects_answered]
    · rwa [InAperture, video_answered]
  | back fresh owned hidden =>
    refine .back fresh ?_ ?_
    · rwa [objects_answered]
    · rwa [InAperture, video_answered]

/-- A request for a surface brings nothing else, also if it fails. -/
theorem Sited.fulfilled {session : Session} (sited : Sited session) (request out : Nat) :
    session.Fulfilled request (session.next (.call (.createSurface request out))) := by
  have ends : Ends (Act.call (.createSurface request out)).run session
      (fun _ => session.Fulfilled request) (session.Fulfilled request) := by
    refine (ends_createSurface_ordered sited.linked.numbered request out).discard.imp ?_ ?_
    · rintro _ _ ⟨pointer, plan, handle, surface, middle, orders, raised, -, -, -, rfl⟩
      exact (sited.fulfilled_of_raised orders raised).answered out _
    · rintro final (abandoned | ⟨-, plan, handle, surface, orders, raised⟩)
      · exact fun other found live =>
          .inl (NoneNew.abandoned sited.linked abandoned other found live)
      · exact sited.fulfilled_of_raised orders raised
  exact ends.next

/-- A request for a primary surface that succeeds brings one, and its pointer is handed out. -/
theorem brings_of_createSurface {session final : Session} (linked : Linked session.objects)
    {request out pointer : Nat} (asked : session.AsksForPrimary request)
    (created : Engine.createSurface request out session = .ok pointer final) :
    ∃ handle surface, session.Brings request out handle ∧
      final.objects.surface? handle = some surface ∧ surface.object = pointer := by
  have next : session.next (.call (.createSurface request out)) = final :=
    Session.next_of_ok rfl created
  obtain ⟨plan, handle, surface, middle, ⟨_, -, planned⟩, raised, -, rfl, -, rfl⟩ :=
    (ends_createSurface_ordered linked.numbered request out).of_ok created
  have live := Created.live ⟨plan, planSurface_shows planned, raised⟩ linked.numbered
  refine ⟨handle, surface, ⟨asked, linked.surface?_of_next_le raised.fresh, ?_, ?_⟩, ?_, rfl⟩
  · rw [next, Session.objects_answered]
    exact Option.isSome_of_eq_some live
  · rw [next, Session.objects_answered]
    exact fun other owner lives => linked.unowned_raised raised lives
  · rwa [Session.objects_answered]

/-! ### Runs -/

/-- The primary surfaces that are live are those with their pixels in the aperture. -/
structure Told (start : Session) (acts : List Act) : Prop where
  /-- The handle of a primary surface is not given out again. -/
  known : ∀ handle, start.Primary acts handle → handle.number < (start.through acts).objects.next
  pixels : ∀ handle surface, (start.through acts).objects.surface? handle = some surface →
    (start.Primary acts handle ↔ (start.through acts).InAperture surface.memory)

namespace Told

variable {start : Session} {acts : List Act}

/-- A surface that stays is told by its pixels as before. -/
theorem retained (told : Told start acts) (linked : Linked (start.through acts).objects) {act : Act}
    {handle : Handle} {surface old : Surface}
    (was : (start.through acts).objects.surface? handle = some old)
    (fixed : surface.fixed = old.fixed) :
    start.Primary (acts ++ [act]) handle ↔
      ((start.through acts).next act).InAperture surface.memory := by
  have memory : surface.fixed.memory = old.fixed.memory := congrArg _ fixed
  rw [Session.primary_concat, (Aged.of_act linked act).inAperture_iff,
    show surface.memory = old.memory from memory, ← told.pixels handle old was]
  refine or_iff_left ?_
  rintro ⟨request, out, -, brings⟩
  cases brings.fresh.symm.trans was

/-- A surface that a request brings is primary if it was asked for and a primary one was. -/
theorem arrived (told : Told start acts) (linked : Linked (start.through acts).objects)
    {request out : Nat} {plan : SurfacePlan} (orders : (start.through acts).Orders request plan)
    {handle : Handle} {surface : Surface}
    (live : ((start.through acts).next (.call (.createSurface request out))).objects.surface?
      handle = some surface)
    (arrives : Arrives (start.through acts)
      ((start.through acts).next (.call (.createSurface request out))) plan handle surface) :
    start.Primary (acts ++ [.call (.createSurface request out)]) handle ↔
      ((start.through acts).next (.call (.createSurface request out))).InAperture surface.memory := by
  have before : ¬ start.Primary acts handle := fun primary =>
    absurd (told.known handle primary) (Nat.not_lt.mpr arrives.fresh)
  have unused := linked.surface?_of_next_le arrives.fresh
  have there := Option.isSome_of_eq_some live
  rw [Session.primary_concat, or_iff_right before]
  cases arrives with
  | front _ unowned shown =>
    rw [shown, ← orders.asksForPrimary_iff]
    constructor
    · rintro ⟨_, _, same, brings⟩
      cases same
      exact brings.asked
    · exact fun asked => ⟨request, out, rfl, asked, unused, there, unowned⟩
  | back _ owned hidden =>
    obtain ⟨other, owner, lives, has⟩ := owned
    refine iff_of_false ?_ hidden
    rintro ⟨_, _, same, brings⟩
    cases same
    exact brings.front other owner lives has

/-- Primary surfaces are told by their pixels after one more act. -/
theorem concat (told : Told start acts) (sited : Sited (start.through acts)) (act : Act) :
    Told start (acts ++ [act]) := by
  have linked := sited.linked
  have later := Sited.kept.next sited act
  refine ⟨fun handle primary => ?_, fun handle surface live => ?_⟩
  · rw [Session.through_concat]
    rcases Session.primary_concat.mp primary with before | ⟨request, out, rfl, brings⟩
    · exact Nat.lt_of_lt_of_le (told.known handle before) (Aged.of_act linked act).next
    · obtain ⟨surface, there⟩ := Option.isSome_iff_exists.mp brings.there
      exact later.linked.number_lt (ObjectTable.surface?_eq_some_iff.mp there)
  · rw [Session.through_concat] at live ⊢
    by_cases creates : ∃ request out, act = .call (.createSurface request out)
    · obtain ⟨request, out, rfl⟩ := creates
      rcases sited.fulfilled request out handle surface live with
        ⟨old, was, fixed⟩ | ⟨plan, orders, arrives⟩
      · exact told.retained linked was fixed
      · exact told.arrived linked orders live arrives
    · have other : ∀ request out, act ≠ .call (.createSurface request out) :=
        fun request out same => creates ⟨request, out, same⟩
      obtain ⟨old, was, fixed⟩ := NoneNew.next linked other handle surface live
      exact told.retained linked was fixed

end Told

/-- Primary surfaces are told by their pixels in every state. -/
theorem told_through {start : Session} (sited : Sited start)
    (empty : ∀ handle, start.objects.surface? handle = none) (acts : List Act) :
    Told start acts := by
  induction acts using List.reverseRecOn with
  | nil =>
    have nobody : ∀ handle, ¬ start.Primary [] handle := by
      rintro handle ⟨before, request, out, after, split, -⟩
      simp at split
    refine ⟨fun handle primary => absurd primary (nobody handle), fun handle surface live => ?_⟩
    cases (empty handle).symm.trans live
  | append_singleton acts act ih => exact ih.concat (Sited.kept.through sited acts) act

/-! ### Every state -/

/-- The surface shows what the display shows, and the frame buffer has room for it. -/
structure Session.Displays (session : Session) (surface : Surface) : Prop where
  address : session.frameBuffer = some surface.memory
  width : surface.width = session.mode.width
  height : surface.height = session.mode.height
  depth : surface.depth = session.mode.depth
  mapping : ∃ length, session.video.length? surface.memory = some length ∧
    surface.pitch * surface.height ≤ length

/-- What has its pixels in the frame buffer shows what the display shows. -/
theorem Sited.displays {session : Session} (sited : Sited session) (mapped : Mapped session)
    (pitched : Pitched session.objects) {handle : Handle} {surface : Surface}
    (live : session.objects.surface? handle = some surface)
    (address : session.frameBuffer = some surface.memory) : session.Displays surface := by
  have shown := sited.inFrame live address
  obtain ⟨size, length, sized, known, roomy⟩ := mapped _ address
  refine ⟨address, shown.width, shown.height, shown.depth, length, known, ?_⟩
  rw [pitched handle surface live]
  exact (shown.size_eq sized).symm.trans_le roomy

/-- Primary surfaces show the frame buffer, and the mode changes as a whole while there is none. -/
structure PrimariesOnScreen (start : Session) (acts : List Act) : Prop where
  shown : ∀ handle surface, start.Primary acts handle →
    (start.through acts).objects.surface? handle = some surface →
      (start.through acts).Displays surface
  settable : ∀ width height depth, depth ∈ DisplayMode.depths → width ≠ 0 → height ≠ 0 →
    ((∃ final, Engine.setDisplayMode width height depth (start.through acts) = .ok () final) ↔
      ∀ handle, start.Primary acts handle → (start.through acts).objects.surface? handle = none)
  /-- A mode that cannot be set leaves mode, frame buffer and aperture alone, and all else. -/
  refused : ∀ width height depth cause final,
    Engine.setDisplayMode width height depth (start.through acts) = .error cause final →
      final = start.through acts

theorem Told.primariesOnScreen {start : Session} {acts : List Act} (told : Told start acts)
    (sited : Sited (start.through acts)) (mapped : Mapped (start.through acts))
    (pitched : Pitched (start.through acts).objects) : PrimariesOnScreen start acts := by
  have ends := mapped.ends_setDisplayMode
  -- The frame buffer is in use as long as a primary surface is live.
  have used : (start.through acts).frameBufferInUse = false ↔
      ∀ handle, start.Primary acts handle →
        (start.through acts).objects.surface? handle = none := by
    rw [← Bool.not_eq_true, Session.frameBufferInUse_iff sited.linked.wf]
    constructor
    · intro unused handle primary
      cases live : (start.through acts).objects.surface? handle with
      | none => rfl
      | some surface =>
        have inside := (told.pixels handle surface live).mp primary
        exact absurd ⟨handle, surface, live, (sited.inAperture_iff live).mp inside⟩ unused
    · rintro gone ⟨handle, surface, live, address⟩
      have inside := (sited.inAperture_iff live).mpr address
      cases (gone handle ((told.pixels handle surface live).mpr inside)).symm.trans live
  refine ⟨fun handle surface primary live => ?_, fun width height depth supported wide high => ?_,
    fun width height depth cause final failed => ?_⟩
  · have inside := (told.pixels handle surface live).mp primary
    exact sited.displays mapped pitched live ((sited.inAperture_iff live).mp inside)
  · rw [← used]
    have ended := ends width height depth
    unfold Ends at ended
    cases result : Engine.setDisplayMode width height depth (start.through acts) with
    | ok value final =>
      rw [result] at ended
      exact iff_of_true ⟨final, rfl⟩ ended.unused
    | error cause final =>
      rw [result] at ended
      exact iff_of_false (by rintro ⟨_, ⟨⟩⟩) fun unused =>
        ended.2 ⟨supported, wide, high, unused⟩
  · have ended := ends width height depth
    unfold Ends at ended
    rw [failed] at ended
    exact ended.1

/-- **Primary surfaces show the frame buffer** in every state, whatever was called and whatever
failed. The mode can be set exactly when none of them is live. -/
theorem primaries_on_screen (memory : Memory) {heapBase heapSize videoBase videoSize : Nat}
    (inSpace : heapBase < addressSpace)
    (disjoint : ∀ point, heapBase ≤ point → point < rangeLimit heapBase heapSize →
      videoBase ≤ point → rangeLimit videoBase videoSize ≤ point)
    (stubs : StubTable) (firstHandle : Nat) (mode : DisplayMode) (chain : FlipChain)
    (acts : List Act) :
    PrimariesOnScreen (.start memory (.ofRange heapBase heapSize) (.ofRange videoBase videoSize) stubs
      firstHandle mode chain) acts := by
  have sited := sited_start memory inSpace disjoint stubs firstHandle mode chain
  have kept : Kept Step fun session =>
      Linked session.objects ∧ Mapped session ∧ Pitched session.objects :=
    ⟨And.left, fun held step =>
      ⟨held.1.step step, held.2.1.step step, held.2.2.step held.1 step⟩⟩
  obtain ⟨-, mapped, pitched⟩ := kept.through
    ⟨sited.linked, (fun _ none => nomatch none), fun _ _ live => nomatch live⟩ acts
  exact (told_through sited (fun _ => rfl) acts).primariesOnScreen
    (Sited.kept.through sited acts) mapped pitched

/-- A primary surface of one pixel, with the frame buffer at the end of a page. -/
def onePixelShown : Session :=
  .start
    ((Memory.zeroed 0xFF0 0x1D0).put 0x1000 <| recordBytes 0x6C
      [(Descriptor.sizeOffset, 0x6C), (Descriptor.flagsOffset, DescFlags.caps.bits),
        (Descriptor.capsOffset, SurfaceCaps.primarySurface.bits)])
    (.ofRange 0x1070 0x150) (.ofRange 0xFF0 0x10) (.ofRange 0x20000 0x1000) 1 ⟨1, 1, 32⟩
    .standard

/-- A surface comes that is shown, and a mode that it does not allow. -/
theorem primaries_on_screen_one_pixel :
    0x1070 < addressSpace ∧
      (∀ point, 0x1070 ≤ point → point < rangeLimit 0x1070 0x150 → 0xFF0 ≤ point →
        rangeLimit 0xFF0 0x10 ≤ point) ∧
      PrimariesOnScreen onePixelShown
        [.call (.createSurface 0x1000 0x106C), .call (.setDisplayMode 2 2 16)] := by
  have disjoint : ∀ point, 0x1070 ≤ point → point < rangeLimit 0x1070 0x150 → 0xFF0 ≤ point →
      rangeLimit 0xFF0 0x10 ≤ point := by
    intro point above _ _
    exact (by decide : rangeLimit 0xFF0 0x10 ≤ 0x1070).trans above
  have inSpace : 0x1070 < addressSpace := by decide
  exact ⟨inSpace, disjoint, primaries_on_screen _ inSpace disjoint _ _ _ _ _⟩

end GuestDraw
