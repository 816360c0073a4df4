/-
**Objects in the order of their handles.**

Objects are numbered as they come, and each new one is listed behind the others. Changes leave an
object in its place, and when one goes the others close up. So objects are listed in the order of
their handles in every state, and so are the surfaces among them.

* `ObjectTable.Ascending`: the order, and one lemma for each change of a table;
* `ranked_through`: every state has it;
* `Ascending.surfaces`: the order of surfaces.
-/

import GuestDraw.Proofs.Session.Steps

namespace GuestDraw

namespace ObjectTable

/-- Objects are listed in the order of their handles. -/
def Ascending (table : ObjectTable) : Prop :=
  (table.objects.map (·.handle.number)).Pairwise (· < ·)

namespace Ascending

variable {table after : ObjectTable}

theorem update (ascending : table.Ascending) {handle : Handle} {change : Object → Object}
    (keeps : ∀ object, (change object).handle = object.handle) :
    (table.update handle change).Ascending := by
  have same : (table.update handle change).objects.map (·.handle.number) =
      table.objects.map (·.handle.number) := by
    rw [ObjectTable.update, List.map_map]
    refine List.map_congr_left fun object _ => congrArg Handle.number ?_
    dsimp only
    split
    · exact keeps object
    · rfl
  rw [Ascending, same]
  exact ascending

theorem setPayload (ascending : table.Ascending) (handle : Handle) (payload : Payload) :
    (table.setPayload handle payload).Ascending :=
  ascending.update fun _ => rfl

theorem addReference (ascending : table.Ascending) {handle : Handle} {count : Nat}
    (counted : table.addReference handle = .ok (count, after)) : after.Ascending := by
  obtain ⟨object, -, -, rfl⟩ := addReference_eq_ok_iff.mp counted
  exact ascending.update fun _ => rfl

/-- What is left stays in order. -/
theorem drain (ascending : table.Ascending) (wf : table.WellFormed) (steps : List Teardown) :
    (ObjectTable.drain steps table).Ascending := by
  obtain ⟨members, swept⟩ := swept_drain wf steps
  have numbers : (ObjectTable.drain steps table).objects.map (·.handle.number) =
      (table.objects.filter fun object => decide (object.handle ∉ members)).map
        (·.handle.number) := by
    rw [swept.objects, List.map_map]
    rfl
  rw [Ascending, numbers]
  exact List.Pairwise.sublist (List.Sublist.map _ List.filter_sublist) ascending

/-- A new object comes behind all others. -/
theorem create (ascending : table.Ascending) (numbered : table.Numbered 0) {payload : Payload}
    {handle : Handle} (made : table.create payload = .ok (handle, after)) : after.Ascending := by
  obtain ⟨-, rfl, rfl⟩ := insert_eq_ok_iff.mp made
  rw [Ascending, List.map_append, List.pairwise_append]
  refine ⟨ascending, List.pairwise_singleton _ _, fun first earlier last new => ?_⟩
  obtain ⟨object, member, rfl⟩ := List.mem_map.mp earlier
  rw [List.mem_singleton.mp new]
  exact numbered.below object member

/-- Surfaces are listed in the order of their handles. -/
theorem surfaces (ascending : table.Ascending) :
    (table.surfaces.map (·.1.number)).Pairwise (· < ·) := by
  rw [Ascending, List.pairwise_map] at ascending
  rw [List.pairwise_map, ObjectTable.surfaces, List.pairwise_filterMap]
  refine ascending.imp fun {first second} before one isOne other isOther => ?_
  obtain ⟨_, -, rfl⟩ := Option.map_eq_some_iff.mp isOne
  obtain ⟨_, -, rfl⟩ := Option.map_eq_some_iff.mp isOther
  exact before

end Ascending

end ObjectTable

/-! ### Steps -/

/-- References are in order, and objects are listed in the order of their handles. -/
structure Ranked (session : Session) : Prop where
  linked : Linked session.objects
  ascending : session.objects.Ascending

namespace Ranked

variable {start final : Session}

theorem onward (ranked : Ranked start) (step : Onward start final) : final.objects.Ascending := by
  obtain ⟨linked, ascending⟩ := ranked
  cases step with
  | tidying step =>
    cases step with
    | settling step =>
      cases step with
      | written => exact ascending.setPayload _ _
      | dropped => exact (ascending.setPayload _ _).drain (linked.wf.setPayload _ _) _
    | caching step =>
      obtain ⟨live, bare, unlocked, decoded, made⟩ := step
      exact (ascending.create linked.numbered made).setPayload _ _
    | lockSet => exact ascending.setPayload _ _
    | contextMade live bare made => exact (ascending.create linked.numbered made).setPayload _ _
    | contextCounted => exact ascending.update fun _ => rfl
    | shown => exact ascending
  | forgotten => exact (ascending.setPayload _ _).drain (linked.wf.setPayload _ _) _
  | drawing step =>
    cases step with
    | onCache => exact ascending.setPayload _ _
    | onMemory => exact ascending
  | attaching step =>
    obtain ⟨live, bare, there, different, made⟩ := step
    have attached := (linked.attach live there made).2.2
    exact ((ascending.addReference made).setPayload _ _).drain attached.wf _
  | recolouring step =>
    obtain ⟨-⟩ := step
    exact ascending.setPayload _ _
  | taking step =>
    obtain ⟨-, counted⟩ := step
    exact ascending.addReference counted
  | returned => exact ascending.drain linked.wf _
  | stored => exact ascending

theorem raised (ranked : Ranked start) {plan : SurfacePlan} {handle : Handle} {surface : Surface}
    (raised : Raised start plan handle surface final) : final.objects.Ascending := by
  obtain ⟨linked, ascending⟩ := ranked
  cases raised with
  | single built => exact ascending.create linked.numbered built.made
  | double first second =>
    exact (ascending.create linked.numbered first.made).create
      (linked.raised (.single first)).numbered second.made

theorem step (ranked : Ranked start) (step : Step start final) : Ranked final := by
  refine ⟨ranked.linked.step step, ?_⟩
  cases step with
  | onward step => exact ranked.onward step
  | unmapped step =>
    obtain ⟨-⟩ := step
    exact ranked.ascending
  | prepared ground => exact ground.2.symm ▸ ranked.ascending
  | created created =>
    obtain ⟨plan, -, raised⟩ := created
    exact ranked.raised raised
  | abandoned abandoned =>
    cases abandoned with
    | early ground => exact ground.2.symm ▸ ranked.ascending
    | late first ground =>
      exact (ranked.raised (.single first)).drain (ranked.linked.raised (.single first)).wf _
  | mixed mixed => exact ranked.ascending.create ranked.linked.numbered mixed.made

theorem kept : Kept Step Ranked := ⟨Ranked.linked, Ranked.step⟩

end Ranked

/-- Objects are listed in the order of their handles in every state that a session can come to. -/
theorem ranked_through (memory : Memory) (heap : Heap) (video : Aperture) (stubs : StubTable)
    (firstHandle : Nat) (mode : DisplayMode) (chain : FlipChain) (acts : List Act) :
    Ranked ((Session.start memory heap video stubs firstHandle mode chain).through acts) := by
  have start : Ranked (.start memory heap video stubs firstHandle mode chain) :=
    ⟨.startingAt firstHandle, List.Pairwise.nil⟩
  exact Ranked.kept.through start acts

end GuestDraw
