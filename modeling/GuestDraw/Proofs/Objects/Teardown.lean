/-
**Closing one object.**

What leaves the table with a closed object is told by two rules: an object that a leaving object
closes leaves, and an object to which the leaving objects give back all its references leaves. The
order of the teardowns, cycles, and handles that find nothing have no say in it.

* `close_removes_least`: closing a live object removes exactly the least set of live objects that
  has the object and obeys the two rules, and takes from every other object the references that the
  removed ones gave back.
-/

import GuestDraw.Proofs.Objects.Closing

namespace GuestDraw.ObjectTable

variable {table : ObjectTable}

/-- A set of live objects that has every object that a member closes, and every object to which the
members give back as many references as there are. -/
structure ClosedUnderTeardown (table : ObjectTable) (members : Finset Handle) : Prop where
  live : ∀ handle ∈ members, (table.find? handle).isSome
  closes : ∀ owner ∈ table.objects, owner.handle ∈ members →
    ∀ target, .close target ∈ owner.payload.teardown → (table.find? target).isSome →
      target ∈ members
  releases : ∀ object ∈ table.objects,
    object.references ≤ table.returned members object.handle → object.handle ∈ members

/-- The table `after` is `table` without the objects `removed`, which are those that the closing of
`handle` takes with it. -/
structure ClosedBy (table : ObjectTable) (handle : Handle) (removed : Finset Handle)
    (after : ObjectTable) : Prop where
  least : IsLeast {members | handle ∈ members ∧ table.ClosedUnderTeardown members} removed
  /-- The other objects stay, with the references that were not given back. -/
  objects : after.objects =
    (table.objects.filter fun object => decide (object.handle ∉ removed)).map fun object =>
      { object with references := object.references - table.returned removed object.handle }
  /-- At least one reference was not given back. -/
  referenced : ∀ object ∈ table.objects, object.handle ∉ removed →
    table.returned removed object.handle < object.references
  /-- The names of the removed objects leave. -/
  names : ∀ name, after.names.lookup name =
    (table.names.lookup name).filter fun holder => decide (holder ∉ removed)
  next : after.next = table.next

theorem demand_close (handle : Handle) (members : Finset Handle) (target : Handle) :
    table.demand [.close handle] members target = table.returned members target := by
  simp [demand]

theorem sweeps_close_iff {handle : Handle} (live : (table.find? handle).isSome)
    {members : Finset Handle} :
    table.Sweeps [.close handle] members ↔
      handle ∈ members ∧ table.ClosedUnderTeardown members := by
  constructor
  · intro sweeps
    refine ⟨sweeps.closed handle live (.inl (List.mem_singleton.mpr rfl)), sweeps.live,
      fun owner inside owns target step alive => sweeps.closed target alive (.inr ⟨owner, inside, owns, step⟩),
      fun object inside spent => sweeps.spent object inside ?_⟩
    rw [demand_close]
    exact spent
  · rintro ⟨inside, closed⟩
    refine ⟨closed.live, fun target alive closes => ?_, fun object member spent => ?_⟩
    · rcases closes with step | ⟨owner, member, owns, step⟩
      · cases List.mem_singleton.mp step
        exact inside
      · exact closed.closes owner member owns target step alive
    · rw [demand_close] at spent
      exact closed.releases object member spent

/-- **Closing removes exactly the least set that obeys the rules of teardown.** -/
theorem close_removes_least (wf : table.WellFormed) {handle : Handle}
    (live : (table.find? handle).isSome) :
    ∃ removed after, table.close handle = .ok after ∧ table.ClosedBy handle removed after := by
  obtain ⟨object, found⟩ := Option.isSome_iff_exists.mp live
  obtain ⟨removed, swept⟩ := swept_drain wf [.close handle]
  have closed : table.close handle = .ok (drain [.close handle] table) := by
    simp only [close, found]
  refine ⟨removed, _, closed, ?_, ?_, fun other inside outside => ?_, swept.names, swept.next⟩
  · simpa only [sweeps_close_iff live] using swept.least
  · rw [swept.objects]
    exact List.map_congr_left fun other _ => by rw [lower, demand_close]
  · rw [← demand_close handle]
    exact Nat.lt_of_not_le fun spent => outside (swept.least.1.spent other inside spent)

/-- Two views that hold each other, and a named event that stays. -/
def tiedViews : ObjectTable where
  next := 4
  objects :=
    [⟨⟨1⟩, none, 1, .fileMapping ⟨some ⟨2⟩, 0⟩⟩, ⟨⟨2⟩, none, 1, .fileMapping ⟨some ⟨1⟩, 0⟩⟩,
      ⟨⟨3⟩, some "ready", 1, .event ⟨false, false⟩⟩]
  names := [("ready", ⟨3⟩)]

theorem wellFormed_tiedViews : tiedViews.WellFormed where
  distinct := by decide
  referenced := by decide
  named name handle := by
    by_cases asked : name = "ready"
    · simp [tiedViews, asked, eq_comm]
    · have different : (name == "ready") = false := by simp [asked]
      have other : ¬ "ready" = name := fun same => asked same.symm
      simp [tiedViews, List.lookup_cons, different, other]

/-- Views that hold each other leave together. -/
theorem close_removes_least_tied :
    tiedViews.WellFormed ∧ (tiedViews.find? ⟨1⟩).isSome ∧
      ∃ removed after, tiedViews.close ⟨1⟩ = .ok after ∧ tiedViews.ClosedBy ⟨1⟩ removed after :=
  ⟨wellFormed_tiedViews, by decide, close_removes_least wellFormed_tiedViews (by decide)⟩

end GuestDraw.ObjectTable
