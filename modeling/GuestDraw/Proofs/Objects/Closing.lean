/-
**What a closing takes with it.**

Closing an object leaves work behind, and doing that work may close further objects, in an order
that depends on the table. The outcome does not: the objects that leave are the least set that the
work sweeps away.

A set of live objects is *swept* by `steps` if it has every live object that is closed by a step or
by the teardown of a member, and every object to which the steps and the teardowns of the members
together give back as many references as there are.

* `swept_drain`: doing the steps removes exactly the least swept set; any other object loses as many
  references as the steps and the removed objects gave back, and nothing else.
* `Swept.demanded`: a member of the least swept set is there for one of the two reasons;
* `Swept.find?`, `Swept.wellFormed`: what is left is well-formed, and each handle finds what it
  found.

The induction is on the work that is left. A step that removes an object trades the step for the
object's teardown; the sets swept before are those swept afterwards, with the object added
(`sweeps_insert_iff`).
-/

import Mathlib.Data.Finset.Basic
import Mathlib.Order.Bounds.Basic
import GuestDraw.Proofs.Objects.Draining
import GuestDraw.Proofs.Objects.WellFormed

namespace GuestDraw.ObjectTable

variable {table : ObjectTable}

/-! ### Swept sets -/

/-- The references to `target` that an object gives back when it is closed as a member. -/
def share (members : Finset Handle) (target : Handle) (object : Object) : Nat :=
  if object.handle ∈ members then object.payload.teardown.count (.release target) else 0

/-- The references to `target` that the members give back when they are closed. -/
def returned (table : ObjectTable) (members : Finset Handle) (target : Handle) : Nat :=
  table.total (share members target)

/-- The references to `target` that the steps and the members give back. -/
def demand (table : ObjectTable) (steps : List Teardown) (members : Finset Handle)
    (target : Handle) : Nat :=
  steps.count (.release target) + table.returned members target

/-- The steps, or the teardown of a member, close `target`. -/
def Closes (table : ObjectTable) (steps : List Teardown) (members : Finset Handle)
    (target : Handle) : Prop :=
  .close target ∈ steps ∨
    ∃ owner ∈ table.objects, owner.handle ∈ members ∧ .close target ∈ owner.payload.teardown

/-- A set of live objects that has everything the steps and its members do away with. -/
structure Sweeps (table : ObjectTable) (steps : List Teardown) (members : Finset Handle) :
    Prop where
  live : ∀ handle ∈ members, (table.find? handle).isSome
  closed : ∀ target, (table.find? target).isSome → table.Closes steps members target →
    target ∈ members
  spent : ∀ object ∈ table.objects,
    object.references ≤ table.demand steps members object.handle → object.handle ∈ members

/-- An object with the references that are left of it. -/
def lower (table : ObjectTable) (steps : List Teardown) (members : Finset Handle)
    (object : Object) : Object :=
  { object with
    references := object.references - table.demand steps members object.handle }

/-- The table `after` is what is left of `table` when `steps` have done away with `members`. -/
structure Swept (table : ObjectTable) (steps : List Teardown) (members : Finset Handle)
    (after : ObjectTable) : Prop where
  least : IsLeast {swept | table.Sweeps steps swept} members
  objects : after.objects =
    (table.objects.filter fun object => decide (object.handle ∉ members)).map
      (table.lower steps members)
  names : ∀ name, after.names.lookup name =
    (table.names.lookup name).filter fun handle => decide (handle ∉ members)
  next : after.next = table.next

theorem total_congr {first second : Object → Nat}
    (same : ∀ object ∈ table.objects, first object = second object) :
    table.total first = table.total second := by
  rw [total, total, List.map_congr_left same]

theorem returned_mono {first second : Finset Handle} (within : first ⊆ second)
    (target : Handle) : table.returned first target ≤ table.returned second target := by
  refine List.sum_le_sum fun object _ => ?_
  unfold share
  by_cases inside : object.handle ∈ first
  · rw [if_pos inside, if_pos (within inside)]
  · rw [if_neg inside]
    exact Nat.zero_le _

theorem demand_cons (first : Teardown) (rest : List Teardown) (members : Finset Handle)
    (target : Handle) :
    table.demand (first :: rest) members target =
      table.demand rest members target + if first = .release target then 1 else 0 := by
  rw [demand, demand, List.count_cons]
  simp only [beq_iff_eq]
  omega

/-! ### A step that removes an object -/

section Removing

variable {object : Object} {first : Teardown} {rest : List Teardown} {members : Finset Handle}

theorem mem_remove {other : Object} :
    other ∈ (table.remove object).objects ↔
      other ∈ table.objects ∧ other.handle ≠ object.handle := by
  simp [remove]

theorem isSome_find?_remove {handle : Handle} :
    ((table.remove object).find? handle).isSome ↔
      (table.find? handle).isSome ∧ handle ≠ object.handle := by
  rw [find?_remove]
  by_cases same : handle = object.handle <;> simp [same]

/-- With the removed object among the members, its teardown counts as theirs. -/
theorem demand_union (wf : table.WellFormed) (member : object ∈ table.objects)
    (target : Handle) :
    table.demand rest ({object.handle} ∪ members) target =
      (table.remove object).demand (object.payload.teardown ++ rest) members target := by
  have others : (table.remove object).total (share ({object.handle} ∪ members) target) =
      (table.remove object).total (share members target) :=
    total_congr fun other inside => by
      simp [share, (mem_remove.mp inside).2]
  have own : share ({object.handle} ∪ members) target object =
      object.payload.teardown.count (.release target) := by simp [share]
  rw [demand, demand, returned, returned, ← total_remove wf.distinct _ member, others, own,
    List.count_append]
  omega

/-- What a step about an object gives back to other ones is what the object's teardown gives. -/
theorem demand_removing (wf : table.WellFormed) (member : object ∈ table.objects)
    (about : first.target = object.handle) {target : Handle} (different : target ≠ object.handle) :
    table.demand (first :: rest) ({object.handle} ∪ members) target =
      (table.remove object).demand (object.payload.teardown ++ rest) members target := by
  have elsewhere : first ≠ .release target := by
    rintro rfl
    exact different about
  rw [demand_cons, if_neg elsewhere, demand_union wf member, Nat.add_zero]

/-- The sets swept before an object is removed are those swept afterwards, with the object. -/
theorem sweeps_union_iff (wf : table.WellFormed) (member : object ∈ table.objects)
    (absent : object.handle ∉ members) (about : first.target = object.handle) :
    table.Sweeps (first :: rest) ({object.handle} ∪ members) ↔
      (table.remove object).Sweeps (object.payload.teardown ++ rest) members := by
  constructor
  · intro sweeps
    refine ⟨fun handle inside => ?_, fun target live closes => ?_, fun other inside spent => ?_⟩
    · exact isSome_find?_remove.mpr ⟨sweeps.live handle (Finset.mem_union_right _ inside),
        fun same => absent (same ▸ inside)⟩
    · obtain ⟨live, different⟩ := isSome_find?_remove.mp live
      have closesBefore : table.Closes (first :: rest) ({object.handle} ∪ members) target := by
        rcases closes with inSteps | ⟨owner, inside, owns, step⟩
        · rcases List.mem_append.mp inSteps with step | step
          · exact .inr ⟨object, member, by simp, step⟩
          · exact .inl (List.mem_cons_of_mem _ step)
        · exact .inr ⟨owner, (mem_remove.mp inside).1, Finset.mem_union_right _ owns, step⟩
      simpa [different] using sweeps.closed target live closesBefore
    · obtain ⟨inside, different⟩ := mem_remove.mp inside
      rw [← demand_removing wf member about different] at spent
      simpa [different] using sweeps.spent other inside spent
  · intro sweeps
    refine ⟨fun handle inside => ?_, fun target live closes => ?_, fun other inside spent => ?_⟩
    · rcases Finset.mem_union.mp inside with own | inside
      · rw [Finset.mem_singleton.mp own, find?_of_mem wf.distinct member]
        rfl
      · exact (isSome_find?_remove.mp (sweeps.live handle inside)).1
    · by_cases same : target = object.handle
      · simp [same]
      · refine Finset.mem_union_right _
          (sweeps.closed target (isSome_find?_remove.mpr ⟨live, same⟩) ?_)
        rcases closes with inSteps | ⟨owner, inside, owns, step⟩
        · rcases List.mem_cons.mp inSteps with rfl | step
          · exact absurd about same
          · exact .inl (List.mem_append_right _ step)
        · by_cases own : owner.handle = object.handle
          · have equal : owner = object :=
              List.inj_on_of_nodup_map wf.distinct inside member own
            exact .inl (List.mem_append_left _ (equal ▸ step))
          · exact .inr ⟨owner, mem_remove.mpr ⟨inside, own⟩, by simpa [own] using owns, step⟩
    · by_cases same : other.handle = object.handle
      · simp [same]
      · rw [demand_removing wf member about same] at spent
        exact Finset.mem_union_right _ (sweeps.spent other (mem_remove.mpr ⟨inside, same⟩) spent)

/-- A step that removes its object first and then does the object's teardown. -/
theorem Swept.removing {after : ObjectTable} (wf : table.WellFormed)
    (member : object ∈ table.objects) (about : first.target = object.handle)
    (forced : ∀ swept, table.Sweeps (first :: rest) swept → object.handle ∈ swept)
    (swept : (table.remove object).Swept (object.payload.teardown ++ rest) members after) :
    table.Swept (first :: rest) ({object.handle} ∪ members) after := by
  have absent : object.handle ∉ members := fun inside =>
    (isSome_find?_remove.mp (swept.least.1.live _ inside)).2 rfl
  refine ⟨⟨(sweeps_union_iff wf member absent about).mpr swept.least.1, fun other sweeps => ?_⟩,
    ?_, fun name => ?_, swept.next⟩
  · have inside := forced other sweeps
    have split : {object.handle} ∪ other.erase object.handle = other := by
      ext handle
      by_cases same : handle = object.handle <;> simp [same, inside]
    have below := swept.least.2 ((sweeps_union_iff wf member
      (Finset.notMem_erase _ _) about).mp (split.symm ▸ sweeps))
    rw [← split]
    exact Finset.union_subset_union_right below
  · have left : ((table.remove object).objects.filter fun other => decide (other.handle ∉ members)) =
        table.objects.filter fun other => decide (other.handle ∉ {object.handle} ∪ members) := by
      simp only [remove, List.filter_filter, Finset.mem_union, Finset.mem_singleton, not_or,
        Bool.decide_and, Bool.and_comm]
    rw [swept.objects, left]
    refine List.map_congr_left fun other inside => ?_
    have outside : other.handle ∉ {object.handle} ∪ members := by
      simpa using (List.mem_filter.mp inside).2
    have different : other.handle ≠ object.handle := fun same => outside (by simp [same])
    rw [lower, lower, demand_removing wf member about different]
  · rw [swept.names, wf.lookup_remove member]
    cases table.names.lookup name with
    | none => rfl
    | some handle =>
      by_cases own : handle = object.handle <;> simp [Option.filter, own]

end Removing

/-! ### A step that removes nothing -/

/-- A step that is about no live object changes nothing. -/
theorem Swept.skipping {first : Teardown} {rest : List Teardown} {members : Finset Handle}
    {after : ObjectTable} (dead : table.find? first.target = none)
    (swept : table.Swept rest members after) : table.Swept (first :: rest) members after := by
  have others : ∀ object ∈ table.objects, ∀ others : Finset Handle,
      table.demand (first :: rest) others object.handle =
        table.demand rest others object.handle := by
    intro object inside others
    have elsewhere : first ≠ .release object.handle := by
      rintro rfl
      exact find?_eq_none_iff.mp dead object inside rfl
    rw [demand_cons, if_neg elsewhere, Nat.add_zero]
  have sweeps_iff : ∀ others, table.Sweeps (first :: rest) others ↔ table.Sweeps rest others := by
    intro members
    constructor
    · intro sweeps
      refine ⟨sweeps.live, fun target live closes => sweeps.closed target live ?_,
        fun object inside spent => sweeps.spent object inside (others object inside members ▸ spent)⟩
      exact closes.imp_left (List.mem_cons_of_mem _)
    · intro sweeps
      refine ⟨sweeps.live, fun target live closes => sweeps.closed target live ?_,
        fun object inside spent => sweeps.spent object inside
          ((others object inside members).symm ▸ spent)⟩
      refine closes.imp_left fun step => (List.mem_cons.mp step).resolve_left ?_
      rintro rfl
      have gone : table.find? target = none := dead
      simp [gone] at live
  refine ⟨?_, ?_, swept.names, swept.next⟩
  · simpa only [sweeps_iff] using swept.least
  · rw [swept.objects]
    refine List.map_congr_left fun object inside => ?_
    rw [lower, lower, others object (List.mem_of_mem_filter inside)]

/-- A change of a count leaves alone what closing gives back. -/
theorem demand_update {handle : Handle} {change : Object → Object}
    (keepsHandle : ∀ object, (change object).handle = object.handle)
    (keepsPayload : ∀ object, (change object).payload = object.payload)
    (steps : List Teardown) (members : Finset Handle) (target : Handle) :
    (table.update handle change).demand steps members target =
      table.demand steps members target := by
  have same : ∀ object : Object,
      share members target (if object.handle = handle then change object else object) =
        share members target object := by
    intro object
    split
    · rw [share, share, keepsHandle, keepsPayload]
    · rfl
  simp only [demand, returned, total, update, List.map_map, Function.comp_def, same]

/-- Giving back one of several references. -/
theorem Swept.lowering {object : Object} {rest : List Teardown} {members : Finset Handle}
    {after : ObjectTable} (wf : table.WellFormed) (member : object ∈ table.objects)
    (several : 1 < object.references)
    (swept : (table.update object.handle Object.giveBack).Swept rest members after) :
    table.Swept (.release object.handle :: rest) members after := by
  let lessen : Object → Object := fun other =>
    if other.handle = object.handle then other.giveBack else other
  have handle_lessen : ∀ other, (lessen other).handle = other.handle := by
    intro other
    by_cases own : other.handle = object.handle <;> simp [lessen, own, Object.giveBack]
  have payload_lessen : ∀ other, (lessen other).payload = other.payload := by
    intro other
    by_cases own : other.handle = object.handle <;> simp [lessen, own, Object.giveBack]
  have before : ∀ others target,
      (table.update object.handle Object.giveBack).demand rest others target =
        table.demand rest others target :=
    demand_update Object.handle_giveBack Object.payload_giveBack rest
  -- One reference fewer against one step fewer: the same objects run out of references.
  have spent_iff : ∀ other ∈ table.objects, ∀ others : Finset Handle,
      (lessen other).references ≤ table.demand rest others other.handle ↔
        other.references ≤
          table.demand (.release object.handle :: rest) others other.handle := by
    intro other inside others
    rw [demand_cons]
    by_cases own : other.handle = object.handle
    · have equal : other = object :=
        List.inj_on_of_nodup_map wf.distinct inside member own
      subst equal
      simp only [lessen, if_true, Object.giveBack]
      omega
    · have elsewhere : object.handle ≠ other.handle := fun same => own same.symm
      simp [lessen, own, elsewhere]
  have sweeps_iff : ∀ others, table.Sweeps (.release object.handle :: rest) others ↔
      (table.update object.handle Object.giveBack).Sweeps rest others := by
    intro others
    have live_iff : ∀ handle,
        ((table.update object.handle Object.giveBack).find? handle).isSome ↔
          (table.find? handle).isSome := by
      intro handle
      rw [find?_update Object.handle_giveBack]
      split <;> simp
    have closes_iff : ∀ target,
        (table.update object.handle Object.giveBack).Closes rest others target ↔
          table.Closes (.release object.handle :: rest) others target := by
      intro target
      refine or_congr (by simp) ?_
      show (∃ owner ∈ table.objects.map lessen, _) ↔ _
      simp only [List.mem_map, exists_exists_and_eq_and, handle_lessen, payload_lessen]
    constructor
    · intro sweeps
      refine ⟨fun handle inside => (live_iff handle).mpr (sweeps.live handle inside),
        fun target live closes => sweeps.closed target ((live_iff target).mp live)
          ((closes_iff target).mp closes), fun other inside spent => ?_⟩
      obtain ⟨original, member, rfl⟩ := List.mem_map.mp inside
      rw [before, handle_lessen] at spent
      rw [handle_lessen]
      exact sweeps.spent original member ((spent_iff original member others).mp spent)
    · intro sweeps
      refine ⟨fun handle inside => (live_iff handle).mp (sweeps.live handle inside),
        fun target live closes => sweeps.closed target ((live_iff target).mpr live)
          ((closes_iff target).mpr closes), fun other inside spent => ?_⟩
      have kept := sweeps.spent (lessen other) (List.mem_map_of_mem inside)
      rw [before, handle_lessen] at kept
      exact kept ((spent_iff other inside others).mpr spent)
  refine ⟨by simpa only [sweeps_iff] using swept.least, ?_, swept.names, swept.next⟩
  rw [swept.objects]
  show ((table.objects.map lessen).filter _).map _ = _
  rw [List.filter_map, List.map_map]
  simp only [Function.comp_def, handle_lessen]
  refine List.map_congr_left fun other inside => ?_
  simp only [lower, before, handle_lessen, demand_cons]
  by_cases own : other.handle = object.handle
  · simp only [lessen, own, if_true, Object.giveBack]
    congr 1
    omega
  · have elsewhere : object.handle ≠ other.handle := fun same => own same.symm
    simp [lessen, own, elsewhere]

/-! ### All the work -/

/-- Without work nothing is swept away. -/
theorem swept_nil (wf : table.WellFormed) : table.Swept [] ∅ table := by
  have nothing : ∀ target, table.demand [] ∅ target = 0 := by
    intro target
    rw [demand, List.count_nil, Nat.zero_add]
    exact total_eq_zero_iff.mpr fun object _ => if_neg (Finset.notMem_empty _)
  refine ⟨⟨⟨fun _ inside => absurd inside (Finset.notMem_empty _), ?_, ?_⟩,
    fun _ _ => Finset.empty_subset _⟩, ?_, fun name => ?_, rfl⟩
  · rintro target - (step | ⟨_, _, inside, _⟩)
    · cases step
    · exact absurd inside (Finset.notMem_empty _)
  · intro object inside spent
    rw [nothing] at spent
    exact absurd (wf.referenced object inside) (by omega)
  · have same : table.lower [] ∅ = id := funext fun object => by simp [lower, nothing]
    simp [same]
  · cases table.names.lookup name <;> simp [Option.filter]

/-- **Doing the work removes exactly the least set that the work sweeps away.** -/
theorem swept_drain (wf : table.WellFormed) (steps : List Teardown) :
    ∃ members, table.Swept steps members (drain steps table) := by
  fun_induction drain steps table with
  | case1 table => exact ⟨∅, swept_nil wf⟩
  | case2 table handle rest dead ih =>
    obtain ⟨members, swept⟩ := ih wf
    exact ⟨members, swept.skipping dead⟩
  | case3 table handle rest object found last ih =>
    have member := mem_of_find? found
    have own := handle_of_find? found
    obtain ⟨members, swept⟩ := ih (wf.remove member)
    refine ⟨_, swept.removing wf member own.symm fun others sweeps =>
      sweeps.spent object member ?_⟩
    rw [demand_cons, if_pos (by rw [own])]
    omega
  | case4 table handle rest object found several ih =>
    have member := mem_of_find? found
    have own := handle_of_find? found
    subst own
    have several : 1 < object.references := by omega
    obtain ⟨members, swept⟩ := ih (wf.update (fun _ => rfl) (fun _ => rfl) fun other again => by
      have equal : other = object := Option.some.inj (again.symm.trans found)
      subst equal
      show 0 < other.references - 1
      omega)
    exact ⟨members, Swept.lowering wf member several swept⟩
  | case5 table handle rest dead ih =>
    obtain ⟨members, swept⟩ := ih wf
    exact ⟨members, swept.skipping dead⟩
  | case6 table handle rest object found ih =>
    have member := mem_of_find? found
    have own := handle_of_find? found
    obtain ⟨members, swept⟩ := ih (wf.remove member)
    refine ⟨_, swept.removing wf member own.symm fun others sweeps => ?_⟩
    rw [own]
    exact sweeps.closed handle (by rw [found]; rfl) (.inl List.mem_cons_self)

/-! ### What is left -/

namespace Swept

variable {steps : List Teardown} {members : Finset Handle} {after : ObjectTable}

/-- A member is swept away because it is closed, or because its references are given back. -/
theorem demanded (wf : table.WellFormed) (swept : table.Swept steps members after)
    {object : Object} (member : object ∈ table.objects) (inside : object.handle ∈ members) :
    table.Closes steps members object.handle ∨
      object.references ≤ table.demand steps members object.handle := by
  by_contra neither
  rw [not_or, Nat.not_le] at neither
  obtain ⟨open_, referenced⟩ := neither
  have fewer : members.erase object.handle ⊆ members := Finset.erase_subset _ _
  have lessDemand : ∀ target, table.demand steps (members.erase object.handle) target ≤
      table.demand steps members target := fun target =>
    Nat.add_le_add_left (returned_mono fewer target) _
  have sweeps : table.Sweeps steps (members.erase object.handle) := by
    refine ⟨fun handle kept => swept.least.1.live handle (fewer kept),
      fun target live closes => ?_, fun other otherMember spent => ?_⟩
    · have closesBefore : table.Closes steps members target :=
        closes.imp_right fun ⟨owner, ownerMember, owns, step⟩ =>
          ⟨owner, ownerMember, fewer owns, step⟩
      refine Finset.mem_erase.mpr ⟨?_, swept.least.1.closed target live closesBefore⟩
      rintro rfl
      exact open_ closesBefore
    · have spentBefore := spent.trans (lessDemand other.handle)
      refine Finset.mem_erase.mpr ⟨fun same => ?_, swept.least.1.spent other otherMember spentBefore⟩
      have equal : other = object :=
        List.inj_on_of_nodup_map wf.distinct otherMember member same
      subst equal
      omega
  exact Finset.notMem_erase _ _ (swept.least.2 sweeps inside)

/-- The object that a handle finds afterwards. -/
theorem find? (swept : table.Swept steps members after) (handle : Handle) :
    after.find? handle =
      if handle ∈ members then none else (table.find? handle).map (table.lower steps members) := by
  have kept : ∀ object : Object, (table.lower steps members object).handle = object.handle :=
    fun _ => rfl
  rw [ObjectTable.find?, swept.objects, List.find?_map, List.find?_filter]
  simp only [Function.comp_def, kept]
  by_cases inside : handle ∈ members
  · rw [if_pos inside, List.find?_eq_none.mpr, Option.map_none]
    intro object _
    by_cases own : object.handle = handle <;> simp [own, inside]
  · rw [if_neg inside, ObjectTable.find?]
    congr 2
    funext object
    by_cases own : object.handle = handle <;> simp [own, inside]

theorem wellFormed (wf : table.WellFormed) (swept : table.Swept steps members after) :
    after.WellFormed where
  distinct := by
    rw [swept.objects, List.map_map]
    exact wf.distinct.sublist (List.filter_sublist.map _)
  referenced object inside := by
    rw [swept.objects] at inside
    obtain ⟨original, kept, rfl⟩ := List.mem_map.mp inside
    obtain ⟨member, outside⟩ := List.mem_filter.mp kept
    have referenced := Nat.lt_of_not_le fun spent =>
      of_decide_eq_true outside (swept.least.1.spent original member spent)
    show 0 < original.references - _
    omega
  named name handle := by
    rw [swept.names, Option.filter_eq_some_iff, wf.named]
    constructor
    · rintro ⟨⟨bearer, inside, rfl, named⟩, outside⟩
      refine ⟨table.lower steps members bearer, ?_, rfl, named⟩
      rw [swept.objects]
      exact List.mem_map_of_mem (List.mem_filter.mpr ⟨inside, outside⟩)
    · rintro ⟨bearer, inside, rfl, named⟩
      rw [swept.objects] at inside
      obtain ⟨original, kept, rfl⟩ := List.mem_map.mp inside
      obtain ⟨member, outside⟩ := List.mem_filter.mp kept
      exact ⟨⟨original, member, rfl, named⟩, outside⟩

end Swept

theorem WellFormed.drain (wf : table.WellFormed) (steps : List Teardown) :
    (drain steps table).WellFormed := by
  obtain ⟨members, swept⟩ := swept_drain wf steps
  exact swept.wellFormed wf

end GuestDraw.ObjectTable
