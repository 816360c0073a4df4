/-
**Looking up in a changed table.**

A table of objects is used through `find?`: what is said about it here says what every change does
to the object that a handle finds.

* `find?_update`, `find?_remove`, `find?_append`: the object that a handle finds after a change;
* `WellFormed`: handles are distinct, every object is referred to, and the names lead to the
  objects that bear them;
* `total_remove`, `total_update`: sums over the live objects after a change.
-/

import Mathlib.Algebra.GroupWithZero.Nat
import Mathlib.Algebra.Order.BigOperators.Group.List
import Mathlib.Algebra.Order.Group.Nat
import Mathlib.Data.List.Nodup
import GuestDraw.Objects.Table

namespace GuestDraw.ObjectTable

variable {table : ObjectTable}

/-! ### The object that a handle finds -/

theorem handle_of_find? {handle : Handle} {object : Object}
    (found : table.find? handle = some object) : object.handle = handle := by
  simpa using List.find?_some found

theorem mem_of_find? {handle : Handle} {object : Object}
    (found : table.find? handle = some object) : object ∈ table.objects :=
  List.mem_of_find?_eq_some found

theorem find?_eq_none_iff {handle : Handle} :
    table.find? handle = none ↔ ∀ object ∈ table.objects, object.handle ≠ handle := by
  simp [find?, List.find?_eq_none]

theorem isSome_find?_iff {handle : Handle} :
    (table.find? handle).isSome = true ↔ ∃ object ∈ table.objects, object.handle = handle := by
  simp [find?, List.find?_isSome]

/-- A handle that finds nothing, or an object with the handle. -/
theorem find?_of_mem (distinct : (table.objects.map (·.handle)).Nodup) {object : Object}
    (member : object ∈ table.objects) : table.find? object.handle = some object := by
  obtain ⟨found, same⟩ : ∃ found, table.find? object.handle = some found :=
    Option.isSome_iff_exists.mp (isSome_find?_iff.mpr ⟨object, member, rfl⟩)
  have equal : found = object :=
    List.inj_on_of_nodup_map distinct (mem_of_find? same) member (handle_of_find? same)
  rw [same, equal]

theorem find?_eq_some_iff (distinct : (table.objects.map (·.handle)).Nodup) {handle : Handle}
    {object : Object} :
    table.find? handle = some object ↔ object ∈ table.objects ∧ object.handle = handle := by
  constructor
  · intro found
    exact ⟨mem_of_find? found, handle_of_find? found⟩
  · rintro ⟨member, rfl⟩
    exact find?_of_mem distinct member

/-- A change that leaves the handle alone reaches the object with the handle and no other. -/
theorem find?_update {handle : Handle} {change : Object → Object}
    (keeps : ∀ object, (change object).handle = object.handle) (other : Handle) :
    (table.update handle change).find? other =
      if other = handle then (table.find? other).map change else table.find? other := by
  have seen : ∀ object : Object,
      (if object.handle = handle then change object else object).handle = object.handle := by
    intro object
    split
    · exact keeps object
    · rfl
  simp only [find?, update, List.find?_map, Function.comp_def, seen]
  by_cases same : other = handle
  · subst same
    rw [if_pos rfl]
    cases found : table.objects.find? (fun object => decide (object.handle = other)) with
    | none => rfl
    | some object =>
      have own : object.handle = other := by simpa using List.find?_some found
      simp [own]
  · rw [if_neg same]
    cases found : table.objects.find? (fun object => decide (object.handle = other)) with
    | none => rfl
    | some object =>
      have own : object.handle = other := by simpa using List.find?_some found
      simp [own, same]

/-- A payload is replaced in the object with the handle, and nothing else is. -/
theorem find?_setPayload (handle : Handle) (payload : Payload) (other : Handle) :
    (table.setPayload handle payload).find? other =
      if other = handle then (table.find? other).map fun object => { object with payload := payload }
      else table.find? other := by
  have kept : ∀ object : Object,
      ({ object with payload := payload } : Object).handle = object.handle := fun _ => rfl
  exact find?_update kept other

theorem find?_setPayload_of_ne {handle other : Handle} {payload : Payload}
    (different : other ≠ handle) : (table.setPayload handle payload).find? other = table.find? other := by
  rw [find?_setPayload, if_neg different]

theorem find?_remove (object : Object) (other : Handle) :
    (table.remove object).find? other =
      if other = object.handle then none else table.find? other := by
  simp only [find?, remove, List.find?_filter]
  by_cases same : other = object.handle
  · rw [if_pos same, List.find?_eq_none]
    intro found _
    simp [same]
  · rw [if_neg same]
    congr 1
    funext found
    by_cases own : found.handle = other
    · simp [own, same]
    · simp [own]

/-- An object at the end is found by its handle, unless an earlier one has the handle too. -/
theorem find?_append {next : Nat} {object : Object} {names : List (String × Handle)}
    (other : Handle) :
    ({ next := next, objects := table.objects ++ [object], names := names } :
        ObjectTable).find? other =
      (table.find? other).or (if object.handle = other then some object else none) := by
  simp only [find?, List.find?_append, List.find?_singleton, decide_eq_true_eq]

/-! ### Well-formed tables -/

/-- Handles are distinct, every object is referred to, and the names are those of the objects. -/
structure WellFormed (table : ObjectTable) : Prop where
  distinct : (table.objects.map (·.handle)).Nodup
  referenced : ∀ object ∈ table.objects, 0 < object.references
  named : ∀ name handle, table.names.lookup name = some handle ↔
    ∃ object ∈ table.objects, object.handle = handle ∧ object.name = some name

/-! ### Sums over the live objects -/

/-- The sum of a weight over the live objects. -/
def total (table : ObjectTable) (weight : Object → Nat) : Nat := (table.objects.map weight).sum

theorem total_eq_zero_iff {weight : Object → Nat} :
    table.total weight = 0 ↔ ∀ object ∈ table.objects, weight object = 0 := by
  simp [total, List.sum_eq_zero_iff]

/-- An object stands between objects with other handles, which a change of it does not reach. -/
theorem exists_between (distinct : (table.objects.map (·.handle)).Nodup) {object : Object}
    (member : object ∈ table.objects) :
    ∃ before after, table.objects = before ++ object :: after ∧
      (table.remove object).objects = before ++ after ∧
      ∀ change : Object → Object,
        (table.update object.handle change).objects = before ++ change object :: after := by
  obtain ⟨before, after, split⟩ := List.append_of_mem member
  rw [split, List.map_append, List.map_cons, List.nodup_middle, List.nodup_cons] at distinct
  have apart : ∀ other ∈ before ++ after, other.handle ≠ object.handle := by
    intro other inside same
    exact distinct.1 (by rw [← List.map_append, ← same]; exact List.mem_map_of_mem inside)
  refine ⟨before, after, split, ?_, fun change => ?_⟩
  · have kept : (before ++ after).filter (fun other => decide (other.handle ≠ object.handle))
        = before ++ after :=
      List.filter_eq_self.mpr fun other inside => by simp [apart other inside]
    rw [← kept]
    simp [remove, split]
  · have kept : ∀ part : List Object, (∀ other ∈ part, other ∈ before ++ after) →
        part.map (fun other => if other.handle = object.handle then change other else other)
          = part := fun part inside => by
      conv_rhs => rw [← List.map_id part]
      exact List.map_congr_left fun other here => if_neg (apart other (inside other here))
    simp only [update, split, List.map_append, List.map_cons, if_true]
    rw [kept before fun other here => List.mem_append_left _ here,
      kept after fun other here => List.mem_append_right _ here]

/-- An object that leaves the table takes its own weight with it. -/
theorem total_remove (distinct : (table.objects.map (·.handle)).Nodup) (weight : Object → Nat)
    {object : Object} (member : object ∈ table.objects) :
    (table.remove object).total weight + weight object = table.total weight := by
  obtain ⟨before, after, split, removed, _⟩ := exists_between distinct member
  simp only [total, split, removed, List.map_append, List.map_cons, List.sum_append, List.sum_cons]
  omega

/-- A changed object trades its old weight for its new one. -/
theorem total_update (distinct : (table.objects.map (·.handle)).Nodup) (weight : Object → Nat)
    (change : Object → Object) {object : Object} (member : object ∈ table.objects) :
    (table.update object.handle change).total weight + weight object =
      table.total weight + weight (change object) := by
  obtain ⟨before, after, split, _, updated⟩ := exists_between distinct member
  simp only [total, split, updated, List.map_append, List.map_cons, List.sum_append,
    List.sum_cons]
  omega

end GuestDraw.ObjectTable
