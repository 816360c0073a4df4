/-
**Changes that keep a table well-formed.**

Every change of a well-formed table gives a well-formed table again, and the names follow the
objects: an object that leaves takes exactly its own name with it.

* `WellFormed.remove`, `WellFormed.update`, `WellFormed.insert`: one lemma for each change;
* `WellFormed.lookup_remove`: the names after an object has left.
-/

import GuestDraw.Proofs.Objects.Lookup

namespace GuestDraw.ObjectTable

variable {table : ObjectTable}

/-! ### Taking names out of a list -/

theorem lookup_filter_ne (names : List (String × Handle)) (name other : String) :
    (names.filter fun entry => decide (entry.1 ≠ name)).lookup other =
      if other = name then none else names.lookup other := by
  induction names with
  | nil => simp
  | cons entry rest ih =>
    obtain ⟨key, handle⟩ := entry
    by_cases gone : key = name
    · rw [List.filter_cons_of_neg (by simp [gone]), ih]
      by_cases asked : other = name
      · simp [asked]
      · have different : (other == key) = false := by simp [gone, asked]
        simp [asked, List.lookup_cons, different]
    · rw [List.filter_cons_of_pos (by simp [gone]), List.lookup_cons, List.lookup_cons, ih]
      by_cases asked : other = key
      · subst asked
        simp [gone]
      · have different : (other == key) = false := by simp [asked]
        simp [different]

namespace WellFormed

/-! ### Removing -/

/-- Two live objects with one name are the same object. -/
theorem handle_eq_of_name_eq (wf : table.WellFormed) {first second : Object} {name : String}
    (one : first ∈ table.objects) (two : second ∈ table.objects)
    (firstName : first.name = some name) (secondName : second.name = some name) :
    first.handle = second.handle := by
  have found := (wf.named name first.handle).mpr ⟨first, one, rfl, firstName⟩
  have again := (wf.named name second.handle).mpr ⟨second, two, rfl, secondName⟩
  exact Option.some.inj (found.symm.trans again)

/-- An object that leaves takes exactly its own name with it. -/
theorem lookup_remove (wf : table.WellFormed) {object : Object} (member : object ∈ table.objects)
    (name : String) :
    (table.remove object).names.lookup name =
      (table.names.lookup name).filter fun handle => decide (handle ≠ object.handle) := by
  have bears : ∀ handle, table.names.lookup name = some handle → handle = object.handle →
      object.name = some name := by
    intro handle found same
    obtain ⟨bearer, inside, own, named⟩ := (wf.named name handle).mp found
    have equal : bearer = object :=
      List.inj_on_of_nodup_map wf.distinct inside member (own.trans same)
    rw [← equal, named]
  cases ownName : object.name with
  | none =>
    simp only [remove, ownName]
    cases found : table.names.lookup name with
    | none => rfl
    | some handle =>
      have other : handle ≠ object.handle := fun same => by
        simp [ownName] at bears
        exact bears handle found same
      simp [Option.filter, other]
  | some own =>
    simp only [remove, ownName]
    rw [lookup_filter_ne]
    by_cases asked : name = own
    · subst asked
      have found := (wf.named name object.handle).mpr ⟨object, member, rfl, ownName⟩
      simp [found, Option.filter]
    · rw [if_neg asked]
      cases found : table.names.lookup name with
      | none => rfl
      | some handle =>
        have other : handle ≠ object.handle := fun same =>
          asked (Option.some.inj ((bears handle found same).symm.trans ownName))
        simp [Option.filter, other]

theorem remove (wf : table.WellFormed) {object : Object} (member : object ∈ table.objects) :
    (table.remove object).WellFormed where
  distinct := wf.distinct.sublist ((List.filter_sublist (p := _)).map _)
  referenced other inside := wf.referenced other (List.mem_of_mem_filter inside)
  named name handle := by
    rw [wf.lookup_remove member, Option.filter_eq_some_iff, wf.named]
    constructor
    · rintro ⟨⟨bearer, inside, own, named⟩, other⟩
      refine ⟨bearer, List.mem_filter.mpr ⟨inside, ?_⟩, own, named⟩
      rw [own]
      exact other
    · rintro ⟨bearer, inside, own, named⟩
      obtain ⟨inside, other⟩ := List.mem_filter.mp inside
      refine ⟨⟨bearer, inside, own, named⟩, ?_⟩
      rw [← own]
      exact other

/-! ### Changing an object -/

/-- A change that leaves handle and name alone and the object referred to. -/
theorem update (wf : table.WellFormed) {handle : Handle} {change : Object → Object}
    (keepsHandle : ∀ object, (change object).handle = object.handle)
    (keepsName : ∀ object, (change object).name = object.name)
    (keepsReferenced : ∀ object, table.find? handle = some object → 0 < (change object).references) :
    (table.update handle change).WellFormed := by
  have seen : ∀ object : Object,
      (if object.handle = handle then change object else object).handle = object.handle := by
    intro object
    split
    · exact keepsHandle object
    · rfl
  have named : ∀ object : Object,
      (if object.handle = handle then change object else object).name = object.name := by
    intro object
    split
    · exact keepsName object
    · rfl
  refine ⟨?_, ?_, fun name other => ?_⟩
  · simpa only [ObjectTable.update, List.map_map, Function.comp_def, seen] using wf.distinct
  · intro object inside
    obtain ⟨original, member, rfl⟩ := List.mem_map.mp inside
    split
    · next own => exact keepsReferenced original (own ▸ find?_of_mem wf.distinct member)
    · exact wf.referenced original member
  · rw [show (table.update handle change).names = table.names from rfl, wf.named]
    constructor
    · rintro ⟨bearer, inside, own, bears⟩
      exact ⟨_, List.mem_map_of_mem inside, (seen bearer).trans own, (named bearer).trans bears⟩
    · rintro ⟨bearer, inside, own, bears⟩
      obtain ⟨original, member, rfl⟩ := List.mem_map.mp inside
      exact ⟨original, member, (seen original).symm.trans own, (named original).symm.trans bears⟩

theorem setPayload (wf : table.WellFormed) (handle : Handle) (payload : Payload) :
    (table.setPayload handle payload).WellFormed :=
  wf.update (fun _ => rfl) (fun _ => rfl) fun object found => wf.referenced object (mem_of_find? found)

/-! ### Adding an object -/

/-- A new object at the end, with a handle and a name that no live object has. -/
theorem append (wf : table.WellFormed) {next : Nat} {object : Object}
    (fresh : table.find? object.handle = none) (referenced : 0 < object.references)
    (unused : ∀ name, object.name = some name → table.names.lookup name = none) :
    ({ next := next
       objects := table.objects ++ [object]
       names := (object.name.map (·, object.handle)).toList ++ table.names } :
      ObjectTable).WellFormed := by
  refine ⟨?_, ?_, fun name handle => ?_⟩
  · rw [List.map_append, List.nodup_append]
    refine ⟨wf.distinct, by simp, fun first inside second new => ?_⟩
    obtain ⟨other, member, rfl⟩ := List.mem_map.mp inside
    rw [List.map_singleton, List.mem_singleton] at new
    exact new ▸ find?_eq_none_iff.mp fresh other member
  · intro other inside
    rcases List.mem_append.mp inside with member | new
    · exact wf.referenced other member
    · rw [List.mem_singleton.mp new]
      exact referenced
  · have old := wf.named name handle
    simp only [List.mem_append, List.mem_singleton]
    cases ownName : object.name with
    | none =>
      simp only [Option.map_none, Option.toList_none, List.nil_append, old]
      constructor
      · rintro ⟨bearer, inside, own, named⟩
        exact ⟨bearer, .inl inside, own, named⟩
      · rintro ⟨bearer, inside | rfl, own, named⟩
        · exact ⟨bearer, inside, own, named⟩
        · rw [ownName] at named
          cases named
    | some used =>
      simp only [Option.map_some, Option.toList_some, List.singleton_append, List.lookup_cons]
      by_cases asked : name = used
      · subst asked
        have none_ := unused name ownName
        rw [none_] at old
        simp only [beq_self_eq_true, Option.some.injEq]
        constructor
        · rintro rfl
          exact ⟨object, .inr rfl, rfl, ownName⟩
        · rintro ⟨bearer, inside | rfl, own, named⟩
          · exact absurd (old.mpr ⟨bearer, inside, own, named⟩) (by simp)
          · exact own
      · have different : (name == used) = false := by simp [asked]
        rw [different]
        simp only [old]
        constructor
        · rintro ⟨bearer, inside, own, named⟩
          exact ⟨bearer, .inl inside, own, named⟩
        · rintro ⟨bearer, inside | rfl, own, named⟩
          · exact ⟨bearer, inside, own, named⟩
          · rw [ownName, Option.some.injEq] at named
            exact absurd named.symm asked

end WellFormed

end GuestDraw.ObjectTable
