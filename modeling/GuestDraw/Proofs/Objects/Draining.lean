/-
**Work, one step after the other.**

What a closing leaves behind is a list of steps, and `drain` does them from the first to the last,
each with all that it leads to before the next one. A step on an object that is gone is skipped.

* `drain_cons_of_dead`, `drain_close_cons`, `drain_release_cons`: the first step;
* `drain_close`, `drain_release_of_last`, `drain_release_of_several`: a single step;
* `drain_append`: work that is done in two parts.
-/

import GuestDraw.Objects.Table

namespace GuestDraw

/-- The handle that a step is about. -/
def Teardown.target : Teardown → Handle
  | .release handle => handle
  | .close handle => handle

/-- The object with one reference fewer. -/
def Object.giveBack (object : Object) : Object :=
  { object with references := object.references - 1 }

theorem Object.handle_giveBack (object : Object) : object.giveBack.handle = object.handle := rfl

theorem Object.payload_giveBack (object : Object) : object.giveBack.payload = object.payload := rfl

namespace ObjectTable

variable {table : ObjectTable} {handle : Handle} {object : Object} {rest : List Teardown}

/-! ### The first step -/

/-- Work on an object that is gone is skipped. -/
theorem drain_cons_of_dead {step : Teardown} (dead : table.find? step.target = none) :
    drain (step :: rest) table = drain rest table := by
  cases step with
  | release handle =>
    rw [drain]
    split
    · rfl
    · next found => cases dead.symm.trans found
  | close handle =>
    rw [drain]
    split
    · rfl
    · next found => cases dead.symm.trans found

theorem drain_close_cons (found : table.find? handle = some object) :
    drain (.close handle :: rest) table =
      drain (object.payload.teardown ++ rest) (table.remove object) := by
  rw [drain]
  split
  · next dead => cases found.symm.trans dead
  · next again =>
    cases Option.some.inj (found.symm.trans again)
    rfl

theorem drain_release_cons (found : table.find? handle = some object) :
    drain (.release handle :: rest) table =
      if object.references ≤ 1 then drain (object.payload.teardown ++ rest) (table.remove object)
      else drain rest (table.update handle Object.giveBack) := by
  rw [drain]
  split
  · next dead => cases found.symm.trans dead
  · next again =>
    cases Option.some.inj (found.symm.trans again)
    rfl

/-! ### A single step -/

theorem drain_close_of_dead (dead : table.find? handle = none) :
    drain [.close handle] table = table := by
  rw [drain_cons_of_dead dead, drain]

theorem drain_close (found : table.find? handle = some object) :
    drain [.close handle] table = drain object.payload.teardown (table.remove object) := by
  rw [drain_close_cons found, List.append_nil]

/-- An object that leaves no work behind leaves alone. -/
theorem drain_close_of_teardown_eq_nil (found : table.find? handle = some object)
    (alone : object.payload.teardown = []) : drain [.close handle] table = table.remove object := by
  rw [drain_close found, alone, drain]

theorem drain_release_of_dead (dead : table.find? handle = none) :
    drain [.release handle] table = table := by
  rw [drain_cons_of_dead dead, drain]

/-- Giving back the last reference closes an object. -/
theorem drain_release_of_last (found : table.find? handle = some object)
    (last : object.references ≤ 1) :
    drain [.release handle] table = drain [.close handle] table := by
  rw [drain_close found, drain_release_cons found, if_pos last, List.append_nil]

theorem drain_release_of_several (found : table.find? handle = some object)
    (several : 1 < object.references) :
    drain [.release handle] table = table.update handle Object.giveBack := by
  rw [drain_release_cons found, if_neg (Nat.not_le.mpr several), drain]

/-- An object leaves nothing of its count. -/
theorem remove_giveBack (table : ObjectTable) (object : Object) :
    (table.update object.handle Object.giveBack).remove object.giveBack = table.remove object := by
  have others (objects : List Object) :
      (objects.map fun other =>
        if other.handle = object.handle then other.giveBack else other).filter
          (·.handle ≠ object.handle) = objects.filter (·.handle ≠ object.handle) := by
    induction objects with
    | nil => rfl
    | cons other rest ih =>
      by_cases own : other.handle = object.handle
      · simpa [own, Object.handle_giveBack] using ih
      · simpa [own] using ih
  rw [remove, remove, Object.handle_giveBack, update, others]
  rfl

/-! ### Work in two parts -/

/-- Work is done from the first step to the last one, with all that a step leads to before the next
one. -/
theorem drain_append (first second : List Teardown) (table : ObjectTable) :
    drain (first ++ second) table = drain second (drain first table) := by
  fun_induction drain first table with
  | case1 => rfl
  | case2 table handle rest dead ih | case5 table handle rest dead ih =>
    rw [List.cons_append, drain_cons_of_dead dead, ih]
  | case3 table handle rest object found last ih =>
    rw [List.cons_append, drain_release_cons found, if_pos last, ← List.append_assoc, ih]
  | case4 table handle rest object found several ih =>
    rw [List.cons_append, drain_release_cons found, if_neg several]
    exact ih
  | case6 table handle rest object found ih =>
    rw [List.cons_append, drain_close_cons found, ← List.append_assoc, ih]

end ObjectTable

end GuestDraw
