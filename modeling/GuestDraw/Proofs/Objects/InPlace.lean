/-
**Calls of the table, step by step.**

`ObjectTable.insert`, `release` and the like give a changed table or a failure. Here they run on a
table that changes while they do: the counter moves before the name is taken down, and the name
before the object; a reference is counted down before it is known whether the object closes; an
object leaves before its name does, and both before the work is done that they leave behind. What
was changed by then stays changed when a call fails. But none of them fails after its first change,
and so they come to the same.

* `insertInPlace`, `createNamedInPlace`, `addReferenceInPlace`, `closeInPlace`, `releaseInPlace`:
  the calls;
* `insertInPlace_eq` and so on: what they leave, also where they fail.
-/

import GuestDraw.Proofs.Objects.Draining
import GuestDraw.Proofs.Objects.Lookup

namespace GuestDraw.ObjectTable

/-- What a call leaves as a step on a table: one that fails keeps the table. -/
def kept {α : Type} (table : ObjectTable) :
    Except ObjectError (α × ObjectTable) → EStateM.Result ObjectError ObjectTable α
  | .ok (answer, after) => .ok answer after
  | .error cause => .error cause table

/-! ### The calls -/

/-- The live object with a handle. -/
def objectAt (handle : Handle) : EStateM ObjectError ObjectTable Object := do
  match (← get).find? handle with
  | none => throw (.invalidHandle handle)
  | some object => return object

/-- Adds an object under the next number, if there is one after it. -/
def insertInPlace (name : Option String) (payload : Payload) :
    EStateM ObjectError ObjectTable Handle := do
  let handle : Handle := ⟨(← get).next⟩
  if UInt32.size ≤ handle.number + 1 then
    throw .exhausted
  modify fun table => { table with next := handle.number + 1 }
  modify fun table => { table with names := (name.map (·, handle)).toList ++ table.names }
  modify fun table => { table with objects := table.objects ++ [⟨handle, name, 1, payload⟩] }
  return handle

/-- Adds an object with a name that no live object has. -/
def createNamedInPlace (name : String) (payload : Payload) :
    EStateM ObjectError ObjectTable Handle := do
  match (← get).names.lookup name with
  | some existing => throw (.nameInUse name existing)
  | none => insertInPlace (some name) payload

/-- Takes one more reference. -/
def addReferenceInPlace (handle : Handle) : EStateM ObjectError ObjectTable Nat := do
  let object ← objectAt handle
  let count := min (object.references + 1) (UInt32.size - 1)
  modify (·.update handle fun object => { object with references := count })
  return count

/-- Closes an object however often it is referred to. -/
def closeInPlace (handle : Handle) : EStateM ObjectError ObjectTable Unit := do
  let object ← objectAt handle
  modify fun table => { table with objects := table.objects.filter (·.handle ≠ handle) }
  if let some name := object.name then
    modify fun table => { table with names := table.names.filter (·.1 ≠ name) }
  modify (drain object.payload.teardown)

/-- Gives back one reference, and closes the object if none is left. -/
def releaseInPlace (handle : Handle) : EStateM ObjectError ObjectTable Nat := do
  let object ← objectAt handle
  modify (·.update handle Object.giveBack)
  if object.references - 1 = 0 then
    closeInPlace handle
  return object.references - 1

/-! ### What they leave -/

section Leaving

variable {α β : Type} {table after : ObjectTable} {handle : Handle} {object : Object}

/-- What is done with the answer of a step that succeeds. -/
theorem bind_of_ok {step : EStateM ObjectError ObjectTable α} {answer : α}
    (done : step table = .ok answer after) (rest : α → EStateM ObjectError ObjectTable β) :
    (step >>= rest) table = rest answer after := by
  show EStateM.bind step rest table = _
  rw [EStateM.bind, done]

/-- Nothing is done after a step that fails. -/
theorem bind_of_error {step : EStateM ObjectError ObjectTable α} {cause : ObjectError}
    (failed : step table = .error cause after) (rest : α → EStateM ObjectError ObjectTable β) :
    (step >>= rest) table = .error cause after := by
  show EStateM.bind step rest table = _
  rw [EStateM.bind, failed]

/-- Another answer is given with the same table. -/
theorem map_of_kept {step : EStateM ObjectError ObjectTable α}
    {result : Except ObjectError (α × ObjectTable)} (leaves : step table = table.kept result)
    (form : α → β) :
    (form <$> step) table = table.kept (result.map fun left => (form left.1, left.2)) := by
  show EStateM.map form step table = _
  rw [EStateM.map, leaves]
  cases result <;> rfl

theorem objectAt_eq (handle : Handle) (table : ObjectTable) : objectAt handle table =
    match table.find? handle with
    | none => .error (.invalidHandle handle) table
    | some object => .ok object table := by
  show (match table.find? handle with
    | none => throw (.invalidHandle handle)
    | some object => return object : EStateM ObjectError ObjectTable Object) table = _
  cases table.find? handle <;> rfl

theorem objectAt_of_dead (dead : table.find? handle = none) :
    objectAt handle table = .error (.invalidHandle handle) table := by
  rw [objectAt_eq, dead]

theorem objectAt_of_found (found : table.find? handle = some object) :
    objectAt handle table = .ok object table := by
  rw [objectAt_eq, found]

theorem insertInPlace_eq (name : Option String) (payload : Payload) (table : ObjectTable) :
    insertInPlace name payload table = table.kept (table.insert name payload) := by
  show (if UInt32.size ≤ table.next + 1 then _ else _ : EStateM ObjectError ObjectTable Handle)
    table = _
  rw [insert]
  by_cases room : table.next + 1 < UInt32.size
  · rw [if_neg (Nat.not_le.mpr room), if_pos room]
    rfl
  · rw [if_pos (Nat.le_of_not_lt room), if_neg room]
    rfl

theorem createNamedInPlace_eq (name : String) (payload : Payload) (table : ObjectTable) :
    createNamedInPlace name payload table = table.kept (table.createNamed name payload) := by
  show (match table.names.lookup name with
    | some existing => throw (.nameInUse name existing)
    | none => insertInPlace (some name) payload : EStateM ObjectError ObjectTable Handle) table = _
  rw [createNamed]
  cases table.names.lookup name with
  | some existing => rfl
  | none => exact insertInPlace_eq (some name) payload table

theorem addReferenceInPlace_eq (handle : Handle) (table : ObjectTable) :
    addReferenceInPlace handle table = table.kept (table.addReference handle) := by
  rw [addReferenceInPlace, addReference]
  cases found : table.find? handle with
  | none => exact bind_of_error (objectAt_of_dead found) _
  | some object => exact bind_of_ok (objectAt_of_found found) _

theorem closeInPlace_of_found (found : table.find? handle = some object) :
    closeInPlace handle table = .ok () (drain object.payload.teardown (table.remove object)) := by
  rw [closeInPlace, bind_of_ok (objectAt_of_found found), remove, handle_of_find? found]
  cases object.name <;> rfl

theorem closeInPlace_eq (handle : Handle) (table : ObjectTable) :
    closeInPlace handle table = table.kept ((table.close handle).map fun left => ((), left)) := by
  rw [close]
  cases found : table.find? handle with
  | none => exact bind_of_error (objectAt_of_dead found) _
  | some object =>
    rw [closeInPlace_of_found found, ← drain_close found]
    rfl

/-- With its last reference the object closes, which it cannot fail to do: it was found, and still
is. -/
theorem releaseInPlace_of_last (found : table.find? handle = some object)
    (last : object.references ≤ 1) :
    releaseInPlace handle table =
      .ok (object.references - 1) (drain object.payload.teardown (table.remove object)) := by
  have lowered : (table.update handle Object.giveBack).find? handle = some object.giveBack := by
    rw [find?_update Object.handle_giveBack, if_pos rfl, found]
    rfl
  have closed : closeInPlace handle (table.update handle Object.giveBack) =
      .ok () (drain object.payload.teardown (table.remove object)) := by
    rw [closeInPlace_of_found lowered, Object.payload_giveBack, ← handle_of_find? found,
      remove_giveBack]
  rw [releaseInPlace, bind_of_ok (objectAt_of_found found), if_pos (by omega)]
  exact bind_of_ok closed fun _ => pure (object.references - 1)

theorem releaseInPlace_of_several (found : table.find? handle = some object)
    (several : 1 < object.references) :
    releaseInPlace handle table =
      .ok (object.references - 1) (table.update handle Object.giveBack) := by
  rw [releaseInPlace, bind_of_ok (objectAt_of_found found), if_neg (by omega)]
  rfl

theorem releaseInPlace_eq (handle : Handle) (table : ObjectTable) :
    releaseInPlace handle table = table.kept (table.release handle) := by
  rw [release]
  cases found : table.find? handle with
  | none => exact bind_of_error (objectAt_of_dead found) _
  | some object =>
    show _ = EStateM.Result.ok (object.references - 1) (drain [.release handle] table)
    rcases Nat.lt_or_ge 1 object.references with several | last
    · rw [releaseInPlace_of_several found several, drain_release_of_several found several]
    · rw [releaseInPlace_of_last found last, drain_release_of_last found last, drain_close found]

end Leaving

end GuestDraw.ObjectTable
