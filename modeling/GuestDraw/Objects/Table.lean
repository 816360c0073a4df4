/-
**The table of objects.**

Objects are numbered in the order of their creation and a number is never used again, so an old
handle finds nothing rather than a newer object. An object lives as long as it is referred to; it
may have a name, which no other live object has.

Closing an object takes it out of the table first and then does the work that it leaves behind.
`drain` does such work until none is left: it ends because every object that it closes leaves the
table (`length_remove_lt`). Work on objects that are gone already is skipped.
-/

import GuestDraw.Objects.Payload

namespace GuestDraw

/-- A live object. -/
structure Object where
  handle : Handle
  name : Option String
  references : Nat
  payload : Payload
  deriving DecidableEq

/-- The live objects in the order of their creation, the names of the named ones, and the number of
the next object. -/
structure ObjectTable where
  next : Nat
  objects : List Object
  names : List (String × Handle)
  deriving DecidableEq

namespace ObjectTable

/-- A table without objects that numbers from `base` on, or from one on if that is zero. -/
def startingAt (base : Nat) : ObjectTable := ⟨max base 1, [], []⟩

/-! ### Looking up -/

/-- The live object with a handle. -/
def find? (table : ObjectTable) (handle : Handle) : Option Object :=
  table.objects.find? (·.handle = handle)

/-- The live object with a name. -/
def findNamed? (table : ObjectTable) (name : String) : Option Object :=
  (table.names.lookup name).bind table.find?

/-- The handles of the live objects of a kind, in the order of their creation. -/
def ofKind (table : ObjectTable) (kind : ObjectKind) : List Handle :=
  (table.objects.filter (·.payload.kind = kind)).map (·.handle)

/-- The live object with a handle, which has to be of a kind. -/
def expect (table : ObjectTable) (handle : Handle) (kind : ObjectKind) :
    Except ObjectError Object :=
  match table.find? handle with
  | none => .error (.invalidHandle handle)
  | some object =>
    if object.payload.kind = kind then .ok object
    else .error (.wrongKind handle kind object.payload.kind)

def surface? (table : ObjectTable) (handle : Handle) : Option Surface :=
  (table.find? handle).bind (·.payload.surface?)

def palette? (table : ObjectTable) (handle : Handle) : Option Palette :=
  (table.find? handle).bind (·.payload.palette?)

def deviceContext? (table : ObjectTable) (handle : Handle) : Option DeviceContext :=
  (table.find? handle).bind (·.payload.deviceContext?)

def cachedRaster? (table : ObjectTable) (handle : Handle) : Option CachedRaster :=
  (table.find? handle).bind (·.payload.cachedRaster?)

def event? (table : ObjectTable) (handle : Handle) : Option Event :=
  (table.find? handle).bind (·.payload.event?)

def mutex? (table : ObjectTable) (handle : Handle) : Option Mutex :=
  (table.find? handle).bind (·.payload.mutex?)

/-- The live surfaces with their handles, in the order of their creation. -/
def surfaces (table : ObjectTable) : List (Handle × Surface) :=
  table.objects.filterMap fun object => object.payload.surface?.map (object.handle, ·)

/-! ### Creating and changing -/

/-- Adds an object that is referred to once. -/
def insert (table : ObjectTable) (name : Option String) (payload : Payload) :
    Except ObjectError (Handle × ObjectTable) :=
  if table.next + 1 < UInt32.size then
    let handle : Handle := ⟨table.next⟩
    .ok (handle,
      { next := table.next + 1
        objects := table.objects ++ [⟨handle, name, 1, payload⟩]
        names := (name.map (·, handle)).toList ++ table.names })
  else .error .exhausted

/-- Adds an object without a name. -/
def create (table : ObjectTable) (payload : Payload) : Except ObjectError (Handle × ObjectTable) :=
  table.insert none payload

/-- Adds an object with a name that no live object has. -/
def createNamed (table : ObjectTable) (name : String) (payload : Payload) :
    Except ObjectError (Handle × ObjectTable) :=
  match table.names.lookup name with
  | some existing => .error (.nameInUse name existing)
  | none => table.insert (some name) payload

/-- Changes the object with a handle. -/
def update (table : ObjectTable) (handle : Handle) (change : Object → Object) : ObjectTable :=
  { table with
    objects := table.objects.map fun object =>
      if object.handle = handle then change object else object }

/-- Replaces the content of an object. -/
def setPayload (table : ObjectTable) (handle : Handle) (payload : Payload) : ObjectTable :=
  table.update handle fun object => { object with payload := payload }

/-- Takes one more reference and tells how many there are; the count stops at the greatest dword. -/
def addReference (table : ObjectTable) (handle : Handle) :
    Except ObjectError (Nat × ObjectTable) :=
  match table.find? handle with
  | none => .error (.invalidHandle handle)
  | some object =>
    let count := min (object.references + 1) (UInt32.size - 1)
    .ok (count, table.update handle fun object => { object with references := count })

/-! ### Closing -/

/-- Takes an object and its name out of the table. -/
def remove (table : ObjectTable) (object : Object) : ObjectTable :=
  { table with
    objects := table.objects.filter (·.handle ≠ object.handle)
    names :=
      match object.name with
      | some name => table.names.filter (·.1 ≠ name)
      | none => table.names }

theorem length_remove_lt {table : ObjectTable} {handle : Handle} {object : Object}
    (found : table.find? handle = some object) :
    (table.remove object).objects.length < table.objects.length := by
  have member : object ∈ table.objects := List.mem_of_find?_eq_some found
  simp only [remove]
  exact List.length_filter_lt_length_iff_exists.mpr ⟨object, member, by simp⟩

/-- Does the work in `steps` and all the work that it leads to, in order and depth first. -/
def drain (steps : List Teardown) (table : ObjectTable) : ObjectTable :=
  match steps with
  | [] => table
  | .release handle :: rest =>
    match _ : table.find? handle with
    | none => drain rest table
    | some object =>
      if object.references ≤ 1 then drain (object.payload.teardown ++ rest) (table.remove object)
      else
        drain rest (table.update handle fun object =>
          { object with references := object.references - 1 })
  | .close handle :: rest =>
    match _ : table.find? handle with
    | none => drain rest table
    | some object => drain (object.payload.teardown ++ rest) (table.remove object)
termination_by (table.objects.length, steps.length)
decreasing_by
  · exact Prod.Lex.right _ (by simp)
  · exact Prod.Lex.left _ _ (length_remove_lt ‹_›)
  · simp only [update, List.length_map]
    exact Prod.Lex.right _ (by simp)
  · exact Prod.Lex.right _ (by simp)
  · exact Prod.Lex.left _ _ (length_remove_lt ‹_›)

/-- Gives back one reference and tells how many are left; without any left the object is closed. -/
def release (table : ObjectTable) (handle : Handle) : Except ObjectError (Nat × ObjectTable) :=
  match table.find? handle with
  | none => .error (.invalidHandle handle)
  | some object => .ok (object.references - 1, drain [.release handle] table)

/-- Closes an object however often it is referred to. -/
def close (table : ObjectTable) (handle : Handle) : Except ObjectError ObjectTable :=
  match table.find? handle with
  | none => .error (.invalidHandle handle)
  | some _ => .ok (drain [.close handle] table)

end ObjectTable

end GuestDraw
