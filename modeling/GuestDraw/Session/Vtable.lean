/-
**Vtables.**

The vtable of an interface is a table of stub addresses, one dword for each method. Both tables are
built when the first object of their kind is created and are shared from then on. A table that could
not be finished is built anew, with new stubs, the next time.
-/

import GuestDraw.Session

namespace GuestDraw

/-- The method that a stub stands for. -/
def Session.methodAt? (session : Session) (stub : Nat) : Option Method :=
  session.vtables.methods.lookup stub

namespace Engine

/-- Hands out a stub. -/
def registerStub (name : String) : Engine Nat := fun session =>
  match session.stubs.register name with
  | .ok (address, stubs) => .ok address { session with stubs := stubs }
  | .error cause => .error (.stub cause) session

/-- Fills the slots of the table from `address` on with stubs for the methods. -/
def installSlots (address : Nat) : List Method → Engine Unit
  | [] => pure ()
  | method :: rest => do
    let stub ← registerStub method.name
    writeDword address (UInt32.ofNat stub)
    modify fun session =>
      { session with
        vtables := { session.vtables with methods := (stub, method) :: session.vtables.methods } }
    installSlots (address + 4) rest

/-- Builds the vtable of an interface with the given methods. -/
def installVtable (methods : List Method) : Engine Nat := do
  let vtable ← allocate (methods.length * 4)
  installSlots vtable methods
  return vtable

/-- The vtable of surfaces. -/
def surfaceVtable : Engine Nat := do
  match (← get).vtables.surface with
  | some vtable => return vtable
  | none =>
    let vtable ← installVtable Method.surfaces
    modify fun session =>
      { session with vtables := { session.vtables with surface := some vtable } }
    return vtable

/-- The vtable of palettes. -/
def paletteVtable : Engine Nat := do
  match (← get).vtables.palette with
  | some vtable => return vtable
  | none =>
    let vtable ← installVtable Method.palettes
    modify fun session =>
      { session with vtables := { session.vtables with palette := some vtable } }
    return vtable

end Engine

end GuestDraw
