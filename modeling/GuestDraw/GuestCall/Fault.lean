/-
**Failures of guest calls.**
-/

import GuestDraw.Stubs

namespace GuestDraw

/-- The guest stopped at `eip` instead of running on. -/
structure Fault where
  eip : UInt32
  reason : String
  deriving DecidableEq

/-- The wording of a fault. -/
def Fault.message (fault : Fault) : String :=
  s!"guest faulted at eip={Hex.address fault.eip.toNat}: {fault.reason}"

/-- Why a call of a guest function failed. -/
inductive CallError where
  /-- There is no stub to return to. -/
  | stub (cause : StubError)
  /-- The function faulted. -/
  | fault (target : UInt32) (cause : Fault)
  /-- The call frame does not fit guest memory. -/
  | stack (cause : MemoryError)
  deriving DecidableEq

/-- The wording of a failed call. -/
def CallError.message : CallError → String
  | stub cause => s!"failed to register the trampoline return stub: {cause.message}"
  | fault target cause =>
    s!"guest call to {Hex.address target.toNat} failed: {cause.message}"
  | stack cause => s!"failed to build the guest call frame: {cause.message}"

end GuestDraw
