/-
**Status words.**

A call of the drawing interface answers with a dword whose top bit says whether it failed. The words
that this library itself answers with have names.
-/

import GuestDraw.Text.Hex

namespace GuestDraw

/-- The answer of a call as the guest sees it. -/
structure Status where
  word : UInt32
  deriving DecidableEq

namespace Status

def ok : Status := ⟨0⟩
def notImplemented : Status := ⟨0x80004001⟩
def nullPointer : Status := ⟨0x80004003⟩
def generic : Status := ⟨0x80004005⟩
def outOfMemory : Status := ⟨0x8007000E⟩
def invalidParams : Status := ⟨0x80070057⟩
def alreadyInitialized : Status := ⟨0x88760005⟩
def invalidObject : Status := ⟨0x88760082⟩
def notFound : Status := ⟨0x887600FF⟩
def surfaceBusy : Status := ⟨0x887601AE⟩
def noPaletteAttached : Status := ⟨0x88760233⟩

/-- The call did what was asked. -/
def isSuccess (status : Status) : Bool := status.word < 0x80000000

/-- The named words. -/
def names : List (Status × String) :=
  [(ok, "S_OK"), (notImplemented, "E_NOTIMPL"), (nullPointer, "E_POINTER"), (generic, "E_FAIL"),
    (outOfMemory, "E_OUTOFMEMORY"), (invalidParams, "DDERR_INVALIDPARAMS"),
    (alreadyInitialized, "DDERR_ALREADYINITIALIZED"), (invalidObject, "DDERR_INVALIDOBJECT"),
    (notFound, "DDERR_NOTFOUND"), (surfaceBusy, "DDERR_SURFACEBUSY"),
    (noPaletteAttached, "DDERR_NOPALETTEATTACHED")]

/-- The number of a status, with its name in front if it has one. -/
def text (status : Status) : String :=
  let number := Hex.status status.word.toNat
  match names.lookup status with
  | some name => s!"{name} ({number})"
  | none => number

end Status

end GuestDraw
