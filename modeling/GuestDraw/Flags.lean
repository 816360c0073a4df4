/-
**Sets of flags.**

Guest programs pass sets of options as the bits of a dword. A `FlagSet` keeps all bits it was given,
also those without a name, and its family says which bits have names. The text of a set lists its
names in the order of the family and then the remaining bits as one number.
-/

import GuestDraw.Text.Hex

namespace GuestDraw

/-- The named bits of one kind of options. -/
structure FlagFamily where
  title : String
  named : List (String × UInt32)

/-- Bits of a family, named or not. -/
structure FlagSet (family : FlagFamily) where
  bits : UInt32
  deriving DecidableEq

namespace FlagSet

variable {family : FlagFamily}

/-- No flag. -/
def empty : FlagSet family := ⟨0⟩

/-- The flags in either set. -/
def union (first second : FlagSet family) : FlagSet family := ⟨first.bits ||| second.bits⟩

/-- The flags in both sets. -/
def inter (first second : FlagSet family) : FlagSet family := ⟨first.bits &&& second.bits⟩

/-- The flags of the first set that are not in the second. -/
def diff (first second : FlagSet family) : FlagSet family := ⟨first.bits &&& ~~~second.bits⟩

instance : Union (FlagSet family) := ⟨union⟩
instance : Inter (FlagSet family) := ⟨inter⟩
instance : SDiff (FlagSet family) := ⟨diff⟩
instance : EmptyCollection (FlagSet family) := ⟨empty⟩

/-- All flags of `wanted` are in the set. -/
def contains (flags wanted : FlagSet family) : Bool := flags.bits &&& wanted.bits = wanted.bits

/-- The two sets have a flag in common. -/
def meets (first second : FlagSet family) : Bool := first.bits &&& second.bits ≠ 0

/-- The set has no flag. -/
def isEmpty (flags : FlagSet family) : Bool := flags.bits = 0

/-- The names of the set's flags. -/
def names (flags : FlagSet family) : List String :=
  (family.named.filter fun entry => flags.bits &&& entry.2 = entry.2).map Prod.fst

/-- The bits of the set that have no name. -/
def unnamed (flags : FlagSet family) : UInt32 :=
  family.named.foldl (fun bits entry => bits &&& ~~~entry.2) flags.bits

/-- The set in words. -/
def text (flags : FlagSet family) : String :=
  let rest := if flags.unnamed ≠ 0 ∨ flags.bits = 0 then [Hex.short flags.unnamed.toNat] else []
  family.title ++ "(" ++ String.intercalate " | " (flags.names ++ rest) ++ ")"

end FlagSet

end GuestDraw
