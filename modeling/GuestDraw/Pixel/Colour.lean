/-
**Colours.**

A colour has four channels of eight bits. Words carry it as `0xAARRGGBB`; palettes use the lower
three bytes of a word and mean a solid colour.
-/

namespace GuestDraw

/-- A colour with its coverage `alpha`. -/
structure Colour where
  alpha : UInt8
  red : UInt8
  green : UInt8
  blue : UInt8
  deriving DecidableEq

namespace Colour

/-- The colour written `0xAARRGGBB`. -/
def ofArgb (word : UInt32) : Colour where
  alpha := UInt8.ofNat (word.toNat / 0x1000000)
  red := UInt8.ofNat (word.toNat / 0x10000)
  green := UInt8.ofNat (word.toNat / 0x100)
  blue := UInt8.ofNat word.toNat

/-- The word `0xAARRGGBB`. -/
def argb (colour : Colour) : UInt32 :=
  UInt32.ofNat (colour.alpha.toNat * 0x1000000 + colour.red.toNat * 0x10000
    + colour.green.toNat * 0x100 + colour.blue.toNat)

theorem argb_ofArgb (word : UInt32) : (ofArgb word).argb = word := by
  apply UInt32.toNat_inj.mp
  have below : word.toNat < 0x100000000 := word.toNat_lt
  simp only [argb, ofArgb, UInt32.toNat_ofNat', UInt8.toNat_ofNat']
  omega

/-- The colour with full coverage. -/
def solid (colour : Colour) : Colour := { colour with alpha := 255 }

/-- The solid colour in the lower three bytes of a word. -/
def ofRgb (word : UInt32) : Colour := (ofArgb word).solid

/-- The word `0x00RRGGBB`. -/
def rgb (colour : Colour) : UInt32 := { colour with alpha := 0 : Colour }.argb

/-- How far apart two channels are. -/
def gap (first second : UInt8) : Nat :=
  (first.toNat - second.toNat) + (second.toNat - first.toNat)

/-- The square of the gap of two channels. -/
def squaredGap (first second : UInt8) : Nat := gap first second * gap first second

/-- The squared distance of two colours, coverage aside. -/
def distance (first second : Colour) : Nat :=
  squaredGap first.red second.red + squaredGap first.green second.green
    + squaredGap first.blue second.blue

end Colour

end GuestDraw
