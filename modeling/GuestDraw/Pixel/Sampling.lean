/-
**Nearest sampling.**

A stretched image takes each of its pixels from one pixel of the source, chosen for rows and columns
on their own. Target place `index` reads the source place in which its centre falls: the centre
`index + 1/2` times the ratio of the sizes, rounded down. All of it is computed with 24 binary
digits: sizes and places from `2 ^ 24` on are rounded before anything else is done with them.

This is one way to resize images, `Patch.nearest`.
-/

import GuestDraw.Pixel.Binary24
import GuestDraw.Pixel.Patch

namespace GuestDraw

namespace Sampling

/-- The centre of a place. -/
def centre (index : Nat) : Binary24 :=
  Binary24.ofQuotient (2 * (Binary24.ofNat index).floor + 1) 2

/-- The place of the source that place `index` of the target reads. -/
def place (source target index : Nat) : Nat :=
  let ratio := (Binary24.ofNat source).div (Binary24.ofNat target)
  min ((centre index).mul ratio).floor (source - 1)

/-- A sampled place is a place of the source. -/
theorem place_lt {source target index : Nat} (positive : 0 < source) :
    place source target index < source :=
  Nat.lt_of_le_of_lt (Nat.min_le_right _ _) (by omega)

/-- The place of a source of `source` places that a target of `target` places reads, where a
source that has the wanted size in both directions is read place by place. -/
def sampled (same : Bool) (source target index : Nat) : Nat :=
  if same then index else place source target index

/-- A sampled place is a place of the source. -/
theorem sampled_lt {same : Bool} {source target index : Nat} (positive : 0 < source)
    (equal : same = true → source = target) (inside : index < target) :
    sampled same source target index < source := by
  unfold sampled
  split
  · next kept => exact equal kept ▸ inside
  · exact place_lt positive

end Sampling

/-- Nearest sampling, where an image that has the wanted size is left as it is. -/
def Patch.nearest (patch : Patch) (width height : Nat) : Patch where
  width := width
  height := height
  colourAt column row :=
    let same : Bool := patch.width = width ∧ patch.height = height
    patch.colourAt (Sampling.sampled same patch.width width column)
      (Sampling.sampled same patch.height height row)

end GuestDraw
