/-
**Points of rectangles.**

Rectangles are known by the points that they cover. Two of them meet in their common points, also
where edges lie at the ends of the signed range and widths are cut off. A moved rectangle may lose
points beyond the ends of the range, but no image reaches that far.

* `covers_of_intersect`, `not_covers_of_intersect`: what two rectangles have in common;
* `covers_ofSize`, `covers_offset`: the rectangle of an image, and a moved one;
* `toInt_saturate_of_mem`, `toInt_saturate_of_shift`: when a number is not cut off.
-/

import GuestDraw.Pixel.Rect

namespace GuestDraw

/-! ### Signed numbers -/

/-- A number of the signed range is the one that is nearest to it. -/
theorem toInt_saturate_of_mem {value : Int} (above : -0x80000000 ≤ value)
    (below : value ≤ 0x7FFFFFFF) : (saturate value).toInt = value := by
  rw [toInt_saturate]
  omega

/-- A shift between a place of one image and a place of another one was not cut off. -/
theorem toInt_saturate_of_shift {value place : Int} (above : 0 ≤ place) (below : place < 0x7FFFFFFF)
    (least : 0 ≤ place - (saturate value).toInt)
    (most : place - (saturate value).toInt < 0x7FFFFFFF) : (saturate value).toInt = value := by
  rw [toInt_saturate] at *
  omega

theorem toInt_max (first second : Int32) :
    (max first second).toInt = max first.toInt second.toInt := by
  show (if first ≤ second then second else first).toInt = _
  simp only [Int32.le_iff_toInt_le]
  split <;> omega

theorem toInt_min (first second : Int32) :
    (min first second).toInt = min first.toInt second.toInt := by
  show (if first ≤ second then first else second).toInt = _
  simp only [Int32.le_iff_toInt_le]
  split <;> omega

/-- A number that is not negative stays what it is without a sign. -/
theorem toNat_toUInt32 {number : Int32} (above : 0 ≤ number.toInt) :
    (number.toUInt32.toNat : Int) = number.toInt := by
  have positive : 0 ≤ number := Int32.le_iff_toInt_le.mpr above
  rw [Int32.toNat_toUInt32_of_le positive, Int32.toNatClampNeg, Int.toNat_of_nonneg above]

/-- Signed numbers reach every place below their greatest one. -/
theorem exists_toInt_eq {place : Nat} (below : place < 0x7FFFFFFF) :
    ∃ number : Int32, number.toInt = place :=
  ⟨.ofInt place, Int32.toInt_ofInt_of_le (by omega) (by omega)⟩

/-! ### Rectangles -/

namespace Rect

theorem covers_iff {rect : Rect} {x y : Int} :
    rect.covers x y = true ↔ (rect.left.toInt ≤ x ∧ x < rect.right.toInt) ∧
      rect.top.toInt ≤ y ∧ y < rect.bottom.toInt := by
  simp only [covers, Bool.and_eq_true, decide_eq_true_eq, and_assoc]

theorem isEmpty_iff {rect : Rect} :
    rect.isEmpty = true ↔ rect.right.toInt ≤ rect.left.toInt ∨ rect.bottom.toInt ≤ rect.top.toInt := by
  have zero : (0 : Int32).toInt = 0 := rfl
  simp only [isEmpty, width, height, Bool.or_eq_true, decide_eq_true_eq, Int32.le_iff_toInt_le,
    toInt_saturate, zero]
  omega

/-- Two rectangles meet in the points that lie in both. -/
theorem covers_of_intersect {first second overlap : Rect}
    (meet : first.intersect second = some overlap) (x y : Int) :
    overlap.covers x y = true ↔ first.covers x y = true ∧ second.covers x y = true := by
  unfold intersect at meet
  dsimp only at meet
  split at meet
  · cases meet
  · cases meet
    simp only [covers_iff, toInt_max, toInt_min]
    omega

/-- Where two rectangles meet there is a point. -/
theorem covers_corner {first second overlap : Rect}
    (meet : first.intersect second = some overlap) :
    overlap.covers overlap.left.toInt overlap.top.toInt = true := by
  have some : overlap.isEmpty ≠ true := by
    unfold intersect at meet
    dsimp only at meet
    split at meet
    · cases meet
    · next full =>
      cases meet
      exact full
  rw [ne_eq, isEmpty_iff] at some
  rw [covers_iff]
  omega

/-- Rectangles that do not meet have no point in common. -/
theorem not_covers_of_intersect {first second : Rect} (apart : first.intersect second = none)
    (x y : Int) : ¬ (first.covers x y = true ∧ second.covers x y = true) := by
  unfold intersect at apart
  dsimp only at apart
  split at apart
  · next empty =>
    rw [isEmpty_iff] at empty
    simp only [toInt_max, toInt_min] at empty
    simp only [covers_iff]
    omega
  · cases apart

/-- The rectangle of an image has the points of its pixels. -/
theorem covers_ofSize {width height : Nat} (narrow : width ≤ 0x7FFFFFFF) (low : height ≤ 0x7FFFFFFF)
    (x y : Int) :
    (ofSize width height).covers x y = true ↔ (0 ≤ x ∧ x < width) ∧ 0 ≤ y ∧ y < height := by
  have zero : (0 : Int32).toInt = 0 := rfl
  have wide : (saturate width).toInt = width := toInt_saturate_of_mem (by omega) (by omega)
  have high : (saturate height).toInt = height := toInt_saturate_of_mem (by omega) (by omega)
  rw [covers_iff, ofSize, zero, wide, high]

/-- What a moved rectangle covers, as far as an image can reach: where an edge is cut off it is
beyond all images. -/
theorem covers_offset {rect : Rect} {dx dy : Int32} {x y : Int} (left : 0 ≤ x) (right : x < 0x7FFFFFFF)
    (top : 0 ≤ y) (bottom : y < 0x7FFFFFFF) :
    (rect.offset dx dy).covers x y = true ↔ rect.covers (x - dx.toInt) (y - dy.toInt) = true := by
  simp only [covers_iff, offset, toInt_saturate]
  omega

end Rect

end GuestDraw
