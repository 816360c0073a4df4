/-
**Rectangles as sets of points.**

Two rectangles are cut to each other edge by edge, and whether anything is left is read off a width
and a height that stop at the ends of the signed range. What comes out is the intersection of the
sets of points all the same, also for rectangles that reach from one end of the range to the other
and for those whose edges are the wrong way round: a width that was cut off is positive, or
negative, as the full one is. Where the sets have a point in common there is one rectangle with just
these points, and where they have none there is no rectangle, so the laws of sets carry over to
rectangles themselves.

* `Rect.points`, `Rect.pointsOf`: the points of a rectangle, and of one that there may be;
* `points_eq_empty_iff`: emptiness is decided as for sets;
* `pointsOf_intersect`: two rectangles are cut to each other as their sets of points are;
* `Proper`, `pointsOf_inj`: rectangles with points are known by them;
* `intersect_exact`: all of this, and that the order of cutting does not matter.
-/

import GuestDraw.Proofs.Pixel.Rectangles
import Mathlib.Data.Set.Basic

namespace GuestDraw.Rect

variable {rect first second : Rect}

/-! ### Points -/

/-- The points that a rectangle covers. -/
def points (rect : Rect) : Set (Int × Int) := {point | rect.covers point.1 point.2 = true}

/-- The points of a rectangle that there may be. -/
def pointsOf (rect : Option Rect) : Set (Int × Int) :=
  {point | ∃ there, rect = some there ∧ there.covers point.1 point.2 = true}

/-- What two rectangles have in common, if there are both. -/
def meet (first second : Option Rect) : Option Rect := do
  (← first).intersect (← second)

theorem mem_points {x y : Int} : (x, y) ∈ rect.points ↔ rect.covers x y = true := Iff.rfl

theorem mem_pointsOf {rect : Option Rect} {x y : Int} :
    (x, y) ∈ pointsOf rect ↔ ∃ there, rect = some there ∧ there.covers x y = true := Iff.rfl

@[simp] theorem pointsOf_some (rect : Rect) : pointsOf (some rect) = rect.points := by
  ext ⟨x, y⟩
  simp [mem_points, mem_pointsOf]

@[simp] theorem pointsOf_none : pointsOf none = ∅ := by
  ext ⟨x, y⟩
  simp [mem_pointsOf]

/-- A rectangle that is not empty covers its upper left corner. -/
theorem covers_left_top (full : rect.isEmpty = false) :
    rect.covers rect.left.toInt rect.top.toInt = true := by
  rw [← Bool.not_eq_true, isEmpty_iff] at full
  rw [covers_iff]
  omega

/-- A rectangle that is not empty covers its lower right corner, which is one point before the
edges. -/
theorem covers_right_bottom (full : rect.isEmpty = false) :
    rect.covers (rect.right.toInt - 1) (rect.bottom.toInt - 1) = true := by
  rw [← Bool.not_eq_true, isEmpty_iff] at full
  rw [covers_iff]
  omega

/-- A rectangle is empty if it covers no point, however its width and its height are cut off. -/
theorem points_eq_empty_iff : rect.points = ∅ ↔ rect.isEmpty = true := by
  constructor
  · intro none
    by_contra full
    have corner := mem_points.mpr (covers_left_top (Bool.eq_false_iff.mpr full))
    rw [none] at corner
    exact corner
  · intro empty
    rw [isEmpty_iff] at empty
    refine Set.eq_empty_of_forall_notMem fun ⟨x, y⟩ inside => ?_
    rw [mem_points, covers_iff] at inside
    omega

/-! ### Known by their points -/

/-- If there is a rectangle, it covers some point. -/
def Proper (rect : Option Rect) : Prop := ∀ there, rect = some there → there.isEmpty = false

theorem proper_intersect (first second : Rect) : Proper (first.intersect second) := by
  intro overlap meet
  unfold intersect at meet
  dsimp only at meet
  split at meet
  · cases meet
  · next full =>
    cases meet
    exact Bool.eq_false_iff.mpr full

/-- Rectangles that are not empty are known by their points. -/
theorem points_inj (full : first.isEmpty = false) (fullToo : second.isEmpty = false)
    (same : first.points = second.points) : first = second := by
  have within : ∀ {x y : Int}, first.covers x y = true ↔ second.covers x y = true := by
    intro x y
    rw [← mem_points, same, mem_points]
  -- Each rectangle covers both corners of the other one, so no edge is further out.
  have one := covers_iff.mp (within.mp (covers_left_top full))
  have two := covers_iff.mp (within.mp (covers_right_bottom full))
  have three := covers_iff.mp (within.mpr (covers_left_top fullToo))
  have four := covers_iff.mp (within.mpr (covers_right_bottom fullToo))
  rw [mk.injEq, ← Int32.toInt_inj, ← Int32.toInt_inj, ← Int32.toInt_inj, ← Int32.toInt_inj]
  omega

/-- There is one proper rectangle at most for a set of points, and none for the set without
points. -/
theorem pointsOf_inj {first second : Option Rect} (proper : Proper first) (properToo : Proper second)
    (same : pointsOf first = pointsOf second) : first = second := by
  cases first with
  | none =>
    cases second with
    | none => rfl
    | some there =>
      rw [pointsOf_none, pointsOf_some] at same
      have empty := points_eq_empty_iff.mp same.symm
      rw [properToo there rfl] at empty
      cases empty
  | some rect =>
    cases second with
    | none =>
      rw [pointsOf_none, pointsOf_some] at same
      have empty := points_eq_empty_iff.mp same
      rw [proper rect rfl] at empty
      cases empty
    | some there =>
      rw [pointsOf_some, pointsOf_some] at same
      rw [points_inj (proper rect rfl) (properToo there rfl) same]

/-! ### In common -/

/-- A point lies in both rectangles just if there is a rectangle that they have in common, and it
lies in that. -/
theorem covers_both_iff {x y : Int} :
    first.covers x y = true ∧ second.covers x y = true ↔
      ∃ overlap, first.intersect second = some overlap ∧ overlap.covers x y = true := by
  cases found : first.intersect second with
  | none =>
    refine iff_of_false (not_covers_of_intersect found x y) ?_
    rintro ⟨overlap, none, -⟩
    cases none
  | some overlap =>
    rw [← covers_of_intersect found x y]
    constructor
    · intro inside
      exact ⟨overlap, rfl, inside⟩
    · rintro ⟨other, same, inside⟩
      cases same
      exact inside

/-- Two rectangles are cut to each other as their sets of points are. -/
theorem pointsOf_intersect (first second : Rect) :
    pointsOf (first.intersect second) = first.points ∩ second.points := by
  ext ⟨x, y⟩
  rw [mem_pointsOf, ← covers_both_iff]
  rfl

theorem pointsOf_meet (first second : Option Rect) :
    pointsOf (meet first second) = pointsOf first ∩ pointsOf second := by
  cases first with
  | none => simp [meet]
  | some rect =>
    cases second with
    | none => simp [meet]
    | some other =>
      rw [pointsOf_some, pointsOf_some]
      exact pointsOf_intersect rect other

theorem proper_meet (first second : Option Rect) : Proper (meet first second) := by
  cases first with
  | none => exact nofun
  | some rect =>
    cases second with
    | none => exact nofun
    | some other => exact proper_intersect rect other

/-- Rectangles have nothing in common just if there is no point whose place two signed numbers give
and that lies in both. -/
theorem intersect_eq_none_iff : first.intersect second = none ↔
    ¬ ∃ x y : Int32, first.covers x.toInt y.toInt = true ∧ second.covers x.toInt y.toInt = true := by
  constructor
  · rintro apart ⟨x, y, inside⟩
    exact not_covers_of_intersect apart _ _ inside
  · intro apart
    cases found : first.intersect second with
    | none => rfl
    | some overlap =>
      have corner := covers_left_top (proper_intersect _ _ _ found)
      exact absurd ⟨overlap.left, overlap.top, (covers_of_intersect found _ _).mp corner⟩ apart

/-- **Rectangles are cut to each other as sets of points are**, over the whole signed range. A
rectangle comes out just if there is a point in common, it has all of these and no other, and
neither the order of two rectangles nor that of two cuts matters. -/
theorem intersect_exact (first second third : Rect) :
    (∀ x y : Int, first.covers x y = true ∧ second.covers x y = true ↔
      ∃ overlap, first.intersect second = some overlap ∧ overlap.covers x y = true) ∧
    (first.intersect second = none ↔
      ¬ ∃ x y : Int32, first.covers x.toInt y.toInt = true ∧ second.covers x.toInt y.toInt = true) ∧
    (first.isEmpty = true ↔ first.points = ∅) ∧
    pointsOf (first.intersect second) = first.points ∩ second.points ∧
    first.intersect second = second.intersect first ∧
    meet (first.intersect second) (some third) = meet (some first) (second.intersect third) := by
  refine ⟨fun x y => covers_both_iff, intersect_eq_none_iff, points_eq_empty_iff.symm,
    pointsOf_intersect first second, ?_, ?_⟩
  · refine pointsOf_inj (proper_intersect _ _) (proper_intersect _ _) ?_
    rw [pointsOf_intersect, pointsOf_intersect, Set.inter_comm]
  · refine pointsOf_inj (proper_meet _ _) (proper_meet _ _) ?_
    rw [pointsOf_meet, pointsOf_meet, pointsOf_intersect, pointsOf_intersect, pointsOf_some,
      pointsOf_some, Set.inter_assoc]

/-- The width from one end of the signed range to the other is cut off, and the rectangle has points
all the same. -/
example : (⟨-0x80000000, 0, 0x7FFFFFFF, 1⟩ : Rect).intersect ⟨-0x80000000, -5, -0x7FFFFFFF, 5⟩ =
    some ⟨-0x80000000, 0, -0x7FFFFFFF, 1⟩ := by decide

end GuestDraw.Rect
