/-
**Clipped copies.**

A region of one raster is copied onto another one, clipped to both. Edges and shifts are signed
numbers of 32 bits that stop at the ends of their range, so a shift may come out other than it is
without bounds. Then nothing is copied: the region would come to lie beside the target. Where
something is copied the shift is what it should be, and every pixel is found by a plain difference.

* `Raster.Shown`: the place of the source that belongs to a pixel of the target, computed without
  bounds, lies in the region and in the source;
* `Raster.copies?`: the copy taken apart into single pixels, with differences that could overflow;
* `Raster.Assigned`, `cellAt_blit_of_inside`: which pixels of rasters of any size are assigned, and
  what;
* `blit_clipped`: none does, and just the pixels with such a place are assigned what the source has
  there.
-/

import GuestDraw.Proofs.Pixel.Rasters
import GuestDraw.Proofs.Pixel.Rectangles

namespace GuestDraw

/-! ### Places -/

namespace Rect

/-- The column of the source that comes to `column` when the left edge of the region comes to `x`,
computed without bounds. -/
def originColumn (region : Rect) (x : Int32) (column : Nat) : Int :=
  column - x.toInt + region.left.toInt

/-- The row of the source that comes to `row` when the upper edge of the region comes to `y`,
computed without bounds. -/
def originRow (region : Rect) (y : Int32) (row : Nat) : Int := row - y.toInt + region.top.toInt

/-- How far columns are moved when the left edge of the region comes to `x`, as far as signed
numbers go. -/
def shiftX (region : Rect) (x : Int32) : Int32 := saturate (x.toInt - region.left.toInt)

/-- How far rows are moved when the upper edge of the region comes to `y`, as far as signed numbers
go. -/
def shiftY (region : Rect) (y : Int32) : Int32 := saturate (y.toInt - region.top.toInt)

/-- The shifts are not cut off. -/
def Exact (region : Rect) (x y : Int32) : Prop :=
  (region.shiftX x).toInt = x.toInt - region.left.toInt ∧
    (region.shiftY y).toInt = y.toInt - region.top.toInt

end Rect

namespace Raster

/-- The raster has a pixel there. -/
def Has (raster : Raster) (column row : Int) : Prop :=
  (0 ≤ column ∧ column < raster.width) ∧ 0 ≤ row ∧ row < raster.height

/-- Signed numbers of 32 bits reach every pixel. -/
structure WithinReach (raster : Raster) : Prop where
  width : raster.width ≤ 0x7FFFFFFF
  height : raster.height ≤ 0x7FFFFFFF

/-- A copy of `region` to `x` and `y` shows a pixel of the source in a column and a row. -/
def Shown (source : Raster) (region : Rect) (x y : Int32) (column row : Nat) : Prop :=
  region.covers (region.originColumn x column) (region.originRow y row) = true ∧
    source.Has (region.originColumn x column) (region.originRow y row)

instance (raster : Raster) (column row : Int) : Decidable (raster.Has column row) :=
  inferInstanceAs (Decidable (_ ∧ _))

instance (source : Raster) (region : Rect) (x y : Int32) (column row : Nat) :
    Decidable (source.Shown region x y column row) :=
  inferInstanceAs (Decidable (_ ∧ _))

variable {target source : Raster} {region visible area : Rect} {x y : Int32} {column row : Nat}

theorem WithinReach.covers_bounds {raster : Raster} (reach : raster.WithinReach) (column row : Int) :
    raster.bounds.covers column row = true ↔ raster.Has column row :=
  Rect.covers_ofSize reach.width reach.height column row

section Area

variable (reach : target.WithinReach) (near : source.WithinReach)

include near

/-- Nothing is shown of a region that lies beside the source. -/
theorem not_shown_of_unseen (unseen : region.intersect source.bounds = none) :
    ¬ source.Shown region x y column row :=
  fun shown => Rect.not_covers_of_intersect unseen _ _ ⟨shown.1, (near.covers_bounds _ _).mpr shown.2⟩

/-- A place of the source is found by the difference to a shift that is not cut off. -/
theorem covers_shifted_iff (seen : region.intersect source.bounds = some visible)
    (uncut : region.Exact x y) :
    visible.covers (column - (region.shiftX x).toInt) (row - (region.shiftY y).toInt) = true ↔
      source.Shown region x y column row := by
  have originX : (column : Int) - (x.toInt - region.left.toInt) = region.originColumn x column := by
    unfold Rect.originColumn
    omega
  have originY : (row : Int) - (y.toInt - region.top.toInt) = region.originRow y row := by
    unfold Rect.originRow
    omega
  rw [uncut.1, uncut.2, originX, originY, Rect.covers_of_intersect seen, near.covers_bounds]
  rfl

include reach

/-- Where a place of the source is found for a pixel of the target, the shifts are not cut off. -/
theorem exact_of_covers (seen : region.intersect source.bounds = some visible)
    (inside : target.Has column row)
    (found : visible.covers (column - (region.shiftX x).toInt)
      (row - (region.shiftY y).toInt) = true) : region.Exact x y := by
  obtain ⟨⟨least, most⟩, first, last⟩ :=
    (near.covers_bounds _ _).mp ((Rect.covers_of_intersect seen _ _).mp found).2
  obtain ⟨⟨left, right⟩, top, bottom⟩ := inside
  have wide := reach.width
  have high := reach.height
  have widest := near.width
  have highest := near.height
  exact ⟨toInt_saturate_of_shift left (by omega) least (Int.lt_of_lt_of_le most (by omega)),
    toInt_saturate_of_shift top (by omega) first (Int.lt_of_lt_of_le last (by omega))⟩

/-- Where a pixel is shown the shifts are not cut off. -/
theorem exact_of_shown (inside : target.Has column row)
    (shown : source.Shown region x y column row) : region.Exact x y := by
  obtain ⟨-, ⟨least, most⟩, first, last⟩ := shown
  obtain ⟨⟨left, right⟩, top, bottom⟩ := inside
  have wide := reach.width
  have high := reach.height
  have widest := near.width
  have highest := near.height
  unfold Rect.originColumn at least most
  unfold Rect.originRow at first last
  exact ⟨toInt_saturate_of_mem (by omega) (by omega), toInt_saturate_of_mem (by omega) (by omega)⟩

/-- The region, cut to the source and moved, covers just the pixels of the target in which it is
shown. -/
theorem covers_moved_iff (seen : region.intersect source.bounds = some visible)
    (inside : target.Has column row) :
    (visible.offset (region.shiftX x) (region.shiftY y)).covers column row = true ↔
      source.Shown region x y column row := by
  have wide := reach.width
  have high := reach.height
  obtain ⟨⟨left, right⟩, top, bottom⟩ := id inside
  rw [Rect.covers_offset left (by omega) top (by omega)]
  constructor
  · intro found
    exact (covers_shifted_iff near seen (exact_of_covers reach near seen inside found)).mp found
  · intro shown
    exact (covers_shifted_iff near seen (exact_of_shown reach near inside shown)).mpr shown

/-- Nothing is shown of a region that comes to lie beside the target. -/
theorem not_shown_of_missed (seen : region.intersect source.bounds = some visible)
    (missed : (visible.offset (region.shiftX x) (region.shiftY y)).intersect target.bounds = none)
    (inside : target.Has column row) : ¬ source.Shown region x y column row :=
  fun shown => Rect.not_covers_of_intersect missed _ _
    ⟨(covers_moved_iff reach near seen inside).mpr shown, (reach.covers_bounds _ _).mpr inside⟩

variable (seen : region.intersect source.bounds = some visible)
  (lands : (visible.offset (region.shiftX x) (region.shiftY y)).intersect target.bounds = some area)

include seen lands

/-- The area that is copied to has just the pixels in which the region is shown. -/
theorem covers_area_iff :
    area.covers column row = true ↔
      target.Has column row ∧ source.Shown region x y column row := by
  rw [Rect.covers_of_intersect lands, reach.covers_bounds, and_comm]
  exact and_congr_right fun inside => covers_moved_iff reach near seen inside

/-- Where there is an area to copy to the shifts are not cut off. -/
theorem exact_of_lands : region.Exact x y := by
  have corner := Rect.covers_corner lands
  have inside := (reach.covers_bounds _ _).mp ((Rect.covers_of_intersect lands _ _).mp corner).2
  obtain ⟨column, left⟩ := Int.eq_ofNat_of_zero_le inside.1.1
  obtain ⟨row, top⟩ := Int.eq_ofNat_of_zero_le inside.2.1
  rw [left, top] at corner inside
  exact exact_of_shown reach near inside ((covers_area_iff reach near seen lands).mp corner).2

end Area

/-! ### Pixel by pixel -/

end Raster

/-- The difference of two signed numbers of 32 bits, unless it overflows. -/
def difference? (first second : Int32) : Option Int32 :=
  if -0x80000000 ≤ first.toInt - second.toInt ∧ first.toInt - second.toInt ≤ 0x7FFFFFFF then
    some (first - second)
  else none

theorem difference?_eq {first second : Int32} (least : 0 ≤ first.toInt - second.toInt)
    (most : first.toInt - second.toInt ≤ 0x7FFFFFFF) :
    difference? first second = some (first - second) ∧
      ((first - second).toUInt32.toNat : Int) = first.toInt - second.toInt := by
  have value : (first - second).toInt = first.toInt - second.toInt := by
    rw [Int32.toInt_sub, Int.bmod_eq_of_le (by omega) (by omega)]
  rw [difference?, if_pos ⟨by omega, most⟩, toNat_toUInt32 (by omega), value]
  exact ⟨rfl, rfl⟩

/-- The numbers from `first` on, up to but without `stop`. -/
def upTo (first stop : Int32) : List Int32 :=
  (List.range (stop.toInt - first.toInt).toNat).map fun step : Nat =>
    Int32.ofInt (first.toInt + step)

theorem mem_upTo_iff {first stop number : Int32} :
    number ∈ upTo first stop ↔ first.toInt ≤ number.toInt ∧ number.toInt < stop.toInt := by
  have low := Int32.le_toInt first
  have high := Int32.toInt_lt stop
  simp only [upTo, List.mem_map, List.mem_range]
  constructor
  · rintro ⟨step, inside, rfl⟩
    rw [Int32.toInt_ofInt_of_le (by omega) (by omega)]
    omega
  · rintro ⟨above, below⟩
    refine ⟨(number.toInt - first.toInt).toNat, by omega, Int32.toInt_inj.mp ?_⟩
    rw [Int32.toInt_ofInt_of_le (by omega) (by omega)]
    omega

/-- Steps that all succeed give the list of their values. -/
theorem mapM_eq_some_map {α β : Type} {step : α → Option β} {value : α → β} {items : List α}
    (succeed : ∀ item ∈ items, step item = some (value item)) :
    items.mapM step = some (items.map value) := by
  induction items with
  | nil => rfl
  | cons item rest ih =>
    rw [List.mapM_cons, succeed item (.head _), ih fun other inside => succeed other (.tail _ inside)]
    rfl

/-- One pixel of a raster, and the pixel of another one to which it is copied. -/
structure PixelCopy where
  column : Nat
  row : Nat
  sourceColumn : Nat
  sourceRow : Nat

namespace PixelCopy

/-- The pixel is stored. -/
def run (source : Raster) (agreed : Bool) (drawn : Raster) (copy : PixelCopy) : Raster :=
  drawn.setCell copy.column copy.row
    (drawn.carried source agreed copy.sourceColumn copy.sourceRow)

/-- The copy to a column and a row from the place that is the shifts away. -/
def shifted (shiftX shiftY row column : Int32) : PixelCopy where
  column := column.toUInt32.toNat
  row := row.toUInt32.toNat
  sourceColumn := (column - shiftX).toUInt32.toNat
  sourceRow := (row - shiftY).toUInt32.toNat

/-- A copy that there has to be: it goes to a pixel of the target in which the region is shown, and
comes from the place that belongs to it. -/
structure Due (copy : PixelCopy) (target source : Raster) (region : Rect) (x y : Int32) : Prop where
  inside : target.Has copy.column copy.row
  shown : source.Shown region x y copy.column copy.row
  column : (copy.sourceColumn : Int) = region.originColumn x copy.column
  row : (copy.sourceRow : Int) = region.originRow y copy.row

end PixelCopy

namespace Raster

/-- The copies to the pixels of `area`, one row after the other. There are none if a difference
overflows on the way. -/
def copiesTo? (shiftX shiftY : Int32) (area : Rect) : Option (List PixelCopy) := do
  let rows ← (upTo area.top area.bottom).mapM fun row => do
    let sourceRow ← difference? row shiftY
    (upTo area.left area.right).mapM fun column => do
      let sourceColumn ← difference? column shiftX
      return ⟨column.toUInt32.toNat, row.toUInt32.toNat, sourceColumn.toUInt32.toNat,
        sourceRow.toUInt32.toNat⟩
  return rows.flatten

/-- The single pixels that are copied with a region. -/
def copies? (target source : Raster) (region : Rect) (x y : Int32) : Option (List PixelCopy) :=
  match region.intersect source.bounds with
  | none => some []
  | some visible =>
    match (visible.offset (region.shiftX x) (region.shiftY y)).intersect target.bounds with
    | none => some []
    | some area => copiesTo? (region.shiftX x) (region.shiftY y) area

variable {target source : Raster} {region visible area : Rect} {x y : Int32} {column row : Nat}

/-- No difference overflows between places of images. -/
theorem copiesTo?_eq {shiftX shiftY : Int32}
    (columns : ∀ column ∈ upTo area.left area.right,
      0 ≤ column.toInt - shiftX.toInt ∧ column.toInt - shiftX.toInt ≤ 0x7FFFFFFF)
    (rows : ∀ row ∈ upTo area.top area.bottom,
      0 ≤ row.toInt - shiftY.toInt ∧ row.toInt - shiftY.toInt ≤ 0x7FFFFFFF) :
    copiesTo? shiftX shiftY area = some ((upTo area.top area.bottom).flatMap fun row =>
      (upTo area.left area.right).map (PixelCopy.shifted shiftX shiftY row)) := by
  have line : ∀ row ∈ upTo area.top area.bottom, (do
      let sourceRow ← difference? row shiftY
      (upTo area.left area.right).mapM fun column => do
        let sourceColumn ← difference? column shiftX
        return (⟨column.toUInt32.toNat, row.toUInt32.toNat, sourceColumn.toUInt32.toNat,
          sourceRow.toUInt32.toNat⟩ : PixelCopy)) =
      some ((upTo area.left area.right).map (PixelCopy.shifted shiftX shiftY row)) := by
    intro row inside
    obtain ⟨least, most⟩ := rows row inside
    rw [(difference?_eq least most).1]
    refine mapM_eq_some_map fun column inside => ?_
    obtain ⟨least, most⟩ := columns column inside
    rw [(difference?_eq least most).1]
    rfl
  rw [copiesTo?, mapM_eq_some_map line, List.flatMap_def]
  rfl

/-- A difference to a shift that is not cut off is the place that belongs to a pixel. -/
theorem places_shifted {columnWord rowWord : Int32} (near : source.WithinReach)
    (uncut : region.Exact x y) (left : (column : Int) = columnWord.toInt)
    (top : (row : Int) = rowWord.toInt) (shown : source.Shown region x y column row) :
    (0 ≤ columnWord.toInt - (region.shiftX x).toInt ∧
        columnWord.toInt - (region.shiftX x).toInt ≤ 0x7FFFFFFF) ∧
      (0 ≤ rowWord.toInt - (region.shiftY y).toInt ∧
        rowWord.toInt - (region.shiftY y).toInt ≤ 0x7FFFFFFF) ∧
      ((columnWord - region.shiftX x).toUInt32.toNat : Int) = region.originColumn x column ∧
      ((rowWord - region.shiftY y).toUInt32.toNat : Int) = region.originRow y row := by
  obtain ⟨-, ⟨least, most⟩, first, last⟩ := shown
  have wide := near.width
  have high := near.height
  have originX : columnWord.toInt - (region.shiftX x).toInt = region.originColumn x column := by
    rw [uncut.1, Rect.originColumn]
    omega
  have originY : rowWord.toInt - (region.shiftY y).toInt = region.originRow y row := by
    rw [uncut.2, Rect.originRow]
    omega
  rw [← originX] at least most ⊢
  rw [← originY] at first last ⊢
  exact ⟨⟨least, by omega⟩, ⟨first, by omega⟩, (difference?_eq least (by omega)).2,
    (difference?_eq first (by omega)).2⟩

section Copies

variable (reach : target.WithinReach) (near : source.WithinReach)

include reach near

/-- The copies that there have to be are those to the pixels of the area. -/
theorem due_iff (seen : region.intersect source.bounds = some visible)
    (lands : (visible.offset (region.shiftX x) (region.shiftY y)).intersect target.bounds = some area)
    {copy : PixelCopy} :
    copy.Due target source region x y ↔ ∃ row column : Int32,
      area.covers column.toInt row.toInt = true ∧
        PixelCopy.shifted (region.shiftX x) (region.shiftY y) row column = copy := by
  have uncut := exact_of_lands reach near seen lands
  have wide := reach.width
  have high := reach.height
  constructor
  · obtain ⟨column, row, sourceColumn, sourceRow⟩ := copy
    rintro ⟨inside, shown, fromColumn, fromRow⟩
    dsimp only at inside shown fromColumn fromRow
    have below : column < 0x7FFFFFFF ∧ row < 0x7FFFFFFF := by
      obtain ⟨⟨-, right⟩, -, bottom⟩ := inside
      omega
    obtain ⟨columnWord, left⟩ := exists_toInt_eq below.1
    obtain ⟨rowWord, top⟩ := exists_toInt_eq below.2
    have toColumn : (columnWord.toUInt32.toNat : Int) = _ := toNat_toUInt32 (by omega)
    have toRow : (rowWord.toUInt32.toNat : Int) = _ := toNat_toUInt32 (by omega)
    obtain ⟨-, -, places⟩ := places_shifted near uncut left.symm top.symm shown
    refine ⟨rowWord, columnWord, ?_, ?_⟩
    · rw [left, top]
      exact (covers_area_iff reach near seen lands).mpr ⟨inside, shown⟩
    · rw [PixelCopy.shifted, PixelCopy.mk.injEq]
      omega
  · rintro ⟨row, column, covered, rfl⟩
    have inside : target.Has column.toInt row.toInt :=
      (reach.covers_bounds _ _).mp ((Rect.covers_of_intersect lands _ _).mp covered).2
    have left := toNat_toUInt32 inside.1.1
    have top := toNat_toUInt32 inside.2.1
    rw [← left, ← top] at covered inside
    obtain ⟨-, shown⟩ := (covers_area_iff reach near seen lands).mp covered
    obtain ⟨-, -, sourceColumn, sourceRow⟩ := places_shifted near uncut left top shown
    exact ⟨inside, shown, sourceColumn, sourceRow⟩

/-- No difference overflows, and the pixels that are copied are those that have to be. -/
theorem exists_copies : ∃ copies, target.copies? source region x y = some copies ∧
    ∀ copy, copy ∈ copies ↔ copy.Due target source region x y := by
  unfold copies?
  cases seen : region.intersect source.bounds with
  | none =>
    refine ⟨[], rfl, fun copy => iff_of_false List.not_mem_nil fun due => ?_⟩
    exact not_shown_of_unseen near seen due.shown
  | some visible =>
    dsimp only
    cases lands : (visible.offset (region.shiftX x) (region.shiftY y)).intersect target.bounds with
    | none =>
      refine ⟨[], rfl, fun copy => iff_of_false List.not_mem_nil fun due => ?_⟩
      exact not_shown_of_missed reach near seen lands due.inside due.shown
    | some area =>
      have corner := Rect.covers_iff.mp (Rect.covers_corner lands)
      have uncut := exact_of_lands reach near seen lands
      -- Every pixel of the area has a place in the source, so one in each row and column does.
      have placed : ∀ column row : Int32, area.covers column.toInt row.toInt = true →
          (0 ≤ column.toInt - (region.shiftX x).toInt ∧
            column.toInt - (region.shiftX x).toInt ≤ 0x7FFFFFFF) ∧
          0 ≤ row.toInt - (region.shiftY y).toInt ∧
            row.toInt - (region.shiftY y).toInt ≤ 0x7FFFFFFF := by
        intro column row covered
        have due := (due_iff reach near seen lands).mpr ⟨row, column, covered, rfl⟩
        have inside : target.Has column.toInt row.toInt :=
          (reach.covers_bounds _ _).mp ((Rect.covers_of_intersect lands _ _).mp covered).2
        obtain ⟨columns, rows, -⟩ := places_shifted near uncut (toNat_toUInt32 inside.1.1)
          (toNat_toUInt32 inside.2.1) due.shown
        exact ⟨columns, rows⟩
      refine ⟨_, copiesTo?_eq (fun column inside => ?_) (fun row inside => ?_), fun copy => ?_⟩
      · exact (placed column area.top (Rect.covers_iff.mpr ⟨mem_upTo_iff.mp inside, corner.2⟩)).1
      · exact (placed area.left row (Rect.covers_iff.mpr ⟨corner.1, mem_upTo_iff.mp inside⟩)).2
      · rw [due_iff reach near seen lands]
        simp only [List.mem_flatMap, List.mem_map, mem_upTo_iff, Rect.covers_iff]
        constructor
        · rintro ⟨row, inRows, column, inColumns, same⟩
          exact ⟨row, column, ⟨inColumns, inRows⟩, same⟩
        · rintro ⟨row, column, ⟨inColumns, inRows⟩, same⟩
          exact ⟨row, inRows, column, inColumns, same⟩

end Copies

/-! ### What is drawn -/

@[simp] theorem width_setCell (raster : Raster) (column row : Nat) (value : UInt32) :
    (raster.setCell column row value).width = raster.width := by
  unfold setCell
  split <;> rfl

@[simp] theorem height_setCell (raster : Raster) (column row : Nat) (value : UInt32) :
    (raster.setCell column row value).height = raster.height := by
  unfold setCell
  split <;> rfl

@[simp] theorem format_setCell (raster : Raster) (column row : Nat) (value : UInt32) :
    (raster.setCell column row value).format = raster.format := by
  unfold setCell
  split <;> rfl

@[simp] theorem palette_setCell (raster : Raster) (column row : Nat) (value : UInt32) :
    (raster.setCell column row value).palette = raster.palette := by
  unfold setCell
  split <;> rfl

theorem size_setCell (raster : Raster) (column row : Nat) (value : UInt32) :
    (raster.setCell column row value).cells.size = raster.cells.size := by
  unfold setCell
  split
  · exact Array.size_setIfInBounds
  · rfl

/-- What stands for a colour is read off format and palette. -/
theorem carried_congr {first second : Raster} (format : first.format = second.format)
    (palette : first.palette = second.palette) (agreed : Bool) (column row : Nat) :
    first.carried source agreed column row = second.carried source agreed column row := by
  simp only [carried, cellFor, entries, format, palette]

/-- The single copies leave a raster of the same shape. -/
theorem shape_foldl_run (agreed : Bool) (copies : List PixelCopy) (target : Raster) :
    let drawn := copies.foldl (PixelCopy.run source agreed) target
    drawn.width = target.width ∧ drawn.height = target.height ∧ drawn.format = target.format ∧
      drawn.palette = target.palette ∧ drawn.cells.size = target.cells.size := by
  induction copies generalizing target with
  | nil => exact ⟨rfl, rfl, rfl, rfl, rfl⟩
  | cons copy rest ih =>
    obtain ⟨width, height, format, palette, size⟩ := ih (PixelCopy.run source agreed target copy)
    exact ⟨width.trans (width_setCell ..), height.trans (height_setCell ..),
      format.trans (format_setCell ..), palette.trans (palette_setCell ..),
      size.trans (size_setCell ..)⟩

/-- A cell to which pixels are copied holds what comes from their place, if it is one place, and
every other cell what it held. -/
theorem cellAt_foldl_run {agreed : Bool} {copies : List PixelCopy} {value : UInt32}
    (complete : target.cells.size = target.width * target.height)
    (inside : ∀ copy ∈ copies, copy.column < target.width ∧ copy.row < target.height)
    (brings : ∀ copy ∈ copies, copy.column = column → copy.row = row →
      target.format.cellKind.narrow
        (target.carried source agreed copy.sourceColumn copy.sourceRow) = value) :
    (copies.foldl (PixelCopy.run source agreed) target).cellAt column row =
      if ∃ copy ∈ copies, copy.column = column ∧ copy.row = row then value
      else target.cellAt column row := by
  induction copies generalizing target with
  | nil => simp
  | cons copy rest ih =>
    have same : ∀ column row, (PixelCopy.run source agreed target copy).carried source agreed column row =
        target.carried source agreed column row :=
      carried_congr (format_setCell ..) (palette_setCell ..) agreed
    have here := cellAt_setCell complete (inside copy (.head _))
      (target.carried source agreed copy.sourceColumn copy.sourceRow) column row
    rw [List.foldl_cons, ih ?_ ?_ ?_]
    · rw [PixelCopy.run, here]
      by_cases later : ∃ copy ∈ rest, copy.column = column ∧ copy.row = row
      · simp [later]
      · by_cases now : copy.column = column ∧ copy.row = row
        · simp [later, now, brings copy (.head _) now.1 now.2]
        · simp [later, now]
    · rw [PixelCopy.run, size_setCell, width_setCell, height_setCell, complete]
    · rw [PixelCopy.run, width_setCell, height_setCell]
      exact fun other listed => inside other (.tail _ listed)
    · intro other listed
      rw [same, PixelCopy.run, format_setCell]
      exact brings other (.tail _ listed)

theorem agrees_iff : target.agrees source = true ↔
    target.format = source.format ∧ target.palette = source.palette := by
  rw [agrees, Bool.and_eq_true, decide_eq_true_eq, decide_eq_true_eq]

/-- The place of the source that belongs to a pixel of the target, and what is carried over from
there. -/
def brought (target source : Raster) (region : Rect) (x y : Int32) (column row : Nat) : UInt32 :=
  target.carried source (target.agrees source) (region.originColumn x column).toNat
    (region.originRow y row).toNat

/-- The part of a raster that signed numbers of 32 bits reach, as far as its size goes. -/
def reached (raster : Raster) : Raster :=
  { raster with width := min raster.width 0x7FFFFFFF, height := min raster.height 0x7FFFFFFF }

theorem withinReach_reached (raster : Raster) : raster.reached.WithinReach :=
  ⟨Nat.min_le_right _ _, Nat.min_le_right _ _⟩

theorem reached_eq {raster : Raster} (reach : raster.WithinReach) : raster.reached = raster := by
  rw [reached, Nat.min_eq_left reach.width, Nat.min_eq_left reach.height]

/-- The rectangle of a raster ends where signed numbers end. -/
theorem bounds_reached (raster : Raster) : raster.reached.bounds = raster.bounds := by
  have cut : ∀ size : Nat, saturate (min size 0x7FFFFFFF : Nat) = saturate size := by
    intro size
    apply Int32.toInt_inj.mp
    rw [toInt_saturate, toInt_saturate]
    omega
  simp only [bounds, Rect.ofSize, reached, cut]

theorem copies?_reached (target source : Raster) (region : Rect) (x y : Int32) :
    target.reached.copies? source.reached region x y = target.copies? source region x y := by
  unfold copies?
  rw [bounds_reached, bounds_reached]

/-- A copy of a region to `x` and `y` stores something in the pixel in a column and a row. -/
def Assigned (target source : Raster) (region : Rect) (x y : Int32) (column row : Nat) : Prop :=
  target.reached.Has column row ∧ source.reached.Shown region x y column row

instance (target source : Raster) (region : Rect) (x y : Int32) (column row : Nat) :
    Decidable (target.Assigned source region x y column row) :=
  inferInstanceAs (Decidable (_ ∧ _))

theorem Assigned.inside (assigned : target.Assigned source region x y column row) :
    column < target.width ∧ row < target.height := by
  obtain ⟨⟨⟨-, right⟩, -, bottom⟩, -⟩ := assigned
  unfold reached at right bottom
  dsimp only at right bottom
  omega

/-- A copy of a region to `x` and `y` copies a single pixel, from the place that belongs to it. -/
structure Carries (target source : Raster) (region : Rect) (x y : Int32) (copy : PixelCopy) : Prop where
  assigned : target.Assigned source region x y copy.column copy.row
  column : (copy.sourceColumn : Int) = region.originColumn x copy.column
  row : (copy.sourceRow : Int) = region.originRow y copy.row

section Drawn

variable (complete : target.cells.size = target.width * target.height)

include complete

/-- A copy stores what belongs to it in every pixel that it assigns, and nothing elsewhere. -/
theorem cellAt_blit_of_inside (inside : column < target.width ∧ row < target.height) :
    (target.blit source region x y).cellAt column row =
      if target.Assigned source region x y column row then
        target.format.cellKind.narrow (target.brought source region x y column row)
      else target.cellAt column row := by
  have reach := target.withinReach_reached
  have near := source.withinReach_reached
  unfold blit
  rw [← source.bounds_reached, ← target.bounds_reached]
  cases seen : region.intersect source.reached.bounds with
  | none => rw [if_neg fun assigned => not_shown_of_unseen near seen assigned.2]
  | some visible =>
    dsimp only
    cases lands : (visible.offset (saturate (x.toInt - region.left.toInt))
        (saturate (y.toInt - region.top.toInt))).intersect target.reached.bounds with
    | none =>
      rw [if_neg fun assigned => not_shown_of_missed reach near seen lands assigned.1 assigned.2]
    | some area =>
      have covers : area.covers column row = true ↔ target.Assigned source region x y column row :=
        covers_area_iff reach near seen lands
      have uncut : region.Exact x y := exact_of_lands reach near seen lands
      dsimp only
      rw [cellAt_paint complete inside]
      by_cases assigned : target.Assigned source region x y column row
      · have originX : (column : Int) - (region.shiftX x).toInt = region.originColumn x column := by
          rw [uncut.1, Rect.originColumn]
          omega
        have originY : (row : Int) - (region.shiftY y).toInt = region.originRow y row := by
          rw [uncut.2, Rect.originRow]
          omega
        rw [if_pos (covers.mpr assigned), if_pos assigned, brought, ← originX, ← originY]
        rfl
      · rw [if_neg fun covered => assigned (covers.mp covered), if_neg assigned]

/-- A copy is drawn pixel by pixel, with the pixels that it assigns, and no difference overflows. -/
theorem exists_assigned : ∃ copies, target.copies? source region x y = some copies ∧
    target.blit source region x y =
      copies.foldl (PixelCopy.run source (target.agrees source)) target ∧
    (∀ copy ∈ copies, target.Carries source region x y copy) ∧
    ∀ column row : Nat, (∃ copy ∈ copies, copy.column = column ∧ copy.row = row) ↔
      target.Assigned source region x y column row := by
  obtain ⟨copies, known, due⟩ :=
    @exists_copies _ _ region x y target.withinReach_reached source.withinReach_reached
  rw [copies?_reached] at known
  have listed : ∀ column row : Nat, (∃ copy ∈ copies, copy.column = column ∧ copy.row = row) ↔
      target.Assigned source region x y column row := by
    intro column row
    constructor
    · rintro ⟨copy, inside, rfl, rfl⟩
      exact ⟨((due copy).mp inside).inside, ((due copy).mp inside).shown⟩
    · rintro ⟨inside, shown⟩
      obtain ⟨-, ⟨left, -⟩, top, -⟩ := id shown
      exact ⟨⟨column, row, _, _⟩, (due _).mpr ⟨inside, shown, Int.toNat_of_nonneg left,
        Int.toNat_of_nonneg top⟩, rfl, rfl⟩
  have places : ∀ copy ∈ copies, target.Carries source region x y copy := by
    intro copy inside
    obtain ⟨within, shown, fromColumn, fromRow⟩ := (due copy).mp inside
    exact ⟨⟨within, shown⟩, fromColumn, fromRow⟩
  refine ⟨copies, known, ?_, places, listed⟩
  have within : ∀ copy ∈ copies, copy.column < target.width ∧ copy.row < target.height :=
    fun copy inside => (places copy inside).assigned.inside
  obtain ⟨width, height, format, palette, size⟩ :=
    @shape_foldl_run source (target.agrees source) copies target
  have shape := shape_eq_iff.mp (shape_blit target source region x y)
  refine ext_cellAt (shape.1.trans width.symm) (shape.2.1.trans height.symm)
    (shape.2.2.trans format.symm) ((palette_blit ..).trans palette.symm) ?_
    (by rw [size, width, height, complete]) fun column row right bottom => ?_
  · rw [shape.1, shape.2.1, ← complete]
    exact size_blit target source region x y
  · rw [width] at right
    rw [height] at bottom
    have brings : ∀ copy ∈ copies, copy.column = column → copy.row = row →
        target.format.cellKind.narrow
            (target.carried source (target.agrees source) copy.sourceColumn copy.sourceRow) =
          target.format.cellKind.narrow (target.brought source region x y column row) := by
      intro copy listed here there
      obtain ⟨-, fromColumn, fromRow⟩ := places copy listed
      rw [brought, ← here, ← there, ← fromColumn, ← fromRow]
      rfl
    rw [cellAt_blit_of_inside complete ⟨right, bottom⟩, cellAt_foldl_run complete within brings]
    simp only [listed]

end Drawn

section Reach

variable (reach : target.WithinReach) (near : source.WithinReach)

include reach near

/-- Where signed numbers reach every pixel, those are assigned in which the region is shown. -/
theorem assigned_iff : target.Assigned source region x y column row ↔
    target.Has column row ∧ source.Shown region x y column row := by
  rw [Assigned, reached_eq reach, reached_eq near]

variable (complete : target.cells.size = target.width * target.height)

include complete

/-- A copy stores in every pixel in which the region is shown what belongs to it, and nothing
elsewhere. -/
theorem cellAt_blit (inside : target.Has column row) :
    (target.blit source region x y).cellAt column row =
      if source.Shown region x y column row then
        target.format.cellKind.narrow (target.brought source region x y column row)
      else target.cellAt column row := by
  have within : column < target.width ∧ row < target.height := by
    obtain ⟨⟨-, right⟩, -, bottom⟩ := inside
    omega
  rw [cellAt_blit_of_inside complete within]
  simp only [assigned_iff reach near, inside, true_and]

/-- A copy is drawn pixel by pixel, and the pixels that are assigned are those in which the region
is shown. -/
theorem blit_eq_foldl : ∃ copies, target.copies? source region x y = some copies ∧
    target.blit source region x y =
      copies.foldl (PixelCopy.run source (target.agrees source)) target ∧
    ∀ column row : Nat, (∃ copy ∈ copies, copy.column = column ∧ copy.row = row) ↔
      target.Has column row ∧ source.Shown region x y column row := by
  obtain ⟨copies, known, drawn, -, listed⟩ := @exists_assigned _ source region x y complete
  exact ⟨copies, known, drawn, fun column row =>
    (listed column row).trans (assigned_iff reach near)⟩

end Reach

/-- The raster `drawn` is `target` after a copy of a region of `source` that was clipped as it has
to be. -/
structure ClippedCopy (target source : Raster) (region : Rect) (x y : Int32) (drawn : Raster) :
    Prop where
  width : drawn.width = target.width
  height : drawn.height = target.height
  format : drawn.format = target.format
  palette : drawn.palette = target.palette
  /-- It is drawn pixel by pixel, no difference overflows, and the pixels that are assigned are
  those in which the region is shown. -/
  assigned : ∃ copies, target.copies? source region x y = some copies ∧
    drawn = copies.foldl (PixelCopy.run source (target.agrees source)) target ∧
    ∀ column row : Nat, (∃ copy ∈ copies, copy.column = column ∧ copy.row = row) ↔
      target.Has column row ∧ source.Shown region x y column row
  /-- Between rasters of one format and palette cells are carried over. -/
  verbatim : target.format = source.format → target.palette = source.palette →
    ∀ column row : Nat, target.Has column row → source.Shown region x y column row →
      drawn.cellAt column row = source.cellAt (region.originColumn x column).toNat
        (region.originRow y row).toNat
  /-- Between others it is the cell that stands for the colour. -/
  converted : ¬ (target.format = source.format ∧ target.palette = source.palette) →
    ∀ column row : Nat, target.Has column row → source.Shown region x y column row →
      drawn.cellAt column row = target.cellFor (source.colourAt
        (region.originColumn x column).toNat (region.originRow y row).toNat)
  /-- All other pixels are what they were. -/
  kept : ∀ column row : Nat, target.Has column row → ¬ source.Shown region x y column row →
    drawn.cellAt column row = target.cellAt column row

/-- **A copy is clipped as it would be without bounds**, whatever the region and wherever it comes
to. -/
theorem blit_clipped {target source : Raster} (sound : target.Sound) (given : source.Sound)
    (reach : target.WithinReach) (near : source.WithinReach) (region : Rect) (x y : Int32) :
    ClippedCopy target source region x y (target.blit source region x y) := by
  have shape := shape_eq_iff.mp (shape_blit target source region x y)
  refine ⟨shape.1, shape.2.1, shape.2.2, palette_blit .., blit_eq_foldl reach near sound.complete,
    fun format palette column row inside shown => ?_, fun different column row inside shown => ?_,
    fun column row inside hidden => ?_⟩
  · rw [cellAt_blit reach near sound.complete inside, if_pos shown, brought, carried,
      if_pos (agrees_iff.mpr ⟨format, palette⟩), format]
    exact given.narrow_cellAt _ _
  · rw [cellAt_blit reach near sound.complete inside, if_pos shown, brought, carried,
      if_neg fun agreed => different (agrees_iff.mp agreed)]
    exact narrow_cellFor _ _
  · rw [cellAt_blit reach near sound.complete inside, if_neg hidden]

/-- A region that reaches from one end of the signed range to the other is clipped to a single
pixel. -/
theorem blit_clipped_widest :
    let target := blank 1 1 .argb8888
    let source := (blank 2 1 .argb8888).setCell 1 0 6
    let region : Rect := ⟨-0x7FFFFFFF, -0x80000000, 0x7FFFFFFF, 0x7FFFFFFF⟩
    target.Sound ∧ source.Sound ∧ target.WithinReach ∧ source.WithinReach ∧
      ClippedCopy target source region (-0x80000000) (-0x80000000)
        (target.blit source region (-0x80000000) (-0x80000000)) ∧
      (target.blit source region (-0x80000000) (-0x80000000)).cells = #[6] := by
  intro target source region
  have sound : target.Sound := sound_blank 1 1 .argb8888
  have given : source.Sound := (sound_blank 2 1 .argb8888).setCell 1 0 6
  have reach : target.WithinReach := ⟨by decide, by decide⟩
  have near : source.WithinReach := ⟨by decide, by decide⟩
  exact ⟨sound, given, reach, near, blit_clipped sound given reach near region _ _,
    by decide +kernel⟩

end Raster

end GuestDraw
