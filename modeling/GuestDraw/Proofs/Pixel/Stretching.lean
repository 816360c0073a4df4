/-
**Stretched copies.**

A region of one raster is resized onto an area of another one, however images are resized
(`Resizes`). The part of the region that the source has is taken out, resized, and drawn pixel by
pixel at places of 32 bits.

* `resizes_nearest`: taking the nearest pixels is a way to resize;
* `landing?_eq_some_iff`, `Patch.mem_dabs_iff`: where the pixels of a resized image come to, and
  that nothing is cut off;
* `cellAt_drawn`: what is drawn; `stretch_eq_stretchBy`: the nearest pixels may be drawn in another
  order;
* `stretch_confined`: only pixels of the area change, to colours from the region.
-/

import GuestDraw.Proofs.Pixel.Clipping

namespace GuestDraw

/-! ### Nearest sampling -/

theorem resizes_nearest : Resizes Patch.nearest where
  width _ _ _ := rfl
  height _ _ _ := rfl
  chosen patch width height wide high column row right bottom := by
    have equal : ∀ same : Bool, same = decide (patch.width = width ∧ patch.height = height) →
        same = true → patch.width = width ∧ patch.height = height :=
      fun _ known kept => of_decide_eq_true (known ▸ kept)
    exact ⟨_, _, Sampling.sampled_lt wide (fun kept => (equal _ rfl kept).1) right,
      Sampling.sampled_lt high (fun kept => (equal _ rfl kept).2) bottom, rfl⟩

/-! ### Places -/

/-- Nothing overflows and nothing is cut off as far as signed numbers of 32 bits go. -/
theorem landing?_eq_some_iff {edge : Int32} {place : Nat} (near : edge.toInt + place ≤ 0x7FFFFFFF)
    (word : UInt32) : landing? edge place = some word ↔
      (word.toNat : Int) = edge.toInt + place := by
  have low := Int32.le_toInt edge
  have short : (Int64.ofNat place).toInt = place := Int64.toInt_ofNat_of_lt (by omega)
  have sum : (edge.toInt64 + Int64.ofNat place).toInt = edge.toInt + place := by
    rw [Int64.toInt_add, Int32.toInt_toInt64, short, Int.bmod_eq_of_le (by omega) (by omega)]
  have zero : (0 : Int64).toInt = 0 := rfl
  unfold landing?
  dsimp only
  split
  · next negative =>
    rw [Int64.lt_iff_toInt_lt, sum, zero] at negative
    exact iff_of_false nofun (by omega)
  · next positive =>
    rw [Int64.lt_iff_toInt_lt, sum, zero] at positive
    have above : (0 : Int64) ≤ edge.toInt64 + Int64.ofNat place := by
      rw [Int64.le_iff_toInt_le, sum, zero]
      omega
    have cut : (edge.toInt64 + Int64.ofNat place).toUInt64.toUInt32.toNat =
        (edge.toInt + place).toNat := by
      rw [UInt64.toNat_toUInt32, Int64.toNat_toUInt64_of_le above, Int64.toNatClampNeg, sum]
      omega
    rw [Option.some.injEq, ← UInt32.toNat_inj, cut]
    omega

/-! ### Sizes -/

namespace Rect

/-- The width and the height of the rectangle are signed numbers of 32 bits. -/
structure Uncut (rect : Rect) : Prop where
  width : -0x80000000 ≤ rect.right.toInt - rect.left.toInt ∧
    rect.right.toInt - rect.left.toInt ≤ 0x7FFFFFFF
  height : -0x80000000 ≤ rect.bottom.toInt - rect.top.toInt ∧
    rect.bottom.toInt - rect.top.toInt ≤ 0x7FFFFFFF

/-- Two rectangles have one width and one height, counted without bounds. -/
def SameSize (first second : Rect) : Prop :=
  first.right.toInt - first.left.toInt = second.right.toInt - second.left.toInt ∧
    first.bottom.toInt - first.top.toInt = second.bottom.toInt - second.top.toInt

/-- From an edge on there is room for the width, and for the height. -/
theorem near_far (rect : Rect) : rect.left.toInt + rect.width.toInt.toNat ≤ 0x7FFFFFFF ∧
    rect.top.toInt + rect.height.toInt.toNat ≤ 0x7FFFFFFF := by
  have right := Int32.toInt_lt rect.right
  have bottom := Int32.toInt_lt rect.bottom
  have left := Int32.toInt_lt rect.left
  have top := Int32.toInt_lt rect.top
  rw [Rect.width, Rect.height, toInt_saturate, toInt_saturate]
  omega

variable {rect : Rect}

theorem sameSize_iff {first second : Rect} (uncut : first.Uncut) (whole : second.Uncut) :
    first.width = second.width ∧ first.height = second.height ↔ first.SameSize second := by
  obtain ⟨wide, high⟩ := uncut
  obtain ⟨width, height⟩ := whole
  rw [← Int32.toInt_inj, ← Int32.toInt_inj]
  simp only [Rect.width, Rect.height, toInt_saturate, SameSize]
  omega

/-- A rectangle covers the points that are less than its width and its height away from its
corner. -/
theorem Uncut.covers_iff (uncut : rect.Uncut) {x y : Int} : rect.covers x y = true ↔
    (0 ≤ x - rect.left.toInt ∧ x - rect.left.toInt < rect.width.toInt.toNat) ∧
      0 ≤ y - rect.top.toInt ∧ y - rect.top.toInt < rect.height.toInt.toNat := by
  obtain ⟨wide, high⟩ := uncut
  rw [Rect.covers_iff, Rect.width, Rect.height, toInt_saturate, toInt_saturate]
  omega

end Rect

/-! ### Drawing a resized image -/

/-- A pixel is drawn just where it comes to without bounds. -/
theorem Patch.mem_dabs_iff {patch : Patch} {left top : Int32}
    (wide : left.toInt + patch.width ≤ 0x7FFFFFFF) (high : top.toInt + patch.height ≤ 0x7FFFFFFF)
    {dab : Dab} : dab ∈ patch.dabs left top ↔ ∃ column row : Nat,
      (column < patch.width ∧ row < patch.height) ∧ (dab.column.toNat : Int) = left.toInt + column ∧
        (dab.row.toNat : Int) = top.toInt + row ∧ dab.colour = patch.colourAt column row := by
  simp only [dabs, List.mem_flatMap, List.mem_filterMap, List.mem_range, Option.bind_eq_bind,
    Option.bind_eq_some_iff, Option.pure_def, Option.some.injEq]
  constructor
  · rintro ⟨row, below, column, inside, toColumn, columnFound, toRow, rowFound, rfl⟩
    rw [landing?_eq_some_iff (by omega)] at columnFound rowFound
    exact ⟨column, row, ⟨inside, below⟩, columnFound, rowFound, rfl⟩
  · rintro ⟨column, row, ⟨inside, below⟩, toColumn, toRow, colour⟩
    rw [← landing?_eq_some_iff (by omega)] at toColumn toRow
    exact ⟨row, below, column, inside, dab.column, toColumn, dab.row, toRow, colour ▸ rfl⟩

namespace Raster

variable {target source : Raster} {region area visible : Rect}

/-! ### What a list of pixels draws -/

theorem cellFor_congr {first second : Raster} (format : first.format = second.format)
    (palette : first.palette = second.palette) (colour : Colour) :
    first.cellFor colour = second.cellFor colour := by
  simp only [cellFor, entries, format, palette]

theorem Sound.dab (sound : target.Sound) (drawn : Dab) : (target.dab drawn).Sound :=
  sound.setColour _ _ _

theorem Sound.foldl_dab (sound : target.Sound) (dabs : List Dab) :
    (dabs.foldl Raster.dab target).Sound := by
  induction dabs generalizing target with
  | nil => exact sound
  | cons first rest ih => exact ih (sound.dab first)

/-- Drawn pixels change neither the size nor the format, nor the palette. -/
theorem kept_foldl_dab (target : Raster) (dabs : List Dab) :
    (dabs.foldl dab target).shape = target.shape ∧
      (dabs.foldl dab target).palette = target.palette := by
  induction dabs generalizing target with
  | nil => exact ⟨rfl, rfl⟩
  | cons first rest ih =>
    have one : (target.dab first).shape = target.shape :=
      shape_eq_iff.mpr ⟨width_setCell .., height_setCell .., format_setCell ..⟩
    obtain ⟨shape, palette⟩ := ih (target.dab first)
    exact ⟨shape.trans one, palette.trans (palette_setCell ..)⟩

/-- However it is resized, a stretched copy changes neither the size nor the format. -/
theorem shape_stretchBy (target : Raster) (resize : Patch → (width height : Nat) → Patch)
    (source : Raster) (region area : Rect) :
    (target.stretchBy resize source region area).shape = target.shape := by
  unfold stretchBy stretchThrough
  split
  · exact shape_blit target source region _ _
  · split
    · rfl
    · split
      · rfl
      · exact (kept_foldl_dab target _).1

/-- However it is resized, a stretched copy does not change the palette. -/
theorem palette_stretchBy (target : Raster) (resize : Patch → (width height : Nat) → Patch)
    (source : Raster) (region area : Rect) :
    (target.stretchBy resize source region area).palette = target.palette := by
  unfold stretchBy stretchThrough
  split
  · exact palette_blit target source region _ _
  · split
    · rfl
    · split
      · rfl
      · exact (kept_foldl_dab target _).2

/-- One pixel is drawn in its place and nowhere else. -/
theorem cellAt_dab (complete : target.cells.size = target.width * target.height) (drawn : Dab)
    {column row : Nat} (inside : column < target.width ∧ row < target.height) :
    (target.dab drawn).cellAt column row =
      if drawn.column.toNat = column ∧ drawn.row.toNat = row then target.cellFor drawn.colour
      else target.cellAt column row := by
  unfold dab setColour
  by_cases within : drawn.column.toNat < target.width ∧ drawn.row.toNat < target.height
  · rw [cellAt_setCell complete within, narrow_cellFor]
  · rw [setCell, if_neg within, if_neg]
    rintro ⟨rfl, rfl⟩
    exact within inside

/-- A pixel that is drawn in one colour gets its cell, and one that is not drawn keeps what it
has. -/
theorem cellAt_foldl_dab (sound : target.Sound) {dabs : List Dab}
    {column row : Nat} {colour : Colour}
    (inside : column < target.width ∧ row < target.height)
    (one : ∀ drawn ∈ dabs, drawn.column.toNat = column → drawn.row.toNat = row →
      drawn.colour = colour) :
    (dabs.foldl dab target).cellAt column row =
      if ∃ drawn ∈ dabs, drawn.column.toNat = column ∧ drawn.row.toNat = row then
        target.cellFor colour
      else target.cellAt column row := by
  induction dabs generalizing target with
  | nil => simp
  | cons first rest ih =>
    have within : column < (target.dab first).width ∧ row < (target.dab first).height := by
      rw [dab, setColour, width_setCell, height_setCell]
      exact inside
    have stands : (target.dab first).cellFor colour = target.cellFor colour :=
      cellFor_congr (format_setCell ..) (palette_setCell ..) colour
    rw [List.foldl_cons, ih (sound.dab first) within fun other listed => one other (.tail _ listed),
      cellAt_dab sound.complete first inside, stands]
    by_cases later : ∃ drawn ∈ rest, drawn.column.toNat = column ∧ drawn.row.toNat = row
    · simp [later]
    · by_cases now : first.column.toNat = column ∧ first.row.toNat = row
      · simp [later, now, one first (.head _) now.1 now.2]
      · simp [later, now]

/-! ### What is taken out -/

/-- The part of a region that a raster has is one of its own, with places that are no negative
numbers. -/
theorem visible_edges (seen : region.intersect source.bounds = some visible) :
    visible.Uncut ∧ 0 ≤ visible.left.toInt ∧ 0 ≤ visible.top.toInt ∧
      0 < visible.width.toInt.toNat ∧ 0 < visible.height.toInt.toNat := by
  have corner := Rect.covers_corner seen
  have within := ((Rect.covers_of_intersect seen _ _).mp corner).2
  rw [← bounds_reached, source.withinReach_reached.covers_bounds] at within
  obtain ⟨⟨left, -⟩, top, -⟩ := within
  rw [Rect.covers_iff] at corner
  have right := Int32.toInt_lt visible.right
  have bottom := Int32.toInt_lt visible.bottom
  refine ⟨⟨by omega, by omega⟩, left, top, ?_⟩
  rw [Rect.width, Rect.height, toInt_saturate, toInt_saturate]
  omega

/-- No sum overflows where the part of a region that a raster has is taken out. -/
theorem colourAt_patch (seen : region.intersect source.bounds = some visible) {x y : Nat}
    (right : x < visible.width.toInt.toNat) (bottom : y < visible.height.toInt.toNat) :
    (source.patch visible).colourAt x y =
      source.colourAt (visible.left.toInt.toNat + x) (visible.top.toInt.toNat + y) := by
  obtain ⟨-, left, top, -⟩ := visible_edges seen
  obtain ⟨wide, high⟩ := visible.near_far
  have sum : ∀ {edge : Int32} {place : Nat}, 0 ≤ edge.toInt → edge.toInt + place ≤ 0x7FFFFFFF →
      ((max edge 0).toUInt32 + UInt32.ofNat place).toNat = edge.toInt.toNat + place := by
    intro edge place above below
    have zero : (0 : Int32).toInt = 0 := rfl
    have same : max edge 0 = edge := by
      apply Int32.toInt_inj.mp
      rw [toInt_max, zero]
      omega
    have word : (edge.toUInt32.toNat : Int) = edge.toInt := toNat_toUInt32 above
    rw [same, UInt32.toNat_add, UInt32.toNat_ofNat']
    omega
  refine (if_pos ⟨right, bottom⟩).trans ?_
  rw [sum left (by omega), sum top (by omega)]

/-- A place of the part that a raster has is a pixel of the region and of the raster. -/
theorem has_of_visible (seen : region.intersect source.bounds = some visible) {x y : Nat}
    (right : x < visible.width.toInt.toNat) (bottom : y < visible.height.toInt.toNat) :
    region.covers (visible.left.toInt.toNat + x : Nat) (visible.top.toInt.toNat + y : Nat) = true ∧
      source.Has (visible.left.toInt.toNat + x : Nat) (visible.top.toInt.toNat + y : Nat) := by
  obtain ⟨uncut, left, top, -⟩ := visible_edges seen
  have covered : visible.covers (visible.left.toInt.toNat + x : Nat)
      (visible.top.toInt.toNat + y : Nat) = true := by
    rw [uncut.covers_iff]
    omega
  obtain ⟨shown, within⟩ := (Rect.covers_of_intersect seen _ _).mp covered
  rw [← bounds_reached, source.withinReach_reached.covers_bounds] at within
  obtain ⟨⟨above, wide⟩, first, high⟩ := within
  unfold reached at wide high
  dsimp only at wide high
  exact ⟨shown, ⟨above, by omega⟩, first, by omega⟩

/-! ### The whole copy -/

/-- A resized image is drawn on the points that are less than its size away from the corner of the
area, and nowhere else. -/
theorem cellAt_drawn (sound : target.Sound) {resized : Patch}
    (wide : resized.width = area.width.toInt.toNat)
    (high : resized.height = area.height.toInt.toNat)
    {column row : Nat} (inside : column < target.width ∧ row < target.height) :
    ((resized.dabs area.left area.top).foldl dab target).cellAt column row =
      if 0 ≤ column - area.left.toInt ∧ column - area.left.toInt < area.width.toInt.toNat ∧
          0 ≤ row - area.top.toInt ∧ row - area.top.toInt < area.height.toInt.toNat then
        target.cellFor (resized.colourAt (column - area.left.toInt).toNat (row - area.top.toInt).toNat)
      else target.cellAt column row := by
  obtain ⟨right, bottom⟩ := area.near_far
  have listed : ∀ {drawn : Dab}, drawn ∈ resized.dabs area.left area.top ↔ _ :=
    Patch.mem_dabs_iff (wide ▸ right) (high ▸ bottom)
  have one : ∀ drawn ∈ resized.dabs area.left area.top, drawn.column.toNat = column →
      drawn.row.toNat = row → drawn.colour =
        resized.colourAt (column - area.left.toInt).toNat (row - area.top.toInt).toNat := by
    rintro drawn drawing rfl rfl
    obtain ⟨x, y, -, toColumn, toRow, colour⟩ := listed.mp drawing
    have across : ((drawn.column.toNat : Int) - area.left.toInt).toNat = x := by omega
    have down : ((drawn.row.toNat : Int) - area.top.toInt).toNat = y := by omega
    rw [colour, across, down]
  have reached : (∃ drawn ∈ resized.dabs area.left area.top,
        drawn.column.toNat = column ∧ drawn.row.toNat = row) ↔
      0 ≤ column - area.left.toInt ∧ column - area.left.toInt < area.width.toInt.toNat ∧
        0 ≤ row - area.top.toInt ∧ row - area.top.toInt < area.height.toInt.toNat := by
    constructor
    · rintro ⟨drawn, drawing, rfl, rfl⟩
      obtain ⟨x, y, within, toColumn, toRow, -⟩ := listed.mp drawing
      omega
    · intro near
      have columns : (UInt32.ofNat column).toNat = column := by rw [UInt32.toNat_ofNat']; omega
      have rows : (UInt32.ofNat row).toNat = row := by rw [UInt32.toNat_ofNat']; omega
      refine ⟨⟨.ofNat column, .ofNat row, _⟩, listed.mpr ⟨(column - area.left.toInt).toNat,
        (row - area.top.toInt).toNat, by omega, ?_, ?_, rfl⟩, columns, rows⟩
      · rw [columns]
        omega
      · rw [rows]
        omega
  rw [cellAt_foldl_dab sound inside one]
  simp only [reached]

/-- Going through the pixels of an image and through those of the target comes to the same. -/
theorem drawPatch_eq_paintPatch (sound : target.Sound) {image : Patch}
    (wide : image.width = area.width.toInt.toNat) (high : image.height = area.height.toInt.toNat) :
    target.drawPatch image area = target.paintPatch image area := by
  have kept := sound.foldl_dab (image.dabs area.left area.top)
  obtain ⟨shape, palette⟩ := kept_foldl_dab target (image.dabs area.left area.top)
  obtain ⟨width, height, format⟩ := shape_eq_iff.mp shape
  refine ext_cellAt width height format palette kept.complete (sound.paint _).complete
    fun column row right bottom => ?_
  have inside : column < target.width ∧ row < target.height := ⟨width ▸ right, height ▸ bottom⟩
  unfold drawPatch paintPatch
  rw [cellAt_drawn sound wide high inside, cellAt_paint sound.complete inside, wide, high]
  by_cases near : 0 ≤ column - area.left.toInt ∧
      column - area.left.toInt < area.width.toInt.toNat ∧
      0 ≤ row - area.top.toInt ∧ row - area.top.toInt < area.height.toInt.toNat
  · rw [if_pos near, if_pos near]
    exact (narrow_cellFor _ _).symm
  · rw [if_neg near, if_neg near]

/-- Taking the nearest pixels is one way to resize, and nothing is cut off. -/
theorem stretch_eq_stretchBy (sound : target.Sound) (source : Raster) (region area : Rect) :
    target.stretch source region area = target.stretchBy Patch.nearest source region area := by
  unfold stretch stretchBy stretchThrough
  split
  · rfl
  · split
    · rfl
    · split
      · rfl
      · exact (drawPatch_eq_paintPatch sound rfl rfl).symm

/-- A drawing that changed no cell changed nothing. -/
theorem eq_of_kept {drawn : Raster} (sound : target.Sound) (made : drawn.Sound)
    (width : drawn.width = target.width) (height : drawn.height = target.height)
    (format : drawn.format = target.format) (palette : drawn.palette = target.palette)
    (kept : ∀ column row : Nat, target.Has column row →
      drawn.cellAt column row = target.cellAt column row) : drawn = target :=
  ext_cellAt width height format palette made.complete sound.complete
    fun column row right bottom => kept column row (by unfold Has; omega)

/-- The raster `drawn` is `target` after `region` of `source` was stretched over `area`. -/
structure StretchedCopy (target source : Raster) (region area : Rect) (drawn : Raster) : Prop where
  sound : drawn.Sound
  width : drawn.width = target.width
  height : drawn.height = target.height
  format : drawn.format = target.format
  palette : drawn.palette = target.palette
  /-- Outside the area every pixel is what it was. -/
  kept : ∀ column row : Nat, target.Has column row → ¬ area.covers column row = true →
    drawn.cellAt column row = target.cellAt column row
  /-- Nothing is drawn on an area without points. -/
  empty : (∀ x y : Int, ¬ area.covers x y = true) → drawn = target
  /-- Nothing is drawn of a region in which the source has no pixel. -/
  unseen : (∀ x y : Int, region.covers x y = true → ¬ source.Has x y) → drawn = target
  /-- Where the sizes differ every pixel of the area gets the cell for the colour of some pixel of
  the source that lies in the region. -/
  resampled : ¬ region.SameSize area → (∃ x y : Int, region.covers x y = true ∧ source.Has x y) →
    ∀ column row : Nat, target.Has column row → area.covers column row = true →
      ∃ x y : Nat, (region.covers x y = true ∧ source.Has x y) ∧
        drawn.cellAt column row = target.cellFor (source.colourAt x y)

/-- A plain copy of a region to an area of its own size. -/
theorem stretchedCopy_blit (sound : target.Sound) (sized : region.SameSize area) :
    StretchedCopy target source region area (target.blit source region area.left area.top) := by
  have shape := shape_eq_iff.mp (shape_blit target source region area.left area.top)
  have made := sound.blit source region area.left area.top
  have within : ∀ {column row : Nat}, target.Has column row →
      column < target.width ∧ row < target.height := by
    intro column row inside
    unfold Has at inside
    omega
  have unassigned : (∀ column row : Nat, target.Has column row →
      ¬ target.Assigned source region area.left area.top column row) →
      target.blit source region area.left area.top = target := fun never =>
    eq_of_kept sound made shape.1 shape.2.1 shape.2.2 (palette_blit ..) fun column row inside => by
      rw [cellAt_blit_of_inside sound.complete (within inside), if_neg (never column row inside)]
  have covered : ∀ {column row : Nat}, target.Assigned source region area.left area.top column row →
      area.covers column row = true := by
    rintro column row ⟨-, shown, -⟩
    obtain ⟨across, down⟩ := sized
    rw [Rect.covers_iff, Rect.originColumn, Rect.originRow] at shown
    rw [Rect.covers_iff]
    omega
  refine ⟨made, shape.1, shape.2.1, shape.2.2, palette_blit .., fun column row inside outside => ?_,
    fun none => unassigned fun column row _ assigned => none _ _ (covered assigned),
    fun unseen => unassigned fun column row _ assigned => ?_, fun other => absurd sized other⟩
  · rw [cellAt_blit_of_inside sound.complete (within inside), if_neg fun assigned =>
      outside (covered assigned)]
  · obtain ⟨-, shown, ⟨left, right⟩, top, bottom⟩ := assigned
    unfold reached at right bottom
    dsimp only at right bottom
    exact unseen _ _ shown ⟨⟨left, by omega⟩, top, by omega⟩

/-- Where there is nothing to draw, or nothing to draw on, the target stays. -/
theorem stretchedCopy_self (sound : target.Sound)
    (nothing : (∀ x y : Int, ¬ area.covers x y = true) ∨
      ∀ x y : Int, region.covers x y = true → ¬ source.Has x y) :
    StretchedCopy target source region area target := by
  refine ⟨sound, rfl, rfl, rfl, rfl, fun _ _ _ _ => rfl, fun _ => rfl, fun _ => rfl,
    fun _ ⟨x, y, shown, has⟩ column row _ covered => ?_⟩
  rcases nothing with none | unseen
  · exact absurd covered (none _ _)
  · exact absurd has (unseen x y shown)

/-- A region that does not meet the rectangle of a raster has none of its pixels. -/
theorem not_has_of_unseen (unseen : region.intersect source.bounds = none) (x y : Int)
    (shown : region.covers x y = true) : ¬ source.Has x y := by
  rintro ⟨⟨left, right⟩, top, bottom⟩
  rw [← bounds_reached] at unseen
  refine Rect.not_covers_of_intersect unseen x y
    ⟨shown, (source.withinReach_reached.covers_bounds x y).mpr ?_⟩
  have farthest := Int32.toInt_lt region.right
  have lowest := Int32.toInt_lt region.bottom
  rw [Rect.covers_iff] at shown
  unfold Has reached
  dsimp only
  omega

/-- An image whose pixels come from the region is drawn on the area. -/
theorem stretchedCopy_drawn (sound : target.Sound) (whole : area.Uncut) {resized : Patch}
    (wide : resized.width = area.width.toInt.toNat)
    (high : resized.height = area.height.toInt.toNat)
    (meets : ∃ x y : Int, region.covers x y = true ∧ source.Has x y)
    (chosen : ∀ column row, column < area.width.toInt.toNat → row < area.height.toInt.toNat →
      ∃ x y : Nat, (region.covers x y = true ∧ source.Has x y) ∧
        resized.colourAt column row = source.colourAt x y) :
    StretchedCopy target source region area
      ((resized.dabs area.left area.top).foldl dab target) := by
  have made := sound.foldl_dab (resized.dabs area.left area.top)
  obtain ⟨shape, palette⟩ := kept_foldl_dab target (resized.dabs area.left area.top)
  obtain ⟨width, height, format⟩ := shape_eq_iff.mp shape
  have kept : ∀ column row : Nat, target.Has column row → ¬ area.covers column row = true →
      ((resized.dabs area.left area.top).foldl dab target).cellAt column row =
        target.cellAt column row := by
    intro column row inside outside
    rw [whole.covers_iff, and_assoc] at outside
    rw [cellAt_drawn sound wide high (by unfold Has at inside; omega), if_neg outside]
  refine ⟨made, width, height, format, palette, kept, fun none => ?_, fun unseen => ?_,
    fun _ _ column row inside covered => ?_⟩
  · exact eq_of_kept sound made width height format palette fun column row inside =>
      kept column row inside (none column row)
  · obtain ⟨x, y, shown, has⟩ := meets
    exact absurd has (unseen x y shown)
  · rw [whole.covers_iff, and_assoc] at covered
    obtain ⟨x, y, taken, colour⟩ := chosen (column - area.left.toInt).toNat
      (row - area.top.toInt).toNat (by omega) (by omega)
    refine ⟨x, y, taken, ?_⟩
    rw [cellAt_drawn sound wide high (by unfold Has at inside; omega), if_pos covered, colour]

/-- **A stretched copy draws on its area only, with colours from its region**, whatever is known of
resizing beyond the size of the result and that it shows pixels of what was resized. The copy that
takes nearest pixels is one of these, also if it is drawn pixel by pixel with words that could be
cut off. -/
theorem stretch_confined {target : Raster} (sound : target.Sound) (source : Raster)
    {region area : Rect} (uncut : region.Uncut) (whole : area.Uncut) :
    (∀ resize, Resizes resize →
      StretchedCopy target source region area (target.stretchBy resize source region area)) ∧
    Resizes Patch.nearest ∧
    target.stretch source region area = target.stretchBy Patch.nearest source region area := by
  refine ⟨fun resize resizes => ?_, resizes_nearest, stretch_eq_stretchBy sound source region area⟩
  unfold stretchBy stretchThrough
  split
  · next same => exact stretchedCopy_blit sound ((Rect.sameSize_iff uncut whole).mp same)
  · split
    · next none =>
      refine stretchedCopy_self sound (.inl fun x y covered => ?_)
      rw [Rect.isEmpty_iff] at none
      rw [Rect.covers_iff] at covered
      omega
    · split
      · next unseen => exact stretchedCopy_self sound (.inr (not_has_of_unseen unseen))
      · next visible seen =>
        obtain ⟨-, -, -, wide, high⟩ := visible_edges seen
        have corner := has_of_visible seen wide high
        refine stretchedCopy_drawn sound whole (resizes.width ..) (resizes.height ..)
          ⟨_, _, corner⟩ fun column row right bottom => ?_
        obtain ⟨x, y, across, down, colour⟩ :=
          resizes.chosen (source.patch visible) _ _ wide high column row right bottom
        exact ⟨_, _, has_of_visible seen across down,
          colour.trans (colourAt_patch seen across down)⟩

/-- An area that starts at negative places is filled with the one pixel that the source has of a
region that ends where signed numbers end, without what lies beside the target. -/
theorem stretch_confined_beyond_edges :
    let target := blank 3 1 .argb8888
    let source := (blank 2 1 .argb8888).setCell 1 0 0xFF000005
    let region : Rect := ⟨1, 0, 0x7FFFFFFF, 1⟩
    let area : Rect := ⟨-1, -1, 2, 0x7FFFFFFE⟩
    target.Sound ∧ region.Uncut ∧ area.Uncut ∧
      ((∀ resize, Resizes resize →
          StretchedCopy target source region area (target.stretchBy resize source region area)) ∧
        Resizes Patch.nearest ∧
        target.stretch source region area = target.stretchBy Patch.nearest source region area) ∧
      (target.stretch source region area).cells = #[0xFF000005, 0xFF000005, 0] := by
  intro target source region area
  have sound : target.Sound := sound_blank 3 1 .argb8888
  have uncut : region.Uncut := ⟨by decide, by decide⟩
  have whole : area.Uncut := ⟨by decide, by decide⟩
  exact ⟨sound, uncut, whole, stretch_confined sound source uncut whole, by decide +kernel⟩

end Raster

end GuestDraw
