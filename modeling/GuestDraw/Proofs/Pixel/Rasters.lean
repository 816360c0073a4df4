/-
**What rasters keep to.**

A raster has one cell for every pixel, a cell holds no more than its width allows, and only an
indexed raster has a palette, of no more than 256 colours. Rasters are sound when they come to be,
and drawing on them keeps them so, whatever is drawn and wherever.

* `Raster.Sound`: the properties;
* `sound_blank`, `sound_of_indexed`, `sound_of_decode`: how rasters come to be;
* `Sound.paint`, `Sound.setCell`, `Sound.blit`: how they are drawn on;
* `Sound.suits`: a sound raster suits the pixel buffers of its size and depth;
* `narrow_cellFor`: what stands for a colour fits a cell;
* `cellAt_setCell`, `ext_cellAt`: a raster is known by its cells.
-/

import GuestDraw.Proofs.Pixel.Codec

namespace GuestDraw

/-- What fits a cell is kept as it is. -/
theorem CellKind.narrow_narrow (kind : CellKind) (value : UInt32) :
    kind.narrow (kind.narrow value) = kind.narrow value := by
  cases kind with
  | index => exact UInt32.toNat_inj.mp (Nat.mod_mod value.toNat 0x100)
  | word => exact UInt32.toNat_inj.mp (Nat.mod_mod value.toNat 0x10000)
  | dword => rfl

theorem CellKind.narrow_zero (kind : CellKind) : kind.narrow 0 = 0 := by
  cases kind <;> rfl

/-! ### Nearest entries -/

namespace Matching

/-- The place of the nearest entry is a place of the palette. -/
theorem closest?_lt {wanted : Colour} {entries : List Colour} {place distance : Nat}
    (found : closest? wanted entries = some (place, distance)) : place < entries.length := by
  induction entries generalizing place distance with
  | nil => cases found
  | cons entry rest ih =>
    unfold closest? at found
    cases later : closest? wanted rest with
    | none =>
      rw [later] at found
      cases found
      exact Nat.succ_pos _
    | some best =>
      have below := ih later
      rw [later] at found
      dsimp only at found
      split at found
      · cases found
        exact Nat.succ_lt_succ below
      · cases found
        exact Nat.succ_pos _

/-- What stands for a colour is a place of the palette, and zero if that is empty. -/
theorem place_lt {wanted : Colour} {entries : List Colour} {limit : Nat} (positive : 0 < limit)
    (short : entries.length ≤ limit) : place wanted entries < limit := by
  unfold place
  cases same : equal? wanted entries with
  | some found =>
    obtain ⟨inside, -⟩ := List.findIdx?_eq_some_iff_findIdx_eq.mp same
    exact Nat.lt_of_lt_of_le inside short
  | none =>
    cases nearest : closest? wanted entries with
    | none => exact positive
    | some best => exact Nat.lt_of_lt_of_le (closest?_lt nearest) short

end Matching

namespace Raster

/-- What every raster keeps to. -/
structure Sound (raster : Raster) : Prop where
  complete : raster.cells.size = raster.width * raster.height
  /-- Every cell holds what it would keep of its value. -/
  narrow : ∀ cell ∈ raster.cells, raster.format.cellKind.narrow cell = cell
  plain : raster.format.isIndexed = false → raster.palette = #[]
  small : raster.palette.size ≤ maxPalette

variable {raster target source : Raster}

/-! ### New rasters -/

theorem sound_blank (width height : Nat) (format : Format) : (blank width height format).Sound where
  complete := Array.size_replicate
  narrow cell inside := by
    obtain ⟨-, rfl⟩ := Array.mem_replicate.mp inside
    exact CellKind.narrow_zero _
  plain direct := by
    have direct : format.isIndexed = false := direct
    rw [blank, direct]
    rfl
  small := by
    have limit : format.paletteLimit ≤ maxPalette := by cases format <;> decide
    unfold blank
    dsimp only
    split
    · rw [Array.size_replicate]
      exact limit
    · exact Nat.zero_le _

theorem sound_of_indexed {width height : Nat} {format : Format} {palette : Array UInt32}
    (made : indexed width height format palette = .ok raster) : raster.Sound := by
  have blank := sound_blank width height format
  unfold indexed at made
  split at made
  · cases made
  · next direct =>
    split at made
    · cases made
    · next fits =>
      cases made
      exact { blank with
        plain := fun plain => absurd (congrArg not plain) direct
        small := Nat.not_lt.mp fits }

/-- A raster that was decoded is sound. -/
theorem sound_of_decode {memory : Memory} {buffer : PixelBuffer} {palette : Option (Array UInt32)}
    (decoded : Conversion.decode memory buffer palette = .ok raster) : raster.Sound := by
  have suits := Conversion.suits_of_decode decoded
  obtain ⟨format, entries, length, -, chosen, -, -, rfl⟩ := Conversion.decode_eq_ok_iff.mp decoded
  refine ⟨suits.complete, fun cell inside => ?_, suits.plain, ?_⟩
  · have fits : cell.toNat < LittleEndian.capacity (bytesPerPixel format.depth) :=
      suits.narrow cell inside
    apply UInt32.toNat_inj.mp
    show (format.cellKind.narrow cell).toNat = cell.toNat
    cases format with
    | indexed4 | indexed8 | rgb555 | rgb565 => exact Nat.mod_eq_of_lt fits
    | rgb888 | argb8888 => rfl
  · show entries.size ≤ maxPalette
    unfold Conversion.paletteFor at chosen
    split at chosen
    · split at chosen
      · cases chosen
      · split at chosen
        · cases chosen
        · next fits =>
          cases chosen
          exact Nat.not_lt.mp fits
    · cases chosen
      exact Nat.zero_le _

/-! ### Drawing -/

namespace Sound

theorem paint (sound : raster.Sound) (pick : Nat → Nat → Option UInt32) :
    (raster.paint pick).Sound := by
  refine { sound with
    complete := Array.size_mapIdx.trans sound.complete
    narrow := fun cell inside => ?_ }
  obtain ⟨index, inBounds, rfl⟩ := Array.getElem_of_mem inside
  simp only [Raster.paint, Array.getElem_mapIdx]
  split
  · exact CellKind.narrow_narrow _ _
  · exact sound.narrow _ (Array.getElem_mem _)

theorem setCell (sound : raster.Sound) (column row : Nat) (value : UInt32) :
    (raster.setCell column row value).Sound := by
  unfold Raster.setCell
  split
  · refine { sound with
      complete := Array.size_setIfInBounds.trans sound.complete
      narrow := fun cell inside => ?_ }
    rcases Array.mem_or_eq_of_mem_setIfInBounds inside with old | rfl
    · exact sound.narrow cell old
    · exact CellKind.narrow_narrow _ _
  · exact sound

theorem setColour (sound : raster.Sound) (column row : Nat) (colour : Colour) :
    (raster.setColour column row colour).Sound :=
  sound.setCell column row _

theorem blit (sound : target.Sound) (source : Raster) (region : Rect) (x y : Int32) :
    (target.blit source region x y).Sound := by
  unfold Raster.blit
  split
  · exact sound
  · dsimp only
    split
    · exact sound
    · exact sound.paint _

/-- A sound raster suits the pixel buffers of its size and depth, if the highest byte of its cells
is free where pixels have none. -/
theorem suits (sound : raster.Sound) {buffer : PixelBuffer} (width : raster.width = buffer.width)
    (height : raster.height = buffer.height) (depth : raster.format.depth = buffer.depth)
    (topless : raster.format = .rgb888 → ∀ cell ∈ raster.cells, cell.toNat < 0x1000000) :
    raster.Suits buffer where
  width := width
  height := height
  depth := depth.symm
  complete := sound.complete
  plain := sound.plain
  narrow cell inside := by
    have kept := sound.narrow cell inside
    cases shape : raster.format with
    | indexed4 | indexed8 | rgb555 | rgb565 =>
      rw [shape] at kept
      rw [← kept]
      exact Nat.mod_lt cell.toNat (by decide)
    | rgb888 => exact topless shape cell inside
    | argb8888 => exact cell.toNat_lt

end Sound

/-! ### Cells -/

/-- What stands for a colour fits a cell. -/
theorem narrow_cellFor (raster : Raster) (colour : Colour) :
    raster.format.cellKind.narrow (raster.cellFor colour) = raster.cellFor colour := by
  have red := colour.red.toNat_lt
  have green := colour.green.toNat_lt
  have blue := colour.blue.toNat_lt
  have short : raster.entries.length ≤ 256 := by
    have limit : raster.format.paletteLimit ≤ 256 := by cases raster.format <;> decide
    rw [entries, List.length_map, List.length_take]
    omega
  have place : Matching.place colour raster.entries < 256 := Matching.place_lt (by decide) short
  apply UInt32.toNat_inj.mp
  unfold cellFor
  cases raster.format with
  | indexed4 | indexed8 =>
    show (UInt32.ofNat (Matching.place colour raster.entries)).toNat % 256 = _
    show _ = (UInt32.ofNat (Matching.place colour raster.entries)).toNat
    rw [UInt32.toNat_ofNat']
    omega
  | rgb555 | rgb565 =>
    show (UInt32.ofNat _).toNat % 65536 = (UInt32.ofNat _).toNat
    rw [UInt32.toNat_ofNat']
    omega
  | rgb888 | argb8888 => rfl

/-- A cell of a sound raster holds no more than fits it. -/
theorem Sound.narrow_cellAt (sound : raster.Sound) (column row : Nat) :
    raster.format.cellKind.narrow (raster.cellAt column row) = raster.cellAt column row := by
  unfold cellAt
  split
  · rw [Array.getD_eq_getD_getElem?]
    cases found : raster.cells[row * raster.width + column]? with
    | none => exact CellKind.narrow_zero _
    | some cell => exact sound.narrow cell (Array.mem_of_getElem? found)
  · exact CellKind.narrow_zero _

/-- Pixels have places of their own. -/
theorem place_inj {width column row other line : Nat} (inside : column < width)
    (within : other < width) :
    row * width + column = line * width + other ↔ column = other ∧ row = line := by
  constructor
  · intro same
    have columns := congrArg (· % width) same
    have rows := congrArg (· / width) same
    have positive : 0 < width := by omega
    simp only [Nat.mul_add_mod_self_right, Nat.mod_eq_of_lt inside,
      Nat.mod_eq_of_lt within] at columns
    simp only [Nat.mul_comm _ width, Nat.mul_add_div positive, Nat.div_eq_of_lt inside,
      Nat.div_eq_of_lt within, Nat.add_zero] at rows
    exact ⟨columns, rows⟩
  · rintro ⟨rfl, rfl⟩
    rfl

/-- The place of a pixel is one of a complete raster. -/
theorem place_lt_size (complete : raster.cells.size = raster.width * raster.height)
    {column row : Nat} (inside : column < raster.width ∧ row < raster.height) :
    row * raster.width + column < raster.cells.size := by
  have rows : (row + 1) * raster.width ≤ raster.height * raster.width :=
    Nat.mul_le_mul_right _ inside.2
  rw [complete, Nat.mul_comm raster.width]
  rw [Nat.add_mul] at rows
  omega

theorem cellAt_setCell (complete : raster.cells.size = raster.width * raster.height)
    {column row : Nat} (inside : column < raster.width ∧ row < raster.height) (value : UInt32)
    (other line : Nat) :
    (raster.setCell column row value).cellAt other line =
      if column = other ∧ row = line then raster.format.cellKind.narrow value
      else raster.cellAt other line := by
  rw [setCell, if_pos inside]
  unfold cellAt
  dsimp only
  by_cases within : other < raster.width ∧ line < raster.height
  · rw [if_pos within, if_pos within, Array.getD_eq_getD_getElem?, Array.getD_eq_getD_getElem?,
      Array.getElem?_setIfInBounds, if_pos (place_lt_size complete inside)]
    simp only [place_inj inside.1 within.1]
    split <;> rfl
  · rw [if_neg within, if_neg within, if_neg]
    rintro ⟨rfl, rfl⟩
    exact within inside

/-- Rasters of one shape are the same if their cells are. -/
theorem ext_cellAt {first second : Raster} (width : first.width = second.width)
    (height : first.height = second.height) (format : first.format = second.format)
    (palette : first.palette = second.palette)
    (complete : first.cells.size = first.width * first.height)
    (whole : second.cells.size = second.width * second.height)
    (cells : ∀ column row, column < second.width → row < second.height →
      first.cellAt column row = second.cellAt column row) : first = second := by
  obtain ⟨wide, high, _, _, cellsFirst⟩ := first
  obtain ⟨_, _, _, _, cellsSecond⟩ := second
  dsimp only at width height format palette complete whole cells
  subst width height format palette
  congr 1
  refine Array.ext (complete.trans whole.symm) fun index inBounds inside => ?_
  have below : index < high * wide := by rw [Nat.mul_comm, ← whole]; exact inside
  have positive : 0 < wide := Nat.pos_of_mul_pos_left (Nat.zero_lt_of_lt below)
  have column := Nat.mod_lt index positive
  have row := (Nat.div_lt_iff_lt_mul positive).mpr below
  have place : index / wide * wide + index % wide = index := Nat.div_add_mod' index wide
  have same := cells _ _ column row
  simp only [cellAt, if_pos (And.intro column row), place, Array.getD_eq_getD_getElem?,
    Array.getElem?_eq_getElem inBounds, Array.getElem?_eq_getElem inside, Option.getD_some] at same
  exact same

end Raster

end GuestDraw
