/-
**How the cells of rasters are kept.**

A raster keeps its cells in an array of bytes, of words or of dwords. A pixel is looked up at a
place that is counted from the width alone, once its column and row were compared with the size;
whether the array has such a place, and whether it is of the width that the format needs, is not
looked at. Here looking up is a step that fails where the array is too short.

* `CellStore`: the arrays, with `get?` and `set?` that fail outside of them;
* `StoredRaster`: rasters that keep their cells so, and `StoredRaster.view`, the raster that is
  seen;
* `StoredRaster.Intact`: the array is of the right width and has a place for every pixel, and the
  palette is short, and empty for direct colours; `intact_blank`, `intact_of_indexed`,
  `intact_of_decode`: how rasters come to be;
* `Intact.cell?_eq`, `Intact.setCell?_gives`: on intact rasters no step fails, and each does what it
  does on the raster that is seen;
* `Takes`, `takes_cellFor`: what is stored for a colour.
-/

import GuestDraw.Proofs.Pixel.Decoding

namespace GuestDraw

/-! ### Arrays of cells -/

/-- The cells of a raster, in as many bits as the kind of its format has. -/
inductive CellStore where
  | index (cells : Array UInt8)
  | word (cells : Array UInt16)
  | dword (cells : Array UInt32)
  deriving DecidableEq

namespace CellStore

def kind : CellStore → CellKind
  | index _ => .index
  | word _ => .word
  | dword _ => .dword

def size : CellStore → Nat
  | index cells => cells.size
  | word cells => cells.size
  | dword cells => cells.size

/-- The cells as dwords. -/
def widened : CellStore → Array UInt32
  | index cells => cells.map UInt8.toUInt32
  | word cells => cells.map UInt16.toUInt32
  | dword cells => cells

/-- The cell at a place, if there is such a place. -/
def get? (store : CellStore) (place : Nat) : Option UInt32 :=
  match store with
  | index cells => cells[place]?.map UInt8.toUInt32
  | word cells => cells[place]?.map UInt16.toUInt32
  | dword cells => cells[place]?

/-- Stores the lower bits of a value at a place, if there is such a place. -/
def set? (store : CellStore) (place : Nat) (value : UInt32) : Option CellStore :=
  if place < store.size then
    some <| match store with
      | index cells => index (cells.setIfInBounds place value.toUInt8)
      | word cells => word (cells.setIfInBounds place value.toUInt16)
      | dword cells => dword (cells.setIfInBounds place value)
  else none

/-- Cells that are zero, for a new raster. -/
def zeros (format : Format) (count : Nat) : CellStore :=
  match format with
  | .indexed4 | .indexed8 => index (Array.replicate count 0)
  | .rgb555 | .rgb565 => word (Array.replicate count 0)
  | .rgb888 | .argb8888 => dword (Array.replicate count 0)

/-- Cells that were read, in as many bits as the format has them. -/
def ofCells (format : Format) (cells : Array UInt32) : CellStore :=
  match format with
  | .indexed4 | .indexed8 => index (cells.map UInt32.toUInt8)
  | .rgb555 | .rgb565 => word (cells.map UInt32.toUInt16)
  | .rgb888 | .argb8888 => dword cells

variable {store : CellStore}

@[simp] theorem size_widened (store : CellStore) : store.widened.size = store.size := by
  cases store <;> simp [widened, size]

theorem get?_eq (store : CellStore) (place : Nat) : store.get? place = store.widened[place]? := by
  cases store <;> simp [get?, widened]

/-- Cells that are kept in fewer bits need no more. -/
theorem narrow_of_mem_widened {cell : UInt32} (kept : cell ∈ store.widened) :
    store.kind.narrow cell = cell := by
  cases store with
  | index cells =>
    obtain ⟨byte, -, rfl⟩ := Array.mem_map.mp kept
    exact UInt32.toNat_inj.mp (Nat.mod_eq_of_lt byte.toNat_lt)
  | word cells =>
    obtain ⟨word, -, rfl⟩ := Array.mem_map.mp kept
    exact UInt32.toNat_inj.mp (Nat.mod_eq_of_lt word.toNat_lt)
  | dword cells => rfl

/-- The lower bits of a value are those that its kind of cells keeps. -/
theorem set?_of_lt {place : Nat} (inside : place < store.size) (value : UInt32) :
    ∃ after, store.set? place value = some after ∧ after.kind = store.kind ∧
      after.widened = store.widened.setIfInBounds place (store.kind.narrow value) := by
  refine ⟨_, if_pos inside, ?_, ?_⟩
  · cases store <;> rfl
  · cases store with
    | index cells =>
      have cut : value.toUInt8.toUInt32 = CellKind.index.narrow value := UInt32.toNat_inj.mp rfl
      exact Array.map_setIfInBounds.trans (by rw [cut]; rfl)
    | word cells =>
      have cut : value.toUInt16.toUInt32 = CellKind.word.narrow value := UInt32.toNat_inj.mp rfl
      exact Array.map_setIfInBounds.trans (by rw [cut]; rfl)
    | dword cells => rfl

@[simp] theorem kind_zeros (format : Format) (count : Nat) :
    (zeros format count).kind = format.cellKind := by
  cases format <;> rfl

@[simp] theorem widened_zeros (format : Format) (count : Nat) :
    (zeros format count).widened = Array.replicate count 0 := by
  cases format <;> simp [zeros, widened]

@[simp] theorem kind_ofCells (format : Format) (cells : Array UInt32) :
    (ofCells format cells).kind = format.cellKind := by
  cases format <;> rfl

/-- Nothing is lost of cells that fit. -/
theorem widened_ofCells {format : Format} {cells : Array UInt32}
    (fits : ∀ cell ∈ cells, format.cellKind.narrow cell = cell) :
    (ofCells format cells).widened = cells := by
  have cut : (ofCells format cells).widened = cells.map format.cellKind.narrow := by
    cases format with
    | indexed4 | indexed8 | rgb555 | rgb565 => exact Array.map_map
    | rgb888 | argb8888 => exact (Array.map_id' cells).symm
  rw [cut, Array.map_congr_left fits, Array.map_id']

end CellStore

/-! ### Rasters that keep their cells so -/

/-- A raster with its cells as they are kept. -/
structure StoredRaster where
  width : Nat
  height : Nat
  format : Format
  palette : Array UInt32
  store : CellStore
  deriving DecidableEq

namespace StoredRaster

/-- The raster that is seen. -/
def view (raster : StoredRaster) : Raster :=
  ⟨raster.width, raster.height, raster.format, raster.palette, raster.store.widened⟩

/-- What keeps every place of a pixel inside the array, and every palette short. -/
structure Intact (raster : StoredRaster) : Prop where
  kind : raster.store.kind = raster.format.cellKind
  complete : raster.store.size = raster.width * raster.height
  small : raster.palette.size ≤ 256
  plain : raster.format.isIndexed = false → raster.palette = #[]

variable {raster : StoredRaster}

theorem Intact.sound (intact : raster.Intact) : raster.view.Sound where
  complete := (CellStore.size_widened _).trans intact.complete
  narrow cell kept := by
    show raster.format.cellKind.narrow cell = cell
    rw [← intact.kind]
    exact CellStore.narrow_of_mem_widened kept
  plain := intact.plain
  small := intact.small

theorem intact_of_sound (kind : raster.store.kind = raster.format.cellKind)
    (sound : raster.view.Sound) :
    raster.Intact where
  kind := kind
  complete := (CellStore.size_widened _).symm.trans sound.complete
  small := sound.small
  plain := sound.plain

/-- A step does not fail, and gives an intact raster that is seen as `image`. -/
def Gives (step : Option StoredRaster) (image : Raster) : Prop :=
  ∃ after, step = some after ∧ after.Intact ∧ after.view = image

/-! ### New rasters -/

/-- A raster of zero cells; an indexed one gets a palette that is black throughout. -/
def blank (width height : Nat) (format : Format) : StoredRaster where
  width := width
  height := height
  format := format
  palette := if format.isIndexed then Array.replicate format.paletteLimit 0 else #[]
  store := .zeros format (width * height)

/-- The raster without pixels. -/
def empty : StoredRaster := ⟨0, 0, .argb8888, #[], .dword #[]⟩

/-- A raster of zero cells with the given palette. -/
def indexed (width height : Nat) (format : Format) (palette : Array UInt32) :
    Except PixelError StoredRaster :=
  if !format.isIndexed then .error (.unsupportedDepth format.depth)
  else if palette.size > maxPalette then .error (.paletteTooLarge palette.size)
  else .ok { blank width height format with palette := palette }

/-- A raster that was read, with its cells put into an array of its format. -/
def keep (image : Raster) : StoredRaster :=
  ⟨image.width, image.height, image.format, image.palette, .ofCells image.format image.cells⟩

/-- Reads a pixel buffer; there is no raster where a cut reaches beyond what was read. -/
def decode (memory : Memory) (buffer : PixelBuffer) (palette : Option (Array UInt32)) :
    Except PixelError (Option StoredRaster) :=
  (Conversion.decodeByRows memory buffer palette).map fun read => read.map keep

theorem view_blank (width height : Nat) (format : Format) :
    (blank width height format).view = Raster.blank width height format := by
  rw [view, Raster.blank, blank, CellStore.widened_zeros]

theorem intact_blank (width height : Nat) (format : Format) : (blank width height format).Intact :=
  intact_of_sound (CellStore.kind_zeros _ _) (by rw [view_blank]; exact Raster.sound_blank _ _ _)

theorem intact_empty : empty.Intact := intact_of_sound rfl (Raster.sound_blank 0 0 .argb8888)

theorem indexed_eq (width height : Nat) (format : Format) (palette : Array UInt32) :
    (indexed width height format palette).map view =
      Raster.indexed width height format palette := by
  unfold indexed Raster.indexed
  split
  · rfl
  · split
    · rfl
    · show Except.ok _ = Except.ok _
      rw [← view_blank]
      rfl

theorem intact_of_indexed {width height : Nat} {format : Format} {palette : Array UInt32}
    (made : indexed width height format palette = .ok raster) : raster.Intact := by
  have seen : Raster.indexed width height format palette = .ok raster.view := by
    rw [← indexed_eq, made]
    rfl
  refine intact_of_sound ?_ (Raster.sound_of_indexed seen)
  unfold indexed at made
  split at made
  · cases made
  · split at made
    · cases made
    · cases made
      exact CellStore.kind_zeros _ _

theorem view_keep {image : Raster} (sound : image.Sound) : (keep image).view = image := by
  rw [view, keep, CellStore.widened_ofCells sound.narrow]

theorem intact_keep {image : Raster} (sound : image.Sound) : (keep image).Intact :=
  intact_of_sound (CellStore.kind_ofCells _ _) (by rwa [view_keep sound])

/-- What is decoded is seen, and no cut reaches too far. -/
theorem decode_eq (memory : Memory) (buffer : PixelBuffer) (palette : Option (Array UInt32)) :
    decode memory buffer palette =
      (Conversion.decode memory buffer palette).map fun image => some (keep image) := by
  rw [decode, Conversion.decodeByRows_eq]
  cases Conversion.decode memory buffer palette <;> rfl

theorem intact_of_decode {memory : Memory} {buffer : PixelBuffer} {palette : Option (Array UInt32)}
    (read : decode memory buffer palette = .ok (some raster)) : raster.Intact := by
  rw [decode_eq] at read
  cases decoded : Conversion.decode memory buffer palette with
  | error cause =>
    rw [decoded] at read
    cases read
  | ok image =>
    rw [decoded] at read
    cases read
    exact intact_keep (Raster.sound_of_decode decoded)

/-! ### Cells and colours -/

/-- The cell in a column and a row, zero outside the raster. -/
def cell? (raster : StoredRaster) (column row : Nat) : Option UInt32 :=
  if column < raster.width ∧ row < raster.height then raster.store.get? (row * raster.width + column)
  else some 0

/-- Stores the part of `value` that fits a cell, nothing outside the raster. -/
def setCell? (raster : StoredRaster) (column row : Nat) (value : UInt32) : Option StoredRaster :=
  if column < raster.width ∧ row < raster.height then
    (raster.store.set? (row * raster.width + column) value).map fun store =>
      { raster with store := store }
  else some raster

/-- The colour in a column and a row. -/
def colour? (raster : StoredRaster) (column row : Nat) : Option Colour :=
  (raster.cell? column row).map (raster.format.colour raster.palette)

/-- The palette entries that cells can name, as colours. -/
def entries (raster : StoredRaster) : List Colour :=
  (raster.palette.toList.take (min raster.format.paletteLimit raster.palette.size)).map Colour.ofRgb

/-- The cell that stands for a colour: a place of the palette, or the colour itself. -/
def cellFor (raster : StoredRaster) (colour : Colour) : UInt32 :=
  if raster.format.isIndexed then UInt32.ofNat (Matching.place colour raster.entries)
  else raster.format.pack colour

/-- Stores a colour, nothing outside the raster. -/
def setColour? (raster : StoredRaster) (column row : Nat) (colour : Colour) : Option StoredRaster :=
  raster.setCell? column row (raster.cellFor colour)

theorem length_entries (raster : StoredRaster) :
    raster.entries.length = min raster.format.paletteLimit raster.palette.size := by
  rw [entries, List.length_map, List.length_take, Array.length_toList]
  omega

theorem cellFor_view (raster : StoredRaster) (colour : Colour) :
    raster.view.cellFor colour = raster.cellFor colour := by
  have named : raster.view.entries = raster.entries := by
    rw [entries, ← Array.length_toList, ← List.take_eq_take_min]
    rfl
  rw [Raster.cellFor, named]
  rfl

namespace Intact

variable (intact : raster.Intact)

include intact

theorem place_lt {column row : Nat} (inside : column < raster.width ∧ row < raster.height) :
    row * raster.width + column < raster.store.size := by
  rw [← CellStore.size_widened]
  exact Raster.place_lt_size intact.sound.complete inside

theorem cell?_eq (column row : Nat) :
    raster.cell? column row = some (raster.view.cellAt column row) := by
  by_cases inside : column < raster.width ∧ row < raster.height
  · have there : row * raster.width + column < raster.store.widened.size := by
      rw [CellStore.size_widened]
      exact intact.place_lt inside
    have seen : raster.view.cellAt column row =
        raster.store.widened.getD (row * raster.width + column) 0 := if_pos inside
    rw [seen, cell?, if_pos inside, CellStore.get?_eq, Array.getD_eq_getD_getElem?,
      Array.getElem?_eq_getElem there, Option.getD_some]
  · have seen : raster.view.cellAt column row = 0 := if_neg inside
    rw [seen, cell?, if_neg inside]

theorem colour?_eq (column row : Nat) :
    raster.colour? column row = some (raster.view.colourAt column row) := by
  rw [colour?, intact.cell?_eq]
  rfl

theorem setCell?_gives (column row : Nat) (value : UInt32) :
    Gives (raster.setCell? column row value) (raster.view.setCell column row value) := by
  have sound := intact.sound.setCell column row value
  by_cases inside : column < raster.width ∧ row < raster.height
  · obtain ⟨store, stored, kind, cells⟩ := CellStore.set?_of_lt (intact.place_lt inside) value
    rw [intact.kind] at cells
    have seen : raster.view.setCell column row value = view { raster with store := store } :=
      (if_pos inside).trans
        (congrArg (Raster.mk raster.width raster.height raster.format raster.palette) cells.symm)
    rw [seen] at sound ⊢
    refine ⟨{ raster with store := store }, ?_, intact_of_sound (kind.trans intact.kind) sound, rfl⟩
    rw [setCell?, if_pos inside, stored, Option.map_some]
  · have seen : raster.view.setCell column row value = raster.view := if_neg inside
    rw [seen]
    exact ⟨raster, if_neg inside, intact, rfl⟩

theorem setColour?_gives (column row : Nat) (colour : Colour) :
    Gives (raster.setColour? column row colour) (raster.view.setColour column row colour) := by
  rw [setColour?, ← cellFor_view]
  exact intact.setCell?_gives column row _

end Intact

/-! ### What is stored for a colour -/

/-- A value means something in the format of the raster: it is a place of the palette that cells can
name, or zero if there is none, or it has no more bits than the format. -/
def Takes (raster : StoredRaster) (value : UInt32) : Prop :=
  if raster.format.isIndexed then
    value.toNat < min raster.format.paletteLimit raster.palette.size ∨
      raster.palette.size = 0 ∧ value = 0
  else value.toNat < 1 <<< raster.format.depth

/-- A direct format has room for the channels that it keeps. -/
theorem pack_lt {format : Format} (direct : format.isIndexed = false) (colour : Colour) :
    (format.pack colour).toNat < 1 <<< format.depth := by
  have red := colour.red.toNat_lt
  have green := colour.green.toNat_lt
  have blue := colour.blue.toNat_lt
  cases format with
  | indexed4 | indexed8 => cases direct
  | rgb555 =>
    show (UInt32.ofNat _).toNat < 0x8000
    rw [UInt32.toNat_ofNat']
    omega
  | rgb565 =>
    show (UInt32.ofNat _).toNat < 0x10000
    rw [UInt32.toNat_ofNat']
    omega
  | rgb888 => exact colour.toNat_rgb_lt
  | argb8888 => exact colour.argb.toNat_lt

/-- What stands for a colour is a place of the palette, as far as cells can name them. -/
theorem takes_cellFor (raster : StoredRaster) (colour : Colour) :
    raster.Takes (raster.cellFor colour) := by
  unfold Takes cellFor
  cases indexed : raster.format.isIndexed with
  | false => exact pack_lt indexed colour
  | true =>
    rw [if_pos rfl, if_pos rfl]
    have limit : 0 < raster.format.paletteLimit ∧ raster.format.paletteLimit ≤ 256 := by
      cases raster.format <;> decide
    have counted := raster.length_entries
    rcases Nat.eq_zero_or_pos raster.palette.size with none | some
    · right
      rw [none, Nat.min_zero] at counted
      rw [List.eq_nil_of_length_eq_zero counted]
      exact ⟨none, rfl⟩
    · left
      have inside : Matching.place colour raster.entries < min raster.format.paletteLimit raster.palette.size :=
        Matching.place_lt (by omega) (Nat.le_of_eq counted)
      rw [UInt32.toNat_ofNat', Nat.mod_eq_of_lt (by omega)]
      exact inside

end StoredRaster

end GuestDraw
