/-
**What decoding reads.**

Whether a pixel buffer can be decoded is looked at in a fixed order: its depth, the palette, its
size and the memory. The first obstacle is the failure. The scanlines are then read at once, and
each row and each pixel is cut out of what was read, which is always long enough.

* `Obstacle`, `firstObstacle?`, `decode_vetted`: what can stand in the way, and that the first one
  decides;
* `PixelBuffer.cells?`, `decodeByRows`: decoding by cutting rows and pixels out, which fails where a
  cut would reach too far;
* `decodeByRows_eq`: it never does, and reads the same raster;
* `decoding_faithful`: when decoding succeeds, and what the raster shows then.
-/

import GuestDraw.Proofs.Pixel.Clipping
import GuestDraw.Proofs.Pixel.RoundTrip
import Mathlib.Data.List.OfFn

namespace GuestDraw

/-! ### Obstacles -/

/-- What can stand in the way of decoding. -/
inductive Obstacle where
  /-- There is no format for the depth. -/
  | depth
  /-- Indices are to be read without a palette. -/
  | noPalette
  /-- Indices are to be read with a palette that is too long. -/
  | longPalette
  /-- A scanline, or all of them together, are too long. -/
  | size
  /-- The scanlines cannot be read. -/
  | unbacked

namespace Obstacle

/-- The obstacles in the order in which they are looked for. -/
def inOrder : List Obstacle := [depth, noPalette, longPalette, size, unbacked]

/-- The failure for an obstacle, if it stands in the way. -/
def failure? (memory : Memory) (buffer : PixelBuffer) (palette : Option (Array UInt32)) :
    Obstacle → Option PixelError
  | depth =>
    if buffer.depth ∈ [4, 8, 15, 16, 24, 32] then none else some (.unsupportedDepth buffer.depth)
  | noPalette =>
    if buffer.depth ∈ [4, 8] ∧ palette = none then some (.missingPalette buffer.depth) else none
  | longPalette =>
    match palette with
    | some entries =>
      if buffer.depth ∈ [4, 8] ∧ 256 < entries.size then some (.paletteTooLarge entries.size)
      else none
    | none => none
  | size =>
    let line := exactPitch buffer.width buffer.depth
    if line < addressSpace ∧ line * buffer.height < addressSpace then none
    else some (.tooLarge buffer.width buffer.height buffer.depth)
  | unbacked =>
    match memory.read buffer.address (exactPitch buffer.width buffer.depth * buffer.height) with
    | .ok _ => none
    | .error cause => some (.memory cause)

end Obstacle

namespace Conversion

variable {memory : Memory} {buffer : PixelBuffer} {palette : Option (Array UInt32)} {raster : Raster}

/-- The failure for the first obstacle, if there is one. -/
def firstObstacle? (memory : Memory) (buffer : PixelBuffer) (palette : Option (Array UInt32)) :
    Option PixelError :=
  Obstacle.inOrder.findSome? (·.failure? memory buffer palette)

theorem mem_depths (format : Format) : format.depth ∈ [4, 8, 15, 16, 24, 32] := by
  cases format <;> decide

theorem isIndexed_iff {format : Format} : format.isIndexed = true ↔ format.depth ∈ [4, 8] := by
  cases format <;> decide

/-- The palette is looked at before the size. -/
theorem paletteFor_vetted (memory : Memory) (palette : Option (Array UInt32)) {format : Format}
    (depth : buffer.depth = format.depth) :
    match (Obstacle.noPalette.failure? memory buffer palette).or
      (Obstacle.longPalette.failure? memory buffer palette) with
    | some cause => paletteFor format palette = .error cause
    | none => ∃ entries, paletteFor format palette = .ok entries := by
  unfold paletteFor Obstacle.failure?
  rw [depth]
  simp only [← isIndexed_iff]
  cases format.isIndexed with
  | false => cases palette <;> exact ⟨_, rfl⟩
  | true =>
    cases palette with
    | none => rfl
    | some entries =>
      by_cases long : 256 < entries.size
      · simp [long, maxPalette]
      · simp [long, maxPalette]

theorem length_vetted (memory : Memory) (buffer : PixelBuffer) (palette : Option (Array UInt32)) :
    buffer.length =
      match Obstacle.size.failure? memory buffer palette with
      | some cause => .error cause
      | none => .ok (exactPitch buffer.width buffer.depth * buffer.height) := by
  unfold PixelBuffer.length Obstacle.failure?
  dsimp only
  split <;> rfl

theorem backed_vetted (memory : Memory) (buffer : PixelBuffer) (palette : Option (Array UInt32)) :
    backed memory buffer (exactPitch buffer.width buffer.depth * buffer.height) =
      match Obstacle.unbacked.failure? memory buffer palette with
      | some cause => .error cause
      | none => .ok () := by
  unfold backed Obstacle.failure? Memory.read
  cases memory.check buffer.address (exactPitch buffer.width buffer.depth * buffer.height) <;> rfl

/-- **The first obstacle is the failure**, and where there is none the buffer is decoded. -/
theorem decode_vetted (memory : Memory) (buffer : PixelBuffer) (palette : Option (Array UInt32)) :
    match firstObstacle? memory buffer palette with
    | some cause => decode memory buffer palette = .error cause
    | none => ∃ raster, decode memory buffer palette = .ok raster := by
  have ordered : firstObstacle? memory buffer palette =
      (Obstacle.depth.failure? memory buffer palette).or
        (((Obstacle.noPalette.failure? memory buffer palette).or
            (Obstacle.longPalette.failure? memory buffer palette)).or
          ((Obstacle.size.failure? memory buffer palette).or
            (Obstacle.unbacked.failure? memory buffer palette))) := by
    simp only [firstObstacle?, Obstacle.inOrder, List.findSome?_cons, List.findSome?_nil]
    cases Obstacle.depth.failure? memory buffer palette <;>
      cases Obstacle.noPalette.failure? memory buffer palette <;>
        cases Obstacle.longPalette.failure? memory buffer palette <;>
          cases Obstacle.size.failure? memory buffer palette <;>
            cases Obstacle.unbacked.failure? memory buffer palette <;> rfl
  rw [ordered]
  cases known : Format.ofDepth? buffer.depth with
  | none =>
    have strange : buffer.depth ∉ [4, 8, 15, 16, 24, 32] := by
      intro listed
      simp only [List.mem_cons, List.not_mem_nil, or_false] at listed
      rcases listed with depth | depth | depth | depth | depth | depth <;> rw [depth] at known <;>
        cases known
    have first : Obstacle.depth.failure? memory buffer palette =
        some (.unsupportedDepth buffer.depth) := if_neg strange
    rw [first, decode, PixelBuffer.format, known]
    rfl
  | some format =>
    have depth := Format.ofDepth?_eq_some_iff.mp known
    have first : Obstacle.depth.failure? memory buffer palette = none :=
      if_pos (depth ▸ mem_depths format)
    have decoding : decode memory buffer palette = paletteFor format palette >>= fun entries =>
        buffer.length >>= fun length => backed memory buffer length >>= fun _ =>
          .ok (.generate buffer.width buffer.height format entries
            (storedCell memory buffer format)) := by
      rw [decode, format_eq_ok_iff.mpr depth]
      rfl
    have chosen := paletteFor_vetted memory palette depth
    have fits := length_vetted memory buffer palette
    have held := backed_vetted memory buffer palette
    rw [first, Option.none_or, decoding]
    cases refused : (Obstacle.noPalette.failure? memory buffer palette).or
      (Obstacle.longPalette.failure? memory buffer palette) with
    | some cause =>
      rw [refused] at chosen
      rw [Option.some_or, chosen]
      rfl
    | none =>
      rw [refused] at chosen
      obtain ⟨entries, chosen⟩ := chosen
      rw [Option.none_or, chosen, fits]
      cases long : Obstacle.size.failure? memory buffer palette with
      | some cause => rfl
      | none =>
        rw [Option.none_or]
        cases lost : Obstacle.unbacked.failure? memory buffer palette with
        | some cause =>
          rw [lost] at held
          show (backed memory buffer _ >>= _) = _
          rw [held]
          rfl
        | none =>
          rw [lost] at held
          refine ⟨.generate buffer.width buffer.height format entries
            (storedCell memory buffer format), ?_⟩
          show (backed memory buffer _ >>= _) = _
          rw [held]
          rfl

theorem decode_eq_error_iff {cause : PixelError} :
    decode memory buffer palette = .error cause ↔ firstObstacle? memory buffer palette = some cause := by
  have vetted := decode_vetted memory buffer palette
  cases first : firstObstacle? memory buffer palette with
  | some other =>
    rw [first] at vetted
    rw [vetted, Except.error.injEq, Option.some.injEq]
  | none =>
    rw [first] at vetted
    obtain ⟨raster, decoded⟩ := vetted
    rw [decoded]
    exact ⟨nofun, nofun⟩

/-- What it takes that nothing stands in the way. -/
theorem firstObstacle?_eq_none_iff : firstObstacle? memory buffer palette = none ↔
    buffer.depth ∈ [4, 8, 15, 16, 24, 32] ∧
      (buffer.depth ∈ [4, 8] → ∃ entries, palette = some entries ∧ entries.size ≤ 256) ∧
      (exactPitch buffer.width buffer.depth < addressSpace ∧
        exactPitch buffer.width buffer.depth * buffer.height < addressSpace) ∧
      ∃ bytes, memory.read buffer.address (exactPitch buffer.width buffer.depth * buffer.height) =
        .ok bytes := by
  have chosen : (Obstacle.noPalette.failure? memory buffer palette = none ∧
      Obstacle.longPalette.failure? memory buffer palette = none) ↔
        (buffer.depth ∈ [4, 8] → ∃ entries, palette = some entries ∧ entries.size ≤ 256) := by
    unfold Obstacle.failure?
    cases palette with
    | none => simp
    | some entries =>
      by_cases indexed : buffer.depth ∈ [4, 8]
      · simp [indexed]
      · simp [indexed]
  have known : Obstacle.depth.failure? memory buffer palette = none ↔
      buffer.depth ∈ [4, 8, 15, 16, 24, 32] := by
    unfold Obstacle.failure?
    dsimp only
    split
    · next listed => exact iff_of_true rfl listed
    · next strange => exact iff_of_false nofun strange
  have short : Obstacle.size.failure? memory buffer palette = none ↔
      exactPitch buffer.width buffer.depth < addressSpace ∧
        exactPitch buffer.width buffer.depth * buffer.height < addressSpace := by
    unfold Obstacle.failure?
    dsimp only
    split
    · next fits => exact iff_of_true rfl fits
    · next long => exact iff_of_false nofun long
  have readable : Obstacle.unbacked.failure? memory buffer palette = none ↔
      ∃ bytes, memory.read buffer.address
        (exactPitch buffer.width buffer.depth * buffer.height) = .ok bytes := by
    unfold Obstacle.failure?
    dsimp only
    split
    · next bytes done => exact iff_of_true rfl ⟨bytes, done⟩
    · next cause failed => exact iff_of_false nofun fun ⟨_, done⟩ => nomatch done.symm.trans failed
  rw [firstObstacle?, List.findSome?_eq_none_iff, ← known, ← chosen, ← short, ← readable]
  simp only [Obstacle.inOrder, List.forall_mem_cons, List.not_mem_nil, false_implies, implies_true,
    and_true, and_assoc]

/-! ### Rows and pixels cut out -/

end Conversion

/-- The part of a list from `start` on, if the list has all of it. -/
def cut? (bytes : List UInt8) (start length : Nat) : Option (List UInt8) :=
  if start + length ≤ bytes.length then some ((bytes.drop start).take length) else none

theorem Memory.cut?_slice {memory : Memory} {address total start length : Nat}
    (held : memory.holds address total = true) (inside : start + length ≤ total) :
    cut? (memory.slice address total) start length = some (memory.slice (address + start) length) := by
  have there : memory.holds (address + start) length = true := by
    rw [holds_iff] at held ⊢
    omega
  rw [cut?, if_pos (by rw [length_slice held]; exact inside)]
  refine congrArg some (List.ext_getElem? fun index => ?_)
  rw [List.getElem?_take]
  by_cases below : index < length
  · rw [if_pos below, List.getElem?_drop, getElem?_slice held (by omega),
      getElem?_slice there below, Nat.add_assoc]
  · rw [if_neg below, List.getElem?_eq_none (by rw [length_slice there]; omega)]

namespace PixelBuffer

/-- The cell of a format that is stored in these bytes. -/
def cellIn (format : Format) (bytes : List UInt8) : UInt32 :=
  if format = .indexed4 then LittleEndian.dword bytes % 16 else LittleEndian.dword bytes

/-- The cells of a row, counted from the top, cut out of the bytes of all scanlines: first the
scanline, of which the padding is dropped, then one pixel after the other. -/
def row? (buffer : PixelBuffer) (format : Format) (bytes : List UInt8) (row : Nat) :
    Option (List UInt32) := do
  let unit := bytesPerPixel buffer.depth
  let line ← cut? bytes ((buffer.height - 1 - row) * buffer.stride) buffer.stride
  let pixels ← cut? line 0 (buffer.width * unit)
  (List.range buffer.width).mapM fun column =>
    (cut? pixels (column * unit) unit).map (cellIn format)

/-- The cells of all rows, from the top. -/
def cells? (buffer : PixelBuffer) (format : Format) (bytes : List UInt8) : Option (List UInt32) :=
  ((List.range buffer.height).mapM (buffer.row? format bytes)).map List.flatten

end PixelBuffer

namespace Conversion

variable {memory : Memory} {buffer : PixelBuffer} {palette : Option (Array UInt32)} {raster : Raster}

/-- Reads all scanlines at once and cuts the pixels out; there is no raster where a cut reaches
beyond what was read. -/
def decodeByRows (memory : Memory) (buffer : PixelBuffer) (palette : Option (Array UInt32)) :
    Except PixelError (Option Raster) := do
  let format ← buffer.format
  let entries ← paletteFor format palette
  let bytes ← (memory.read buffer.address (← buffer.length)).mapError .memory
  return (buffer.cells? format bytes).map fun cells =>
    ⟨buffer.width, buffer.height, format, entries, cells.toArray⟩

theorem row?_eq {length : Nat} (fits : buffer.length = .ok length)
    (held : memory.holds buffer.address length = true) (format : Format) {row : Nat}
    (high : row < buffer.height) :
    buffer.row? format (memory.slice buffer.address length) row =
      some ((List.range buffer.width).map fun column => storedCell memory buffer format column row) := by
  obtain ⟨rfl, room⟩ := PixelBuffer.length_eq_ok fits
  have lines : buffer.stride * (buffer.height - 1 - row + 1) ≤ buffer.stride * buffer.height :=
    Nat.mul_le_mul_left _ (by omega)
  rw [Nat.mul_succ, Nat.mul_comm] at lines
  have inLine : memory.holds (buffer.address + (buffer.height - 1 - row) * buffer.stride)
      buffer.stride = true := by
    rw [Memory.holds_iff] at held ⊢
    omega
  have inPixels : memory.holds (buffer.address + (buffer.height - 1 - row) * buffer.stride)
      (buffer.width * bytesPerPixel buffer.depth) = true := by
    rw [Memory.holds_iff] at inLine ⊢
    omega
  rw [PixelBuffer.row?, Memory.cut?_slice held lines, Option.bind_eq_bind, Option.bind_some,
    Memory.cut?_slice inLine (by omega), Option.bind_some, Nat.add_zero]
  refine mapM_eq_some_map fun column inside => ?_
  have ends := PixelBuffer.pixel_le_line (List.mem_range.mp inside)
  rw [Memory.cut?_slice inPixels ends]
  rfl

/-- The cells of a generated raster, row by row. -/
theorem toList_cells_generate (width height : Nat) (entries : Array UInt32) (format : Format)
    (cell : Nat → Nat → UInt32) :
    (Raster.generate width height format entries cell).cells.toList =
      ((List.range height).map fun row => (List.range width).map fun column => cell column row).flatten := by
  have place : ∀ (row : Nat) (column : Fin width), (width * row + column.val) % width = column.val ∧
      (width * row + column.val) / width = row := by
    intro row column
    have positive : 0 < width := Nat.zero_lt_of_lt column.isLt
    rw [Nat.mul_add_mod, Nat.mod_eq_of_lt column.isLt, Nat.mul_add_div positive,
      Nat.div_eq_of_lt column.isLt, Nat.add_zero]
    exact ⟨rfl, rfl⟩
  have counted : ∀ {α : Type} (count : Nat) (item : Nat → α),
      List.ofFn (fun index : Fin count => item index.val) = (List.range count).map item :=
    fun count item => List.ext_getElem (by simp) fun index _ _ => by simp
  have line : ∀ row, List.ofFn (fun column : Fin width => cell column.val row) =
      (List.range width).map fun column => cell column row :=
    fun row => counted width fun column => cell column row
  simp only [Raster.generate, Array.toList_ofFn, List.ofFn_mul', place, line]
  exact congrArg List.flatten
    (counted height fun row => (List.range width).map fun column => cell column row)

/-- No cut reaches beyond what was read, and together they are the cells of the raster. -/
theorem cells?_eq {length : Nat} (fits : buffer.length = .ok length)
    (held : memory.holds buffer.address length = true) (format : Format) (entries : Array UInt32) :
    buffer.cells? format (memory.slice buffer.address length) =
      some (Raster.generate buffer.width buffer.height format entries
        (storedCell memory buffer format)).cells.toList := by
  rw [PixelBuffer.cells?, toList_cells_generate,
    mapM_eq_some_map fun row inside => row?_eq fits held format (List.mem_range.mp inside)]
  rfl

/-- **No cut reaches too far**: cutting the scanlines apart is another way of decoding. -/
theorem decodeByRows_eq (memory : Memory) (buffer : PixelBuffer) (palette : Option (Array UInt32)) :
    decodeByRows memory buffer palette = (decode memory buffer palette).map some := by
  unfold decodeByRows decode
  cases buffer.format with
  | error cause => rfl
  | ok format =>
    cases chosen : paletteFor format palette with
    | error cause => simp only [bind, Except.bind, chosen]; rfl
    | ok entries =>
      cases fits : buffer.length with
      | error cause => simp only [bind, Except.bind, chosen]; rfl
      | ok length =>
        simp only [bind, Except.bind, chosen, Memory.read, backed]
        cases checked : memory.check buffer.address length with
        | error cause => rfl
        | ok _ =>
          have cells := cells?_eq fits (Memory.check_eq_ok_iff.mp checked) format entries
          simp only [Except.mapError, pure, Except.pure, cells]
          rfl

end Conversion

/-! ### What is decoded -/

/-- A raster shows the pixels of a buffer: each cell is the little-endian number that the bytes of
the pixel are, of which four bits count at a depth of four. -/
structure Raster.Shows (raster : Raster) (memory : Memory) (buffer : PixelBuffer)
    (palette : Option (Array UInt32)) : Prop where
  width : raster.width = buffer.width
  height : raster.height = buffer.height
  depth : raster.format.depth = buffer.depth
  complete : raster.cells.size = buffer.width * buffer.height
  palette : raster.palette = if buffer.depth ∈ [4, 8] then palette.getD #[] else #[]
  cells : ∀ column row, column < buffer.width → row < buffer.height →
    ∃ bytes, memory.read
        (buffer.address + (buffer.height - 1 - row) * exactPitch buffer.width buffer.depth +
          column * bytesPerPixel buffer.depth) (bytesPerPixel buffer.depth) = .ok bytes ∧
      (raster.cellAt column row).toNat =
        if buffer.depth = 4 then LittleEndian.value bytes % 16 else LittleEndian.value bytes
  /-- The fourth byte of a pixel of three bytes is zero. -/
  topless : buffer.depth = 24 → ∀ column row, (raster.cellAt column row).toNat < 0x1000000

/-- **Decoding in full**: when it succeeds, the raster that it gives then, the failure that it gives
otherwise, and that nothing beyond the scanlines is looked at on the way. -/
structure DecodesFaithfully (memory : Memory) (buffer : PixelBuffer)
    (palette : Option (Array UInt32)) : Prop where
  succeeds : (∃ raster, Conversion.decode memory buffer palette = .ok raster) ↔
    buffer.depth ∈ [4, 8, 15, 16, 24, 32] ∧
      (buffer.depth ∈ [4, 8] → ∃ entries, palette = some entries ∧ entries.size ≤ 256) ∧
      exactPitch buffer.width buffer.depth < addressSpace ∧
      exactPitch buffer.width buffer.depth * buffer.height < addressSpace ∧
      ∃ bytes, memory.read buffer.address (exactPitch buffer.width buffer.depth * buffer.height) =
        .ok bytes
  shows : ∀ raster, Conversion.decode memory buffer palette = .ok raster →
    raster.Shows memory buffer palette
  fails : ∀ cause, Conversion.decode memory buffer palette = .error cause ↔
    Conversion.firstObstacle? memory buffer palette = some cause
  inBounds : Conversion.decodeByRows memory buffer palette =
    (Conversion.decode memory buffer palette).map some

/-- What was decoded shows the pixels that were stored. -/
theorem Raster.shows_of_decode {memory : Memory} {buffer : PixelBuffer}
    {palette : Option (Array UInt32)} {raster : Raster}
    (decoded : Conversion.decode memory buffer palette = .ok raster) :
    raster.Shows memory buffer palette := by
  obtain ⟨format, entries, length, depth, chosen, fits, held, rfl⟩ :=
    Conversion.decode_eq_ok_iff.mp decoded
  have known : entries = if buffer.depth ∈ [4, 8] then palette.getD #[] else #[] := by
    unfold Conversion.paletteFor at chosen
    simp only [depth, ← Conversion.isIndexed_iff]
    cases indexed : format.isIndexed with
    | false =>
      rw [indexed] at chosen
      exact (Except.ok.inj chosen).symm
    | true =>
      rw [indexed, if_pos rfl] at chosen
      cases palette with
      | none => cases chosen
      | some colours =>
        dsimp only at chosen
        split at chosen
        · cases chosen
        · exact (Except.ok.inj chosen).symm
  have cells : ∀ column row, column < buffer.width → row < buffer.height → ∃ bytes,
      memory.read (buffer.pixelAddress column row) (bytesPerPixel buffer.depth) = .ok bytes ∧
        ((Raster.generate buffer.width buffer.height format entries
          (Conversion.storedCell memory buffer format)).cellAt column row).toNat =
            if buffer.depth = 4 then LittleEndian.value bytes % 16 else LittleEndian.value bytes := by
    intro column row inside high
    have there := PixelBuffer.holds_pixel fits inside high held
    have short : (memory.slice (buffer.pixelAddress column row)
        (bytesPerPixel buffer.depth)).length ≤ 4 := by
      rw [Memory.length_slice there, depth]
      cases format <;> decide
    refine ⟨memory.slice (buffer.pixelAddress column row) (bytesPerPixel buffer.depth), ?_, ?_⟩
    · rw [Memory.read, Memory.check_eq_ok_iff.mpr there]
      rfl
    · have four : buffer.depth = 4 ↔ format = .indexed4 := by
        rw [depth]
        cases format <;> decide
      rw [Raster.cellAt_generate inside high]
      simp only [Conversion.storedCell, four]
      split
      · rw [UInt32.toNat_mod, LittleEndian.toNat_dword short]
        rfl
      · exact LittleEndian.toNat_dword short
  refine ⟨rfl, rfl, depth.symm, ?_, known, ?_, ?_⟩
  · rw [Raster.generate, Array.size_ofFn]
  · rw [← PixelBuffer.stride_eq fits]
    exact cells
  · intro three column row
    have narrow := (Conversion.suits_of_decode decoded).toNat_cellAt_lt column row
    rw [← (Conversion.suits_of_decode decoded).depth, three] at narrow
    exact narrow

/-- **Every buffer of every memory is decoded faithfully**, or refused for the first reason there
is. -/
theorem decoding_faithful (memory : Memory) (address depth width height : Nat)
    (palette : Option (Array UInt32)) :
    DecodesFaithfully memory ⟨address, depth, width, height⟩ palette where
  succeeds := by
    have vetted := Conversion.decode_vetted memory ⟨address, depth, width, height⟩ palette
    rw [← and_assoc (a := _ < _), ← Conversion.firstObstacle?_eq_none_iff]
    cases first : Conversion.firstObstacle? memory ⟨address, depth, width, height⟩ palette with
    | none =>
      rw [first] at vetted
      exact iff_of_true vetted rfl
    | some cause =>
      rw [first] at vetted
      exact iff_of_false (fun ⟨_, decoded⟩ => nomatch decoded.symm.trans vetted) nofun
  shows raster decoded := Raster.shows_of_decode decoded
  fails cause := Conversion.decode_eq_error_iff
  inBounds := Conversion.decodeByRows_eq _ _ _

/-- Scanlines are stored from the bottom up, each with a byte of padding here. -/
example : Conversion.decode ⟨0, #[1, 2, 3, 0, 4, 5, 6, 0], by decide⟩ ⟨0, 24, 1, 2⟩ none =
    .ok ⟨1, 2, .rgb888, #[], #[0x060504, 0x030201]⟩ := by rfl

end GuestDraw
