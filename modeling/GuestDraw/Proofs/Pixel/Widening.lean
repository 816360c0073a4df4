/-
**There and back through greater depth.**

Pixels with direct colours are copied to a buffer of greater depth and from there to one of their
own depth. Channels are widened by repeating their upper bits and narrowed by dropping lower ones,
so each bit that counts comes back, and only the unused bit of fifteen-bit pixels is lost.

* `Conversion.exists_copy`: between direct colours nothing but the place can be in the way;
* `pixel_restored`, `ofNat_used`: the pixels that come back, as numbers and byte by byte;
* `widening_lossless`: both copies succeed, and the bytes of all pixels come back.
-/

import GuestDraw.Proofs.Pixel.Copying

namespace GuestDraw

/-- The part of a byte of a pixel that counts. Only the top bit of a pixel of fifteen bits does
not. -/
def usedByte (depth place : Nat) (byte : UInt8) : UInt8 :=
  if depth = 15 ∧ place = 1 then byte % 128 else byte

namespace Format

/-- The bits that count, byte by byte. -/
theorem ofNat_used {format : Format} (direct : format.isIndexed = false) {cell : UInt32} {place : Nat}
    (below : place < bytesPerPixel format.depth) :
    UInt8.ofNat ((format.used cell).toNat >>> (8 * place)) =
      usedByte format.depth place (UInt8.ofNat (cell.toNat >>> (8 * place))) := by
  have places : place < 3 → place = 0 ∨ place = 1 ∨ place = 2 := by omega
  apply UInt8.toNat_inj.mp
  revert direct below
  cases format with
  | indexed4 | indexed8 => exact nofun
  | argb8888 => exact fun _ _ => rfl
  | rgb555 | rgb565 | rgb888 =>
    simp only [used, usedByte, depth, bytesPerPixel, UInt8.toNat_ofNat', UInt32.toNat_mod,
      Nat.shiftRight_eq_div_pow]
    intro _ below
    rcases places (by omega) with rfl | rfl | rfl <;> simp at below ⊢ <;> omega

end Format

namespace Conversion

variable {memory middle after : Memory}

section Single

variable {source target : PixelBuffer}

/-- Between direct colours a copy is done wherever there are both buffers. -/
theorem exists_copy (direct : source.depth ∈ [15, 16, 24, 32]) (there : source.Backed memory)
    (deep : target.depth ∈ [15, 16, 24, 32]) (here : target.Backed memory)
    (sourcePalette targetPalette : Option (Array UInt32)) :
    ∃ after, copy memory source sourcePalette target targetPalette = .ok after := by
  obtain ⟨format, depth, plain⟩ := Format.exists_direct direct
  obtain ⟨length, fits, held⟩ := there
  have chosen : paletteFor format sourcePalette = .ok #[] := if_neg (ne_true_of_eq_false plain)
  rw [copy_eq_copyBy]
  exact exists_copyBy_iff.mpr
    ⟨⟨_, decode_eq_ok_iff.mpr ⟨format, #[], length, depth, chosen, fits, held, rfl⟩⟩, deep, here⟩

/-- A copy takes no memory away. -/
theorem backed_of_copy {sourcePalette targetPalette : Option (Array UInt32)}
    (copied : copy memory source sourcePalette target targetPalette = .ok after)
    {buffer : PixelBuffer} (there : buffer.Backed memory) : buffer.Backed after := by
  obtain ⟨image, format, data, -, -, -, -, rfl⟩ := copyThrough_eq_ok_iff.mp copied
  obtain ⟨length, fits, held⟩ := there
  exact ⟨length, fits, (Memory.holds_put ..).trans held⟩

end Single

section Back

variable {narrow wide : Format} {first between last : PixelBuffer} {column row place : Nat}
  {firstPalette betweenPalette lastPalette : Option (Array UInt32)}
  (direct : narrow.isIndexed = false) (deeper : narrow.depth < wide.depth)
  (widened : copy memory first firstPalette between betweenPalette = .ok middle)
  (narrowed : copy middle between betweenPalette last lastPalette = .ok after)
  (read : first.depth = narrow.depth) (held : between.depth = wide.depth)
  (written : last.depth = narrow.depth)
  (width : first.width = between.width) (height : first.height = between.height)
  (back : between.width = last.width) (upright : between.height = last.height)
  (inside : column < last.width) (high : row < last.height)

include direct deeper widened narrowed read held written width height back upright inside high

/-- Pixels that were copied to greater depth and back have the bits that count, and no other. -/
theorem pixel_restored :
    last.pixel after column row = narrow.used (first.pixel memory column row) := by
  have differ : narrow ≠ wide := by
    rintro rfl
    exact Nat.lt_irrefl _ deeper
  -- Every channel keeps at least as many bits on the way as it has at both ends.
  rw [pixel_copied held written back upright narrowed inside high, if_neg differ.symm,
    pixel_copied read held width height widened (back ▸ inside) (upright ▸ high), if_neg differ,
    Format.pack_widened direct (Nat.le_of_lt deeper), Format.pack_colour direct]

/-- The bytes of pixels that were copied to greater depth and back. -/
theorem byte?_restored (below : place < bytesPerPixel narrow.depth) :
    after.byte? (last.pixelAddress column row + place) =
      (memory.byte? (first.pixelAddress column row + place)).map (usedByte narrow.depth place) := by
  have short := (Format.bytesPerPixel_mem direct).2
  have there := (holds_of_copy widened).1 column row (width ▸ back ▸ inside) (height ▸ upright ▸ high)
  have here := (holds_of_copy narrowed).2 column row inside high
  rw [PixelBuffer.byte?_pixel (written ▸ short) (written ▸ below) here,
    PixelBuffer.byte?_pixel (read ▸ short) (read ▸ below) there, Option.map_some,
    pixel_restored direct deeper widened narrowed read held written width height back upright inside
      high, Format.ofNat_used direct below]

end Back

end Conversion

/-- **Pixels come back from greater depth as they were**, but for the unused bit of fifteen-bit
pixels, which comes back as zero. The buffers may lie anywhere. -/
theorem widening_lossless {narrow wide : Nat} (direct : narrow ∈ [15, 16, 24, 32])
    (deep : wide ∈ [15, 16, 24, 32]) (deeper : narrow < wide) {memory : Memory}
    {width height first between last : Nat}
    (there : PixelBuffer.Backed memory ⟨first, narrow, width, height⟩)
    (around : PixelBuffer.Backed memory ⟨between, wide, width, height⟩)
    (here : PixelBuffer.Backed memory ⟨last, narrow, width, height⟩)
    (firstPalette betweenPalette lastPalette : Option (Array UInt32)) :
    ∃ middle after,
      Conversion.copy memory ⟨first, narrow, width, height⟩ firstPalette
          ⟨between, wide, width, height⟩ betweenPalette = .ok middle ∧
        Conversion.copy middle ⟨between, wide, width, height⟩ betweenPalette
          ⟨last, narrow, width, height⟩ lastPalette = .ok after ∧
        ∀ column row place, column < width → row < height → place < bytesPerPixel narrow →
          after.byte? ((PixelBuffer.mk last narrow width height).pixelAddress column row + place) =
            (memory.byte? ((PixelBuffer.mk first narrow width height).pixelAddress column row +
              place)).map (usedByte narrow place) := by
  obtain ⟨middle, widened⟩ :=
    Conversion.exists_copy direct there deep around firstPalette betweenPalette
  obtain ⟨after, narrowed⟩ :=
    Conversion.exists_copy deep (Conversion.backed_of_copy widened around) direct
      (Conversion.backed_of_copy widened here) betweenPalette lastPalette
  refine ⟨middle, after, widened, narrowed, fun column row place inside high below => ?_⟩
  obtain ⟨shown, rfl, plain⟩ := Format.exists_direct direct
  obtain ⟨stored, rfl, -⟩ := Format.exists_direct deep
  exact Conversion.byte?_restored plain deeper widened narrowed rfl rfl rfl rfl rfl rfl rfl inside high
    below

/-- A pixel of fifteen bits with all bits set is copied to a pixel of sixteen bits and back onto
itself. -/
theorem widening_lossless_in_place :
    let memory : Memory := ⟨0, #[0xFF, 0xFF, 7, 7, 0, 0, 0, 0], by decide⟩
    15 ∈ [15, 16, 24, 32] ∧ 16 ∈ [15, 16, 24, 32] ∧ 15 < 16 ∧
      PixelBuffer.Backed memory ⟨0, 15, 1, 1⟩ ∧ PixelBuffer.Backed memory ⟨4, 16, 1, 1⟩ ∧
      ∃ middle after,
        Conversion.copy memory ⟨0, 15, 1, 1⟩ none ⟨4, 16, 1, 1⟩ none = .ok middle ∧
        Conversion.copy middle ⟨4, 16, 1, 1⟩ none ⟨0, 15, 1, 1⟩ none = .ok after ∧
        after.byte? 0 = some 0xFF ∧ after.byte? 1 = some 0x7F := by
  intro memory
  have here : PixelBuffer.Backed memory ⟨0, 15, 1, 1⟩ := ⟨4, rfl, rfl⟩
  have around : PixelBuffer.Backed memory ⟨4, 16, 1, 1⟩ := ⟨4, rfl, rfl⟩
  obtain ⟨middle, after, widened, narrowed, bytes⟩ :=
    widening_lossless (by decide) (by decide) (by decide) here around here none none none
  have low : (memory.byte? 0).map (usedByte 15 0) = some 0xFF := by decide
  have top : (memory.byte? 1).map (usedByte 15 1) = some 0x7F := by decide
  exact ⟨by decide, by decide, by decide, here, around, middle, after, widened, narrowed,
    (bytes 0 0 0 (by decide) (by decide) (by decide)).trans low,
    (bytes 0 0 1 (by decide) (by decide) (by decide)).trans top⟩

end GuestDraw
