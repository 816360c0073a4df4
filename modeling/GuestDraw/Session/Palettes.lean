/-
**Palettes.**

A palette keeps its entries as words and repeats them in its block. The guest passes colours as four
bytes: red, green, blue and one that is ignored and given back as zero. A surface refers to the
palette that is attached to it; its cache was decoded with the colours of that palette, so it is
settled before they change.
-/

import GuestDraw.Session.Contents
import GuestDraw.Session.Creation

namespace GuestDraw

namespace Palette

/-- The bytes of one colour as the guest passes it. -/
def entrySize : Nat := 4

/-- The word for a colour that the guest passed. -/
def ofEntry (bytes : List UInt8) : UInt32 :=
  Colour.rgb ⟨0, bytes.getD 0 0, bytes.getD 1 0, bytes.getD 2 0⟩

/-- A word as the guest is given it. -/
def toEntry (word : UInt32) : List UInt8 :=
  let colour := Colour.ofArgb word
  [colour.red, colour.green, colour.blue, 0]

/-- The entries as the block repeats them. -/
def blockBytes (palette : Palette) : List UInt8 :=
  palette.entries.toList.flatMap LittleEndian.ofDword

/-- How many entries a palette with these capabilities has. -/
def length? (caps : PaletteCaps) : Option Nat :=
  if caps.contains PaletteCaps.eightBit then some 256
  else if caps.contains PaletteCaps.fourBit then some 16
  else none

end Palette

namespace Engine

/-- The name of the creation of palettes in messages. -/
def createPaletteEntry : String := "IDirectDraw::CreatePalette"

/-- The `count` colours that the guest passes at `address`. The place of the next one is a sum that
nobody checks. -/
def readColours (address : Nat) : (count : Nat) → Engine (List UInt32)
  | 0 => return []
  | count + 1 => do
    let bytes ← read address Palette.entrySize
    return Palette.ofEntry bytes :: (← readColours (wrapped (address + Palette.entrySize)) count)

/-- Gives colours to the guest at `address`. -/
def writeColours (address : Nat) : List UInt32 → Engine Unit
  | [] => pure ()
  | colour :: rest => do
    write address (Palette.toEntry colour)
    writeColours (wrapped (address + Palette.entrySize)) rest

/-- Repeats the entries of a palette in its block. -/
def writeEntries (palette : Palette) : Engine Unit :=
  write (palette.object + Block.dataOffset) palette.blockBytes

/-- Creates a palette with the colours at `colours`, and stores its interface pointer at `out`. -/
def createPalette (caps : PaletteCaps) (colours out : Nat) : Engine Nat := do
  if colours = 0 ∨ out = 0 then
    throw (.invalidParams createPaletteEntry)
  if caps.contains PaletteCaps.eightBitEntries then
    throw (.unsupported createPaletteEntry .byteEntries)
  let some count := Palette.length? caps
    | throw (.unsupported createPaletteEntry (.paletteCaps caps))
  let entries ← readColours colours count
  let vtable ← paletteVtable
  let object ← allocate Palette.blockSize
  let palette : Palette := ⟨object, caps, entries.toArray⟩
  writeEntries palette
  let handle ← create (.palette palette)
  linkBlock object vtable handle
  writeDword out (UInt32.ofNat object)
  return object

/-! ### Entries -/

/-- Refuses a null buffer and entries that the palette does not have. -/
def checkEntries (entry : String) (handle : Handle) (start count buffer : Nat) : Engine Unit := do
  let palette ← paletteAt handle
  if buffer = 0 ∨ palette.entries.size < start + count then
    throw (.invalidParams entry)

/-- Stores `count` colours of a palette from `start` on at `out`. -/
def paletteGetEntries (this start count out : Nat) : Engine Unit := do
  let entry := PaletteMethod.getEntries.name
  let handle ← resolvePalette entry this
  checkEntries entry handle start count out
  let palette ← paletteAt handle
  writeColours out ((palette.entries.toList.drop start).take count)

/-- The live surfaces that a palette is attached to. -/
def paletteUsers (handle : Handle) : Engine (List Handle) := do
  let surfaces := (← get).objects.surfaces
  return (surfaces.filter fun entry => entry.2.palette = some handle).map Prod.fst

/-- Replaces `count` colours of a palette from `start` on by those at `source`. Visible surfaces
with the palette are shown again. -/
def paletteSetEntries (this start count source : Nat) : Engine Unit := do
  let entry := PaletteMethod.setEntries.name
  let handle ← resolvePalette entry this
  checkEntries entry handle start count source
  let users ← paletteUsers handle
  users.forM settle
  let colours ← readColours source count
  let palette ← paletteAt handle
  let recoloured := { palette with entries := overwrite palette.entries start colours }
  setPayload handle (.palette recoloured)
  writeEntries recoloured
  users.forM presentIfVisible

/-! ### Attaching -/

/-- Attaches a palette to a surface in place of the one attached before. -/
def setPalette (this palette : Nat) : Engine Unit := do
  let entry := SurfaceMethod.setPalette.name
  let handle ← resolveSurface entry this
  if palette = 0 then
    throw (.nullPointer entry)
  let attached ← resolvePalette entry palette
  if (← surfaceAt handle).palette ≠ some attached then
    settle handle
    let _ ← addReference attached
    let previous := (← surfaceAt handle).palette
    updateSurface handle fun surface => { surface with palette := some attached }
    match previous with
    | some previous => discard (release previous)
    | none => pure ()

/-- Stores the attached palette of a surface at `out`, with a reference. -/
def getPalette (this out : Nat) : Engine Nat := do
  let entry := SurfaceMethod.getPalette.name
  let surface ← surfaceAt (← resolveSurface entry this)
  if out = 0 then
    throw (.nullPointer entry)
  let some handle := surface.palette
    | throw (.failed entry .noPaletteAttached)
  let palette ← paletteAt handle
  let _ ← addReference handle
  writeDword out (UInt32.ofNat palette.object)
  return palette.object

/-! ### Other calls on palettes -/

/-- Stores the capabilities of a palette at `out`. -/
def paletteGetCaps (this out : Nat) : Engine Unit := do
  let entry := PaletteMethod.getCaps.name
  let handle ← resolvePalette entry this
  if out = 0 then
    throw (.nullPointer entry)
  writeDword out (← paletteAt handle).caps.bits

/-- Takes a reference to a palette. -/
def paletteAddReference (this : Nat) : Engine Nat := do
  addReference (← resolvePalette PaletteMethod.addRef.name this)

/-- Gives a reference to a palette back. -/
def paletteRelease (this : Nat) : Engine Nat := do
  release (← resolvePalette PaletteMethod.release.name this)

/-- Palettes are complete once they exist. -/
def paletteSetUp (this : Nat) : Engine Unit := do
  let entry := PaletteMethod.setUp.name
  discard (resolvePalette entry this)
  throw (.failed entry .alreadyInitialized)

end Engine

end GuestDraw
