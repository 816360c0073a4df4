/-
**The nearest entry of a palette.**

A colour is stored in an indexed raster as the entry that is closest to it by squared distance, the
first of equally close ones. An entry with exactly the wanted colour is looked for first, which
settles most pixels without measuring.
-/

import GuestDraw.Pixel.Colour

namespace GuestDraw.Matching

/-- The place of the first entry with exactly the colour `wanted`. -/
def equal? (wanted : Colour) (entries : List Colour) : Option Nat :=
  entries.findIdx? fun entry => entry.red = wanted.red && entry.green = wanted.green
    && entry.blue = wanted.blue

/-- Place and distance of the first entry that is nearest to `wanted`. -/
def closest? (wanted : Colour) : List Colour → Option (Nat × Nat)
  | [] => none
  | entry :: rest =>
    let here := entry.distance wanted
    match closest? wanted rest with
    | some (place, distance) => if distance < here then some (place + 1, distance) else some (0, here)
    | none => some (0, here)

/-- The place of the entry that stands for `wanted`, zero in an empty palette. -/
def place (wanted : Colour) (entries : List Colour) : Nat :=
  match equal? wanted entries with
  | some found => found
  | none => ((closest? wanted entries).map Prod.fst).getD 0

end GuestDraw.Matching
