/-
**The entry that stands for a colour.**

A colour that is stored in an indexed raster becomes the place of a palette entry: the nearest one
by squared distance, and the first of those that are equally near. Entries with exactly the wanted
colour are looked for on a path of their own, which takes the first of them as well; so does the
search, where such an entry is the nearest one there is.

* `Matching.FirstNearest`: the first of the nearest entries; there is only one;
* `closest?_firstNearest`, `equal?_firstNearest`: both paths find it;
* `cellFor_colour`: the colour of the entry that was found leads back to that entry;
* `Raster.NearestEntry`: the same in terms of the words of a palette, of which the top byte does not
  count;
* `nearest_stored`: what a stored colour leaves in an indexed raster.
-/

import GuestDraw.Proofs.Pixel.Clipping

namespace GuestDraw

/-! ### Distances -/

namespace Colour

theorem squaredGap_eq (first second : UInt8) :
    (squaredGap first second : Int) =
      (first.toNat - second.toNat : Int) * (first.toNat - second.toNat : Int) := by
  have size : gap first second = ((first.toNat : Int) - second.toNat).natAbs := by
    unfold gap
    omega
  rw [squaredGap, size, Int.natCast_mul, Int.natAbs_mul_self']

theorem squaredGap_eq_zero_iff {first second : UInt8} :
    squaredGap first second = 0 ↔ first = second := by
  rw [squaredGap, Nat.mul_eq_zero, or_self, ← UInt8.toNat_inj, gap]
  omega

/-- Colours are at no distance if they differ in coverage at most. -/
theorem distance_eq_zero_iff {first second : Colour} : first.distance second = 0 ↔
    first.red = second.red ∧ first.green = second.green ∧ first.blue = second.blue := by
  simp only [distance, Nat.add_eq_zero_iff, squaredGap_eq_zero_iff, and_assoc]

/-- Coverage does not count for a distance. -/
theorem distance_congr {first second : Colour} (same : first.distance second = 0)
    (wanted : Colour) :
    first.distance wanted = second.distance wanted := by
  obtain ⟨red, green, blue⟩ := distance_eq_zero_iff.mp same
  simp only [distance, red, green, blue]

end Colour

/-! ### The first of the nearest entries -/

namespace Matching

variable {wanted : Colour} {entries : List Colour} {index distance : Nat}

/-- The entry at `index` is at this distance from `wanted`, none is nearer, and none before it is as
near. -/
structure FirstNearest (wanted : Colour) (entries : List Colour) (index distance : Nat) : Prop where
  there : ∃ entry, entries[index]? = some entry ∧ entry.distance wanted = distance
  least : ∀ entry ∈ entries, distance ≤ entry.distance wanted
  first : ∀ earlier < index, ∀ entry, entries[earlier]? = some entry →
    distance < entry.distance wanted

namespace FirstNearest

theorem index_lt (nearest : FirstNearest wanted entries index distance) :
    index < entries.length := by
  obtain ⟨entry, found, -⟩ := nearest.there
  exact (List.getElem?_eq_some_iff.mp found).1

theorem unique {other gap : Nat} (nearest : FirstNearest wanted entries index distance)
    (too : FirstNearest wanted entries other gap) : index = other := by
  obtain ⟨entry, found, rfl⟩ := nearest.there
  obtain ⟨rival, met, rfl⟩ := too.there
  have near := nearest.least rival (List.mem_of_getElem? met)
  have far := too.least entry (List.mem_of_getElem? found)
  rcases Nat.lt_trichotomy index other with before | same | after
  · exact absurd (too.first index before entry found) (Nat.not_lt.mpr near)
  · exact same
  · exact absurd (nearest.first other after rival met) (Nat.not_lt.mpr far)

/-- The first entry stays the nearest one if those behind it are no nearer. -/
theorem head {entry : Colour} {rest : List Colour}
    (far : ∀ other ∈ rest, entry.distance wanted ≤ other.distance wanted) :
    FirstNearest wanted (entry :: rest) 0 (entry.distance wanted) where
  there := ⟨entry, rfl, rfl⟩
  least other inside := by
    rcases List.mem_cons.mp inside with rfl | later
    · exact Nat.le_refl _
    · exact far other later
  first earlier before := absurd before (Nat.not_lt_zero earlier)

/-- The nearest entry stays the nearest one behind an entry that is farther away. -/
theorem tail {entry : Colour} {rest : List Colour}
    (nearest : FirstNearest wanted rest index distance)
    (far : distance < entry.distance wanted) :
    FirstNearest wanted (entry :: rest) (index + 1) distance where
  there := nearest.there
  least other inside := by
    rcases List.mem_cons.mp inside with rfl | later
    · exact Nat.le_of_lt far
    · exact nearest.least other later
  first earlier before other met := by
    cases earlier with
    | zero =>
      cases met
      exact far
    | succ earlier => exact nearest.first earlier (Nat.lt_of_succ_lt_succ before) other met

end FirstNearest

theorem closest?_eq_none_iff : closest? wanted entries = none ↔ entries = [] := by
  cases entries with
  | nil => exact iff_of_true rfl rfl
  | cons entry rest =>
    refine iff_of_false ?_ (List.cons_ne_nil _ _)
    unfold closest?
    dsimp only
    cases closest? wanted rest with
    | none => exact Option.some_ne_none _
    | some best =>
      dsimp only
      split <;> exact Option.some_ne_none _

/-- The search finds the first of the nearest entries. -/
theorem closest?_firstNearest (found : closest? wanted entries = some (index, distance)) :
    FirstNearest wanted entries index distance := by
  induction entries generalizing index distance with
  | nil => cases found
  | cons entry rest ih =>
    unfold closest? at found
    cases later : closest? wanted rest with
    | none =>
      rw [later] at found
      cases found
      obtain rfl := closest?_eq_none_iff.mp later
      exact .head fun other inside => absurd inside List.not_mem_nil
    | some best =>
      obtain ⟨behind, gap⟩ := best
      have nearest := ih later
      rw [later] at found
      dsimp only at found
      split at found
      · next nearer =>
        cases found
        exact nearest.tail nearer
      · next farther =>
        cases found
        exact .head fun other inside =>
          Nat.le_trans (Nat.le_of_not_lt farther) (nearest.least other inside)

theorem exists_closest? (some : entries ≠ []) :
    ∃ index distance, closest? wanted entries = .some (index, distance) := by
  obtain ⟨best, found⟩ := Option.ne_none_iff_exists'.mp fun none =>
    some (closest?_eq_none_iff.mp none)
  exact ⟨best.1, best.2, found⟩

/-- An entry is equal to a colour if it is at no distance from it. -/
theorem equal_iff {entry : Colour} : (entry.red = wanted.red && entry.green = wanted.green
    && entry.blue = wanted.blue : Bool) = true ↔ entry.distance wanted = 0 := by
  simp only [Colour.distance_eq_zero_iff, Bool.and_eq_true, decide_eq_true_eq, and_assoc]

/-- The first equal entry is the first of the nearest ones. -/
theorem equal?_firstNearest (found : equal? wanted entries = some index) :
    FirstNearest wanted entries index 0 := by
  obtain ⟨inside, same, before⟩ := List.findIdx?_eq_some_iff_getElem.mp found
  refine ⟨⟨entries[index], List.getElem?_eq_getElem inside, equal_iff.mp same⟩,
    fun entry _ => Nat.zero_le _, fun earlier early entry met => ?_⟩
  obtain ⟨_, rfl⟩ := List.getElem?_eq_some_iff.mp met
  exact Nat.pos_of_ne_zero fun zero => before earlier early (equal_iff.mpr zero)

/-- Looking for an equal entry first finds what the search would have found. -/
theorem closest?_of_equal? (found : equal? wanted entries = some index) :
    (closest? wanted entries).map Prod.fst = some index := by
  have nearest := equal?_firstNearest found
  obtain ⟨other, distance, searched⟩ :
    ∃ other distance, closest? wanted entries = .some (other, distance) :=
    exists_closest? (List.ne_nil_of_length_pos (Nat.zero_lt_of_lt nearest.index_lt))
  rw [searched, Option.map_some, nearest.unique (closest?_firstNearest searched)]

/-- What stands for a colour is the first of the nearest entries. -/
theorem place_firstNearest (wanted : Colour) (some : entries ≠ []) :
    ∃ distance, FirstNearest wanted entries (place wanted entries) distance := by
  unfold place
  cases same : equal? wanted entries with
  | some found => exact ⟨0, equal?_firstNearest same⟩
  | none =>
    obtain ⟨index, distance, found⟩ :
      ∃ index distance, closest? wanted entries = .some (index, distance) :=
      exists_closest? some
    rw [found]
    exact ⟨distance, closest?_firstNearest found⟩

/-- The colour of the entry that stands for another one leads to the same entry: an earlier one with
that colour would have been taken for the other one too. -/
theorem place_of_getElem? {entry colour : Colour}
    (there : entries[place wanted entries]? = some entry)
    (same : entry.distance colour = 0) : place colour entries = place wanted entries := by
  have inside := List.mem_of_getElem? there
  have some : entries ≠ [] := List.ne_nil_of_mem inside
  obtain ⟨distance, nearest⟩ := place_firstNearest wanted some
  obtain ⟨gap, back⟩ := place_firstNearest colour some
  obtain ⟨known, found, rfl⟩ := nearest.there
  obtain rfl : entry = known := Option.some.inj (there.symm.trans found)
  refine back.unique ⟨⟨entry, there, same⟩, fun _ _ => Nat.zero_le _,
    fun earlier before other met => ?_⟩
  refine Nat.pos_of_ne_zero fun zero => ?_
  have equal : other.distance entry = 0 := by
    obtain ⟨red, green, blue⟩ := Colour.distance_eq_zero_iff.mp same
    obtain ⟨redToo, greenToo, blueToo⟩ := Colour.distance_eq_zero_iff.mp zero
    exact Colour.distance_eq_zero_iff.mpr
      ⟨redToo.trans red.symm, greenToo.trans green.symm, blueToo.trans blue.symm⟩
  exact Nat.lt_irrefl _ (Colour.distance_congr equal wanted ▸ nearest.first earlier before other met)

end Matching

/-! ### Rasters -/

/-- How far an entry `0x..RRGGBB` is from a colour: the sum of the squared differences of red, green
and blue. Neither the top byte of the entry nor the coverage of the colour counts. -/
def entryDistance (entry : UInt32) (colour : Colour) : Int :=
  let red : Int := (entry.toNat / 0x10000 % 0x100 : Nat) - colour.red.toNat
  let green : Int := (entry.toNat / 0x100 % 0x100 : Nat) - colour.green.toNat
  let blue : Int := (entry.toNat % 0x100 : Nat) - colour.blue.toNat
  red * red + green * green + blue * blue

theorem entryDistance_eq (entry : UInt32) (colour : Colour) :
    entryDistance entry colour = ((Colour.ofRgb entry).distance colour : Nat) := by
  simp only [entryDistance, Colour.distance, Int.natCast_add, Colour.squaredGap_eq, Colour.ofRgb,
    Colour.ofArgb, Colour.solid, UInt8.toNat_ofNat']

namespace Raster

variable {raster : Raster} {colour : Colour} {column row : Nat}

/-- How many entries of the palette the cells of a raster can name. -/
def entryCount (raster : Raster) : Nat := min raster.palette.size raster.format.paletteLimit

/-- The palette entry that stands for a colour: it is one that cells can name, none of these is
nearer, and none before it is as near. -/
structure NearestEntry (raster : Raster) (colour : Colour) (index : Nat) : Prop where
  named : index < raster.entryCount
  least : ∀ other < raster.entryCount, entryDistance (raster.palette.getD index 0) colour ≤
    entryDistance (raster.palette.getD other 0) colour
  first : ∀ earlier < index, entryDistance (raster.palette.getD index 0) colour <
    entryDistance (raster.palette.getD earlier 0) colour

theorem length_entries (raster : Raster) : raster.entries.length = raster.entryCount := by
  rw [entries, List.length_map, List.length_take, Array.length_toList, Nat.min_comm]
  rfl

theorem getElem?_entries {index : Nat} (named : index < raster.entryCount) :
    raster.entries[index]? = some (Colour.ofRgb (raster.palette.getD index 0)) := by
  obtain ⟨inside, below⟩ := Nat.lt_min.mp named
  rw [entries, List.getElem?_map, List.getElem?_take_of_lt below, Array.getElem?_toList,
    Array.getD_eq_getD_getElem?, Array.getElem?_eq_getElem inside]
  rfl

/-- The first of the nearest colours is the entry that stands for a colour. -/
theorem nearestEntry_of_firstNearest {index distance : Nat}
    (nearest : Matching.FirstNearest colour raster.entries index distance) :
    raster.NearestEntry colour index := by
  have named : index < raster.entryCount := raster.length_entries ▸ nearest.index_lt
  obtain ⟨entry, found, rfl⟩ := nearest.there
  obtain rfl := Option.some.inj ((getElem?_entries named).symm.trans found)
  refine ⟨named, fun other below => ?_, fun earlier before => ?_⟩
  · rw [entryDistance_eq, entryDistance_eq, Int.ofNat_le]
    exact nearest.least _ (List.mem_of_getElem? (getElem?_entries below))
  · rw [entryDistance_eq, entryDistance_eq, Int.ofNat_lt]
    exact nearest.first earlier before _ (getElem?_entries (Nat.lt_trans before named))

/-- What stands for a colour in an indexed raster is the place of an entry. -/
theorem toNat_cellFor (indexed : raster.format.isIndexed = true) (colour : Colour) :
    (raster.cellFor colour).toNat = Matching.place colour raster.entries := by
  have limit : raster.format.paletteLimit ≤ 256 := by cases raster.format <;> decide
  have below : Matching.place colour raster.entries < 256 :=
    Matching.place_lt (by decide) (by rw [length_entries, entryCount]; omega)
  rw [cellFor, if_pos indexed, UInt32.toNat_ofNat']
  omega

theorem cellAt_setColour (complete : raster.cells.size = raster.width * raster.height)
    (inside : column < raster.width ∧ row < raster.height) (colour : Colour) :
    (raster.setColour column row colour).cellAt column row = raster.cellFor colour := by
  rw [setColour, cellAt_setCell complete inside, if_pos ⟨rfl, rfl⟩, narrow_cellFor]

/-- The entry that stands for a colour is shown with its own colour. -/
theorem colour_cellFor (indexed : raster.format.isIndexed = true) (colour : Colour) :
    raster.format.colour raster.palette (raster.cellFor colour) =
      Colour.ofRgb (raster.palette.getD (Matching.place colour raster.entries) 0) := by
  have place := toNat_cellFor indexed colour
  have short : raster.entries.length ≤ raster.format.paletteLimit := by
    rw [length_entries]
    exact Nat.min_le_right _ _
  have below : Matching.place colour raster.entries < raster.format.paletteLimit :=
    Matching.place_lt (by cases raster.format <;> decide) short
  rw [← place] at below ⊢
  revert indexed below
  cases raster.format with
  | indexed4 =>
    intro _ below
    have below : (raster.cellFor colour).toNat < 16 := below
    show Format.entryColour _ ((raster.cellFor colour).toNat % 16) = _
    rw [Nat.mod_eq_of_lt below]
    rfl
  | indexed8 => exact fun _ _ => rfl
  | rgb555 | rgb565 | rgb888 | argb8888 => exact nofun

/-- What stands for a colour also stands for the colour that is shown in its place. -/
theorem cellFor_colour (indexed : raster.format.isIndexed = true) (colour : Colour) :
    raster.cellFor (raster.format.colour raster.palette (raster.cellFor colour)) =
      raster.cellFor colour := by
  apply UInt32.toNat_inj.mp
  rw [toNat_cellFor indexed, toNat_cellFor indexed, colour_cellFor indexed]
  cases named : raster.entries with
  | nil => rfl
  | cons entry rest =>
    have some : raster.entries ≠ [] := named ▸ List.cons_ne_nil entry rest
    obtain ⟨distance, nearest⟩ := Matching.place_firstNearest colour some
    have there := getElem?_entries (raster.length_entries ▸ nearest.index_lt)
    rw [← named]
    exact Matching.place_of_getElem? there (Colour.distance_eq_zero_iff.mpr ⟨rfl, rfl, rfl⟩)

theorem cellFor_setCell (raster : Raster) (column row : Nat) (value : UInt32) (colour : Colour) :
    (raster.setCell column row value).cellFor colour = raster.cellFor colour := by
  simp only [cellFor, entries, format_setCell, palette_setCell]

/-- `drawn` is an indexed raster in which a pixel was given a colour. -/
structure StoresNearest (raster : Raster) (column row : Nat) (colour : Colour) (drawn : Raster) :
    Prop where
  nearest : 0 < raster.palette.size → raster.NearestEntry colour (drawn.cellAt column row).toNat
  empty : raster.palette.size = 0 → drawn.cellAt column row = 0
  /-- An entry of just that colour is what the search would have found. -/
  searched : ∀ index, Matching.equal? colour raster.entries = some index →
    (Matching.closest? colour raster.entries).map Prod.fst = some index
  /-- The colour that the pixel shows now leads to the same entry. -/
  again : (drawn.setColour column row (drawn.colourAt column row)).cellAt column row =
    drawn.cellAt column row
  others : ∀ other line, ¬ (column = other ∧ row = line) →
    drawn.cellAt other line = raster.cellAt other line

/-- **A colour is stored as the first of the nearest entries**, and is found again from there. -/
theorem nearest_stored {raster : Raster} (sound : raster.Sound)
    (indexed : raster.format.isIndexed = true) {column row : Nat}
    (inside : column < raster.width ∧ row < raster.height) (colour : Colour) :
    raster.StoresNearest column row colour (raster.setColour column row colour) := by
  have stored := cellAt_setColour sound.complete inside colour
  refine ⟨fun some => ?_, fun none => ?_, fun index found => Matching.closest?_of_equal? found, ?_,
    fun other line elsewhere => ?_⟩
  · have limit : 0 < raster.format.paletteLimit := by cases raster.format <;> decide
    have entries : raster.entries ≠ [] := by
      apply List.ne_nil_of_length_pos
      rw [length_entries]
      exact Nat.lt_min.mpr ⟨some, limit⟩
    obtain ⟨distance, nearest⟩ := Matching.place_firstNearest colour entries
    rw [stored, toNat_cellFor indexed]
    exact nearestEntry_of_firstNearest nearest
  · have entries : raster.entries = [] := by
      apply List.eq_nil_of_length_eq_zero
      rw [length_entries, entryCount, none, Nat.zero_min]
    apply UInt32.toNat_inj.mp
    rw [stored, toNat_cellFor indexed, entries]
    rfl
  · have shown : (raster.setColour column row colour).colourAt column row =
        raster.format.colour raster.palette (raster.cellFor colour) := by
      rw [colourAt, stored, setColour, format_setCell, palette_setCell]
    have sound := sound.setColour column row colour
    rw [cellAt_setColour sound.complete (by rwa [setColour, width_setCell, height_setCell]), shown,
      stored, setColour, cellFor_setCell, cellFor_colour indexed]
  · rw [setColour, cellAt_setCell sound.complete inside, if_neg elsewhere]

/-- Of two equally near entries the first one is taken, whatever stands in their top bytes. Two
entries of the wanted colour itself are not looked at, since no cell can name them. -/
theorem nearest_stored_tied :
    let palette : Array UInt32 :=
      (Array.replicate 14 0x000000) ++ #[0xAB000008, 0xCD000008, 0x00000009, 0x00000009]
    let raster : Raster := ⟨2, 1, .indexed4, palette, #[0, 3]⟩
    raster.Sound ∧ raster.format.isIndexed = true ∧ (0 < raster.width ∧ 0 < raster.height) ∧
      raster.StoresNearest 0 0 (.ofArgb 0x80000009) (raster.setColour 0 0 (.ofArgb 0x80000009)) ∧
      (raster.setColour 0 0 (.ofArgb 0x80000009)).cells = #[14, 3] := by
  intro palette raster
  have narrow : ∀ cell ∈ raster.cells, raster.format.cellKind.narrow cell = cell := by
    intro cell inside
    obtain rfl | rfl : cell = 0 ∨ cell = 3 := by simpa [raster] using inside
    · rfl
    · rfl
  have sound : raster.Sound := ⟨by decide, narrow, by decide, by decide⟩
  exact ⟨sound, by decide, by decide, nearest_stored sound (by decide) (by decide) _,
    by decide +kernel⟩

end Raster

end GuestDraw
