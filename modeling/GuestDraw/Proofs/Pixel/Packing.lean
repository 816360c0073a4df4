/-
**Colours in the bits of a cell.**

A format with direct colours has a field in its cells for each channel that it holds, and the field
holds as many of the upper bits of the channel as fit. Bits outside the fields do not count. A
format with greater depth has a field for each channel of one with smaller depth, and one that is at
least as wide.

* `Format.fields`, `Format.Encodes`: the fields of a format, and that those of a cell hold a colour;
* `encodes_pack`, `encodes_colour`, `colour_eq_of_encodes`: what is stored for a colour holds it, a
  cell holds the colour that it shows, and cells that hold the same colour show the same one;
* `pack_colour`: a colour that was read from a cell is stored as the bits of the cell that count;
* `kept_widened`, `pack_widened`: a format with greater depth keeps what one with smaller depth can
  hold.
-/

import GuestDraw.Proofs.Pixel.Codec

namespace GuestDraw

/-- What a colour is made of. -/
inductive Channel where
  | alpha
  | red
  | green
  | blue
  deriving DecidableEq

/-- The value of a channel. -/
def Colour.value (colour : Colour) : Channel → UInt8
  | .alpha => colour.alpha
  | .red => colour.red
  | .green => colour.green
  | .blue => colour.blue

/-- The place of a channel in the cells of a format. -/
structure Field where
  /-- The value of the lowest bit. -/
  unit : Nat
  /-- How many values there is room for. -/
  levels : Nat
  channel : Channel

namespace Field

/-- What the field of a cell holds. -/
def read (field : Field) (cell : UInt32) : Nat := cell.toNat / field.unit % field.levels

/-- The upper bits of the channel of a colour, as many as fit the field. -/
def kept (field : Field) (colour : Colour) : Nat :=
  (colour.value field.channel).toNat * field.levels / 256

/-- The number that holds a value in each of several fields. -/
def assembled (value : Field → Nat) : List Field → Nat
  | [] => 0
  | field :: rest => field.unit * value field + assembled value rest

theorem assembled_congr {first second : Field → Nat} {fields : List Field}
    (same : ∀ field ∈ fields, first field = second field) :
    assembled first fields = assembled second fields := by
  induction fields with
  | nil => rfl
  | cons field rest ih =>
    rw [assembled, assembled, same field (.head _),
      ih fun other listed => same other (.tail _ listed)]

/-- A field with room for more values of the same channel. -/
structure Finer (finer field : Field) : Prop where
  channel : finer.channel = field.channel
  room : 0 < finer.levels
  levels : field.levels ∣ finer.levels

instance (finer field : Field) : Decidable (finer.Finer field) :=
  decidable_of_iff (finer.channel = field.channel ∧ 0 < finer.levels ∧ field.levels ∣ finer.levels)
    ⟨fun ⟨channel, room, levels⟩ => ⟨channel, room, levels⟩,
      fun ⟨channel, room, levels⟩ => ⟨channel, room, levels⟩⟩

/-- A field holds the upper part of what a finer one holds. -/
theorem Finer.kept_eq_div {finer field : Field} (refined : finer.Finer field) (colour : Colour) :
    field.kept colour = finer.kept colour / (finer.levels / field.levels) := by
  obtain ⟨channel, room, factor, levels⟩ := refined
  rw [levels] at room
  rw [kept, kept, channel, levels, Nat.mul_div_cancel_left _ (Nat.pos_of_mul_pos_right room),
    Nat.div_div_eq_div_mul, ← Nat.mul_assoc,
      Nat.mul_div_mul_right _ _ (Nat.pos_of_mul_pos_left room)]

end Field

namespace Format

/-- The fields in the cells of a format. -/
def fields : Format → List Field
  | indexed4 | indexed8 => []
  | rgb555 => [⟨1024, 32, .red⟩, ⟨32, 32, .green⟩, ⟨1, 32, .blue⟩]
  | rgb565 => [⟨2048, 32, .red⟩, ⟨32, 64, .green⟩, ⟨1, 32, .blue⟩]
  | rgb888 => [⟨65536, 256, .red⟩, ⟨256, 256, .green⟩, ⟨1, 256, .blue⟩]
  | argb8888 => [⟨16777216, 256, .alpha⟩, ⟨65536, 256, .red⟩, ⟨256, 256, .green⟩,
      ⟨1, 256, .blue⟩]

/-- The fields of a cell hold a colour, as far as it fits them. -/
def Encodes (format : Format) (colour : Colour) (cell : UInt32) : Prop :=
  ∀ field ∈ format.fields, field.read cell = field.kept colour

/-- The bits of a stored cell that a direct format reads. -/
def used (format : Format) (cell : UInt32) : UInt32 :=
  match format with
  | rgb555 => cell % 0x8000
  | rgb565 => cell % 0x10000
  | rgb888 => cell % 0x1000000
  | indexed4 | indexed8 | argb8888 => cell

variable {format : Format}

theorem toNat_widenFive {channel : Nat} (fits : channel < 32) :
    (widenFive channel).toNat = channel * 8 + channel / 4 := by
  rw [widenFive, UInt8.toNat_ofNat']
  omega

theorem toNat_widenSix {channel : Nat} (fits : channel < 64) :
    (widenSix channel).toNat = channel * 4 + channel / 16 := by
  rw [widenSix, UInt8.toNat_ofNat']
  omega

/-- What is stored for a colour holds it. -/
theorem encodes_pack (format : Format) (colour : Colour) :
    format.Encodes colour (format.pack colour) := by
  have alpha := colour.alpha.toNat_lt
  have red := colour.red.toNat_lt
  have green := colour.green.toNat_lt
  have blue := colour.blue.toNat_lt
  have none : (0 : UInt8).toNat = 0 := rfl
  unfold Encodes
  cases format <;>
    simp only [fields, List.forall_mem_cons, List.not_mem_nil, false_implies, implies_true,
      and_true, Field.read, Field.kept, Colour.value, pack, Colour.rgb, Colour.argb,
      UInt32.toNat_ofNat', none] <;>
    omega

/-- A cell holds the colour that it shows. -/
theorem encodes_colour (format : Format) (palette : Array UInt32) (cell : UInt32) :
    format.Encodes (format.colour palette cell) cell := by
  have small := cell.toNat_lt
  have five : ∀ number, number % 32 < 32 := fun number => Nat.mod_lt number (by decide)
  have six : ∀ number, number % 64 < 64 := fun number => Nat.mod_lt number (by decide)
  unfold Encodes
  cases format <;>
    simp only [fields, List.forall_mem_cons, List.not_mem_nil, false_implies, implies_true,
      and_true, Field.read, Field.kept, Colour.value, colour, toNat_widenFive (five _),
      toNat_widenSix (six _), Colour.ofRgb, Colour.solid, Colour.ofArgb, UInt8.toNat_ofNat',
      Nat.div_one] <;>
    omega

/-- What a format with direct colours shows is read off the fields. -/
theorem colour_congr (direct : format.isIndexed = false) {first second : UInt32}
    (same : ∀ field ∈ format.fields, field.read first = field.read second)
    (palette other : Array UInt32) : format.colour palette first = format.colour other second := by
  have byte : ∀ one two : Nat, one % 256 = two % 256 → UInt8.ofNat one = UInt8.ofNat two := by
    intro one two same
    apply UInt8.toNat_inj.mp
    rw [UInt8.toNat_ofNat', UInt8.toNat_ofNat']
    exact same
  revert direct same
  cases format with
  | indexed4 | indexed8 => exact nofun
  | rgb555 | rgb565 =>
    intro _ same
    simp only [fields, List.forall_mem_cons, Field.read, Nat.div_one] at same
    obtain ⟨red, green, blue, -⟩ := same
    simp only [colour, red, green, blue]
  | rgb888 =>
    intro _ same
    simp only [fields, List.forall_mem_cons, Field.read, Nat.div_one] at same
    obtain ⟨red, green, blue, -⟩ := same
    simp only [colour, Colour.ofRgb, Colour.ofArgb, Colour.solid, byte _ _ red, byte _ _ green,
      byte _ _ blue]
  | argb8888 =>
    intro _ same
    simp only [fields, List.forall_mem_cons, Field.read, Nat.div_one] at same
    obtain ⟨alpha, red, green, blue, -⟩ := same
    simp only [colour, Colour.ofArgb, byte _ _ alpha, byte _ _ red, byte _ _ green, byte _ _ blue]

/-- Cells that hold the same colour show the same one. -/
theorem colour_eq_of_encodes (direct : format.isIndexed = false) {wanted : Colour}
    {first second : UInt32}
    (one : format.Encodes wanted first) (two : format.Encodes wanted second)
    (palette other : Array UInt32) : format.colour palette first = format.colour other second :=
  colour_congr direct (fun field listed => (one field listed).trans (two field listed).symm)
    palette other

/-- What is stored for a colour is made of the fields. -/
theorem toNat_pack (direct : format.isIndexed = false) (colour : Colour) :
    (format.pack colour).toNat = Field.assembled (·.kept colour) format.fields := by
  have alpha := colour.alpha.toNat_lt
  have red := colour.red.toNat_lt
  have green := colour.green.toNat_lt
  have blue := colour.blue.toNat_lt
  have none : (0 : UInt8).toNat = 0 := rfl
  revert direct
  cases format with
  | indexed4 | indexed8 => exact nofun
  | rgb555 | rgb565 | rgb888 | argb8888 =>
    intro _
    simp only [fields, Field.assembled, Field.kept, pack, Colour.value, Colour.rgb, Colour.argb,
      UInt32.toNat_ofNat', none]
    omega

/-- The bits of a cell that count are those of the fields. -/
theorem toNat_used (direct : format.isIndexed = false) (cell : UInt32) :
    (format.used cell).toNat = Field.assembled (·.read cell) format.fields := by
  have small := cell.toNat_lt
  revert direct
  cases format with
  | indexed4 | indexed8 => exact nofun
  | rgb555 | rgb565 | rgb888 | argb8888 =>
    intro _
    simp only [fields, Field.assembled, Field.read, used, UInt32.toNat_mod, UInt32.reduceToNat]
    omega

/-- What is stored for a colour hangs on what the fields keep of it. -/
theorem pack_congr (direct : format.isIndexed = false) {first second : Colour}
    (same : ∀ field ∈ format.fields, field.kept first = field.kept second) :
    format.pack first = format.pack second := by
  apply UInt32.toNat_inj.mp
  rw [toNat_pack direct, toNat_pack direct]
  exact Field.assembled_congr same

/-- A colour that was read from a cell is stored as the bits of the cell that count. -/
theorem pack_colour (direct : format.isIndexed = false) (palette : Array UInt32) (cell : UInt32) :
    format.pack (format.colour palette cell) = format.used cell := by
  apply UInt32.toNat_inj.mp
  rw [toNat_pack direct, toNat_used direct]
  exact Field.assembled_congr fun field listed =>
    (encodes_colour format palette cell field listed).symm

/-! ### Greater depth -/

/-- A format with greater depth has a finer field for each field of one with smaller depth. -/
theorem exists_finer {narrow wide : Format} (direct : narrow.isIndexed = false)
    (deeper : narrow.depth ≤ wide.depth) :
    ∀ field ∈ narrow.fields, ∃ finer ∈ wide.fields, finer.Finer field := by
  revert direct deeper
  cases narrow <;> cases wide <;> decide

/-- A format with greater depth keeps what one with smaller depth can hold. -/
theorem kept_widened {narrow wide : Format} (direct : narrow.isIndexed = false)
    (deeper : narrow.depth ≤ wide.depth) (palette : Array UInt32) (colour : Colour) :
    ∀ field ∈ narrow.fields,
      field.kept (wide.colour palette (wide.pack colour)) = field.kept colour := by
  intro field listed
  obtain ⟨finer, listedToo, refined⟩ := exists_finer direct deeper field listed
  have same : finer.kept (wide.colour palette (wide.pack colour)) = finer.kept colour :=
    (encodes_colour wide palette _ finer listedToo).symm.trans
      (encodes_pack wide colour finer listedToo)
  rw [refined.kept_eq_div, refined.kept_eq_div, same]

/-- What was stored with greater depth is stored with smaller depth as if it came from the colour
itself. -/
theorem pack_widened {narrow wide : Format} (direct : narrow.isIndexed = false)
    (deeper : narrow.depth ≤ wide.depth) (palette : Array UInt32) (colour : Colour) :
    narrow.pack (wide.colour palette (wide.pack colour)) = narrow.pack colour :=
  pack_congr direct (kept_widened direct deeper palette colour)

end Format

end GuestDraw
