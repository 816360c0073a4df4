/-
**What the engine stores.**

Blocks and vtables are stored by the engine, and nothing else that it does touches them: pixels, new
blocks and the frame buffer lie elsewhere, and the colours of a palette go to its own block.

* `Use.Reserved`, `Untouched`: memory for the engine alone, and that it has the bytes that it had;
* `Still`: no block comes and none gets other bytes;
* `Discreet.still`: the few steps with which there is more than that;
* `Grazed`: what stores on account of the guest do to blocks and vtables.
-/

import GuestDraw.Proofs.Session.Colours
import GuestDraw.Proofs.Session.Primaries

namespace GuestDraw

/-- The memory of a vtable. -/
def Interface.extent (interface : Interface) (vtable : Nat) : Extent :=
  ⟨vtable, interface.tableSize⟩

variable {start final session : Session} {use other : Use} {extent more : Extent}

/-! ### Memory for the engine alone -/

/-- Blocks and vtables, which nobody but the engine has to store to. -/
def Use.Reserved (use : Use) : Prop := ∀ handle, use ≠ .pixels handle

theorem Use.reserved_vtable (interface : Interface) : (Use.vtable interface).Reserved := nofun

theorem Use.reserved_surfaceBlock (handle : Handle) : (Use.surfaceBlock handle).Reserved := nofun

theorem Use.reserved_paletteBlock (handle : Handle) : (Use.paletteBlock handle).Reserved := nofun

theorem Session.extent?_vtable {interface : Interface} {vtable : Nat}
    (has : session.vtables.table? interface = some vtable) :
    session.extent? (.vtable interface) = some (interface.extent vtable) := by
  rw [Session.extent?, has]
  rfl

theorem Session.extent?_surfaceBlock {handle : Handle} {surface : Surface}
    (live : session.objects.surface? handle = some surface) :
    session.extent? (.surfaceBlock handle) = some surface.block :=
  Option.map_eq_some_iff.mpr ⟨surface, live, rfl⟩

theorem Session.extent?_paletteBlock {handle : Handle} {palette : Palette}
    (there : session.objects.palette? handle = some palette) :
    session.extent? (.paletteBlock handle) = some palette.block :=
  Option.map_eq_some_iff.mpr ⟨palette, there, rfl⟩

/-- The colours of palettes fit in their blocks. -/
def Roomy (objects : ObjectTable) : Prop :=
  ∀ handle palette, objects.palette? handle = some palette → palette.entries.size ≤ Palette.slots

namespace Roomy

theorem inherit {table after : ObjectTable} (roomy : Roomy table)
    (inherits : table.Inherits after) :
    Roomy after := by
  intro handle palette there
  obtain ⟨old, was, fixed⟩ := inherits.palette handle palette there
  have sizes : palette.fixed.entries.size = old.fixed.entries.size :=
    congrArg (·.entries.size) fixed
  rw [Palette.fixed, Palette.fixed, Array.size_replicate, Array.size_replicate] at sizes
  rw [sizes]
  exact roomy handle old was

theorem create {table after : ObjectTable} (roomy : Roomy table) (numbered : table.Numbered 0)
    {payload : Payload} {handle : Handle} (made : table.create payload = .ok (handle, after))
    (new : ∀ palette, payload = .palette palette → palette.entries.size ≤ Palette.slots) :
    Roomy after := by
  intro other palette there
  rcases ObjectTable.palette?_of_create numbered made there with was | ⟨-, is⟩
  · exact roomy other palette was
  · exact new palette is

theorem step (roomy : Roomy start.objects) (linked : Linked start.objects)
    (step : Step start final) :
    Roomy final.objects := by
  cases step with
  | onward step => exact roomy.inherit (step.inherits linked)
  | unmapped step =>
    obtain ⟨-⟩ := step
    exact roomy
  | prepared ground => exact ground.2.symm ▸ roomy
  | created created =>
    obtain ⟨plan, -, built | ⟨first, second⟩⟩ := created
    · exact roomy.create linked.numbered built.made nofun
    · exact (roomy.create linked.numbered first.made nofun).create
        (linked.numbered.insert first.made) second.made nofun
  | abandoned abandoned =>
    cases abandoned with
    | early ground => exact ground.2.symm ▸ roomy
    | late first ground =>
      exact (roomy.create linked.numbered first.made nofun).inherit
        (.drain (linked.raised (.single first)).wf _)
  | mixed mixed =>
    refine roomy.create linked.numbered mixed.made fun palette is => ?_
    cases is
    exact mixed.sized

end Roomy

/-- Memory is laid out, surfaces have scanlines of the length that they need, and palettes no more
colours than there is room for. -/
structure Arranged (session : Session) : Prop where
  sited : Sited session
  pitched : Pitched session.objects
  roomy : Roomy session.objects

namespace Arranged

theorem step (arranged : Arranged start) (step : Step start final) : Arranged final := by
  have linked := arranged.sited.linked
  exact ⟨arranged.sited.step step, arranged.pitched.step linked step,
    arranged.roomy.step linked step⟩

theorem kept : Kept Step Arranged := ⟨fun arranged => arranged.sited.linked, Arranged.step⟩

end Arranged

theorem arranged_start (memory : Memory) {heapBase heapSize videoBase videoSize : Nat}
    (inSpace : heapBase < addressSpace)
    (disjoint : ∀ point, heapBase ≤ point → point < rangeLimit heapBase heapSize →
      videoBase ≤ point → rangeLimit videoBase videoSize ≤ point)
    (stubs : StubTable) (firstHandle : Nat) (mode : DisplayMode) (chain : FlipChain) :
    Arranged (.start memory (.ofRange heapBase heapSize) (.ofRange videoBase videoSize) stubs
      firstHandle mode chain) :=
  ⟨sited_start memory inSpace disjoint stubs firstHandle mode chain, (fun _ _ live => nomatch live),
    fun _ _ there => nomatch there⟩

/-- Blocks and vtables lie on the heap. -/
theorem Sited.onHeap_reserved (sited : Sited session) (reserved : use.Reserved)
    (has : session.extent? use = some extent) : OnHeap session extent := by
  refine (sited.sites use extent has).resolve_right fun screen => ?_
  obtain ⟨handle, pixels⟩ := screen.pixels
  exact reserved handle pixels

/-- Where something could be mapped there is no block and no vtable. -/
theorem Sited.not_mappable (sited : Sited final) (reserved : use.Reserved)
    (has : final.extent? use = some extent) (ground : Groundwork start final)
    (above : start.video.base ≤ start.video.next) {point : Nat} (inside : extent.Covers point) :
    ¬ start.Mappable point := by
  rintro ⟨low, high⟩
  obtain ⟨starts, -, ends⟩ := sited.onHeap_reserved reserved has
  obtain ⟨after, before⟩ := inside
  have limit := sited.ranges.heapBelow
  have base := ground.videoBase
  have stop := ground.videoLimit
  have common := sited.ranges.apart point (by omega) (by omega) (by omega)
  omega

/-- Blocks and vtables do not overlap anything else that is in use. -/
theorem Sited.apart_reserved (sited : Sited session) (reserved : use.Reserved)
    (has : session.extent? use = some extent) (different : other ≠ use)
    (hasOther : session.extent? other = some more) : more.Apart extent := by
  refine (sited.apart other use more extent different hasOther has).resolve_right ?_
  rintro ⟨-, screen⟩
  obtain ⟨handle, pixels⟩ := screen.pixels
  exact reserved handle pixels

/-- Pixels are not stored in blocks and vtables. -/
theorem Arranged.not_covers (arranged : Arranged session) (reserved : use.Reserved)
    (has : session.extent? use = some extent) {handle : Handle} {surface : Surface}
    (live : session.objects.surface? handle = some surface) {point : Nat}
    (inside : extent.Covers point) : ¬ surface.buffer.Covers point := by
  rintro ⟨low, high⟩
  obtain ⟨above, below⟩ := inside
  have pitch := arranged.pitched handle surface live
  have stop : surface.pixels.stop = surface.buffer.address +
      surface.buffer.stride * surface.buffer.height := by
    show surface.memory + surface.pitch * surface.height = _
    rw [pitch]
    rfl
  rcases arranged.sited.apart_reserved reserved has (reserved handle).symm
      (Session.extent?_pixels live) with before | behind
  · omega
  · exact absurd (Nat.lt_of_lt_of_le below behind) (Nat.not_lt.mpr low)

/-- Blocks and vtables have the bytes that they had. -/
structure Untouched (start final : Session) : Prop where
  holds : ∀ address length, final.memory.holds address length = start.memory.holds address length
  tables : ∀ interface vtable, start.vtables.table? interface = some vtable →
    final.vtables.table? interface = some vtable
  bytes : ∀ use extent, use.Reserved → start.extent? use = some extent →
    ∀ point, extent.Covers point → final.memory.byte? point = start.memory.byte? point

namespace Untouched

/-- Guest memory and vtables stay as they are. -/
theorem of_memory (memory : final.memory = start.memory) (vtables : final.vtables = start.vtables) :
    Untouched start final where
  holds address length := by rw [memory]
  tables interface vtable has := by rw [vtables, has]
  bytes _ _ _ _ point _ := by rw [memory]

theorem of_groundwork (sited : Sited start) (ground : Groundwork start final) :
    Untouched start final where
  holds := ground.holds
  tables := ground.tablesKept
  bytes _ _ _ has _ inside := sited.byte?_eq ground has inside

/-- Pixels are stored. -/
theorem of_pixels (arranged : Arranged start) {handle : Handle}
    {surface : Surface} {raster : Raster}
    {data : List UInt8} (live : start.objects.surface? handle = some surface)
    (encoded : Conversion.encoded start.memory raster surface.buffer = .ok data)
    (backed : start.memory.holds surface.memory data.length = true)
    (memory : final.memory = start.memory.put surface.memory data)
    (vtables : final.vtables = start.vtables) : Untouched start final where
  holds address length := by rw [memory, Memory.holds_put]
  tables interface vtable has := by rw [vtables, has]
  bytes use extent reserved has point inside := by
    rw [memory]
    exact Conversion.byte?_of_encoded encoded backed (arranged.not_covers reserved has live inside)

end Untouched

/-! ### Steps -/

/-- No block comes, palettes have the colours that they had, and blocks and vtables the bytes. -/
structure Still (start final : Session) : Prop extends Untouched start final where
  surfaces : NoneNew start final
  palettes : ∀ handle palette, final.objects.palette? handle = some palette →
    start.objects.palette? handle = some palette

namespace Still

theorem settling (arranged : Arranged start) (step : Settling start final) : Still start final := by
  have linked := arranged.sited.linked
  refine ⟨?_, ((Onward.tidying (.settling step)).inherits linked).surface,
    (step.pales linked).palette⟩
  cases step with
  | written live has content dirty encoded backed =>
    exact .of_pixels arranged live encoded backed rfl rfl
  | dropped => exact .of_memory rfl rfl

theorem tidying (arranged : Arranged start) (step : Tidying start final) : Still start final := by
  have linked := arranged.sited.linked
  have surfaces := ((Onward.tidying step).inherits linked).surface
  have palettes : ∀ handle palette, final.objects.palette? handle = some palette →
      start.objects.palette? handle = some palette := by
    rcases step.pales linked with pales | caching
    · exact pales.palette
    · obtain ⟨live, -, -, -, made⟩ := caching
      intro handle palette there
      rw [(linked.views_createFor made live _ rfl rfl).2.1] at there
      exact there
  cases step with
  | settling step => exact .settling arranged step
  | caching step =>
    obtain ⟨-⟩ := step
    exact ⟨.of_memory rfl rfl, surfaces, palettes⟩
  | _ => exact ⟨.of_memory rfl rfl, surfaces, palettes⟩

theorem drawing (arranged : Arranged start) {handle : Handle} {image : Raster} {rect : Rect}
    {x y : Int32} (step : Drawing handle (fun raster => raster.blit image rect x y) start final) :
    Still start final := by
  refine ⟨?_, step.inherits.surface, step.pales.palette⟩
  cases step with
  | onCache => exact .of_memory rfl rfl
  | onMemory live bare decoded encoded backed =>
    exact .of_pixels arranged live encoded backed rfl rfl

/-- Objects stay as they are, or some of them go. -/
theorem drained (linked : Linked start.objects) (memory : final.memory = start.memory)
    (vtables : final.vtables = start.vtables) {steps : List Teardown}
    (objects : final.objects = .drain steps start.objects) : Still start final := by
  have inherits : start.objects.Inherits final.objects := objects ▸ .drain linked.wf steps
  have pales : start.objects.Pales final.objects := objects ▸ .drain linked.wf steps
  exact ⟨.of_memory memory vtables, inherits.surface, pales.palette⟩

theorem prepared (arranged : Arranged start) (ground : Prepared start start.objects final) :
    Still start final where
  toUntouched := .of_groundwork arranged.sited ground.1
  surfaces := .same ground.2
  palettes _ _ there := ground.2 ▸ there

/-- A surface that could not be created leaves nothing behind that is in use. -/
theorem abandoned (arranged : Arranged start) (step : Abandoned start final) :
    Still start final := by
  have linked := arranged.sited.linked
  have surfaces := NoneNew.abandoned linked step
  cases step with
  | early ground => exact .prepared arranged ground
  | @late plan middle left child back first ground =>
    have ground : Groundwork start { left with objects := .drain [.close child] middle.objects } :=
      { first.groundwork.trans ground.1 with }
    refine ⟨.of_groundwork arranged.sited ground, surfaces, fun handle palette there => ?_⟩
    have middle := linked.raised (.single first)
    have before := (ObjectTable.Pales.drain middle.wf _).palette handle palette there
    refine (ObjectTable.palette?_of_create linked.numbered first.made before).resolve_right ?_
    rintro ⟨-, is⟩
    cases is

end Still

/-- A discreet step leaves blocks alone, gives colours to a palette or makes one. -/
theorem Discreet.still (arranged : Arranged start) (step : Discreet start final) :
    Still start final ∨
      (∃ handle palette entries, Repaints start handle palette entries ∧
        (start.memory.holds (palette.object + Block.dataOffset) (4 * palette.entries.size) = true ∧
            final = start.repainted handle palette entries ∨
          start.memory.holds (palette.object + Block.dataOffset)
            (4 * palette.entries.size) = false ∧
            final = start.recoloured handle palette entries)) ∨
      ∃ handle palette, Mixed start handle palette final := by
  have linked := arranged.sited.linked
  cases step with
  | tidying step => exact .inl (.tidying arranged step)
  | forgotten live has =>
    exact .inl ⟨.of_memory rfl rfl, (ObjectTable.Inherits.dropCache linked live has).surface,
      (ObjectTable.Pales.dropCache linked live has).palette⟩
  | drawing step => exact .inl (.drawing arranged step)
  | attaching step =>
    have surfaces := ((Onward.attaching step).inherits linked).surface
    have palettes := (step.pales linked).palette
    obtain ⟨-⟩ := step
    exact .inl ⟨.of_memory rfl rfl, surfaces, palettes⟩
  | repainted repaints backed =>
    exact .inr (.inl ⟨_, _, _, repaints, .inl ⟨backed, rfl⟩⟩)
  | faded repaints unbacked =>
    exact .inr (.inl ⟨_, _, _, repaints, .inr ⟨unbacked, rfl⟩⟩)
  | taking step =>
    obtain ⟨-, counted⟩ := step
    have same := ObjectTable.payload?_addReference counted
    exact .inl ⟨.of_memory rfl rfl, (ObjectTable.Inherits.of_payload? same).surface,
      (ObjectTable.Pales.of_payload? same).palette⟩
  | returned => exact .inl (.drained linked rfl rfl rfl)
  | unmapped step =>
    obtain ⟨-⟩ := step
    exact .inl ⟨.of_memory rfl rfl, .same rfl, fun _ _ there => there⟩
  | prepared ground => exact .inl (.prepared arranged ground)
  | mixed mixed => exact .inr (.inr ⟨_, _, mixed⟩)

/-- New colours are stored in the block of their palette, and in no other memory for the engine. -/
theorem Repaints.byte?_repainted {handle : Handle} {palette : Palette} {entries : Array UInt32}
    (repaints : Repaints start handle palette entries) (arranged : Arranged start)
    (backed : start.memory.holds (palette.object + Block.dataOffset)
      (4 * palette.entries.size) = true) (reserved : use.Reserved)
    (has : start.extent? use = some extent) (different : use ≠ .paletteBlock handle) {point : Nat}
    (inside : extent.Covers point) :
    (start.repainted handle palette entries).memory.byte? point = start.memory.byte? point := by
  have length : (Palette.blockBytes { palette with entries := entries }).length =
      4 * palette.entries.size := by
    rw [Palette.length_blockBytes, repaints.sized]
  have block := Session.extent?_paletteBlock repaints.there
  have apart := arranged.sited.apart_reserved reserved has different.symm block
  have roomy := arranged.roomy handle palette repaints.there
  have stop : palette.block.stop = palette.object + (Block.dataOffset + Palette.slots * 4) := rfl
  have address : palette.block.address = palette.object := rfl
  obtain ⟨above, below⟩ := inside
  show (start.memory.put _ _).byte? point = _
  rw [Memory.byte?_put (length.symm ▸ backed), length, if_neg]
  unfold Extent.Apart at apart
  omega

/-! ### Stores on account of the guest -/

/-- Nothing comes that has a block or is a vtable, and blocks and vtables have the bytes that they
had, save for those in `spoilt`. -/
structure Grazed (spoilt : Nat → Prop) (start final : Session) : Prop where
  holds : ∀ address length, final.memory.holds address length = start.memory.holds address length
  stubs : final.stubs = start.stubs
  vtables : final.vtables = start.vtables
  inherits : start.objects.Inherits final.objects
  palettes : ∀ handle palette, final.objects.palette? handle = some palette →
    start.objects.palette? handle = some palette
  bytes : ∀ use extent, use.Reserved → final.extent? use = some extent →
    ∀ point, extent.Covers point →
    final.memory.byte? point = start.memory.byte? point ∨ spoilt point

namespace Grazed

variable {spoilt : Nat → Prop} {middle : Session}

theorem refl (session : Session) : Grazed spoilt session session :=
  ⟨fun _ _ => rfl, rfl, rfl, .refl _, fun _ _ there => there, fun _ _ _ _ _ _ => .inl rfl⟩

theorem mono {more : Nat → Prop} (grazed : Grazed spoilt start final)
    (fewer : ∀ point, spoilt point → more point) : Grazed more start final where
  __ := grazed
  bytes use extent reserved has point inside :=
    (grazed.bytes use extent reserved has point inside).imp_right (fewer point)

theorem trans (first : Grazed spoilt start middle) (second : Grazed spoilt middle final) :
    Grazed spoilt start final where
  holds address length := (second.holds address length).trans (first.holds address length)
  stubs := second.stubs.trans first.stubs
  vtables := second.vtables.trans first.vtables
  inherits := first.inherits.trans second.inherits
  palettes handle palette there :=
    first.palettes handle palette (second.palettes handle palette there)
  bytes use extent reserved has point inside := by
    rcases second.bytes use extent reserved has point inside with same | lost
    · have before := Sited.extent?_of_inherits second.inherits second.vtables has
      exact (first.bytes use extent reserved before point inside).imp_left same.trans
    · exact .inr lost

theorem stored {place : Nat} {data : List UInt8}
    (backed : start.memory.holds place data.length = true)
    (inside : ∀ point, place ≤ point → point < place + data.length → spoilt point) :
    Grazed spoilt start { start with memory := start.memory.put place data } := by
  refine ⟨fun _ _ => Memory.holds_put _ _ _ _ _, rfl, rfl, .refl _, fun _ _ there => there, ?_⟩
  intro use extent _ _ point _
  rw [Memory.byte?_put backed]
  split
  · next stored => exact .inr (inside point stored.1 stored.2)
  · exact .inl rfl

theorem tidying (arranged : Arranged start) (step : Tidying start final) :
    Grazed spoilt start final := by
  have still := Still.tidying arranged step
  have places := (Onward.tidying step).places
  have inherits := (Onward.tidying step).inherits arranged.sited.linked
  refine ⟨still.holds, places.stubs, places.vtables, inherits, still.palettes, ?_⟩
  intro use extent reserved has point inside
  have before := Sited.extent?_of_inherits inherits places.vtables has
  exact .inl (still.bytes use extent reserved before point inside)

/-- A byte that is what it was is not spoilt. -/
theorem changed (grazed : Grazed spoilt start final) :
    Grazed (fun point => spoilt point ∧ final.memory.byte? point ≠ start.memory.byte? point)
      start final where
  __ := grazed
  bytes use extent reserved has point inside := by
    by_cases same : final.memory.byte? point = start.memory.byte? point
    · exact .inl same
    · exact (grazed.bytes use extent reserved has point inside).imp_right fun lost => ⟨lost, same⟩

end Grazed

end GuestDraw
