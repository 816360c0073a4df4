/-
**Blocks of surfaces and palettes.**

What the guest sees of an object stands in its block: the vtable, the handle, the descriptor of a
surface or the colours of a palette. The same is kept in the object, and the engine never looks at
the block to learn it. The two agree in every state, because each block is stored as a whole when
its object is made, the colours of a palette are stored again when they change, and nothing else is
stored in a block unless the guest has it stored there.

* `Surface.told`: the descriptor of a surface, from what is kept of it;
* `Mirrored`: a block has the bytes that it should have, save for those that were spoilt;
* `Reflected.carry`: blocks that are left alone stay right, and new ones are;
* `Reflected.tended`: so all blocks are, as long as they are heeded.
-/

import GuestDraw.Proofs.Interface.Records
import GuestDraw.Proofs.Session.Heeding
import GuestDraw.Proofs.Session.Stores

namespace GuestDraw

variable {start middle final session : Session} {spoilt : Nat → Prop}

/-! ### What blocks should have -/

/-- What the guest is told about a surface. -/
def Surface.told (surface : Surface) (format : FormatRecord) : Descriptor where
  extended := surface.flags.contains SurfaceFlags.wideDescriptor
  flags :=
    let always := DescFlags.caps ∪ DescFlags.height ∪ DescFlags.width ∪ DescFlags.pitch
      ∪ DescFlags.pixelFormat
    if surface.backBuffer.isSome then always ∪ DescFlags.backBufferCount else always
  width := UInt32.ofNat surface.width
  height := UInt32.ofNat surface.height
  pitch := UInt32.ofNat surface.pitch
  backBufferCount := if surface.backBuffer.isSome then 1 else 0
  format := format
  caps := surface.caps

theorem Surface.told_of_fixed {old new : Surface} (fixed : new.fixed = old.fixed)
    (format : FormatRecord) : new.told format = old.told format :=
  show new.fixed.told format = old.fixed.told format from congrArg (·.told format) fixed

theorem Surface.told_of_plan (plan : SurfacePlan) (backBuffer : Option Handle) (memory object : Nat)
    (format : FormatRecord) : (plan.surface backBuffer memory object).told format =
      plan.descriptor format backBuffer.isSome := rfl

theorem Surface.length_told (surface : Surface) (format : FormatRecord) :
    Block.dataOffset + (surface.told format).bytes.length ≤ Surface.blockSize :=
  Nat.add_le_add_left (Descriptor.length_bytes _) _

theorem Surface.roomy_told (surface : Surface) (format : FormatRecord) :
    Block.dataOffset + GuestDraw.descriptorSize (surface.told format).extended ≤
      Surface.blockSize := by
  have length := surface.length_told format
  rwa [Descriptor.bytes, length_recordBytes] at length

/-- The block of an object has vtable, handle and data, save for the bytes in `spoilt`. -/
structure Mirrored (spoilt : Nat → Prop) (session : Session) (interface : Interface) (handle : Handle)
    (data : List UInt8) (block : Extent) : Prop where
  backed : session.memory.holds block.address block.length = true
  narrow : block.stop < addressSpace
  number : handle.number < addressSpace
  linked : ∃ vtable, session.vtables.table? interface = some vtable ∧ vtable < block.address ∧
    ∀ offset, offset < block.length →
      session.memory.byte? (block.address + offset) =
        (Block.bytes vtable handle data block.length)[offset]? ∨ spoilt (block.address + offset)

namespace Mirrored

variable {interface : Interface} {handle : Handle} {data : List UInt8} {block : Extent}

/-- A block that is left alone stays right. -/
theorem keep (mirrored : Mirrored spoilt start interface handle data block)
    (holds : ∀ address length, final.memory.holds address length = start.memory.holds address length)
    (tables : ∀ interface vtable, start.vtables.table? interface = some vtable →
      final.vtables.table? interface = some vtable)
    (bytes : ∀ point, block.Covers point →
      final.memory.byte? point = start.memory.byte? point ∨ spoilt point) :
    Mirrored spoilt final interface handle data block := by
  obtain ⟨backed, narrow, number, vtable, has, before, right⟩ := mirrored
  refine ⟨(holds _ _).trans backed, narrow, number, vtable, tables _ _ has, before,
    fun offset inside => ?_⟩
  have covered : block.Covers (block.address + offset) :=
    ⟨Nat.le_add_right _ _, Nat.add_lt_add_left inside _⟩
  rcases bytes _ covered with same | lost
  · exact (right offset inside).imp_left same.trans
  · exact .inr lost

/-- What a new object has in its block. -/
theorem of_links {payload : Payload} {size : Nat} (links : final.Links interface handle data
      block.address size)
    (sized : block.length = size) (roomy : 0 < size) (fits : Block.dataOffset + data.length ≤ size)
    (sited : Sited start) (cut : CutOff start final block.address size)
    (tables : TablesBefore start final block.address)
    (made : start.objects.create payload = .ok (handle, final.objects)) :
    Mirrored spoilt final interface handle data block := by
  obtain ⟨vtable, has, bytes⟩ := links
  subst sized
  obtain ⟨small, own, -⟩ := ObjectTable.insert_eq_ok_iff.mp made
  have length : (Block.bytes vtable handle data block.length).length = block.length := by
    rw [Block.bytes, List.length_append, List.length_append, List.length_append,
      LittleEndian.length_ofDword, LittleEndian.length_ofDword, List.length_replicate]
    have offset : Block.dataOffset = 8 := rfl
    omega
  have backed := Memory.holds_of_bytes (List.ne_nil_of_length_pos (length.symm ▸ roomy))
    fun offset inside => bytes offset (length ▸ inside)
  refine ⟨length ▸ backed, cut.narrow, ?_, vtable, has, ?_, fun offset inside =>
    .inl (bytes offset inside)⟩
  · rw [own]
    exact Nat.lt_of_succ_lt small
  · -- The vtable was cut off the heap before the block, be it earlier or now.
    have positive := interface.tableSize_pos
    have above := cut.above
    rcases tables interface vtable has with was | ⟨-, ends⟩
    · have heap := sited.onHeap_reserved (Use.reserved_vtable interface)
        (Session.extent?_vtable was)
      exact Nat.lt_of_lt_of_le heap.inside above
    · omega

/-- A block gets other data. -/
theorem replace {more : List UInt8} (mirrored : Mirrored spoilt start interface handle data block)
    (same : more.length = data.length) (fits : Block.dataOffset + data.length ≤ block.length)
    (memory : final.memory = start.memory.put (block.address + Block.dataOffset) more)
    (vtables : final.vtables = start.vtables) : Mirrored spoilt final interface handle more block := by
  obtain ⟨backed, narrow, number, vtable, has, before, right⟩ := mirrored
  have inner : start.memory.holds (block.address + Block.dataOffset) more.length = true := by
    rw [Memory.holds_iff] at backed ⊢
    omega
  refine ⟨?_, narrow, number, vtable, vtables ▸ has, before, fun offset inside => ?_⟩
  · rw [memory, Memory.holds_put]
    exact backed
  · have eight : Block.dataOffset = 8 := rfl
    have old := right offset inside
    rw [Block.getElem?_bytes fits vtable handle inside] at old
    rw [memory, Memory.byte?_put inner, Block.getElem?_bytes (same ▸ fits) vtable handle inside, eight,
      same]
    by_cases low : offset < 4
    · rw [if_neg (by omega), if_pos low]
      rwa [if_pos low] at old
    · by_cases middle : offset < 8
      · rw [if_neg (by omega), if_neg low, if_pos middle]
        rwa [if_neg low, if_pos middle] at old
      · by_cases high : offset < 8 + data.length
        · rw [if_pos (by omega), if_neg low, if_neg middle, if_pos high, Nat.add_sub_add_left]
          exact .inl rfl
        · rw [if_neg (by omega), if_neg low, if_neg middle, if_neg high]
          rwa [if_neg low, if_neg middle, if_neg high] at old

end Mirrored

/-- The block of a new surface has what is kept of it. -/
theorem Built.mirrored {plan : SurfacePlan} {backBuffer : Option Handle} {handle : Handle}
    {surface : Surface} (built : Built start plan backBuffer handle surface final)
    (sited : Sited start) : ∃ format, FormatRecord.forDepth? surface.depth = some format ∧
      Mirrored spoilt final .surface handle (surface.told format).bytes surface.block := by
  obtain ⟨format, known, links⟩ := built.links
  have told : plan.descriptor format backBuffer.isSome = surface.told format := by
    rw [built.shape, Surface.told_of_plan]
  rw [told] at links
  refine ⟨format, ?_, .of_links links rfl (by decide) (surface.length_told format) sited built.block
    built.tables built.made⟩
  rw [built.shape]
  exact known

/-- The blocks of surfaces and palettes have what is kept of these, save for the bytes in
`spoilt`. -/
structure Reflected (spoilt : Nat → Prop) (session : Session) : Prop where
  arranged : Arranged session
  surfaces : ∀ handle surface, session.objects.surface? handle = some surface →
    ∃ format, FormatRecord.forDepth? surface.depth = some format ∧
      Mirrored spoilt session .surface handle (surface.told format).bytes surface.block
  palettes : ∀ handle palette, session.objects.palette? handle = some palette →
    (∀ (index : Nat) colour, palette.entries[index]? = some colour → colour.toNat < 0x1000000) ∧
      Mirrored spoilt session .palette handle palette.blockBytes palette.block

/-! ### Blocks stay right -/

namespace Reflected

/-- Blocks that are left alone stay right, and new ones are. -/
theorem carry (reflected : Reflected spoilt start) (arranged : Arranged final)
    (holds : ∀ address length, final.memory.holds address length = start.memory.holds address length)
    (tables : ∀ interface vtable, start.vtables.table? interface = some vtable →
      final.vtables.table? interface = some vtable)
    (surfaces : ∀ handle new, final.objects.surface? handle = some new →
      (∃ old, start.objects.surface? handle = some old ∧ new.fixed = old.fixed ∧
        ∀ point, old.block.Covers point →
          final.memory.byte? point = start.memory.byte? point ∨ spoilt point) ∨
        ∃ format, FormatRecord.forDepth? new.depth = some format ∧
          Mirrored spoilt final .surface handle (new.told format).bytes new.block)
    (palettes : ∀ handle new, final.objects.palette? handle = some new →
      (start.objects.palette? handle = some new ∧ ∀ point, new.block.Covers point →
        final.memory.byte? point = start.memory.byte? point ∨ spoilt point) ∨
        (∀ (index : Nat) colour, new.entries[index]? = some colour → colour.toNat < 0x1000000) ∧
          Mirrored spoilt final .palette handle new.blockBytes new.block) :
    Reflected spoilt final where
  arranged := arranged
  surfaces handle new live := by
    rcases surfaces handle new live with ⟨old, was, fixed, bytes⟩ | right
    · obtain ⟨format, known, mirrored⟩ := reflected.surfaces handle old was
      have depth : new.fixed.depth = old.fixed.depth := congrArg _ fixed
      change new.depth = old.depth at depth
      rw [← depth] at known
      refine ⟨format, known, ?_⟩
      rw [Surface.told_of_fixed fixed, Sited.block_of_fixed fixed]
      exact mirrored.keep holds tables bytes
    · exact right
  palettes handle new there := by
    rcases palettes handle new there with ⟨was, bytes⟩ | right
    · obtain ⟨toned, mirrored⟩ := reflected.palettes handle new was
      exact ⟨toned, mirrored.keep holds tables bytes⟩
    · exact right

/-- What leaves all blocks alone keeps them right. -/
theorem still (reflected : Reflected spoilt start) (arranged : Arranged final)
    (still : Still start final) : Reflected spoilt final := by
  refine reflected.carry arranged still.holds still.tables ?_ ?_
  · intro handle new live
    obtain ⟨old, was, fixed⟩ := still.surfaces handle new live
    refine .inl ⟨old, was, fixed, fun point inside => .inl ?_⟩
    exact still.bytes _ _ (Use.reserved_surfaceBlock handle) (Session.extent?_surfaceBlock was)
      point inside
  · intro handle new there
    have was := still.palettes handle new there
    refine .inl ⟨was, fun point inside => .inl ?_⟩
    exact still.bytes _ _ (Use.reserved_paletteBlock handle) (Session.extent?_paletteBlock was)
      point inside

/-- What comes with groundwork is the only thing that may have to be looked at. -/
theorem grow (reflected : Reflected spoilt start) (arranged : Arranged final)
    (ground : Groundwork start final) {payload : Payload} {handle : Handle}
    (made : start.objects.create payload = .ok (handle, final.objects))
    (surface : ∀ new, payload = .surface new →
      ∃ format, FormatRecord.forDepth? new.depth = some format ∧
        Mirrored spoilt final .surface handle (new.told format).bytes new.block)
    (palette : ∀ new, payload = .palette new →
      (∀ (index : Nat) colour, new.entries[index]? = some colour → colour.toNat < 0x1000000) ∧
        Mirrored spoilt final .palette handle new.blockBytes new.block) :
    Reflected spoilt final := by
  have sited := reflected.arranged.sited
  refine reflected.carry arranged ground.holds ground.tablesKept ?_ ?_
  · intro other new live
    rcases ObjectTable.surface?_of_create sited.linked.numbered made live with was | ⟨rfl, is⟩
    · refine .inl ⟨new, was, rfl, fun point inside => .inl ?_⟩
      exact sited.byte?_eq ground (Session.extent?_surfaceBlock was) inside
    · exact .inr (surface new is)
  · intro other new there
    rcases ObjectTable.palette?_of_create sited.linked.numbered made there with was | ⟨rfl, is⟩
    · refine .inl ⟨was, fun point inside => .inl ?_⟩
      exact sited.byte?_eq ground (Session.extent?_paletteBlock was) inside
    · exact .inr (palette new is)

theorem built (reflected : Reflected spoilt start) (arranged : Arranged final) {plan : SurfacePlan}
    {backBuffer : Option Handle} {handle : Handle} {surface : Surface}
    (built : Built start plan backBuffer handle surface final) : Reflected spoilt final := by
  refine reflected.grow arranged built.groundwork built.made (fun new is => ?_) nofun
  cases is
  exact built.mirrored reflected.arranged.sited

theorem created (reflected : Reflected spoilt start) {handle : Handle} {surface : Surface}
    (created : Created start handle surface final) : Reflected spoilt final := by
  have arranged := reflected.arranged.step (.created created)
  obtain ⟨plan, -, raised⟩ := created
  cases raised with
  | single built => exact reflected.built arranged built
  | @double middle _ child back first second =>
    have made : Created start child back middle :=
      ⟨plan.child start.chain, fun onScreen => (nomatch onScreen), .single first⟩
    exact (reflected.built (reflected.arranged.step (.created made)) first).built arranged second

theorem mixed (reflected : Reflected spoilt start) {handle : Handle} {palette : Palette}
    (mixed : Mixed start handle palette final) : Reflected spoilt final := by
  refine reflected.grow (reflected.arranged.step (.mixed mixed)) mixed.groundwork mixed.made nofun
    fun new is => ?_
  cases is
  refine ⟨mixed.toned, .of_links mixed.links rfl (by decide) ?_ reflected.arranged.sited mixed.block
    mixed.tables mixed.made⟩
  rw [Palette.length_blockBytes]
  have sized := mixed.sized
  show Block.dataOffset + 4 * palette.entries.size ≤ Block.dataOffset + Palette.slots * 4
  omega

/-- Memory backs the entries in the block of a palette. -/
theorem backs_entries (reflected : Reflected spoilt session) {handle : Handle} {palette : Palette}
    (there : session.objects.palette? handle = some palette) :
    session.memory.holds (palette.object + Block.dataOffset) (4 * palette.entries.size) = true := by
  obtain ⟨-, mirrored⟩ := reflected.palettes handle palette there
  have roomy := reflected.arranged.roomy handle palette there
  have backed := mirrored.backed
  rw [Memory.holds_iff] at backed ⊢
  have address : palette.block.address = palette.object := rfl
  have length : palette.block.length = Block.dataOffset + Palette.slots * 4 := rfl
  omega

/-- New colours are in the block of their palette. -/
theorem repainted (reflected : Reflected spoilt start) {handle : Handle} {palette : Palette}
    {entries : Array UInt32} (repaints : Repaints start handle palette entries)
    (backed : start.memory.holds (palette.object + Block.dataOffset)
      (4 * palette.entries.size) = true)
    (arranged : Arranged (start.repainted handle palette entries)) :
    Reflected spoilt (start.repainted handle palette entries) := by
  have there := repaints.there
  obtain ⟨toned, mirrored⟩ := reflected.palettes handle palette there
  have fits : Block.dataOffset + palette.blockBytes.length ≤ palette.block.length := by
    have roomy := reflected.arranged.roomy handle palette there
    rw [Palette.length_blockBytes]
    show Block.dataOffset + 4 * palette.entries.size ≤ Block.dataOffset + Palette.slots * 4
    omega
  have length : (Palette.blockBytes { palette with entries := entries }).length =
      palette.blockBytes.length := by
    rw [Palette.length_blockBytes, Palette.length_blockBytes, repaints.sized]
  refine reflected.carry arranged (fun _ _ => Memory.holds_put _ _ _ _ _) (fun _ _ has => has) ?_ ?_
  · intro other new live
    have was : start.objects.surface? other = some new := by
      rw [← ObjectTable.surface?_setPalette there]
      exact live
    refine .inl ⟨new, was, rfl, fun point inside => .inl ?_⟩
    exact repaints.byte?_repainted reflected.arranged backed (Use.reserved_surfaceBlock other)
      (Session.extent?_surfaceBlock was) nofun inside
  · intro other new live
    change (start.objects.setPayload handle _).palette? other = _ at live
    rw [ObjectTable.palette?_setPalette there, Function.update_apply] at live
    split at live
    · next own =>
      subst own
      cases live
      have replaced : Mirrored spoilt (start.repainted other palette entries) .palette other _
          palette.block := mirrored.replace length fits rfl rfl
      refine .inr ⟨fun index colour found => ?_, replaced⟩
      exact (repaints.toned index colour found).elim (toned index colour) id
    · next different =>
      refine .inl ⟨live, fun point inside => .inl ?_⟩
      exact repaints.byte?_repainted reflected.arranged backed (Use.reserved_paletteBlock other)
        (Session.extent?_paletteBlock live) (fun same => different (Use.paletteBlock.inj same)) inside

/-- What happens without a new surface keeps the blocks right. -/
theorem step (reflected : Reflected spoilt start) (step : Discreet start final) :
    Reflected spoilt final := by
  have arranged := Arranged.kept.quiet.discreet.step reflected.arranged step
  rcases step.still reflected.arranged with still | ⟨handle, palette, entries, repaints, colours⟩ |
    ⟨handle, palette, mixed⟩
  · exact reflected.still arranged still
  · rcases colours with ⟨backed, rfl⟩ | ⟨unbacked, -⟩
    · exact reflected.repainted repaints backed arranged
    · -- New colours are never lost on a block.
      cases unbacked.symm.trans (reflected.backs_entries repaints.there)
  · exact reflected.mixed mixed

/-- Stores to the bytes in `spoilt` change nothing that is said of the blocks. -/
theorem grazed (reflected : Reflected spoilt start) (arranged : Arranged final)
    (grazed : Grazed spoilt start final) : Reflected spoilt final := by
  refine reflected.carry arranged grazed.holds (fun interface vtable has => ?_) ?_ ?_
  · rw [grazed.vtables, has]
  · intro handle new live
    obtain ⟨old, was, fixed⟩ := grazed.inherits.surface handle new live
    refine .inl ⟨old, was, fixed, ?_⟩
    rw [← Sited.block_of_fixed fixed]
    exact grazed.bytes _ _ (Use.reserved_surfaceBlock handle) (Session.extent?_surfaceBlock live)
  · intro handle new there
    refine .inl ⟨grazed.palettes handle new there, ?_⟩
    exact grazed.bytes _ _ (Use.reserved_paletteBlock handle) (Session.extent?_paletteBlock there)

end Reflected

/-- At the beginning there is no block. -/
theorem reflected_start (memory : Memory) {heapBase heapSize videoBase videoSize : Nat}
    (inSpace : heapBase < addressSpace)
    (disjoint : ∀ point, heapBase ≤ point → point < rangeLimit heapBase heapSize →
      videoBase ≤ point → rangeLimit videoBase videoSize ≤ point)
    (stubs : StubTable) (firstHandle : Nat) (mode : DisplayMode) (chain : FlipChain) :
    Reflected spoilt (.start memory (.ofRange heapBase heapSize) (.ofRange videoBase videoSize) stubs
      firstHandle mode chain) :=
  ⟨arranged_start memory inSpace disjoint stubs firstHandle mode chain,
    fun _ _ live => (nomatch live), fun _ _ there => nomatch there⟩

/-- The block of a surface or a palette. -/
def Use.Block (use : Use) : Prop :=
  ∃ handle, use = .surfaceBlock handle ∨ use = .paletteBlock handle

theorem Mirrored.mono {interface : Interface} {handle : Handle} {data : List UInt8} {block : Extent}
    (mirrored : Mirrored spoilt session interface handle data block) {more : Nat → Prop}
    (spared : ∀ point, block.Covers point → spoilt point → more point) :
    Mirrored more session interface handle data block := by
  obtain ⟨backed, narrow, number, vtable, has, before, right⟩ := mirrored
  refine ⟨backed, narrow, number, vtable, has, before, fun offset inside => ?_⟩
  exact (right offset inside).imp_right
    (spared _ ⟨Nat.le_add_right _ _, Nat.add_lt_add_left inside _⟩)

/-- Blocks are right as long as they are heeded. -/
theorem Reflected.tended : Tended Use.Block Reflected where
  arranged := Reflected.arranged
  discreet := Reflected.step
  created reflected created := reflected.created created
  abandoned reflected step :=
    reflected.still (reflected.arranged.step (.abandoned step)) (.abandoned reflected.arranged step)
  grazed := Reflected.grazed
  mono fewer reflected := by
    refine ⟨reflected.arranged, fun handle surface live => ?_, fun handle palette there => ?_⟩
    · obtain ⟨format, known, mirrored⟩ := reflected.surfaces handle surface live
      exact ⟨format, known, mirrored.mono fun point _ => fewer point⟩
    · obtain ⟨toned, mirrored⟩ := reflected.palettes handle palette there
      exact ⟨toned, mirrored.mono fun point _ => fewer point⟩
  mend reflected heeds := by
    refine ⟨reflected.arranged, fun handle surface live => ?_, fun handle palette there => ?_⟩
    · obtain ⟨format, known, mirrored⟩ := reflected.surfaces handle surface live
      exact ⟨format, known, mirrored.mono
        (heeds _ _ ⟨handle, .inl rfl⟩ (Session.extent?_surfaceBlock live))⟩
    · obtain ⟨toned, mirrored⟩ := reflected.palettes handle palette there
      exact ⟨toned, mirrored.mono
        (heeds _ _ ⟨handle, .inr rfl⟩ (Session.extent?_paletteBlock there))⟩

end GuestDraw
