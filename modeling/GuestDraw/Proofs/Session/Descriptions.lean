/-
**What the guest is told of surfaces and palettes.**

The guest reads blocks, and it asks the engine, which copies from them. In every state that a run
comes to which heeds the blocks, both tell what the engine keeps of the object.

* `HoldsSurface.holdsRecord`, `holdsPalette_of_bytes`: the bytes of a block, read as what they stand
  for;
* `HoldsSurface.read_part`: what the engine reads from the block of a surface, and `ends_asking`:
  for whom;
* `SurfaceDescribed`, `PaletteDescribed`: blocks and answers against what is kept;
* `blocks_current`: all of it in every state.
-/

import GuestDraw.Proofs.Session.Blocks
import GuestDraw.Proofs.Session.Pointers

namespace GuestDraw

variable {session : Session}

/-! ### Blocks as records -/

/-- The fields of a block whose data are a record. -/
def Block.fields (vtable : Nat) (handle : Handle) (data : List (Nat × UInt32)) :
    List (Nat × UInt32) :=
  (vtableOffset, UInt32.ofNat vtable) :: (handleOffset, handle.dword)
    :: data.map fun field => (dataOffset + field.1, field.2)

section Block

variable {vtable : Nat} {handle : Handle} {data : List (Nat × UInt32)} {length size : Nat}

theorem Block.fields_fit (vtable : Nat) (handle : Handle)
    (fits : ∀ field ∈ data, field.1 + 4 ≤ length) (roomy : dataOffset + length ≤ size) :
    ∀ field ∈ Block.fields vtable handle data, field.1 + 4 ≤ size := by
  have eight : dataOffset = 8 := rfl
  have four : handleOffset = 4 := rfl
  have zero : vtableOffset = 0 := rfl
  intro field member
  rcases List.mem_cons.mp member with rfl | member
  · dsimp only
    omega
  · rcases List.mem_cons.mp member with rfl | member
    · dsimp only
      omega
    · obtain ⟨own, mine, rfl⟩ := List.mem_map.mp member
      have small := fits own mine
      dsimp only
      omega

theorem Block.fields_apart (vtable : Nat) (handle : Handle) (apart : data.Pairwise FieldsApart) :
    (Block.fields vtable handle data).Pairwise FieldsApart := by
  refine .cons (fun field member => .inl ?_) (.cons (fun field member => .inl ?_)
    (List.pairwise_map.mpr (apart.imp fun either => ?_)))
  · rcases List.mem_cons.mp member with rfl | member
    · exact Nat.le_refl _
    · obtain ⟨own, -, rfl⟩ := List.mem_map.mp member
      show 4 ≤ 8 + own.1
      omega
  · obtain ⟨own, -, rfl⟩ := List.mem_map.mp member
    exact Nat.le_add_right _ _
  · exact either.imp (fun before => by dsimp only; omega) fun behind => by dsimp only; omega

/-- The data of a block are a part of the block. -/
theorem Block.getElem?_recordBytes (vtable : Nat) (handle : Handle)
    (fits : ∀ field ∈ data, field.1 + 4 ≤ length) (apart : data.Pairwise FieldsApart)
    (roomy : dataOffset + length ≤ size) {place : Nat} (inside : place < length) :
    (recordBytes size (Block.fields vtable handle data))[dataOffset + place]? =
      (recordBytes length data)[place]? := by
  refine getElem?_recordBytes_part (fields_fit _ _ fits roomy) (fields_apart _ _ apart) fits apart roomy
    (fun field member => .tail _ (.tail _ (List.mem_map.mpr ⟨field, member, rfl⟩))) ?_ inside
  intro field member
  rcases List.mem_cons.mp member with rfl | member
  · exact .inr (.inl (show 0 + 4 ≤ 8 by decide))
  · rcases List.mem_cons.mp member with rfl | member
    · exact .inr (.inl (show 4 + 4 ≤ 8 by decide))
    · obtain ⟨own, mine, rfl⟩ := List.mem_map.mp member
      exact .inl ⟨own, mine, rfl⟩

/-- A block whose data are a record is a record itself. -/
theorem Block.bytes_eq_recordBytes (fits : ∀ field ∈ data, field.1 + 4 ≤ length)
    (apart : data.Pairwise FieldsApart) (roomy : dataOffset + length ≤ size) {offset : Nat}
    (inside : offset < size) :
    (Block.bytes vtable handle (recordBytes length data) size)[offset]? =
      (recordBytes size (Block.fields vtable handle data))[offset]? := by
  have eight : dataOffset = 8 := rfl
  have own := length_recordBytes length data
  have inner := Block.fields_fit vtable handle fits roomy
  have outer := Block.fields_apart vtable handle apart
  rw [Block.getElem?_bytes (own.symm ▸ roomy) vtable handle inside, own]
  by_cases low : offset < 4
  · have field := getElem?_recordBytes_field inner outer (.head _) low
    rw [if_pos low, ← field]
    exact congrArg _ (Nat.zero_add offset)
  · by_cases middle : offset < 8
    · have field := getElem?_recordBytes_field inner outer (.tail _ (.head _))
        (show offset - 4 < 4 by omega)
      rw [if_neg low, if_pos middle, ← field]
      exact congrArg _ (show 4 + (offset - 4) = offset by omega)
    · by_cases high : offset < 8 + length
      · have part := Block.getElem?_recordBytes vtable handle fits apart roomy
          (show offset - 8 < length by omega)
        rw [if_neg low, if_neg middle, if_pos high, ← part]
        exact congrArg _ (show 8 + (offset - 8) = offset by omega)
      · rw [if_neg low, if_neg middle, if_neg high, getElem?_recordBytes_rest inner inside]
        intro field member
        rcases List.mem_cons.mp member with rfl | member
        · exact fun covers => low (by have := covers.2; dsimp only [vtableOffset] at this; omega)
        · rcases List.mem_cons.mp member with rfl | member
          · exact fun covers => middle (by have := covers.2; dsimp only [handleOffset] at this; omega)
          · obtain ⟨mine, there, rfl⟩ := List.mem_map.mp member
            have small := fits mine there
            dsimp only
            omega

end Block

/-! ### Surfaces -/

/-- Memory holds the block of a surface, which is a record. -/
structure Session.HoldsSurface (session : Session) (handle : Handle) (surface : Surface)
    (vtable : Nat) (format : FormatRecord) : Prop where
  table : session.vtables.table? .surface = some vtable
  known : FormatRecord.forDepth? surface.depth = some format
  positive : 0 < surface.object
  narrow : surface.object + Surface.blockSize < addressSpace
  number : handle.number < addressSpace
  bytes : ∀ offset, offset < Surface.blockSize →
    session.memory.byte? (surface.object + offset) =
      (recordBytes Surface.blockSize
        (Block.fields vtable handle (surface.told format).fields))[offset]?

theorem Mirrored.holdsSurface {handle : Handle} {surface : Surface} {format : FormatRecord}
    (known : FormatRecord.forDepth? surface.depth = some format)
    (mirrored : Mirrored (fun _ => False) session .surface handle (surface.told format).bytes
      surface.block) :
    ∃ vtable, vtable < addressSpace ∧ session.HoldsSurface handle surface vtable format := by
  obtain ⟨backed, narrow, number, vtable, has, before, right⟩ := mirrored
  have below : surface.block.address < surface.block.stop :=
    Nat.lt_add_of_pos_right (show 0 < Surface.blockSize by decide)
  refine ⟨vtable, by omega, has, known, Nat.zero_lt_of_lt before, narrow, number,
    fun offset inside => ?_⟩
  rw [← Block.bytes_eq_recordBytes (surface.told format).fields_fit (surface.told format).fields_apart
    (surface.roomy_told format) inside]
  exact (right offset inside).resolve_right id

theorem Reflected.holdsSurface (reflected : Reflected (fun _ => False) session) {handle : Handle}
    {surface : Surface} (live : session.objects.surface? handle = some surface) :
    ∃ vtable format, vtable < addressSpace ∧ session.HoldsSurface handle surface vtable format := by
  obtain ⟨format, known, mirrored⟩ := reflected.surfaces handle surface live
  obtain ⟨vtable, narrow, holds⟩ := mirrored.holdsSurface known
  exact ⟨vtable, format, narrow, holds⟩

namespace Session.HoldsSurface

variable {handle : Handle} {surface : Surface} {vtable : Nat} {format : FormatRecord}

theorem holdsRecord (held : session.HoldsSurface handle surface vtable format) :
    session.memory.HoldsRecord surface.object Surface.blockSize
      (Block.fields vtable handle (surface.told format).fields) :=
  Memory.holdsRecord_of_bytes (Block.fields_fit _ _ (surface.told format).fields_fit
      (surface.roomy_told format))
    (Block.fields_apart _ _ (surface.told format).fields_apart) held.bytes

/-- The pointer to a surface leads to the surface. -/
theorem surfaceFor?_eq (held : session.HoldsSurface handle surface vtable format)
    (live : session.objects.surface? handle = some surface) :
    session.surfaceFor? surface.object = some handle := by
  have read : session.memory.readDword (surface.object + Block.handleOffset) = .ok handle.dword :=
    held.holdsRecord.field _ _ (.tail _ (.head _))
  have narrow : surface.object + Block.handleOffset < addressSpace :=
    Nat.lt_of_le_of_lt (Nat.add_le_add_left (by decide) _) held.narrow
  refine Session.surfaceFor?_eq_some_iff.mpr ⟨?_, surface, live, rfl⟩
  rw [Session.blockHandle, if_pos ⟨Nat.ne_of_gt held.positive, narrow⟩, read]
  show Handle.ofDword handle.dword = handle
  rw [Handle.ofDword, Handle.dword, UInt32.toNat_ofNat_of_lt' held.number]

/-- What is read from the descriptor of a surface. -/
theorem read_part (held : session.HoldsSurface handle surface vtable format)
    {inner : List (Nat × UInt32)} {length : Nat} (shift : Nat) (positive : 0 < length)
    (fits : ∀ field ∈ inner, field.1 + 4 ≤ length) (apart : inner.Pairwise FieldsApart)
    (within : Block.dataOffset + shift + length ≤ Surface.blockSize)
    (part : ∀ field ∈ inner, (shift + field.1, field.2) ∈ (surface.told format).fields)
    (only : ∀ field ∈ (surface.told format).fields,
      (∃ own ∈ inner, field = (shift + own.1, own.2)) ∨
        field.1 + 4 ≤ shift ∨ shift + length ≤ field.1) :
    session.memory.read (surface.descriptor + shift) length = .ok (recordBytes length inner) := by
  have size := length_recordBytes length inner
  have read : session.memory.read (surface.descriptor + shift) (recordBytes length inner).length =
      .ok (recordBytes length inner) := by
    refine Memory.read_of_bytes (List.ne_nil_of_length_pos (size.symm ▸ positive))
      fun offset inside => ?_
    rw [size] at inside
    have place : surface.descriptor + shift + offset =
        surface.object + (Block.dataOffset + shift + offset) := by
      rw [Surface.descriptor]
      omega
    rw [place, held.bytes _ (by omega)]
    refine getElem?_recordBytes_part (Block.fields_fit _ _ (surface.told format).fields_fit
      (surface.roomy_told format))
      (Block.fields_apart _ _ (surface.told format).fields_apart) fits apart within ?_ ?_ inside
    · intro field member
      refine .tail _ (.tail _ (List.mem_map.mpr ⟨_, part field member, ?_⟩))
      rw [Nat.add_assoc]
    · intro field member
      rcases List.mem_cons.mp member with rfl | member
      · exact .inr (.inl (show 0 + 4 ≤ 8 + shift by omega))
      · rcases List.mem_cons.mp member with rfl | member
        · exact .inr (.inl (show 4 + 4 ≤ 8 + shift by omega))
        · obtain ⟨told, there, rfl⟩ := List.mem_map.mp member
          rcases only told there with ⟨own, mine, rfl⟩ | before | behind
          · exact .inl ⟨own, mine, by rw [Nat.add_assoc]⟩
          · exact .inr (.inl (by dsimp only; omega))
          · exact .inr (.inr (by dsimp only; omega))
  rwa [size] at read

theorem read_descriptor (held : session.HoldsSurface handle surface vtable format) :
    session.memory.read surface.descriptor surface.descriptorSize =
      .ok (surface.told format).bytes := by
  have positive : 0 < surface.descriptorSize := by
    unfold Surface.descriptorSize descriptorSize
    split <;> decide
  refine held.read_part 0 positive (surface.told format).fields_fit
    (surface.told format).fields_apart (surface.roomy_told format) ?_ ?_
  · intro field member
    rw [Nat.zero_add]
    exact member
  · intro field member
    exact .inl ⟨field, member, by rw [Nat.zero_add]⟩

theorem read_caps (held : session.HoldsSurface handle surface vtable format) :
    session.memory.read (surface.descriptor + Descriptor.capsOffset) surface.capsSize =
      .ok (recordBytes surface.capsSize [(0, surface.caps.bits)]) := by
  have size : 4 ≤ surface.capsSize ∧ surface.capsSize ≤ Descriptor.wideCapsSize := by
    unfold Surface.capsSize
    split <;> decide
  have wide : Block.dataOffset + Descriptor.capsOffset + Descriptor.wideCapsSize ≤
      Surface.blockSize := by decide
  refine held.read_part _ (by omega) ?_ (List.pairwise_singleton _ _) (by omega) ?_ ?_
  · intro field member
    cases List.mem_singleton.mp member
    exact size.1
  · intro field member
    cases List.mem_singleton.mp member
    exact List.mem_append_right _ (.head _)
  · intro field member
    rcases Descriptor.field_cases _ member with before | ⟨own, mine, rfl⟩ | rfl
    · exact .inr (.inl (before.trans (by decide)))
    · have small := FormatRecord.fields_fit _ own mine
      have next : Descriptor.formatOffset + FormatRecord.size = Descriptor.capsOffset := rfl
      exact .inr (.inl (by dsimp only; omega))
    · exact .inl ⟨_, .head _, rfl⟩

theorem read_format (held : session.HoldsSurface handle surface vtable format) :
    session.memory.read (surface.descriptor + Descriptor.formatOffset) FormatRecord.size =
      .ok (recordBytes FormatRecord.size format.fields) := by
  refine held.read_part _ (by decide) format.fields_fit format.fields_apart (by decide) ?_ ?_
  · intro field member
    exact List.mem_append_left _ (List.mem_append_right _ (List.mem_map.mpr ⟨field, member, rfl⟩))
  · intro field member
    rcases Descriptor.field_cases _ member with before | ⟨own, mine, rfl⟩ | rfl
    · exact .inr (.inl before)
    · exact .inl ⟨own, mine, rfl⟩
    · exact .inr (.inr (show 0x48 + 0x20 ≤ 0x68 by decide))

end Session.HoldsSurface

/-! ### What the guest is told when it asks -/

/-- Where the source can be read, memory that is not there is the only reason to fail. -/
theorem ends_move_refusing {failed : Session → Prop} {source target length : Nat}
    {data : List UInt8}
    (known : session.memory.read source length = .ok data)
    (held : session.memory.holds target length = false → failed session) :
    Ends (Engine.move source target length) session
      (fun _ final => session.memory.holds target length = true ∧
        final = { session with memory := session.memory.put target data }) failed := by
  have size := Memory.length_of_read known
  have taken : Ends (Engine.read source length) session
      (fun found final => found = data ∧ final = session) failed := by
    refine .read ?_
    rw [known]
    exact ⟨rfl, rfl⟩
  refine taken.bind ?_
  rintro _ _ ⟨rfl, rfl⟩
  subst size
  exact ends_write_refusing held

/-- A size in guest memory that is not the one expected is refused. -/
theorem ends_sized {failed : Session → Prop} {out expected : Nat} {cause : Failure}
    {rest : Engine Unit} {done : Unit → Session → Prop} (narrow : expected < addressSpace)
    (held : session.memory.readDword out ≠ .ok (UInt32.ofNat expected) → failed session)
    (next : session.memory.readDword out = .ok (UInt32.ofNat expected) →
      Ends rest session done failed) :
    Ends (do
      let size ← Engine.readDword out
      if size.toNat ≠ expected then
        throw cause
      rest) session done failed := by
  have exact : ∀ size : UInt32, size = UInt32.ofNat expected ↔ size.toNat = expected := by
    intro size
    rw [← UInt32.toNat_inj, UInt32.toNat_ofNat_of_lt' narrow]
  refine (ends_readDword_refusing fun none => held (none _)).bind ?_
  rintro size _ ⟨rfl, taken⟩
  refine .refusing (fun other => held fun same => ?_) fun fits => next ?_
  · rw [taken] at same
    exact other ((exact size).mp (Except.ok.inj same))
  · rw [taken, (exact size).mpr (Decidable.not_not.mp fits)]

namespace Session.HoldsSurface

variable {handle : Handle} {surface : Surface} {vtable out : Nat} {format : FormatRecord}

/-- Who asks a surface by its pointer asks that surface. -/
theorem ends_asking (held : session.HoldsSurface handle surface vtable format)
    (live : session.objects.surface? handle = some surface) {entry : String}
    {rest : Surface → Engine Unit} {done : Unit → Session → Prop} {failed : Session → Prop}
    (answered : Ends (rest surface) session done failed) :
    Ends (do rest (← Engine.surfaceAt (← Engine.resolveSurface entry surface.object))) session done
      failed := by
  refine (ends_resolveSurface_live (held.surfaceFor?_eq live) entry).bind ?_
  rintro _ _ ⟨rfl, rfl⟩
  refine (ends_surfaceAt_live live).bind ?_
  rintro _ _ ⟨rfl, rfl⟩
  exact answered

/-- The descriptor of a surface is copied to a buffer of the right size, as it is kept. -/
theorem getSurfaceDesc_eq_ok_iff (held : session.HoldsSurface handle surface vtable format)
    (live : session.objects.surface? handle = some surface) {final : Session} :
    Engine.getSurfaceDesc surface.object out session = .ok () final ↔
      (out ≠ 0 ∧ session.memory.readDword out = .ok (UInt32.ofNat surface.descriptorSize) ∧
        session.memory.holds out surface.descriptorSize = true) ∧
      final = { session with memory := session.memory.put out (surface.told format).bytes } := by
  have narrow : surface.descriptorSize < addressSpace := by
    unfold Surface.descriptorSize descriptorSize
    split <;> decide
  refine Ends.ok_iff (held.ends_asking live ?_)
  refine .refusing (fun null allowed => allowed.1 null) fun notNull => ?_
  refine ends_sized narrow (fun other allowed => other allowed.2.1) fun sized => ?_
  refine (ends_move_refusing held.read_descriptor fun missing allowed => ?_).weaken ?_
  · cases missing.symm.trans allowed.2.2
  · rintro _ _ ⟨backed, rfl⟩
    exact ⟨⟨notNull, sized, backed⟩, rfl, rfl⟩

/-- The capabilities of a surface are copied as they are kept. -/
theorem getCaps_eq_ok_iff (held : session.HoldsSurface handle surface vtable format)
    (live : session.objects.surface? handle = some surface) {final : Session} :
    Engine.getCaps surface.object out session = .ok () final ↔
      (out ≠ 0 ∧ session.memory.holds out surface.capsSize = true) ∧
      final = { session with
        memory := session.memory.put out (recordBytes surface.capsSize [(0, surface.caps.bits)]) } := by
  refine Ends.ok_iff (held.ends_asking live ?_)
  refine .refusing (fun null allowed => allowed.1 null) fun notNull => ?_
  refine (ends_move_refusing held.read_caps fun missing allowed => ?_).weaken ?_
  · cases missing.symm.trans allowed.2
  · rintro _ _ ⟨backed, rfl⟩
    exact ⟨⟨notNull, backed⟩, rfl, rfl⟩

/-- The pixel format of a surface is copied to a buffer of the right size. -/
theorem getPixelFormat_eq_ok_iff (held : session.HoldsSurface handle surface vtable format)
    (live : session.objects.surface? handle = some surface) {final : Session} :
    Engine.getPixelFormat surface.object out session = .ok () final ↔
      (out ≠ 0 ∧ session.memory.readDword out = .ok (UInt32.ofNat FormatRecord.size) ∧
        session.memory.holds out FormatRecord.size = true) ∧
      final = { session with
        memory := session.memory.put out (recordBytes FormatRecord.size format.fields) } := by
  refine Ends.ok_iff (held.ends_asking live ?_)
  refine .refusing (fun null allowed => allowed.1 null) fun notNull => ?_
  refine ends_sized (by decide) (fun other allowed => other allowed.2.1) fun sized => ?_
  refine (ends_move_refusing held.read_format fun missing allowed => ?_).weaken ?_
  · cases missing.symm.trans allowed.2.2
  · rintro _ _ ⟨backed, rfl⟩
    exact ⟨⟨notNull, sized, backed⟩, rfl, rfl⟩

end Session.HoldsSurface

/-! ### Palettes -/

/-- Items of one size, one after the other. -/
theorem getElem?_flatMap_of_length {α β : Type} {bytes : α → List β} {size : Nat}
    (sized : ∀ item, (bytes item).length = size) (items : List α) (slot : Nat) {index : Nat}
    (small : index < size) :
    (items.flatMap bytes)[size * slot + index]? = items[slot]?.bind fun item =>
      (bytes item)[index]? := by
  induction items generalizing slot with
  | nil => rfl
  | cons item rest ih =>
    have length := sized item
    rw [List.flatMap_cons]
    cases slot with
    | zero =>
      rw [List.getElem?_append_left (by omega)]
      simp
    | succ slot =>
      have later := ih slot
      rw [Nat.mul_succ, List.getElem?_append_right (by omega), length,
        show size * slot + size + index - size = size * slot + index by omega, later]
      rfl

/-- The block of a palette in memory: all slots have a colour, and it is black where there is no
entry. -/
structure Session.HoldsPalette (session : Session) (handle : Handle) (palette : Palette)
    (vtable : Nat) : Prop where
  vtable : session.memory.readDword (palette.object + Block.vtableOffset) =
    .ok (UInt32.ofNat vtable)
  handle : session.memory.readDword (palette.object + Block.handleOffset) = .ok handle.dword
  slots : ∀ slot, slot < Palette.slots →
    session.memory.readDword (palette.object + Block.dataOffset + 4 * slot) =
      .ok (palette.entries.getD slot 0)

theorem Session.holdsPalette_of_bytes {handle : Handle} {palette : Palette} {vtable : Nat}
    (sized : palette.entries.size ≤ Palette.slots)
    (bytes : ∀ offset, offset < Palette.blockSize →
      session.memory.byte? (palette.object + offset) =
        (Block.bytes vtable handle palette.blockBytes Palette.blockSize)[offset]?) :
    session.HoldsPalette handle palette vtable := by
  have count : Palette.slots = 256 := rfl
  have whole : Palette.blockSize = 8 + 256 * 4 := rfl
  have eight : Block.dataOffset = 8 := rfl
  have four : Block.handleOffset = 4 := rfl
  have length := palette.length_blockBytes
  have fits : Block.dataOffset + palette.blockBytes.length ≤ Palette.blockSize := by omega
  have byte : ∀ offset, offset < Palette.blockSize → _ :=
    fun offset inside => (bytes offset inside).trans (Block.getElem?_bytes fits vtable handle inside)
  refine ⟨Memory.readDword_of_bytes fun index small => ?_,
    Memory.readDword_of_bytes fun index small => ?_,
    fun slot there => Memory.readDword_of_bytes fun index small => ?_⟩
  · have found := byte index (by omega)
    rw [if_pos small] at found
    exact found
  · have found := byte (4 + index) (by omega)
    rw [if_neg (by omega), if_pos (by omega), Nat.add_sub_cancel_left] at found
    rw [four, Nat.add_assoc, found]
  · have found := byte (8 + (4 * slot + index)) (by omega)
    rw [if_neg (by omega), if_neg (by omega), Nat.add_sub_cancel_left] at found
    rw [eight, show palette.object + 8 + 4 * slot + index =
      palette.object + (8 + (4 * slot + index)) by omega, found, length,
        Array.getD_eq_getD_getElem?]
    by_cases known : slot < palette.entries.size
    · rw [if_pos (by omega), Palette.blockBytes,
        getElem?_flatMap_of_length LittleEndian.length_ofDword _ _ small, Array.getElem?_toList,
        Array.getElem?_eq_getElem known]
      rfl
    · rw [if_neg (by omega), Array.getElem?_eq_none (by omega)]
      have zero : ∀ index, index < 4 → some 0 = (LittleEndian.ofDword 0)[index]? := by decide
      exact zero index small

/-! ### In every state -/

/-- What the guest finds in the block of a surface, and what it gets when it asks for it. -/
structure SurfaceDescribed (session : Session) (handle : Handle) (surface : Surface) (vtable : Nat)
    (format : FormatRecord) : Prop where
  table : session.vtables.table? .surface = some vtable
  known : FormatRecord.forDepth? surface.depth = some format
  narrow : vtable < addressSpace ∧ handle.number < addressSpace ∧
    surface.object + Surface.blockSize < addressSpace
  /-- The block has the vtable, the handle and the descriptor, and is zero wherever these say
  nothing. -/
  block : session.memory.HoldsRecord surface.object Surface.blockSize
    (Block.fields vtable handle (surface.told format).fields)
  /-- The block does not tell where the pixels are; who locks the surface is told in a copy. -/
  pixels : session.memory.readDword (surface.descriptor + Descriptor.pixelsOffset) = .ok 0
  descriptor : ∀ out final, Engine.getSurfaceDesc surface.object out session = .ok () final ↔
    (out ≠ 0 ∧ session.memory.readDword out = .ok (UInt32.ofNat surface.descriptorSize) ∧
      session.memory.holds out surface.descriptorSize = true) ∧
    final = { session with memory := session.memory.put out (surface.told format).bytes }
  caps : ∀ out final, Engine.getCaps surface.object out session = .ok () final ↔
    (out ≠ 0 ∧ session.memory.holds out surface.capsSize = true) ∧
    final = { session with
      memory := session.memory.put out (recordBytes surface.capsSize [(0, surface.caps.bits)]) }
  format : ∀ out final, Engine.getPixelFormat surface.object out session = .ok () final ↔
    (out ≠ 0 ∧ session.memory.readDword out = .ok (UInt32.ofNat FormatRecord.size) ∧
      session.memory.holds out FormatRecord.size = true) ∧
    final = { session with
      memory := session.memory.put out (recordBytes FormatRecord.size format.fields) }

/-- What the guest finds in the block of a palette. -/
structure PaletteDescribed (session : Session) (handle : Handle)
    (palette : Palette) (vtable : Nat) :
    Prop where
  table : session.vtables.table? .palette = some vtable
  narrow : vtable < addressSpace ∧ handle.number < addressSpace ∧
    palette.object + Palette.blockSize < addressSpace
  sized : palette.entries.size ≤ Palette.slots
  /-- Entries are colours and nothing else. -/
  toned : ∀ (index : Nat) colour, palette.entries[index]? = some colour → colour.toNat < 0x1000000
  block : session.HoldsPalette handle palette vtable

/-- All that the guest is told of surfaces and palettes is what is kept of them. -/
structure BlocksCurrent (session : Session) : Prop where
  surfaces : ∀ handle surface, session.objects.surface? handle = some surface →
    ∃ vtable format, SurfaceDescribed session handle surface vtable format
  palettes : ∀ handle palette, session.objects.palette? handle = some palette →
    ∃ vtable, PaletteDescribed session handle palette vtable

theorem Session.HoldsSurface.described {handle : Handle} {surface : Surface} {vtable : Nat}
    {format : FormatRecord} (held : session.HoldsSurface handle surface vtable format)
    (live : session.objects.surface? handle = some surface) (small : vtable < addressSpace) :
    SurfaceDescribed session handle surface vtable format where
  table := held.table
  known := held.known
  narrow := ⟨small, held.number, held.narrow⟩
  block := held.holdsRecord
  pixels := by
    refine Memory.readDword_of_bytes fun index less => ?_
    have zero : ∀ index, index < 4 → some 0 = (LittleEndian.ofDword 0)[index]? := by decide
    have eight : Block.dataOffset = 8 := rfl
    have place : Descriptor.pixelsOffset = 0x24 := rfl
    have rest : session.memory.byte? (surface.object + (8 + 0x24 + index)) = some 0 := by
      refine held.holdsRecord.rest _ (show 8 + 0x24 + index < 8 + 0x7C by omega) fun field member => ?_
      rcases List.mem_cons.mp member with rfl | member
      · exact fun covers => absurd covers.2 (show ¬ 8 + 0x24 + index < 0 + 4 by omega)
      · rcases List.mem_cons.mp member with rfl | member
        · exact fun covers => absurd covers.2 (show ¬ 8 + 0x24 + index < 4 + 4 by omega)
        · obtain ⟨told, there, rfl⟩ := List.mem_map.mp member
          have clear := Descriptor.pixels_clear _ told there
          dsimp only
          omega
    rw [Surface.descriptor, eight, place,
      show surface.object + 8 + 0x24 + index = surface.object + (8 + 0x24 + index) by omega, rest]
    exact zero index less
  descriptor _ _ := held.getSurfaceDesc_eq_ok_iff live
  caps _ _ := held.getCaps_eq_ok_iff live
  format _ _ := held.getPixelFormat_eq_ok_iff live

theorem Reflected.blocksCurrent (reflected : Reflected (fun _ => False) session) :
    BlocksCurrent session where
  surfaces handle surface live := by
    obtain ⟨vtable, format, small, held⟩ := reflected.holdsSurface live
    exact ⟨vtable, format, held.described live small⟩
  palettes handle palette there := by
    obtain ⟨toned, backed, narrow, number, vtable, has, before, right⟩ :=
      reflected.palettes handle palette there
    have sized := reflected.arranged.roomy handle palette there
    have below : palette.block.address < palette.block.stop :=
      Nat.lt_add_of_pos_right (show 0 < Palette.blockSize by decide)
    refine ⟨vtable, has, ⟨by omega, number, narrow⟩, sized, toned, ?_⟩
    exact Session.holdsPalette_of_bytes sized fun offset inside =>
      (right offset inside).resolve_right id

/-- **What the guest is told is what is kept** in every state that a session comes to while nothing
is stored on the blocks of its surfaces and palettes on account of the guest, whatever is called and
whatever fails. -/
theorem blocks_current (memory : Memory) {heapBase heapSize videoBase videoSize : Nat}
    (inSpace : heapBase < addressSpace)
    (disjoint : ∀ point, heapBase ≤ point → point < rangeLimit heapBase heapSize →
      videoBase ≤ point → rangeLimit videoBase videoSize ≤ point)
    (stubs : StubTable) (firstHandle : Nat) (mode : DisplayMode) (chain : FlipChain)
    (acts : List Act)
    (heeds : (Session.start memory (.ofRange heapBase heapSize) (.ofRange videoBase videoSize) stubs
      firstHandle mode chain).Heeds Use.Block acts) :
    BlocksCurrent ((Session.start memory (.ofRange heapBase heapSize) (.ofRange videoBase videoSize)
      stubs firstHandle mode chain).through acts) := by
  have arranged := arranged_start memory inSpace disjoint stubs firstHandle mode chain
  have reflected : Reflected (fun _ => False) (.start memory (.ofRange heapBase heapSize)
      (.ofRange videoBase videoSize) stubs firstHandle mode chain) :=
    ⟨arranged, fun _ _ live => (nomatch live), fun _ _ there => nomatch there⟩
  exact (Reflected.tended.through reflected heeds).blocksCurrent

/-- A surface comes, and its block is told. -/
theorem blocks_current_one_pixel :
    0x70 < addressSpace ∧
      (∀ point, 0x70 ≤ point → point < rangeLimit 0x70 0x140 → 0x10000 ≤ point →
        rangeLimit 0x10000 0x10000 ≤ point) ∧
      onePixel.Heeds Use.Block [.call (.createSurface 4 4)] ∧
      BlocksCurrent (onePixel.through [.call (.createSurface 4 4)]) := by
  have heeds : onePixel.Heeds Use.Block [.call (.createSurface 4 4)] := by
    refine sited_one_pixel.heeds_cons ?_ trivial
    rintro point ⟨_, target, ⟨⟩, ⟨⟩, ⟨-, below⟩, -⟩
    exact beyond_one_pixel below
  exact ⟨by decide, disjoint_one_pixel, heeds,
    blocks_current _ (by decide) disjoint_one_pixel _ _ _ _ _ heeds⟩

end GuestDraw
