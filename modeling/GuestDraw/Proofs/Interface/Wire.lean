/-
**Descriptors, field by field.**

A descriptor is stored by clearing its bytes and storing one field after the other; the pixel
format, which is a part of it, clears its own bytes again before it stores its fields. A store that
fails leaves what was stored before it. Here that is followed store by store, and it comes to the
same as storing the bytes of the record at once: only the first of the stores can fail, and no field
covers a part of another one.

* `Memory.run`, `storeFields`, `FormatRecord.store`, `Descriptor.store`: the stores, on a memory
  that changes;
* `Memory.put_within`: a store into bytes that were just stored;
* `FormatRecord.store_eq`, `Descriptor.store_eq`: all stores together;
* `Memory.HasDword`, `Memory.Records`: a record in memory, byte by byte;
* `WireFormat`, `wire_format`: what the guest finds there, and what is read back.
-/

import GuestDraw.Proofs.Interface.Records

namespace GuestDraw

/-! ### Stores -/

namespace Memory

/-- Makes a change of memory. One that fails leaves memory as it is. -/
def run (change : Memory → Except MemoryError Memory) : EStateM MemoryError Memory Unit :=
  fun memory =>
    match change memory with
    | .ok after => .ok () after
    | .error cause => .error cause memory

/-- Sets `length` bytes from `address` on to zero. -/
def clear (address length : Nat) : EStateM MemoryError Memory Unit := run (·.fill address length 0)

/-- Stores a dword at `address`. -/
def storeDword (address : Nat) (word : UInt32) : EStateM MemoryError Memory Unit :=
  run (·.writeDword address word)

/-- Stores the fields of the record at `address` one after the other. -/
def storeFields (address : Nat) : List (Nat × UInt32) → EStateM MemoryError Memory Unit
  | [] => pure ()
  | (offset, word) :: rest => do
    storeDword (address + offset) word
    storeFields address rest

end Memory

/-- Stores the record at `address`, field by field. -/
def FormatRecord.store (format : FormatRecord) (address : Nat) :
    EStateM MemoryError Memory Unit := do
  Memory.clear address size
  Memory.storeFields address format.fields

/-- The fields in front of the pixel format. -/
def Descriptor.front (descriptor : Descriptor) : List (Nat × UInt32) :=
  [(sizeOffset, UInt32.ofNat (descriptorSize descriptor.extended)),
    (flagsOffset, descriptor.flags.bits), (heightOffset, descriptor.height),
    (widthOffset, descriptor.width), (pitchOffset, descriptor.pitch),
    (backBufferCountOffset, descriptor.backBufferCount)]

/-- Stores the record at `address`, field by field. -/
def Descriptor.store (descriptor : Descriptor) (address : Nat) :
    EStateM MemoryError Memory Unit := do
  Memory.clear address (descriptorSize descriptor.extended)
  Memory.storeFields address descriptor.front
  descriptor.format.store (address + formatOffset)
  Memory.storeDword (address + capsOffset) descriptor.caps.bits

/-! ### Stores into stored bytes -/

theorem overwrite_within {α : Type} {cells inner : Array α} {offset place : Nat} {data : List α}
    (fits : offset + inner.size ≤ cells.size) (inside : place + data.length ≤ inner.size) :
    overwrite (overwrite cells offset inner.toList) (offset + place) data =
      overwrite cells offset (overwrite inner place data).toList := by
  apply Array.ext_getElem?
  intro index
  have length : (overwrite inner place data).toList.length = inner.size := by
    rw [Array.length_toList, size_overwrite]
  have own : inner.toList.length = inner.size := Array.length_toList
  rw [getElem?_overwrite (by rw [size_overwrite]; omega), getElem?_overwrite (own.symm ▸ fits),
    getElem?_overwrite (length.symm ▸ fits), length, own]
  by_cases here : offset ≤ index ∧ index < offset + inner.size
  · have laid : (overwrite inner place data).toList[index - offset]? = _ :=
      Array.getElem?_toList.trans (getElem?_overwrite inside _)
    have spared : inner.toList[index - offset]? = inner[index - offset]? := Array.getElem?_toList
    rw [if_pos here, if_pos here, laid, spared]
    by_cases covered : offset + place ≤ index ∧ index < offset + place + data.length
    · rw [if_pos covered, if_pos (by omega), Nat.sub_sub]
    · rw [if_neg covered, if_neg (by omega)]
  · rw [if_neg here, if_neg here, if_neg (by omega)]

namespace Memory

variable {memory : Memory} {address offset : Nat} {cells : Array UInt8}

/-- A store into bytes that were just stored. -/
theorem put_within {data : List UInt8} (backed : memory.holds address cells.size = true)
    (inside : offset + data.length ≤ cells.size) :
    (memory.put address cells.toList).put (address + offset) data =
      memory.put address (overwrite cells offset data).toList := by
  obtain ⟨above, fits⟩ := holds_iff.mp backed
  refine Memory.ext rfl ?_
  show overwrite (overwrite memory.bytes (address - memory.base) cells.toList)
    (address + offset - memory.base) data = _
  rw [Nat.sub_add_comm above, overwrite_within fits inside]
  rfl

theorem holds_within (backed : memory.holds address cells.size = true) {length : Nat}
    (inside : offset + length ≤ cells.size) :
    (memory.put address cells.toList).holds (address + offset) length = true := by
  rw [holds_put]
  rw [holds_iff] at backed ⊢
  omega

theorem clear_eq (memory : Memory) (address length : Nat) :
    clear address length memory = if memory.holds address length then
      .ok () (memory.put address (Array.replicate length 0).toList)
    else .error (.outOfRange address length) memory := by
  unfold clear run
  dsimp only
  rw [fill_eq, Array.toList_replicate]
  cases memory.holds address length <;> rfl

theorem clear_within (backed : memory.holds address cells.size = true) {length : Nat}
    (inside : offset + length ≤ cells.size) :
    clear (address + offset) length (memory.put address cells.toList) =
      .ok () (memory.put address (overwrite cells offset (List.replicate length 0)).toList) := by
  rw [clear_eq, if_pos (holds_within backed inside), Array.toList_replicate,
    put_within backed (by rwa [List.length_replicate])]

theorem storeDword_within (backed : memory.holds address cells.size = true)
    (inside : offset + 4 ≤ cells.size) (word : UInt32) :
    storeDword (address + offset) word (memory.put address cells.toList) =
      .ok () (memory.put address (overwrite cells offset (LittleEndian.ofDword word)).toList) := by
  have length := LittleEndian.length_ofDword word
  unfold storeDword run writeDword
  dsimp only
  rw [write_eq, length, if_pos (holds_within backed inside),
    put_within backed (length.symm ▸ inside)]

theorem storeFields_within (backed : memory.holds address cells.size = true)
    {fields : List (Nat × UInt32)} (fits : ∀ field ∈ fields, offset + field.1 + 4 ≤ cells.size) :
    storeFields (address + offset) fields (memory.put address cells.toList) =
      .ok () (memory.put address
        (layFields cells (fields.map fun field => (offset + field.1, field.2))).toList) := by
  induction fields generalizing cells with
  | nil => rfl
  | cons field rest ih =>
    have stored := storeDword_within backed (fits field (.head _)) field.2
    have backed : memory.holds address
        (overwrite cells (offset + field.1) (LittleEndian.ofDword field.2)).size = true := by
      rwa [size_overwrite]
    have later := ih backed fun other member => by
      rw [size_overwrite]
      exact fits other (.tail _ member)
    show EStateM.bind (storeDword (address + offset + field.1) field.2) _ _ = _
    rw [Nat.add_assoc]
    simp only [EStateM.bind, stored]
    rw [later, List.map_cons, layFields_cons]

end Memory

/-- Cells that are zero are left alone when they are cleared. -/
theorem overwrite_zero {cells : Array UInt8} {offset length : Nat}
    (fits : offset + length ≤ cells.size)
    (zero : ∀ place, offset ≤ place → place < offset + length → cells[place]? = some 0) :
    overwrite cells offset (List.replicate length 0) = cells := by
  apply Array.ext_getElem?
  intro place
  rw [getElem?_overwrite (by rwa [List.length_replicate]), List.length_replicate]
  split
  · next inside =>
    rw [zero place inside.1 inside.2, List.getElem?_replicate, if_pos (by omega)]
  · rfl

/-! ### All stores together -/

namespace Memory

variable {memory : Memory} {address size : Nat}

theorem run_write (memory : Memory) (address : Nat) (data : List UInt8) :
    run (·.write address data) memory = if memory.holds address data.length then
      .ok () (memory.put address data) else .error (.outOfRange address data.length) memory := by
  unfold run
  dsimp only
  rw [write_eq]
  cases memory.holds address data.length <;> rfl

theorem then_ok {first second : EStateM MemoryError Memory Unit} {start middle : Memory}
    (stored : first start = .ok () middle) : (do first; second) start = second middle := by
  show EStateM.bind _ _ start = _
  simp only [EStateM.bind, stored]

/-- The fields of a record are stored where its bytes are cleared. -/
theorem storeFields_cleared (backed : memory.holds address size = true)
    {fields : List (Nat × UInt32)} (fits : ∀ field ∈ fields, field.1 + 4 ≤ size) :
    storeFields address fields (memory.put address (Array.replicate size 0).toList) =
      .ok () (memory.put address (recordBytes size fields)) := by
  have length : (Array.replicate size (0 : UInt8)).size = size := Array.size_replicate
  have inside : ∀ field ∈ fields, 0 + field.1 + 4 ≤ (Array.replicate size (0 : UInt8)).size := by
    intro field member
    rw [length, Nat.zero_add]
    exact fits field member
  have stored := storeFields_within (length.symm ▸ backed) inside
  simpa only [Nat.add_zero, Nat.zero_add, List.map_id', recordBytes_eq] using stored

end Memory

/-- Storing the record field by field is storing its bytes at once. -/
theorem FormatRecord.store_eq (format : FormatRecord) (memory : Memory) (address : Nat) :
    format.store address memory = Memory.run (format.write · address) memory := by
  show EStateM.bind _ _ memory =
    Memory.run (·.write address (recordBytes size format.fields)) memory
  simp only [EStateM.bind, Memory.clear_eq, Memory.run_write, length_recordBytes]
  cases backed : memory.holds address size with
  | false => rfl
  | true => exact Memory.storeFields_cleared backed format.fields_fit

namespace Descriptor

variable (descriptor : Descriptor) {memory : Memory} {address : Nat}

/-- The fields of the pixel format, as fields of the descriptor. -/
def inner : List (Nat × UInt32) :=
  descriptor.format.fields.map fun field => (formatOffset + field.1, field.2)

theorem front_fits (field : Nat × UInt32) (member : field ∈ descriptor.front) :
    field.1 + 4 ≤ formatOffset := by
  have offsets : ∀ offset ∈ [0x00, 0x04, 0x08, 0x0C, 0x10, 0x14], offset + 4 ≤ formatOffset := by
    decide
  exact offsets _ (List.mem_map_of_mem (f := Prod.fst) member)

/-- The pixel format clears bytes that are clear, and stores its fields. -/
theorem storeFormat_within {cells : Array UInt8} (backed : memory.holds address cells.size = true)
    (fits : formatOffset + FormatRecord.size ≤ cells.size)
    (zero : ∀ place, formatOffset ≤ place → place < formatOffset + FormatRecord.size →
      cells[place]? = some 0) :
    descriptor.format.store (address + formatOffset) (memory.put address cells.toList) =
      .ok () (memory.put address (layFields cells descriptor.inner).toList) := by
  show EStateM.bind _ _ _ = _
  simp only [EStateM.bind, Memory.clear_within backed fits, overwrite_zero fits zero]
  refine Memory.storeFields_within backed fun field member => ?_
  have own := descriptor.format.fields_fit field member
  omega

theorem fields_eq : descriptor.fields =
    descriptor.front ++ descriptor.inner ++ [(capsOffset, descriptor.caps.bits)] := rfl

/-- The fields of a descriptor are stored where its bytes are cleared. -/
theorem store_cleared {size : Nat} (backed : memory.holds address size = true)
    (fits : capsOffset + 4 ≤ size) :
    (do Memory.storeFields address descriptor.front
        descriptor.format.store (address + formatOffset)
        Memory.storeDword (address + capsOffset) descriptor.caps.bits)
      (memory.put address (Array.replicate size 0).toList) =
        .ok () (memory.put address (recordBytes size descriptor.fields)) := by
  have ends : formatOffset + FormatRecord.size = capsOffset := rfl
  have narrow (field : Nat × UInt32) (member : field ∈ descriptor.front) : field.1 + 4 ≤ size := by
    have before := descriptor.front_fits field member
    omega
  obtain ⟨fronted, laid⟩ : ∃ cells, layFields (Array.replicate size 0) descriptor.front = cells :=
    ⟨_, rfl⟩
  have sizeFront : fronted.size = size := by rw [← laid, size_layFields, Array.size_replicate]
  have sizeInner : (layFields fronted descriptor.inner).size = size := by
    rw [size_layFields, sizeFront]
  -- What stands in front of the pixel format leaves the bytes of that clear.
  have zero : ∀ place, formatOffset ≤ place → place < formatOffset + FormatRecord.size →
      fronted[place]? = some 0 := by
    intro place above below
    rw [← laid, getElem?_layFields, Array.getElem?_replicate, if_pos (by omega)]
    · rwa [Array.size_replicate]
    · intro field member
      have before := descriptor.front_fits field member
      omega
  refine (Memory.then_ok (Memory.storeFields_cleared backed narrow)).trans ?_
  rw [recordBytes_eq, laid]
  refine (Memory.then_ok (descriptor.storeFormat_within (sizeFront.symm ▸ backed) (by omega) zero)).trans ?_
  refine (Memory.storeDword_within (sizeInner.symm ▸ backed) (by omega) _).trans ?_
  rw [fields_eq, recordBytes_eq, layFields_append, layFields_append, laid,
    layFields_cons, layFields_nil]

/-- Storing the record field by field is storing its bytes at once. -/
theorem store_eq (memory : Memory) (address : Nat) :
    descriptor.store address memory = Memory.run (descriptor.write · address) memory := by
  show EStateM.bind _ _ memory =
    Memory.run (·.write address (recordBytes _ descriptor.fields)) memory
  simp only [EStateM.bind, Memory.clear_eq, Memory.run_write, length_recordBytes]
  cases backed : memory.holds address (descriptorSize descriptor.extended) with
  | false => rfl
  | true => exact descriptor.store_cleared backed (by cases descriptor.extended <;> decide)

end Descriptor

/-! ### Byte by byte -/

/-- The four bytes from `address` on are those of `word`, the least significant one first. -/
structure Memory.HasDword (memory : Memory) (address : Nat) (word : UInt32) : Prop where
  first : memory.byte? address = some (UInt8.ofNat word.toNat)
  second : memory.byte? (address + 1) = some (UInt8.ofNat (word.toNat / 0x100))
  third : memory.byte? (address + 2) = some (UInt8.ofNat (word.toNat / 0x10000))
  fourth : memory.byte? (address + 3) = some (UInt8.ofNat (word.toNat / 0x1000000))

theorem Memory.hasDword_iff {memory : Memory} {address : Nat} {word : UInt32} :
    memory.HasDword address word ↔ ∀ index, index < 4 →
      memory.byte? (address + index) = (LittleEndian.ofDword word)[index]? := by
  have third : word.toNat / 0x100 / 0x100 = word.toNat / 0x10000 := Nat.div_div_eq_div_mul ..
  have fourth : word.toNat / 0x100 / 0x100 / 0x100 = word.toNat / 0x1000000 := by
    rw [third, Nat.div_div_eq_div_mul]
  constructor
  · intro has index small
    match index with
    | 0 => exact has.first
    | 1 => exact has.second
    | 2 => exact has.third.trans (third ▸ rfl)
    | 3 => exact has.fourth.trans (fourth ▸ rfl)
  · intro bytes
    exact ⟨bytes 0 (by decide), bytes 1 (by decide), (bytes 2 (by decide)).trans (third ▸ rfl),
      (bytes 3 (by decide)).trans (fourth ▸ rfl)⟩

/-- A record was stored in the `size` bytes from `address` on: its fields are dwords at their
offsets, what lies between them is zero, and nothing else has changed. -/
structure Memory.Records (before after : Memory) (address size : Nat)
    (fields : List (Nat × UInt32)) :
    Prop where
  field : ∀ offset word, (offset, word) ∈ fields → after.HasDword (address + offset) word
  rest : ∀ offset, offset < size →
    (∀ field ∈ fields, ¬ (field.1 ≤ offset ∧ offset < field.1 + 4)) →
      after.byte? (address + offset) = some 0
  spared : ∀ point, ¬ (address ≤ point ∧ point < address + size) →
    after.byte? point = before.byte? point

theorem Memory.records_put {memory : Memory} {address size : Nat} {fields : List (Nat × UInt32)}
    (backed : memory.holds address size = true) (fits : ∀ field ∈ fields, field.1 + 4 ≤ size)
    (apart : fields.Pairwise FieldsApart) :
    memory.Records (memory.put address (recordBytes size fields)) address size fields := by
  have length := length_recordBytes size fields
  have stored := byte?_put (length.symm ▸ backed)
  rw [length] at stored
  have inside (offset : Nat) (small : offset < size) :
      (memory.put address (recordBytes size fields)).byte? (address + offset) =
        (recordBytes size fields)[offset]? := by
    rw [stored, if_pos (by omega), Nat.add_sub_cancel_left]
  refine ⟨fun offset word member => ?_, fun offset small clear => ?_, fun point outside => ?_⟩
  · have within : offset + 4 ≤ size := fits _ member
    refine hasDword_iff.mpr fun index small => ?_
    rw [Nat.add_assoc, inside _ (by omega), getElem?_recordBytes_field fits apart member small]
  · rw [inside offset small, getElem?_recordBytes_rest fits small clear]
  · rw [stored, if_neg outside]

/-- A store of a record fails before it has stored anything, or it stores the record. -/
structure StoresRecord (store : EStateM MemoryError Memory Unit) (memory : Memory)
    (address size : Nat)
    (fields : List (Nat × UInt32)) : Prop where
  succeeds : (∃ after, store memory = .ok () after) ↔ memory.holds address size = true
  failed : ∀ cause after, store memory = .error cause after → after = memory
  stored : ∀ after, store memory = .ok () after → memory.Records after address size fields

theorem storesRecord_of_eq {store : EStateM MemoryError Memory Unit} {memory : Memory}
    {address size : Nat} {fields : List (Nat × UInt32)}
    (atOnce : store memory = Memory.run (·.write address (recordBytes size fields)) memory)
    (fits : ∀ field ∈ fields, field.1 + 4 ≤ size) (apart : fields.Pairwise FieldsApart) :
    StoresRecord store memory address size fields := by
  rw [Memory.run_write, length_recordBytes] at atOnce
  cases backed : memory.holds address size with
  | false =>
    rw [backed, if_neg Bool.false_ne_true] at atOnce
    refine ⟨⟨fun ⟨_, ended⟩ => (nomatch atOnce.symm.trans ended),
      fun held => (nomatch backed.symm.trans held)⟩, fun _ _ ended => ?_,
      fun _ ended => (nomatch atOnce.symm.trans ended)⟩
    cases atOnce.symm.trans ended
    rfl
  | true =>
    rw [backed, if_pos rfl] at atOnce
    refine ⟨⟨fun _ => backed, fun _ => ⟨_, atOnce⟩⟩,
      fun _ _ ended => (nomatch atOnce.symm.trans ended), fun _ ended => ?_⟩
    cases atOnce.symm.trans ended
    exact Memory.records_put backed fits apart

/-! ### The layout -/

/-- The documented fields of a pixel format. -/
def FormatRecord.layout (format : FormatRecord) : List (Nat × UInt32) :=
  [(0x00, 32), (0x04, format.flags.bits), (0x0C, format.bitCount), (0x10, format.redMask),
    (0x14, format.greenMask), (0x18, format.blueMask), (0x1C, format.alphaMask)]

/-- The documented size of a descriptor. -/
def Descriptor.layoutSize (descriptor : Descriptor) : UInt32 :=
  if descriptor.extended then 124 else 108

/-- The documented fields of a descriptor. -/
def Descriptor.layout (descriptor : Descriptor) : List (Nat × UInt32) :=
  [(0x00, descriptor.layoutSize), (0x04, descriptor.flags.bits), (0x08, descriptor.height),
    (0x0C, descriptor.width), (0x10, descriptor.pitch),
      (0x14, descriptor.backBufferCount), (0x48, 32),
    (0x4C, descriptor.format.flags.bits), (0x54, descriptor.format.bitCount),
    (0x58, descriptor.format.redMask), (0x5C, descriptor.format.greenMask),
    (0x60, descriptor.format.blueMask), (0x64, descriptor.format.alphaMask),
    (0x68, descriptor.caps.bits)]

/-- What was written as a descriptor, as the guest's request for a surface reads it. -/
def Descriptor.request (descriptor : Descriptor) : Request :=
  ⟨descriptor.layoutSize, descriptor.flags, descriptor.width, descriptor.height,
    descriptor.backBufferCount, descriptor.caps⟩

theorem Descriptor.layout_eq (descriptor : Descriptor) : descriptor.layout = descriptor.fields := by
  unfold layout layoutSize fields descriptorSize
  cases descriptor.extended <;> rfl

section Reading

variable {before memory : Memory} {address : Nat}

theorem Memory.HasDword.readDword_eq {word : UInt32} (has : memory.HasDword address word) :
    memory.readDword address = .ok word :=
  readDword_of_bytes (hasDword_iff.mp has)

theorem FormatRecord.read_eq {format : FormatRecord}
    (fields : ∀ offset word, (offset, word) ∈ format.layout →
      memory.HasDword (address + offset) word) :
    FormatRecord.read memory address = .ok format := by
  have flags := (fields 0x04 format.flags.bits (by simp [layout])).readDword_eq
  have bitCount := (fields 0x0C format.bitCount (by simp [layout])).readDword_eq
  have red := (fields 0x10 format.redMask (by simp [layout])).readDword_eq
  have green := (fields 0x14 format.greenMask (by simp [layout])).readDword_eq
  have blue := (fields 0x18 format.blueMask (by simp [layout])).readDword_eq
  have alpha := (fields 0x1C format.alphaMask (by simp [layout])).readDword_eq
  simp only [read, flagsOffset, bitCountOffset, redOffset, greenOffset, blueOffset,
    alphaOffset, flags,
    bitCount, red, green, blue, alpha, bind, Except.bind, pure, Except.pure]

theorem Request.read_eq {descriptor : Descriptor}
    (fields : ∀ offset word, (offset, word) ∈ descriptor.layout →
      memory.HasDword (address + offset) word) :
    Request.read memory address = .ok descriptor.request := by
  have size := (fields 0x00 descriptor.layoutSize (by simp [Descriptor.layout])).readDword_eq
  have flags := (fields 0x04 descriptor.flags.bits (by simp [Descriptor.layout])).readDword_eq
  have height := (fields 0x08 descriptor.height (by simp [Descriptor.layout])).readDword_eq
  have width := (fields 0x0C descriptor.width (by simp [Descriptor.layout])).readDword_eq
  have count := (fields 0x14 descriptor.backBufferCount (by simp [Descriptor.layout])).readDword_eq
  have caps := (fields 0x68 descriptor.caps.bits (by simp [Descriptor.layout])).readDword_eq
  simp only [read, Descriptor.sizeOffset, Descriptor.flagsOffset, Descriptor.heightOffset,
    Descriptor.widthOffset, Descriptor.backBufferCountOffset, Descriptor.capsOffset, size, flags,
    height, width, count, caps, bind, Except.bind, pure, Except.pure, Descriptor.request]

/-- The fields of the pixel format lie in the descriptor. -/
theorem Descriptor.inner_layout {descriptor : Descriptor} {offset : Nat} {word : UInt32}
    (member : (offset, word) ∈ descriptor.format.layout) :
    (0x48 + offset, word) ∈ descriptor.layout := by
  rw [layout_eq, fields_eq]
  exact List.mem_append_left _ (List.mem_append_right _ (List.mem_map_of_mem member))

end Reading

/-- What the guest finds where a descriptor and a pixel format were stored. -/
structure WireFormat (descriptor : Descriptor) (format : FormatRecord) (memory : Memory)
    (address : Nat) : Prop where
  /-- `write` is `store` without the steps. -/
  descriptorWrite : descriptor.store address memory = Memory.run (descriptor.write · address) memory
  formatWrite : format.store address memory = Memory.run (format.write · address) memory
  descriptorStored : StoresRecord (descriptor.store address) memory address
    (if descriptor.extended then 124 else 108) descriptor.layout
  formatStored : StoresRecord (format.store address) memory address 32 format.layout
  request : ∀ after, descriptor.store address memory = .ok () after →
    Request.read after address = .ok descriptor.request
  inner : ∀ after, descriptor.store address memory = .ok () after →
    FormatRecord.read after (address + 0x48) = .ok descriptor.format
  format : ∀ after, format.store address memory = .ok () after →
    FormatRecord.read after address = .ok format

/-- **Descriptors have their documented layout.** Storing one either fails and changes nothing, or
it sets the bytes of the record: each field is a dword at its offset, all other bytes of it are
zero, and what is read back is what was stored. So it is with pixel formats alone. -/
theorem wire_format (descriptor : Descriptor) (format : FormatRecord) (memory : Memory)
    (address : Nat) : WireFormat descriptor format memory address := by
  have size : (if descriptor.extended then 124 else 108) = descriptorSize descriptor.extended := rfl
  have stored : StoresRecord (descriptor.store address) memory address
      (if descriptor.extended then 124 else 108) descriptor.layout := by
    rw [size, descriptor.layout_eq]
    exact storesRecord_of_eq (descriptor.store_eq memory address) descriptor.fields_fit
      descriptor.fields_apart
  have storedFormat : StoresRecord (format.store address) memory address 32 format.layout :=
    storesRecord_of_eq (format.store_eq memory address) format.fields_fit format.fields_apart
  refine ⟨descriptor.store_eq memory address, format.store_eq memory address, stored, storedFormat,
    fun after ended => Request.read_eq (stored.stored after ended).field, fun after ended => ?_,
    fun after ended => FormatRecord.read_eq (storedFormat.stored after ended).field⟩
  refine FormatRecord.read_eq fun offset word member => ?_
  rw [Nat.add_assoc]
  exact (stored.stored after ended).field _ _ (Descriptor.inner_layout member)

end GuestDraw
