/-
**Records in guest memory.**

A record is zero but for its fields, each of which is a dword at an offset. Fields that do not
overlap are read back one by one, and no byte between them is anything but zero.

* `Memory.read_of_bytes`: memory with the right bytes is read as these bytes;
* `getElem?_recordBytes_field`, `getElem?_recordBytes_rest`: the bytes of a record;
* `Memory.HoldsRecord`: a record in memory, `holdsRecord_of_bytes`: memory with its bytes holds it.
-/

import GuestDraw.Interface.Descriptor
import Mathlib.Data.List.Pairwise

namespace GuestDraw

namespace Memory

variable {memory : Memory} {address : Nat}

/-- Memory that has bytes at all backs them. -/
theorem holds_of_bytes {data : List UInt8} (nonempty : data ≠ [])
    (bytes : ∀ offset, offset < data.length → memory.byte? (address + offset) = data[offset]?) :
    memory.holds address data.length = true := by
  have length : 0 < data.length := List.length_pos_iff.mpr nonempty
  have there : ∀ offset, offset < data.length →
      memory.base ≤ address + offset ∧ address + offset - memory.base < memory.bytes.size := by
    intro offset inside
    have byte := bytes offset inside
    rw [List.getElem?_eq_getElem inside] at byte
    unfold byte? at byte
    split at byte
    · next above => exact ⟨above, (Array.getElem?_eq_some_iff.mp byte).1⟩
    · cases byte
  have first := there 0 length
  have last := there (data.length - 1) (by omega)
  exact holds_iff.mpr ⟨by omega, by omega⟩

/-- Memory with the right bytes is read as these bytes. -/
theorem read_of_bytes {data : List UInt8} (nonempty : data ≠ [])
    (bytes : ∀ offset, offset < data.length → memory.byte? (address + offset) = data[offset]?) :
    memory.read address data.length = .ok data := by
  have backed := holds_of_bytes nonempty bytes
  have same : memory.slice address data.length = data := by
    refine List.ext_getElem? fun offset => ?_
    by_cases inside : offset < data.length
    · rw [getElem?_slice backed inside, bytes offset inside]
    · rw [List.getElem?_eq_none (by rw [length_slice backed]; omega),
        List.getElem?_eq_none (by omega)]
  rw [read, check_eq_ok_iff.mpr backed, same]
  rfl

theorem readDword_of_bytes {word : UInt32}
    (bytes : ∀ offset, offset < 4 →
      memory.byte? (address + offset) = (LittleEndian.ofDword word)[offset]?) :
    memory.readDword address = .ok word := by
  have length := LittleEndian.length_ofDword word
  have taken : memory.read address _ = .ok (LittleEndian.ofDword word) :=
    read_of_bytes (List.ne_nil_of_length_pos (by rw [length]; decide)) (length.symm ▸ bytes)
  rw [length] at taken
  rw [readDword, taken]
  exact congrArg Except.ok (LittleEndian.dword_ofDword word)

end Memory

/-! ### Records -/

/-- One of two fields ends before the other one begins. -/
def FieldsApart (first second : Nat × UInt32) : Prop :=
  first.1 + 4 ≤ second.1 ∨ second.1 + 4 ≤ first.1

instance : DecidableRel FieldsApart := fun first second =>
  inferInstanceAs (Decidable (first.1 + 4 ≤ second.1 ∨ second.1 + 4 ≤ first.1))

section Record

variable {size : Nat} {fields : List (Nat × UInt32)}

/-- Cells with the dwords of fields laid over them. -/
def layFields (cells : Array UInt8) (fields : List (Nat × UInt32)) : Array UInt8 :=
  fields.foldl (fun bytes field => overwrite bytes field.1 (LittleEndian.ofDword field.2)) cells

theorem layFields_nil (cells : Array UInt8) : layFields cells [] = cells := rfl

theorem layFields_cons (cells : Array UInt8) (field : Nat × UInt32) (rest : List (Nat × UInt32)) :
    layFields cells (field :: rest) =
      layFields (overwrite cells field.1 (LittleEndian.ofDword field.2)) rest := rfl

theorem layFields_append (cells : Array UInt8) (first second : List (Nat × UInt32)) :
    layFields cells (first ++ second) = layFields (layFields cells first) second :=
  List.foldl_append

theorem recordBytes_eq (size : Nat) (fields : List (Nat × UInt32)) :
    recordBytes size fields = (layFields (Array.replicate size 0) fields).toList := rfl

theorem size_layFields (cells : Array UInt8) (fields : List (Nat × UInt32)) :
    (layFields cells fields).size = cells.size := by
  induction fields generalizing cells with
  | nil => rfl
  | cons field rest ih => rw [layFields_cons, ih, size_overwrite]

theorem length_recordBytes (size : Nat) (fields : List (Nat × UInt32)) :
    (recordBytes size fields).length = size := by
  rw [recordBytes_eq, Array.length_toList, size_layFields, Array.size_replicate]

/-- Fields leave all bytes alone that none of them covers. -/
theorem getElem?_layFields {cells : Array UInt8} {place : Nat}
    (fits : ∀ field ∈ fields, field.1 + 4 ≤ cells.size)
    (clear : ∀ field ∈ fields, ¬ (field.1 ≤ place ∧ place < field.1 + 4)) :
    (layFields cells fields)[place]? = cells[place]? := by
  induction fields generalizing cells with
  | nil => rfl
  | cons field rest ih =>
    have own := fits field (.head _)
    rw [layFields_cons, ih (fun other later => by
        rw [size_overwrite]
        exact fits other (.tail _ later)) fun other later => clear other (.tail _ later),
      getElem?_overwrite (by rw [LittleEndian.length_ofDword]; exact own),
      LittleEndian.length_ofDword, if_neg (clear field (.head _))]

/-- Between its fields a record is zero. -/
theorem getElem?_recordBytes_rest (fits : ∀ field ∈ fields, field.1 + 4 ≤ size) {place : Nat}
    (inside : place < size)
    (clear : ∀ field ∈ fields, ¬ (field.1 ≤ place ∧ place < field.1 + 4)) :
    (recordBytes size fields)[place]? = some 0 := by
  rw [recordBytes_eq, Array.getElem?_toList,
    getElem?_layFields (by rwa [Array.size_replicate]) clear, Array.getElem?_replicate,
    if_pos inside]

/-- The bytes of a field are those of its dword. -/
theorem getElem?_recordBytes_field (fits : ∀ field ∈ fields, field.1 + 4 ≤ size)
    (apart : fields.Pairwise FieldsApart) {field : Nat × UInt32} (member : field ∈ fields)
    {index : Nat} (small : index < 4) :
    (recordBytes size fields)[field.1 + index]? = (LittleEndian.ofDword field.2)[index]? := by
  have laid : ∀ cells : Array UInt8, (∀ field ∈ fields, field.1 + 4 ≤ cells.size) →
      (layFields cells fields)[field.1 + index]? = (LittleEndian.ofDword field.2)[index]? := by
    clear fits
    induction fields with
    | nil => cases member
    | cons first rest ih =>
      intro cells fits
      have fitsRest : ∀ field ∈ rest, field.1 + 4 ≤
          (overwrite cells first.1 (LittleEndian.ofDword first.2)).size := by
        intro other later
        rw [size_overwrite]
        exact fits other (.tail _ later)
      rw [layFields_cons]
      rcases List.mem_cons.mp member with rfl | later
      · -- The fields that come later leave this one alone.
        have own := fits field (.head _)
        rw [getElem?_layFields fitsRest, getElem?_overwrite, LittleEndian.length_ofDword,
          if_pos ⟨Nat.le_add_right _ _, by omega⟩, Nat.add_sub_cancel_left]
        · rw [LittleEndian.length_ofDword]
          exact own
        · intro other later
          have apart := List.rel_of_pairwise_cons apart later
          unfold FieldsApart at apart
          omega
      · exact ih apart.of_cons later _ fitsRest
  rw [recordBytes_eq, Array.getElem?_toList]
  exact laid _ (by rwa [Array.size_replicate])

/-- A part of a record is a record with the fields that lie in it. -/
theorem getElem?_recordBytes_part (fits : ∀ field ∈ fields, field.1 + 4 ≤ size)
    (apart : fields.Pairwise FieldsApart) {inner : List (Nat × UInt32)} {length shift : Nat}
    (fitsInner : ∀ field ∈ inner, field.1 + 4 ≤ length) (apartInner : inner.Pairwise FieldsApart)
    (within : shift + length ≤ size)
    (part : ∀ field ∈ inner, (shift + field.1, field.2) ∈ fields)
    (only : ∀ field ∈ fields, (∃ own ∈ inner, field = (shift + own.1, own.2)) ∨
      field.1 + 4 ≤ shift ∨ shift + length ≤ field.1) {place : Nat} (inside : place < length) :
    (recordBytes size fields)[shift + place]? = (recordBytes length inner)[place]? := by
  by_cases covered : ∃ field ∈ inner, field.1 ≤ place ∧ place < field.1 + 4
  · obtain ⟨field, member, above, below⟩ := covered
    obtain ⟨index, rfl⟩ := Nat.exists_eq_add_of_le above
    have small : index < 4 := by omega
    rw [← Nat.add_assoc, getElem?_recordBytes_field fits apart (part field member) small,
      getElem?_recordBytes_field fitsInner apartInner member small]
  · have clear : ∀ field ∈ inner, ¬ (field.1 ≤ place ∧ place < field.1 + 4) :=
      fun field member covers => covered ⟨field, member, covers⟩
    rw [getElem?_recordBytes_rest fitsInner inside clear,
      getElem?_recordBytes_rest fits (by omega)]
    intro field member
    rcases only field member with ⟨own, mine, rfl⟩ | before | behind
    · have missed := clear own mine
      dsimp only
      omega
    · omega
    · omega

end Record

/-! ### Descriptors -/

/-- Whether fields overlap is a matter of their offsets. -/
theorem fields_apart_of_offsets {fields : List (Nat × UInt32)}
    (apart : (fields.map Prod.fst).Pairwise fun one other => one + 4 ≤ other ∨ other + 4 ≤ one) :
    fields.Pairwise FieldsApart := by
  rw [List.pairwise_map] at apart
  exact apart

theorem FormatRecord.fields_fit (format : FormatRecord) (field : Nat × UInt32)
    (member : field ∈ format.fields) : field.1 + 4 ≤ FormatRecord.size := by
  have offsets : ∀ offset ∈ format.fields.map Prod.fst, offset + 4 ≤ FormatRecord.size := by
    show ∀ offset ∈ [0x00, 0x04, 0x0C, 0x10, 0x14, 0x18, 0x1C], offset + 4 ≤ 0x20
    decide
  exact offsets _ (List.mem_map_of_mem member)

theorem FormatRecord.fields_apart (format : FormatRecord) : format.fields.Pairwise FieldsApart := by
  refine fields_apart_of_offsets ?_
  show List.Pairwise _ [0x00, 0x04, 0x0C, 0x10, 0x14, 0x18, 0x1C]
  decide

namespace Descriptor

variable (descriptor : Descriptor)

/-- The fields fit in either layout. -/
theorem fields_fit (field : Nat × UInt32) (member : field ∈ descriptor.fields) :
    field.1 + 4 ≤ descriptorSize descriptor.extended := by
  have offsets : ∀ offset ∈ descriptor.fields.map Prod.fst, offset + 4 ≤ 0x6C := by
    show ∀ offset ∈ [0x00, 0x04, 0x08, 0x0C, 0x10, 0x14, 0x48, 0x4C, 0x54, 0x58, 0x5C, 0x60, 0x64, 0x68],
      offset + 4 ≤ 0x6C
    decide
  have small := offsets _ (List.mem_map_of_mem member)
  unfold descriptorSize
  split <;> omega

theorem fields_apart : descriptor.fields.Pairwise FieldsApart := by
  refine fields_apart_of_offsets ?_
  show List.Pairwise _
    [0x00, 0x04, 0x08, 0x0C, 0x10, 0x14, 0x48, 0x4C, 0x54, 0x58, 0x5C, 0x60, 0x64, 0x68]
  decide

/-- No field covers the address of the pixels. -/
theorem pixels_clear (field : Nat × UInt32) (member : field ∈ descriptor.fields) :
    field.1 + 4 ≤ pixelsOffset ∨ pixelsOffset + 4 ≤ field.1 := by
  have offsets : ∀ offset ∈ descriptor.fields.map Prod.fst, offset + 4 ≤ 0x24 ∨ 0x28 ≤ offset := by
    show ∀ offset ∈ [0x00, 0x04, 0x08, 0x0C, 0x10, 0x14, 0x48, 0x4C, 0x54, 0x58, 0x5C, 0x60, 0x64, 0x68],
      offset + 4 ≤ 0x24 ∨ 0x28 ≤ offset
    decide
  exact offsets _ (List.mem_map_of_mem member)

/-- A field stands before the pixel format, is one of those of the pixel format, or holds the
capabilities. -/
theorem field_cases {field : Nat × UInt32} (member : field ∈ descriptor.fields) :
    field.1 + 4 ≤ formatOffset ∨
      (∃ own ∈ descriptor.format.fields, field = (formatOffset + own.1, own.2)) ∨
        field = (capsOffset, descriptor.caps.bits) := by
  rcases List.mem_append.mp member with member | last
  · rcases List.mem_append.mp member with first | inner
    · refine .inl ?_
      have offsets : ∀ offset ∈ [0x00, 0x04, 0x08, 0x0C, 0x10, 0x14], offset + 4 ≤ 0x48 := by decide
      exact offsets _ (List.mem_map_of_mem (f := Prod.fst) first)
    · obtain ⟨own, mine, rfl⟩ := List.mem_map.mp inner
      exact .inr (.inl ⟨own, mine, rfl⟩)
  · exact .inr (.inr (List.mem_singleton.mp last))

end Descriptor

/-! ### Records in memory -/

/-- The `size` bytes from `address` on are a record with the given fields. -/
structure Memory.HoldsRecord (memory : Memory) (address size : Nat) (fields : List (Nat × UInt32)) :
    Prop where
  field : ∀ offset word, (offset, word) ∈ fields → memory.readDword (address + offset) = .ok word
  rest : ∀ offset, offset < size →
    (∀ field ∈ fields, ¬ (field.1 ≤ offset ∧ offset < field.1 + 4)) →
      memory.byte? (address + offset) = some 0

/-- Memory with the bytes of a record holds it. -/
theorem Memory.holdsRecord_of_bytes {memory : Memory} {address size : Nat}
    {fields : List (Nat × UInt32)} (fits : ∀ field ∈ fields, field.1 + 4 ≤ size)
    (apart : fields.Pairwise FieldsApart)
    (bytes : ∀ offset, offset < size →
      memory.byte? (address + offset) = (recordBytes size fields)[offset]?) :
    memory.HoldsRecord address size fields where
  field offset word member := by
    have inside := fits _ member
    refine readDword_of_bytes fun index small => ?_
    have byte := bytes (offset + index) (by dsimp only at inside; omega)
    rw [getElem?_recordBytes_field fits apart member small] at byte
    rw [Nat.add_assoc, byte]
  rest offset inside clear := by
    rw [bytes offset inside, getElem?_recordBytes_rest fits inside clear]

end GuestDraw
