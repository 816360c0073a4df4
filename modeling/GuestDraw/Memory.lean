/-
**Guest memory.**

A `Memory` is one window of the guest's address space, backed byte by byte. Every access names a
first address and a length and is checked as a whole before a byte moves, so an access that fails
changes nothing and nothing wraps around the top of the address space.

* `byte?` is the view: the byte at an address, if the window backs it;
* `byte?_put`: a store replaces exactly the bytes it covers;
* `getElem?_slice`: what a read returns is the view at consecutive addresses.

Numbers are little-endian and need no alignment. `move` copies as if through a buffer, so the two
ranges may overlap.
-/

import GuestDraw.Memory.Error
import GuestDraw.Memory.LittleEndian
import GuestDraw.Overwrite

namespace GuestDraw

/-- The bytes from `base` on, fewer of them than there are addresses. -/
@[ext]
structure Memory where
  base : Nat
  bytes : Array UInt8
  short : bytes.size < addressSpace

namespace Memory

/-- A window of `size` zero bytes, or of as many as there can be. -/
def zeroed (base size : Nat) : Memory where
  base := base
  bytes := Array.replicate (min size (addressSpace - 1)) 0
  short := by
    rw [Array.size_replicate]
    exact Nat.lt_of_le_of_lt (Nat.min_le_right _ _) (by decide)

/-- How many bytes the window backs. -/
def size (memory : Memory) : Nat := memory.bytes.size

/-- The byte at `address`, if the window backs it. -/
def byte? (memory : Memory) (address : Nat) : Option UInt8 :=
  if memory.base ≤ address then memory.bytes[address - memory.base]? else none

/-- The byte at `address`, zero outside the window. -/
def byteAt (memory : Memory) (address : Nat) : UInt8 := (memory.byte? address).getD 0

/-- Memories that have the same bytes are the same. -/
theorem ext_byte? {first second : Memory} (base : second.base = first.base)
    (bytes : ∀ point, second.byte? point = first.byte? point) : second = first := by
  refine Memory.ext base (Array.ext_getElem? fun index => ?_)
  have same := bytes (first.base + index)
  unfold byte? at same
  rw [base] at same
  simp only [Nat.le_add_right, if_true, Nat.add_sub_cancel_left] at same
  exact same

/-! ### Ranges -/

/-- The window backs the `length` bytes from `address` on. -/
def holds (memory : Memory) (address length : Nat) : Bool :=
  memory.base ≤ address && address - memory.base + length ≤ memory.size

theorem holds_iff {memory : Memory} {address length : Nat} :
    memory.holds address length = true ↔
      memory.base ≤ address ∧ address - memory.base + length ≤ memory.bytes.size := by
  rw [holds, Bool.and_eq_true, decide_eq_true_eq, decide_eq_true_eq, size]

theorem byte?_eq_some {memory : Memory} {address length index : Nat}
    (held : memory.holds address length = true) (inside : index < length) :
    memory.byte? (address + index) = some (memory.byteAt (address + index)) := by
  rw [holds_iff] at held
  have below : address + index - memory.base < memory.bytes.size := by omega
  rw [byteAt, byte?, if_pos (by omega), Array.getElem?_eq_getElem below, Option.getD_some]

/-- Counted on from where the window backs something to the end of that, or less far, an address
that wraps around is in front of the window. -/
theorem lt_of_holds_wrapped {memory : Memory} {address length offset more : Nat}
    (backed : memory.holds address length = true) (inside : offset ≤ length)
    (held : memory.holds (wrapped (address + offset)) more = true) :
    address + offset < addressSpace := by
  have short := memory.short
  rw [holds_iff] at backed held
  unfold wrapped addressSpace at *
  omega

/-- Refuses a range that the window does not back. -/
def check (memory : Memory) (address length : Nat) : Except MemoryError Unit :=
  if memory.holds address length then .ok () else .error (.outOfRange address length)

theorem check_eq_ok_iff {memory : Memory} {address length : Nat} :
    memory.check address length = .ok () ↔ memory.holds address length = true := by
  unfold check
  split <;> simp_all

/-! ### Stores -/

/-- Stores `data` from `address` on. Meaningful only on a range that the window backs. -/
def put (memory : Memory) (address : Nat) (data : List UInt8) : Memory :=
  { memory with
    bytes := overwrite memory.bytes (address - memory.base) data
    short := by rw [size_overwrite]; exact memory.short }

@[simp] theorem base_put (memory : Memory) (address : Nat) (data : List UInt8) :
    (memory.put address data).base = memory.base := rfl

@[simp] theorem size_put (memory : Memory) (address : Nat) (data : List UInt8) :
    (memory.put address data).size = memory.size := by simp [put, size]

@[simp] theorem holds_put (memory : Memory) (address : Nat) (data : List UInt8)
    (start length : Nat) : (memory.put address data).holds start length = memory.holds start length := by
  rw [holds, holds, base_put, size_put]

/-- A store replaces the bytes it covers and no other. -/
theorem byte?_put {memory : Memory} {address : Nat} {data : List UInt8}
    (backed : memory.holds address data.length = true) (point : Nat) :
    (memory.put address data).byte? point =
      if address ≤ point ∧ point < address + data.length then data[point - address]?
      else memory.byte? point := by
  rw [holds_iff] at backed
  unfold byte?
  by_cases above : memory.base ≤ point
  · simp only [base_put, above, if_true]
    rw [put, getElem?_overwrite (by omega)]
    by_cases inside : address ≤ point ∧ point < address + data.length
    · rw [if_pos inside, if_pos (by omega)]
      congr 1
      omega
    · rw [if_neg inside, if_neg (by omega)]
  · have outside : ¬ (address ≤ point ∧ point < address + data.length) := by omega
    simp [above, outside]

/-- Storing in two pieces is storing at once. -/
theorem put_append {memory : Memory} {address : Nat} (above : memory.base ≤ address)
    (data more : List UInt8) :
    (memory.put address data).put (address + data.length) more = memory.put address (data ++ more) := by
  have overwritten (cells : Array UInt8) (offset : Nat) :
      overwrite (overwrite cells offset data) (offset + data.length) more =
        overwrite cells offset (data ++ more) := by
    induction data generalizing cells offset with
    | nil => rfl
    | cons value rest ih =>
      rw [List.cons_append, overwrite, overwrite, ← ih, List.length_cons]
      congr 1
      omega
  refine Memory.ext rfl ?_
  show overwrite (overwrite memory.bytes (address - memory.base) data)
      (address + data.length - memory.base) more =
    overwrite memory.bytes (address - memory.base) (data ++ more)
  rw [← overwritten, show address + data.length - memory.base =
    address - memory.base + data.length by omega]

/-- Stores `data` from `address` on. -/
def write (memory : Memory) (address : Nat) (data : List UInt8) : Except MemoryError Memory := do
  memory.check address data.length
  return memory.put address data

theorem write_eq (memory : Memory) (address : Nat) (data : List UInt8) :
    memory.write address data = if memory.holds address data.length then
      .ok (memory.put address data) else .error (.outOfRange address data.length) := by
  unfold write check
  split <;> rfl

/-- Sets `length` bytes from `address` on to `value`. -/
def fill (memory : Memory) (address length : Nat) (value : UInt8) : Except MemoryError Memory := do
  memory.check address length
  return memory.put address (List.replicate length value)

theorem fill_eq (memory : Memory) (address length : Nat) (value : UInt8) :
    memory.fill address length value = if memory.holds address length then
      .ok (memory.put address (List.replicate length value)) else .error (.outOfRange address length) := by
  unfold fill check
  split <;> rfl

def writeByte (memory : Memory) (address : Nat) (value : UInt8) : Except MemoryError Memory :=
  memory.write address [value]

def writeWord (memory : Memory) (address : Nat) (value : UInt16) : Except MemoryError Memory :=
  memory.write address (LittleEndian.encode 2 value.toNat)

def writeDword (memory : Memory) (address : Nat) (value : UInt32) : Except MemoryError Memory :=
  memory.write address (LittleEndian.ofDword value)

/-! ### Loads -/

/-- The `length` bytes from `address` on, as far as the window backs them. -/
def slice (memory : Memory) (address length : Nat) : List UInt8 :=
  let start := address - memory.base
  (memory.bytes.extract start (start + length)).toList

theorem getElem?_slice {memory : Memory} {address length : Nat}
    (backed : memory.holds address length = true) {index : Nat} (inside : index < length) :
    (memory.slice address length)[index]? = memory.byte? (address + index) := by
  rw [holds_iff] at backed
  have above : memory.base ≤ address + index := by omega
  have shifted : address + index - memory.base = address - memory.base + index := by omega
  simp only [slice, byte?, above, if_true, shifted, Array.getElem?_toList, Array.getElem?_extract]
  rw [if_pos (by omega)]

theorem length_slice {memory : Memory} {address length : Nat}
    (backed : memory.holds address length = true) :
    (memory.slice address length).length = length := by
  rw [holds_iff] at backed
  simp only [slice, Array.length_toList, Array.size_extract]
  omega

/-- The `length` bytes from `address` on. -/
def read (memory : Memory) (address length : Nat) : Except MemoryError (List UInt8) := do
  memory.check address length
  return memory.slice address length

theorem read_eq_ok_iff {memory : Memory} {address length : Nat} {data : List UInt8} :
    memory.read address length = .ok data ↔
      memory.holds address length = true ∧ data = memory.slice address length := by
  rw [← check_eq_ok_iff]
  unfold read
  cases memory.check address length with
  | error cause => exact ⟨nofun, fun taken => nomatch taken.1⟩
  | ok _ => exact ⟨fun taken => ⟨rfl, (Except.ok.inj taken).symm⟩, fun taken => taken.2 ▸ rfl⟩

theorem read_eq (memory : Memory) (address length : Nat) :
    memory.read address length = if memory.holds address length then
      .ok (memory.slice address length) else .error (.outOfRange address length) := by
  unfold read check
  split <;> rfl

theorem length_of_read {memory : Memory} {address length : Nat} {data : List UInt8}
    (taken : memory.read address length = .ok data) : data.length = length := by
  obtain ⟨backed, rfl⟩ := read_eq_ok_iff.mp taken
  exact length_slice backed

def readByte (memory : Memory) (address : Nat) : Except MemoryError UInt8 := do
  return UInt8.ofNat (LittleEndian.value (← memory.read address 1))

def readWord (memory : Memory) (address : Nat) : Except MemoryError UInt16 := do
  return UInt16.ofNat (LittleEndian.value (← memory.read address 2))

def readDword (memory : Memory) (address : Nat) : Except MemoryError UInt32 := do
  return LittleEndian.dword (← memory.read address 4)

/-- What was stored is read back. -/
theorem read_put {memory : Memory} {address : Nat} {data : List UInt8}
    (backed : memory.holds address data.length = true) :
    (memory.put address data).read address data.length = .ok data := by
  have still : (memory.put address data).holds address data.length = true := by
    rw [holds_put, backed]
  have same : (memory.put address data).slice address data.length = data := by
    refine List.ext_getElem? fun index => ?_
    by_cases inside : index < data.length
    · rw [getElem?_slice still inside, byte?_put backed, if_pos (by omega), Nat.add_sub_cancel_left]
    · rw [List.getElem?_eq_none (by rw [length_slice still]; omega),
        List.getElem?_eq_none (by omega)]
  rw [read, check_eq_ok_iff.mpr still, same]
  rfl

/-- A dword that was stored is read back. -/
theorem readDword_put {memory : Memory} {address : Nat} {word : UInt32}
    (backed : memory.holds address 4 = true) :
    (memory.put address (LittleEndian.ofDword word)).readDword address = .ok word := by
  have length := LittleEndian.length_ofDword word
  have taken : (memory.put address (LittleEndian.ofDword word)).read address _ = .ok _ :=
    read_put (length.symm ▸ backed)
  rw [length] at taken
  rw [readDword, taken]
  exact congrArg Except.ok (LittleEndian.dword_ofDword word)

/-! ### Copies -/

/-- Copies `length` bytes from `source` to `target`; the ranges may overlap. -/
def move (memory : Memory) (source target length : Nat) : Except MemoryError Memory := do
  memory.check source length
  memory.check target length
  return memory.put target (memory.slice source length)

theorem move_eq (memory : Memory) (source target length : Nat) :
    memory.move source target length =
      if memory.holds source length then
        if memory.holds target length then .ok (memory.put target (memory.slice source length))
        else .error (.outOfRange target length)
      else .error (.outOfRange source length) := by
  unfold move check
  cases memory.holds source length <;> cases memory.holds target length <;> rfl

end Memory

end GuestDraw
