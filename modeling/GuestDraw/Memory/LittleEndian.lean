/-
**Little-endian numbers.**

A number in guest memory is stored with its least significant byte first. `value` reads a list of
bytes and `encode` writes a number into a given count of bytes; `value_encode` says that reading
gives back the number up to the bytes that were dropped, `encode_value` that a list of bytes is the
written form of its value.
-/

namespace GuestDraw.LittleEndian

/-- The number whose bytes, least significant first, are `bytes`. -/
def value : List UInt8 → Nat
  | [] => 0
  | byte :: rest => byte.toNat + 256 * value rest

/-- The `count` least significant bytes of `number`, least significant first. -/
def encode : (count number : Nat) → List UInt8
  | 0, _ => []
  | count + 1, number => UInt8.ofNat number :: encode count (number / 256)

/-- How many numbers `count` bytes can tell apart. -/
def capacity : (count : Nat) → Nat
  | 0 => 1
  | count + 1 => 256 * capacity count

@[simp] theorem length_encode (count number : Nat) : (encode count number).length = count := by
  induction count generalizing number with
  | zero => rfl
  | succ count ih => simp [encode, ih]

theorem value_encode (count number : Nat) :
    value (encode count number) = number % capacity count := by
  induction count generalizing number with
  | zero => simp [encode, value, capacity, Nat.mod_one]
  | succ count ih =>
    rw [encode, value, ih, capacity, Nat.mod_mul]
    simp

theorem encode_value (bytes : List UInt8) : encode bytes.length (value bytes) = bytes := by
  induction bytes with
  | nil => rfl
  | cons byte rest ih =>
    have below : byte.toNat < 256 := byte.toNat_lt
    have quotient : (byte.toNat + 256 * value rest) / 256 = value rest := by omega
    rw [List.length_cons, value, encode, quotient, ih]
    congr 1
    apply UInt8.toNat_inj.mp
    simp

/-- The dword with these four bytes. -/
def dword (bytes : List UInt8) : UInt32 := UInt32.ofNat (value bytes)

/-- The four bytes of a dword. -/
def ofDword (word : UInt32) : List UInt8 := encode 4 word.toNat

@[simp] theorem length_ofDword (word : UInt32) : (ofDword word).length = 4 := length_encode 4 _

@[simp] theorem dword_ofDword (word : UInt32) : dword (ofDword word) = word := by
  apply UInt32.toNat_inj.mp
  have below : word.toNat < 0x100000000 := word.toNat_lt
  have four : capacity 4 = 0x100000000 := rfl
  simp only [dword, ofDword, value_encode, UInt32.toNat_ofNat', four]
  omega

end GuestDraw.LittleEndian
