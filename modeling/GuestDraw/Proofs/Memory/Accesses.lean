/-
**A window of memory is a map from addresses to bytes.**

An access reads a range, stores one of the same length, or both. What it answers and what it stores
is said here of a map alone: a number is made of the bytes at consecutive addresses, the least
significant one first, and a move stores what the map had at its source. An access of which a byte
lies outside the window has no effect. `accesses_refine` says that a window of memory is such a map
(`Access.Refined`), whatever was done to it before.

* `Access.run_eq`: an access is served as the map says, or refused for its first range that is not
  backed;
* `Access.byteAt_left`: the effect of an access on a window is its effect on the map;
* `Access.foldl_step_of_last`: what was stored last is what there is.
-/

import GuestDraw.Proofs.Memory.Filling

namespace GuestDraw

/-- An access to guest memory. -/
inductive Access where
  | readByte (address : Nat)
  | readWord (address : Nat)
  | readDword (address : Nat)
  | read (address length : Nat)
  | writeByte (address : Nat) (value : UInt8)
  | writeWord (address : Nat) (value : UInt16)
  | writeDword (address : Nat) (value : UInt32)
  | write (address : Nat) (data : List UInt8)
  | fill (address length : Nat) (value : UInt8)
  | move (source target length : Nat)

/-- What an access answers. -/
inductive Answer where
  | done
  | byte (value : UInt8)
  | word (value : UInt16)
  | dword (value : UInt32)
  | block (data : List UInt8)

namespace Access

/-! ### Ranges -/

/-- How many bytes are read, or stored, or both. -/
def length : Access → Nat
  | readByte _ | writeByte .. => 1
  | readWord _ | writeWord .. => 2
  | readDword _ | writeDword .. => 4
  | write _ data => data.length
  | read _ length | fill _ length _ | move _ _ length => length

/-- The first address that is read. -/
def source? : Access → Option Nat
  | readByte address | readWord address | readDword address | read address _ | move address _ _ => some address
  | _ => none

/-- The first address that is stored to. -/
def target? : Access → Option Nat
  | writeByte address _ | writeWord address _ | writeDword address _ | write address _ | fill address _ _
  | move _ address _ => some address
  | _ => none

/-- Where the ranges of an access start, in the order in which they are checked. -/
def places (access : Access) : List Nat := access.source?.toList ++ access.target?.toList

/-- An access reads the byte or stores to it. -/
def Touches (access : Access) (point : Nat) : Prop :=
  ∃ address ∈ access.places, address ≤ point ∧ point < address + access.length

/-- An access stores to the byte. -/
def Writes (access : Access) (point : Nat) : Prop :=
  ∃ address ∈ access.target?, address ≤ point ∧ point < address + access.length

/-- No byte is touched outside the `size` bytes from `base` on. -/
def Within (base size : Nat) (access : Access) : Prop :=
  access.length = 0 ∨ ∀ address ∈ access.places, base ≤ address ∧
    address + access.length ≤ base + size

instance (base size : Nat) (access : Access) : Decidable (access.Within base size) :=
  inferInstanceAs (Decidable (_ ∨ _))

/-! ### On a map -/

/-- What an access answers, from the bytes at all addresses. -/
def answer (image : Nat → UInt8) : Access → Answer
  | readByte address => .byte (image address)
  | readWord address => .word (.ofNat ((image address).toNat + 256 * (image (address + 1)).toNat))
  | readDword address => .dword (.ofNat ((image address).toNat + 256 * (image (address + 1)).toNat +
      65536 * (image (address + 2)).toNat + 16777216 * (image (address + 3)).toNat))
  | read address length => .block ((List.range length).map fun index => image (address + index))
  | _ => .done

/-- The bytes that an access stores. -/
def data (image : Nat → UInt8) : Access → List UInt8
  | writeByte _ value => [value]
  | writeWord _ value => [.ofNat value.toNat, .ofNat (value.toNat / 256)]
  | writeDword _ value => [.ofNat value.toNat, .ofNat (value.toNat / 256),
      .ofNat (value.toNat / 65536), .ofNat (value.toNat / 16777216)]
  | write _ data => data
  | fill _ length value => List.replicate length value
  | move source _ length => (List.range length).map fun index => image (source + index)
  | _ => []

/-- The byte that an access stores at an address, if it stores one there. -/
def stored? (image : Nat → UInt8) (access : Access) (point : Nat) : Option UInt8 :=
  access.target?.bind fun address =>
    if address ≤ point then (access.data image)[point - address]? else none

/-- The map after an access. -/
def step (base size : Nat) (image : Nat → UInt8) (access : Access) (point : Nat) : UInt8 :=
  if access.Within base size then (access.stored? image point).getD (image point) else image point

/-! ### On a window -/

/-- An access that only looks. -/
def looking {α : Type} (form : α → Answer) (look : Memory → Except MemoryError α) :
    EStateM MemoryError Memory Answer := fun memory =>
  match look memory with
  | .ok found => .ok (form found) memory
  | .error cause => .error cause memory

/-- An access that changes the window. -/
def changing (change : Memory → Except MemoryError Memory) : EStateM MemoryError Memory Answer := do
  fun memory => memory.kept (change memory)
  return .done

def run : Access → EStateM MemoryError Memory Answer
  | readByte address => looking .byte (·.readByte address)
  | readWord address => looking .word (·.readWord address)
  | readDword address => looking .dword (·.readDword address)
  | read address length => looking .block (·.read address length)
  | writeByte address value => changing (·.writeByte address value)
  | writeWord address value => changing (·.writeWord address value)
  | writeDword address value => changing (·.writeDword address value)
  | write address data => changing (·.write address data)
  | fill address length value => changing (·.fill address length value)
  | move source target length => changing (·.move source target length)

/-- The window that an access leaves, served or not. -/
def left (memory : Memory) (access : Access) : Memory :=
  match access.run memory with
  | .ok _ after => after
  | .error _ after => after

variable {memory : Memory} {access : Access}

/-- The window with what an access stores. -/
def changed (memory : Memory) (access : Access) : Memory :=
  match access.target? with
  | some address => memory.put address (access.data memory.byteAt)
  | none => memory

theorem slice_eq {address length : Nat} (held : memory.holds address length = true) :
    memory.slice address length = (List.range length).map fun index =>
      memory.byteAt (address + index) := by
  refine List.ext_getElem? fun index => ?_
  by_cases inside : index < length
  · rw [Memory.getElem?_slice held inside, Memory.byte?_eq_some held inside, List.getElem?_map,
      List.getElem?_range inside, Option.map_some]
  · rw [List.getElem?_eq_none (by rw [Memory.length_slice held]; omega),
      List.getElem?_eq_none (by rw [List.length_map, List.length_range]; omega)]

/-- The first of the places that are not backed is the one for which an access is refused. -/
def served (memory : Memory) (places : List Nat) (length : Nat) (answer : Answer) (after : Memory) :
    EStateM.Result MemoryError Memory Answer :=
  match places.find? fun address => !memory.holds address length with
  | none => .ok answer after
  | some address => .error (.outOfRange address length) memory

theorem looking_eq {α : Type} (memory : Memory) (address length : Nat) (form : List UInt8 → α)
    (answer : α → Answer) :
    looking answer (fun memory => do return form (← memory.read address length)) memory =
      served memory [address] length
        (answer (form ((List.range length).map fun index => memory.byteAt (address + index)))) memory := by
  unfold looking served
  dsimp only
  rw [Memory.read_eq]
  cases held : memory.holds address length with
  | true =>
    rw [← slice_eq held]
    simp [held, bind, Except.bind, pure, Except.pure]
  | false => simp [held, bind, Except.bind]

theorem changing_eq (memory : Memory) (address : Nat) (data : List UInt8) :
    changing (·.write address data) memory =
      served memory [address] data.length .done (memory.put address data) := by
  unfold changing served
  simp only [bind, EStateM.bind]
  rw [Memory.write_eq]
  cases held : memory.holds address data.length with
  | true => simp [held, Memory.kept, pure, EStateM.pure]
  | false => simp [held, Memory.kept]

theorem changing_move_eq (memory : Memory) (source target length : Nat) :
    changing (·.move source target length) memory =
      served memory [source, target] length .done (memory.put target
        ((List.range length).map fun index => memory.byteAt (source + index))) := by
  unfold changing served
  simp only [bind, EStateM.bind]
  rw [Memory.move_eq]
  cases held : memory.holds source length with
  | true =>
    rw [← slice_eq held]
    cases also : memory.holds target length with
    | true => simp [held, also, Memory.kept, pure, EStateM.pure]
    | false => simp [held, also, Memory.kept]
  | false => simp [held, Memory.kept]

/-- An access is answered as the map says and stores what the map says, or it is refused for the
first of its ranges that the window does not back. -/
theorem run_eq (access : Access) (memory : Memory) :
    access.run memory =
      served memory access.places access.length (access.answer memory.byteAt)
        (access.changed memory) := by
  cases access with
  | readByte address =>
    have only : UInt8.ofNat (LittleEndian.value [memory.byteAt address]) = memory.byteAt address :=
      UInt8.ofNat_toNat
    exact (looking_eq memory address 1 _ .byte).trans
      (congrArg (fun value => served memory [address] 1 (.byte value) memory) only)
  | readWord address => exact looking_eq memory address 2 _ .word
  | readDword address =>
    have number (first second third fourth : UInt8) :
        LittleEndian.value [first, second, third, fourth] = first.toNat + 256 * second.toNat +
          65536 * third.toNat + 16777216 * fourth.toNat := by
      simp only [LittleEndian.value]
      omega
    exact (looking_eq memory address 4 _ .dword).trans
      (congrArg (fun value => served memory [address] 4 (.dword (.ofNat value)) memory) (number ..))
  | read address length =>
    have whole : looking .block (·.read address length) =
        looking .block fun memory => do return id (← memory.read address length) := by
      simp only [id, bind_pure]
    exact (congrFun whole memory).trans (looking_eq memory address length id .block)
  | writeByte address value => exact changing_eq memory address [value]
  | writeWord address value => exact changing_eq memory address (LittleEndian.encode 2 value.toNat)
  | writeDword address value =>
    have digits : LittleEndian.ofDword value = data memory.byteAt (writeDword address value) := by
      simp only [LittleEndian.ofDword, LittleEndian.encode, Nat.div_div_eq_div_mul, data]
    exact (changing_eq memory address (LittleEndian.ofDword value)).trans
      (congrArg (fun data => served memory [address] 4 .done (memory.put address data)) digits)
  | write address data => exact changing_eq memory address data
  | fill address length value =>
    have whole : changing (·.fill address length value) =
        changing (·.write address (List.replicate length value)) := by
      simp only [Memory.fill_eq, Memory.write_eq, List.length_replicate]
    refine (congrFun whole memory).trans ((changing_eq memory address (List.replicate length value)).trans ?_)
    rw [List.length_replicate]
    rfl
  | move source target length => exact changing_move_eq memory source target length

/-! ### What is refused -/

/-- An access lies within the window exactly if every byte that it touches does. -/
theorem within_iff {base size : Nat} :
    access.Within base size ↔ ∀ point, access.Touches point →
      base ≤ point ∧ point < base + size := by
  constructor
  · rintro (nothing | inside) point ⟨address, place, above, below⟩
    · omega
    · have inside := inside address place
      omega
  · intro inside
    obtain nothing | some := Nat.eq_zero_or_pos access.length
    · exact .inl nothing
    refine .inr fun address place => ?_
    have first := inside address ⟨address, place, Nat.le_refl _, by omega⟩
    have last := inside (address + (access.length - 1)) ⟨address, place, by omega, by omega⟩
    omega

/-- Within the window an access that touches something is served. -/
theorem run_of_within (within : access.Within memory.base memory.size) (some : access.length ≠ 0) :
    access.run memory = .ok (access.answer memory.byteAt) (access.changed memory) := by
  have backed : access.places.find? (fun address => !memory.holds address access.length) = none := by
    refine List.find?_eq_none.mpr fun address place refused => ?_
    have inside := within.resolve_left some address place
    rw [Bool.not_eq_true', ← Bool.not_eq_true, Memory.holds_iff] at refused
    unfold Memory.size at inside
    omega
  rw [run_eq, served, backed]

/-- Beyond the window an access is refused for one of its ranges. -/
theorem run_of_not_within (beyond : ¬ access.Within memory.base memory.size) :
    ∃ address ∈ access.places, access.run memory =
      .error (.outOfRange address access.length) memory := by
  rw [run_eq, served]
  cases refused : access.places.find? fun address => !memory.holds address access.length with
  | some address => exact ⟨address, List.mem_of_find?_eq_some refused, rfl⟩
  | none =>
    refine absurd (.inr fun address place => ?_) beyond
    have held := List.find?_eq_none.mp refused address place
    rw [Bool.not_eq_true', Bool.not_eq_false, Memory.holds_iff] at held
    unfold Memory.size
    omega

/-- What an access that is served answers and leaves. -/
theorem run_eq_ok {answer : Answer} {after : Memory} (done : access.run memory = .ok answer after) :
    access.Within memory.base memory.size ∧ answer = access.answer memory.byteAt ∧
      after = access.changed memory := by
  have within : access.Within memory.base memory.size := by
    refine Decidable.byContradiction fun beyond => ?_
    obtain ⟨address, -, refused⟩ := run_of_not_within beyond
    cases done.symm.trans refused
  rw [run_eq, served] at done
  split at done <;> cases done
  exact ⟨within, rfl, rfl⟩

/-- What an access that is refused leaves. -/
theorem run_eq_error {cause : MemoryError} {after : Memory}
    (refused : access.run memory = .error cause after) :
    after = memory ∧ ∃ address ∈ access.places, cause = .outOfRange address access.length := by
  rw [run_eq, served] at refused
  split at refused
  · cases refused
  · next found =>
    cases refused
    exact ⟨rfl, _, List.mem_of_find?_eq_some found, rfl⟩

theorem length_data {image : Nat → UInt8} {address : Nat} (stores : access.target? = some address) :
    (access.data image).length = access.length := by
  cases access <;> simp_all [target?, data, length]

theorem stored?_eq_none {image : Nat → UInt8} {point : Nat} (spared : ¬ access.Writes point) :
    access.stored? image point = none := by
  unfold stored?
  cases stores : access.target? with
  | none => rfl
  | some address =>
    rw [Option.bind_some]
    split
    · next above =>
      refine List.getElem?_eq_none ?_
      rw [length_data stores]
      refine Nat.le_of_not_lt fun below => spared ⟨address, stores, above, by omega⟩
    · rfl

/-- An access without a byte has no effect. -/
theorem changed_of_empty (nothing : access.length = 0) : access.changed memory = memory := by
  unfold changed
  cases stores : access.target? with
  | none => rfl
  | some address =>
    dsimp only
    rw [List.eq_nil_of_length_eq_zero ((length_data stores).trans nothing)]
    rfl

/-- An access has its effect within the window, and none beyond. -/
theorem left_eq (memory : Memory) (access : Access) :
    access.left memory = if access.Within memory.base memory.size then access.changed memory else memory := by
  unfold left
  cases ran : access.run memory with
  | ok answer after =>
    obtain ⟨within, -, rfl⟩ := run_eq_ok ran
    exact (if_pos within).symm
  | error cause after =>
    obtain ⟨rfl, -⟩ := run_eq_error ran
    dsimp only
    split
    · next within =>
      -- Within the window nothing is refused but an access without a byte.
      refine (changed_of_empty (Decidable.byContradiction fun some => ?_)).symm
      cases ran.symm.trans (run_of_within within some)
    · rfl

/-- What is stored is seen, and nothing else changes. -/
theorem byteAt_changed (within : access.Within memory.base memory.size) (point : Nat) :
    (access.changed memory).byteAt point =
      (access.stored? memory.byteAt point).getD (memory.byteAt point) := by
  obtain nothing | some := Nat.eq_zero_or_pos access.length
  · have spared : ¬ access.Writes point := by
      rintro ⟨address, -, above, below⟩
      omega
    rw [changed_of_empty nothing, stored?_eq_none spared, Option.getD_none]
  unfold changed stored?
  cases stores : access.target? with
  | none => rfl
  | some address =>
    have whole : (access.data memory.byteAt).length = access.length := length_data stores
    have inside := within.resolve_left (Nat.ne_of_gt some) address
      (List.mem_append_right _ (by rw [stores]; exact List.mem_cons_self ..))
    have held : memory.holds address (access.data memory.byteAt).length = true := by
      rw [whole, Memory.holds_iff]
      unfold Memory.size at inside
      omega
    dsimp only [Option.bind_some]
    rw [Memory.byteAt, Memory.byte?_put held, whole]
    by_cases covered : address ≤ point ∧ point < address + access.length
    · rw [if_pos covered, if_pos covered.1, List.getElem?_eq_getElem (by omega)]
      rfl
    · rw [if_neg covered]
      split
      · rw [List.getElem?_eq_none (by omega)]
        rfl
      · rfl

@[simp] theorem base_changed : (access.changed memory).base = memory.base := by
  unfold changed
  split <;> rfl

@[simp] theorem size_changed : (access.changed memory).size = memory.size := by
  unfold changed
  split
  · exact Memory.size_put ..
  · rfl

@[simp] theorem base_left : (access.left memory).base = memory.base := by
  rw [left_eq]
  split
  · exact base_changed
  · rfl

@[simp] theorem size_left : (access.left memory).size = memory.size := by
  rw [left_eq]
  split
  · exact size_changed
  · rfl

/-- The effect of an access on a window is its effect on the map. -/
theorem byteAt_left (memory : Memory) (access : Access) :
    (access.left memory).byteAt = access.step memory.base memory.size memory.byteAt := by
  funext point
  rw [left_eq, step]
  split
  · next within => exact byteAt_changed within point
  · rfl

/-! ### Runs -/

/-- The map after a run of accesses. -/
def steps (base size : Nat) (accesses : List Access) (image : Nat → UInt8) : Nat → UInt8 :=
  accesses.foldl (fun image access => access.step base size image) image

/-- The window after a run of accesses, served or not. -/
def leftAfter (accesses : List Access) (memory : Memory) : Memory :=
  accesses.foldl (fun memory access => access.left memory) memory

theorem byteAt_leftAfter (accesses : List Access) (memory : Memory) :
    (leftAfter accesses memory).base = memory.base ∧
      (leftAfter accesses memory).size = memory.size ∧
      (leftAfter accesses memory).byteAt =
        steps memory.base memory.size accesses memory.byteAt := by
  induction accesses generalizing memory with
  | nil => exact ⟨rfl, rfl, rfl⟩
  | cons access rest ih =>
    have ih := ih (access.left memory)
    rw [base_left, size_left, byteAt_left] at ih
    exact ih

variable {base size point : Nat} {image : Nat → UInt8}

/-- A byte to which nothing is stored stays. -/
theorem steps_of_spared {accesses : List Access}
    (spared : ∀ access ∈ accesses, access.Within base size → ¬ access.Writes point) :
    steps base size accesses image point = image point := by
  induction accesses generalizing image with
  | nil => rfl
  | cons access rest ih =>
    obtain ⟨first, rest⟩ := List.forall_mem_cons.mp spared
    have same : access.step base size image point = image point := by
      unfold step
      split
      · next within => rw [stored?_eq_none (first within), Option.getD_none]
      · rfl
    exact (ih rest).trans same

/-- What was stored last is what there is. -/
theorem steps_of_last {before later : List Access} {byte : UInt8}
    (within : access.Within base size)
    (stored : access.stored? (steps base size before image) point = some byte)
    (spared : ∀ other ∈ later, other.Within base size → ¬ other.Writes point) :
    steps base size (before ++ access :: later) image point = byte := by
  have before : steps base size (before ++ access :: later) image =
      steps base size later (access.step base size (steps base size before image)) := by
    unfold steps
    rw [List.foldl_append, List.foldl_cons]
  rw [before, steps_of_spared spared, step, if_pos within, stored, Option.getD_some]

end Access

/-- A move by a read and a write is the window's own move. -/
theorem ByteStore.move_eq (memory : Memory) (source target length : Nat) :
    ByteStore.move source target length memory =
      memory.kept (memory.move source target length) := by
  simp only [ByteStore.move, ByteStore.read]
  rw [Memory.read_eq, Memory.move_eq]
  cases held : memory.holds source length with
  | false => rfl
  | true =>
    simp only [if_true]
    rw [ByteStore.write_eq, Memory.write_eq, Memory.length_slice held]

/-- No window backs a range for which there is no buffer. -/
theorem Memory.move_of_long (memory : Memory) {length : Nat}
    (long : ByteStore.longestBuffer < length)
    (source target : Nat) :
    memory.move source target length = .error (.outOfRange source length) := by
  have unbacked : ¬ memory.holds source length = true := by
    have short := memory.short
    unfold addressSpace at short
    unfold ByteStore.longestBuffer at long
    rw [holds_iff]
    omega
  rw [Memory.move_eq, if_neg unbacked]

/-- What a window is after a run of accesses to `start`: the map that those of them which lie within
it have made of its bytes, and one more access is served as a map would serve it. -/
structure Access.Refined (start : Memory) (accesses : List Access) (memory : Memory) : Prop where
  base : memory.base = start.base
  size : memory.size = start.size
  bytes : memory.byteAt = steps start.base start.size accesses start.byteAt
  /-- A byte is the one that was stored last. -/
  last : ∀ before access later point byte, accesses = before ++ access :: later →
    access.Within start.base start.size →
    access.stored? (leftAfter before start).byteAt point = some byte →
    (∀ other ∈ later, other.Within start.base start.size → ¬ other.Writes point) →
    memory.byteAt point = byte
  /-- A byte to which nothing was stored is the first one. -/
  spared : ∀ point, (∀ access ∈ accesses, access.Within start.base start.size → ¬ access.Writes point) →
    memory.byteAt point = start.byteAt point
  /-- An access that touches a byte is served exactly if all bytes that it touches lie in the
  window. -/
  served : ∀ access : Access, (∃ point, access.Touches point) →
    ((∃ answer after, access.run memory = .ok answer after) ↔
      ∀ point, access.Touches point → start.base ≤ point ∧ point < start.base + start.size)
  refused : ∀ access : Access, ∀ cause after, access.run memory = .error cause after →
    after = memory ∧ ∃ address ∈ access.places, cause = .outOfRange address access.length
  answered : ∀ access : Access, ∀ answer after, access.run memory = .ok answer after →
    answer = access.answer memory.byteAt ∧ after.base = memory.base ∧ after.size = memory.size ∧
      ∀ point, after.byteAt point = (access.stored? memory.byteAt point).getD (memory.byteAt point)
  /-- No byte outside the range that is written changes. -/
  kept : ∀ access : Access, ∀ answer after, access.run memory = .ok answer after →
    ∀ point, ¬ access.Writes point → after.byteAt point = memory.byteAt point
  /-- A move by a read and a write ends as the window's own, if there is a buffer for it. -/
  moved : ∀ source target length, length ≤ ByteStore.longestBuffer →
    ByteStore.move? source target length memory =
      some (memory.kept (memory.move source target length))
  /-- If there is none it does not end, where the window refuses. -/
  unmoved : ∀ source target length, ByteStore.longestBuffer < length →
    ByteStore.move? source target length memory = none ∧
      memory.move source target length = .error (.outOfRange source length)

/-- **A window of memory refines a map from addresses to bytes**, after any run of accesses. A move
by a read and a write agrees with the window's own wherever it ends, and it ends unless the buffer
for it would be longer than any. -/
theorem accesses_refine (start : Memory) (accesses : List Access) :
    Access.Refined start accesses (Access.leftAfter accesses start) := by
  obtain ⟨base, size, bytes⟩ := Access.byteAt_leftAfter accesses start
  generalize Access.leftAfter accesses start = memory at base size bytes
  refine ⟨base, size, bytes, ?_, fun point spared => bytes ▸ Access.steps_of_spared spared, ?_,
    fun access cause after refused => Access.run_eq_error refused, ?_, ?_, ?_, ?_⟩
  · rintro before access later point byte rfl within stored spared
    rw [(Access.byteAt_leftAfter before start).2.2] at stored
    exact bytes ▸ Access.steps_of_last within stored spared
  · rintro access ⟨point, address, -, above, below⟩
    rw [← Access.within_iff, ← base, ← size]
    constructor
    · rintro ⟨answer, after, done⟩
      exact (Access.run_eq_ok done).1
    · intro within
      exact ⟨_, _, Access.run_of_within within (by omega)⟩
  · intro access answer after done
    obtain ⟨within, rfl, rfl⟩ := Access.run_eq_ok done
    exact ⟨rfl, Access.base_changed, Access.size_changed, Access.byteAt_changed within⟩
  · intro access answer after done point spared
    obtain ⟨within, rfl, rfl⟩ := Access.run_eq_ok done
    rw [Access.byteAt_changed within, Access.stored?_eq_none spared, Option.getD_none]
  · intro source target length fits
    rw [ByteStore.move?, if_pos fits, ByteStore.move_eq]
  · intro source target length long
    exact ⟨if_neg (Nat.not_le.mpr long), memory.move_of_long long source target⟩

end GuestDraw
