/-
**A fill of a window, chunk by chunk.**

`ByteStore.fill` writes one chunk after the other, and the first one that is refused ends it: the
chunks before it stay stored, and its own range is the one that is named. `Memory.fill` checks the
whole range before a byte moves. So the two are the same where the window backs the range and where
a single chunk is written; for a fill of nothing outside the window, and for a longer range that is
backed only in part, they differ.

* `ByteStore.FillOutcome`, `ByteStore.fill_outcome`: how a fill by chunks ends;
* `ByteStore.fill_agrees_iff`: where it is `Memory.fill`.
-/

import GuestDraw.Memory.ByteStore

namespace GuestDraw

/-- An access that gives the window after it, as a step of a store: one that fails keeps the
window. -/
def Memory.kept (memory : Memory) :
    Except MemoryError Memory → EStateM.Result MemoryError Memory Unit
  | .ok after => .ok () after
  | .error cause => .error cause memory

namespace ByteStore

variable {memory : Memory} {address length done : Nat} {value : UInt8}

/-- Whole chunks, `done` bytes of the `length` from `address` on, were written, and there are
more. -/
structure Begun (memory : Memory) (address length done : Nat) : Prop where
  chunks : chunk ∣ done
  more : done < length
  backed : done = 0 ∨ memory.holds address done = true

/-- How a fill by chunks ends: behind the whole range, at a chunk that the window does not back, or
at a chunk that starts beyond the address space. -/
inductive FillOutcome (memory : Memory) (address length : Nat) (value : UInt8) :
    EStateM.Result MemoryError Memory Unit → Prop
  | whole (backed : length = 0 ∨ memory.holds address length = true)
    (narrow : ∀ done < length, chunk ∣ done → address + done < addressSpace) :
    FillOutcome memory address length value
      (.ok () (memory.put address (List.replicate length value)))
  | unbacked {done : Nat} (begun : Begun memory address length done)
    (unheld : memory.holds (address + done) (min chunk (length - done)) = false) :
    FillOutcome memory address length value
      (.error (.outOfRange (address + done) (min chunk (length - done)))
        (memory.put address (List.replicate done value)))
  | beyond {done : Nat} (begun : Begun memory address length done)
    (past : addressSpace ≤ address + done) :
    FillOutcome memory address length value
      (.error (.outOfRange address length) (memory.put address (List.replicate done value)))

/-- Before a single chunk nothing is written. -/
theorem Begun.eq_zero (begun : Begun memory address length done) (single : length ≤ chunk) :
    done = 0 :=
  Nat.eq_zero_of_dvd_of_lt begun.chunks (Nat.lt_of_lt_of_le begun.more single)

/-- Two adjacent ranges are backed together. -/
theorem holds_append {more : Nat} (backed : done = 0 ∨ memory.holds address done = true)
    (held : memory.holds (address + done) more = true) :
    memory.holds address (done + more) = true := by
  rw [Memory.holds_iff] at held backed ⊢
  omega

/-- A block is stored as `Memory.write` stores it. -/
theorem write_eq (memory : Memory) (address : Nat) (data : List UInt8) :
    write address data memory = memory.kept (memory.write address data) := by
  unfold Memory.write
  simp only [write]
  cases memory.check address data.length <;> rfl

/-- A chunk is written behind those before it. -/
theorem write_chunk {size : Nat} (backed : done = 0 ∨ memory.holds address done = true)
    (held : memory.holds (address + done) size = true) :
    write (address + done) (List.replicate size value)
        (memory.put address (List.replicate done value)) =
      .ok () (memory.put address (List.replicate (done + size) value)) := by
  have above := (Memory.holds_iff.mp (holds_append backed held)).1
  have joined := Memory.put_append above (List.replicate done value) (List.replicate size value)
  rw [List.length_replicate, List.replicate_append_replicate] at joined
  rw [write_eq, Memory.write_eq, List.length_replicate, Memory.holds_put, if_pos held, joined,
    Memory.kept]

/-- A fill goes on behind the chunks that it has written. -/
theorem fillFrom_outcome (progress : done = length ∨ Begun memory address length done)
    (backed : done = 0 ∨ memory.holds address done = true)
    (narrow : ∀ earlier < done, chunk ∣ earlier → address + earlier < addressSpace) :
    FillOutcome memory address length value
      (fillFrom address length value done (memory.put address (List.replicate done value))) := by
  induction done using fillFrom.induct (σ := Memory) address length value with
  | case1 done more size below ih =>
    obtain rfl | begun := progress
    · exact absurd more (Nat.lt_irrefl _)
    have sized : size = min chunk (length - done) := rfl
    rw [fillFrom]
    simp only [if_pos more, if_pos below, bind, EStateM.bind, ← sized]
    cases held : memory.holds (address + done) size with
    | false =>
      rw [write_eq, Memory.write_eq, List.length_replicate, Memory.holds_put, held, if_neg nofun]
      exact .unbacked begun held
    | true =>
      rw [write_chunk backed held]
      refine ih ?_ (.inr (holds_append backed held)) fun earlier before chunks => ?_
      · -- Only the last chunk can be cut.
        by_cases last : done + size = length
        · exact .inl last
        have full : size = chunk := by omega
        exact .inr ⟨Nat.dvd_add begun.chunks (full ▸ Nat.dvd_refl size), by omega,
          .inr (holds_append backed held)⟩
      · have start := begun.chunks
        have reached : earlier ≤ done := by
          unfold chunk at start chunks sized
          omega
        obtain rfl | before := Nat.eq_or_lt_of_le reached
        · exact below
        · exact narrow earlier before chunks
  | case2 done more size past =>
    obtain rfl | begun := progress
    · exact absurd more (Nat.lt_irrefl _)
    rw [fillFrom]
    simp only [if_pos more, if_neg past]
    exact .beyond begun (Nat.le_of_not_lt past)
  | case3 done stop =>
    obtain rfl | begun := progress
    · rw [fillFrom, if_neg stop]
      exact .whole backed narrow
    · exact absurd begun.more stop

theorem fill_outcome (memory : Memory) (address length : Nat) (value : UInt8) :
    FillOutcome memory address length value (fill address length value memory) := by
  refine fillFrom_outcome ?_ (.inl rfl) nofun
  obtain rfl | positive := Nat.eq_zero_or_pos length
  · exact .inl rfl
  · exact .inr ⟨Nat.dvd_zero _, positive, .inl rfl⟩

/-! ### Agreement -/

variable {result : EStateM.Result MemoryError Memory Unit}

/-- A single chunk is written whole or refused whole. -/
theorem FillOutcome.of_single (ended : FillOutcome memory address length value result)
    (below : address < addressSpace) (positive : 0 < length) (single : length ≤ chunk) :
    result = memory.kept (memory.fill address length value) := by
  rw [Memory.fill_eq]
  cases ended with
  | whole backed _ => rw [if_pos (backed.resolve_left (Nat.ne_of_gt positive)), Memory.kept]
  | unbacked begun unheld =>
    obtain rfl := begun.eq_zero single
    rw [Nat.add_zero, Nat.sub_zero, Nat.min_eq_right single] at unheld ⊢
    rw [unheld, if_neg nofun]
    rfl
  | beyond begun past =>
    obtain rfl := begun.eq_zero single
    exact absurd below (Nat.not_lt_of_le past)

/-- A range that the window backs is written whole, up to where its chunks leave the address
space. -/
theorem FillOutcome.of_holds (ended : FillOutcome memory address length value result)
    (held : memory.holds address length = true)
    (narrow : ∀ done < length, chunk ∣ done → address + done < addressSpace) :
    result = memory.kept (memory.fill address length value) := by
  rw [Memory.fill_eq, if_pos held]
  cases ended with
  | whole => rfl
  | @unbacked done begun unheld =>
    refine absurd ?_ (Bool.eq_false_iff.mp unheld)
    have more := begun.more
    rw [Memory.holds_iff] at held ⊢
    omega
  | beyond begun past => exact absurd (narrow _ begun.more begun.chunks) (Nat.not_lt_of_le past)

/-- A byte that is stored over another one is seen. -/
theorem put_replicate_ne (held : memory.holds address done = true) (positive : 0 < done) :
    memory.put address (List.replicate done (memory.byteAt address + 1)) ≠ memory := by
  intro same
  have length := List.length_replicate (n := done) (a := memory.byteAt address + 1)
  have stored := Memory.byte?_put (length.symm ▸ held) address
  have before : memory.byte? address = some (memory.byteAt address) :=
    Memory.byte?_eq_some held positive
  rw [same, length, if_pos (by omega), Nat.sub_self, List.getElem?_replicate, if_pos positive,
    before,
    Option.some_inj] at stored
  have numbers := congrArg UInt8.toNat stored
  have small := (memory.byteAt address).toNat_lt
  rw [UInt8.toNat_add, UInt8.toNat_one] at numbers
  omega

/-- With a value that is not there yet, a fill by chunks ends as the window's own fill in no other
case. -/
theorem FillOutcome.of_kept (below : address < addressSpace)
    (ended : FillOutcome memory address length (memory.byteAt address + 1)
      (memory.kept (memory.fill address length (memory.byteAt address + 1)))) :
    (0 < length ∧ length ≤ chunk) ∨ (memory.holds address length = true ∧
      ∀ done < length, chunk ∣ done → address + done < addressSpace) := by
  generalize same : memory.kept (memory.fill address length (memory.byteAt address + 1)) = result
    at ended
  rw [Memory.fill_eq] at same
  cases held : memory.holds address length with
  | true =>
    rw [held, if_pos rfl, Memory.kept] at same
    cases ended with
    | whole _ narrow => exact .inr ⟨rfl, narrow⟩
    | unbacked => cases same
    | beyond => cases same
  | false =>
    rw [held, if_neg nofun, Memory.kept] at same
    cases ended with
    | whole => cases same
    | @unbacked done begun _ =>
      -- Only the first chunk starts where the range does, and it is as long only if it is all.
      injection same with cause _
      injection cause with start single
      have more := begun.more
      exact .inl (by omega)
    | @beyond done begun past =>
      injection same with _ unchanged
      have positive : 0 < done := by omega
      exact absurd unchanged.symm
        (put_replicate_ne (begun.backed.resolve_left (Nat.ne_of_gt positive)) positive)

/-- **A fill by chunks is the window's own fill** exactly for a single chunk and where the window
backs the whole range. -/
theorem fill_agrees_iff (memory : Memory) (address : UInt32) (length : Nat) :
    (∀ value, fill address.toNat length value memory =
      memory.kept (memory.fill address.toNat length value)) ↔
      (0 < length ∧ length ≤ chunk) ∨ (memory.holds address.toNat length = true ∧
        ∀ done < length, chunk ∣ done → address.toNat + done < addressSpace) := by
  have below : address.toNat < addressSpace := address.toNat_lt
  constructor
  · intro agrees
    exact FillOutcome.of_kept below (agrees _ ▸ fill_outcome memory address.toNat length _)
  · rintro (⟨positive, single⟩ | ⟨held, narrow⟩) value
    · exact (fill_outcome ..).of_single below positive single
    · exact (fill_outcome ..).of_holds held narrow

end ByteStore

end GuestDraw
