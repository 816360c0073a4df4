/-
**The blocks of the heap.**

A heap cuts its blocks off one after the other. `Heap.carve` does it step by step, on a heap and a
memory that change while it runs, and what it leaves behind when it stops half-way is part of what
it says. It comes to the same as `Heap.allocate` (`Heap.carve_eq`).

* `Heap.Outcome`, `Heap.outcome`: the four ways in which a request for a block ends;
* `Heap.blockEnd?_eq_none_iff`: when there is no room for a block;
* `Heap.Granted`, `Heap.Refused`: what a request does, and why it is refused;
* `Heap.Sound`, `Heap.Row`, `Heap.Sound.afterAll`: what every request keeps, and how blocks follow
  each other;
* `Heap.Carved`, `heap_carved`: the blocks that a run of requests hands out, and what can happen
  after it.
-/

import GuestDraw.Proofs.Session.Groundwork

namespace GuestDraw

/-- A request for a block of the heap. -/
structure BlockRequest where
  size : Nat
  cleared : Bool

/-- The bytes that belong to the block, at least one. -/
def BlockRequest.length (request : BlockRequest) : Nat := max request.size 1

namespace Heap

variable {heap : Heap} {memory : Memory} {request : BlockRequest}

/-! ### One block -/

/-- Sets `length` bytes from `address` on to zero. -/
def clear (address length : Nat) : EStateM MemoryError (Heap × Memory) Unit := fun (heap, memory) =>
  match memory.fill address length 0 with
  | .ok cleared => .ok () (heap, cleared)
  | .error cause => .error cause (heap, memory)

/-- Cuts off the next block: it is looked for, then it is cleared, and then the heap advances. -/
def carve (request : BlockRequest) : EStateM MemoryError (Heap × Memory) Nat := do
  let (heap, _) ← get
  let some stop := blockEnd? heap.next request.size alignment heap.limit
    | throw (.exhausted region request.size (heap.limit - heap.next))
  if request.cleared then
    clear heap.next request.size
  modify fun (heap, memory) => ({ heap with next := stop }, memory)
  return heap.next

/-- How a request for a block ends: there is no room for it, it cannot be cleared, or it is cut
off. -/
inductive Outcome (heap : Heap) (memory : Memory) (request : BlockRequest) :
    EStateM.Result MemoryError (Heap × Memory) Nat → Prop
  | full (none : blockEnd? heap.next request.size alignment heap.limit = none) :
    Outcome heap memory request
      (.error (.exhausted region request.size (heap.limit - heap.next)) (heap, memory))
  | unbacked {stop : Nat} (ends : blockEnd? heap.next request.size alignment heap.limit = some stop)
    (cleared : request.cleared = true) (unheld : memory.holds heap.next request.size = false) :
    Outcome heap memory request (.error (.outOfRange heap.next request.size) (heap, memory))
  | cleared {stop : Nat} (ends : blockEnd? heap.next request.size alignment heap.limit = some stop)
    (cleared : request.cleared = true) (backed : memory.holds heap.next request.size = true) :
    Outcome heap memory request (.ok heap.next ({ heap with next := stop },
      memory.put heap.next (List.replicate request.size 0)))
  | uncleared {stop : Nat}
    (ends : blockEnd? heap.next request.size alignment heap.limit = some stop)
    (uncleared : request.cleared = false) :
    Outcome heap memory request (.ok heap.next ({ heap with next := stop }, memory))

theorem outcome (heap : Heap) (memory : Memory) (request : BlockRequest) :
    Outcome heap memory request (carve request (heap, memory)) := by
  unfold carve
  simp only [bind, EStateM.bind, get, getThe, MonadStateOf.get]
  delta EStateM.get
  dsimp only
  cases ends : blockEnd? heap.next request.size alignment heap.limit with
  | none => exact .full ends
  | some stop =>
    cases wanted : request.cleared with
    | false => exact .uncleared ends wanted
    | true =>
      cases backed : memory.holds heap.next request.size with
      | false =>
        simp only [if_true, EStateM.bind, clear, Memory.fill_eq, backed, Bool.false_eq_true, if_false]
        exact .unbacked ends wanted backed
      | true =>
        simp only [if_true, EStateM.bind, clear, Memory.fill_eq, backed]
        exact .cleared ends wanted backed

/-- Cutting off a block step by step is `allocate`, and a failure leaves heap and memory as they
were. -/
theorem carve_eq (heap : Heap) (memory : Memory) (request : BlockRequest) :
    carve request (heap, memory) =
      match heap.allocate memory request.size request.cleared with
      | .ok (address, advanced, after) => .ok address (advanced, after)
      | .error cause => .error cause (heap, memory) := by
  unfold allocate reserve
  have ended := outcome heap memory request
  generalize carve request (heap, memory) = result at ended ⊢
  cases ended with
  | full none => simp only [none, bind, Except.bind]
  | unbacked ends cleared unheld =>
    simp only [ends, cleared, if_true, Memory.fill_eq, unheld, bind, Except.bind, Bool.false_eq_true,
      if_false]
  | cleared ends cleared backed =>
    simp only [ends, cleared, if_true, Memory.fill_eq, backed, bind, Except.bind, pure, Except.pure]
  | uncleared ends uncleared =>
    simp only [ends, uncleared, Bool.false_eq_true, if_false, bind, Except.bind, pure, Except.pure]

/-! ### Room -/

/-- The end of the next block, rounded up. -/
def stop (heap : Heap) (request : BlockRequest) : Nat :=
  alignUp (heap.next + request.length) alignment

/-- The end of the next block is behind the range, or behind the last address. -/
def Exceeds (heap : Heap) (request : BlockRequest) : Prop :=
  heap.limit < heap.stop request ∨ addressSpace - 1 < heap.stop request

theorem alignment_dvd_stop (heap : Heap) (request : BlockRequest) : alignment ∣ heap.stop request :=
  Dvd.intro_left _ rfl

theorem le_stop (heap : Heap) (request : BlockRequest) :
    heap.next + request.length ≤ heap.stop request :=
  le_alignUp (by decide) _

theorem blockEnd?_eq_none_iff :
    blockEnd? heap.next request.size alignment heap.limit = none ↔ heap.Exceeds request := by
  unfold blockEnd? Exceeds stop alignUp BlockRequest.length alignment addressSpace
  rw [ite_eq_right_iff]
  simp only [reduceCtorEq, imp_false]
  omega

theorem blockEnd?_eq_some_iff {stop : Nat} :
    blockEnd? heap.next request.size alignment heap.limit = some stop ↔
      stop = heap.stop request ∧ ¬ heap.Exceeds request := by
  rw [← blockEnd?_eq_none_iff]
  unfold blockEnd?
  dsimp only
  split
  · simp [Heap.stop, BlockRequest.length, eq_comm]
  · simp

/-! ### What a request does -/

/-- What a request that succeeds hands out and leaves behind. -/
structure Granted (heap : Heap) (memory : Memory) (request : BlockRequest) (address : Nat)
    (left : Heap × Memory) : Prop where
  fits : ¬ heap.Exceeds request
  address_eq : address = heap.next
  advanced : left.1 = { heap with next := heap.stop request }
  /-- A block that was asked for cleared reads as zero, and no other byte has changed. -/
  cleared : request.cleared = true →
    left.2.read address request.size = .ok (List.replicate request.size 0) ∧
      ∀ point, ¬ (address ≤ point ∧ point < address + request.size) →
        left.2.byte? point = memory.byte? point
  uncleared : request.cleared = false → left.2 = memory

/-- Why a request is refused. -/
inductive Refused (heap : Heap) (memory : Memory) (request : BlockRequest) : MemoryError → Prop
  | full (exceeds : heap.Exceeds request) :
    Refused heap memory request (.exhausted region request.size (heap.limit - heap.next))
  | unbacked (fits : ¬ heap.Exceeds request) (cleared : request.cleared = true)
    (unheld : memory.holds heap.next request.size = false) :
    Refused heap memory request (.outOfRange heap.next request.size)

theorem granted_of_carve {address : Nat} {left : Heap × Memory}
    (carved : carve request (heap, memory) = .ok address left) :
    Granted heap memory request address left := by
  have ended := outcome heap memory request
  rw [carved] at ended
  cases ended with
  | cleared ends cleared backed =>
    obtain ⟨rfl, fits⟩ := blockEnd?_eq_some_iff.mp ends
    have length : (List.replicate request.size (0 : UInt8)).length = request.size :=
      List.length_replicate
    have read := Memory.read_put (length.symm ▸ backed)
    refine ⟨fits, rfl, rfl, fun _ => ⟨by rwa [length] at read, fun point outside => ?_⟩, ?_⟩
    · rw [Memory.byte?_put (length.symm ▸ backed), length, if_neg outside]
    · exact fun uncleared => nomatch uncleared.symm.trans cleared
  | uncleared ends uncleared =>
    obtain ⟨rfl, fits⟩ := blockEnd?_eq_some_iff.mp ends
    exact ⟨fits, rfl, rfl, fun cleared => (nomatch uncleared.symm.trans cleared), fun _ => rfl⟩

/-- A request that is refused leaves heap and memory as they were. -/
theorem refused_of_carve {cause : MemoryError} {left : Heap × Memory}
    (failed : carve request (heap, memory) = .error cause left) :
    left = (heap, memory) ∧ Refused heap memory request cause := by
  have ended := outcome heap memory request
  rw [failed] at ended
  cases ended with
  | full none => exact ⟨rfl, .full (blockEnd?_eq_none_iff.mp none)⟩
  | unbacked ends cleared unheld =>
    exact ⟨rfl, .unbacked (blockEnd?_eq_some_iff.mp ends).2 cleared unheld⟩

/-- A request fails for want of room exactly when its block ends too far up. -/
theorem exhausted_iff (heap : Heap) (memory : Memory) (request : BlockRequest) :
    (∃ region requested available left,
      carve request (heap, memory) = .error (.exhausted region requested available) left) ↔
      heap.Exceeds request := by
  constructor
  · rintro ⟨_, _, _, left, failed⟩
    cases (refused_of_carve failed).2 with
    | full exceeds => exact exceeds
  · intro exceeds
    have ended := outcome heap memory request
    generalize carve request (heap, memory) = result at ended ⊢
    cases ended with
    | full none => exact ⟨_, _, _, _, rfl⟩
    | unbacked ends | cleared ends | uncleared ends =>
      exact absurd exceeds (blockEnd?_eq_some_iff.mp ends).2

/-! ### Runs -/

/-- Heap and memory after a request. -/
def after (state : Heap × Memory) (request : BlockRequest) : Heap × Memory :=
  match carve request state with
  | .ok _ left => left
  | .error _ left => left

/-- The block that a request hands out. -/
def issued? (state : Heap × Memory) (request : BlockRequest) : Option Extent :=
  match carve request state with
  | .ok address _ => some ⟨address, request.length⟩
  | .error _ _ => none

/-- Heap and memory after a run of requests. -/
def afterAll (state : Heap × Memory) (requests : List BlockRequest) : Heap × Memory :=
  requests.foldl after state

/-- The blocks that a run of requests hands out, in order. -/
def issuedAll (state : Heap × Memory) : List BlockRequest → List Extent
  | [] => []
  | request :: rest => (issued? state request).toList ++ issuedAll (after state request) rest

/-- A heap over the `size` bytes from `base` on: the next block starts between the ends of the
range. -/
structure Sound (base size : Nat) (heap : Heap) : Prop where
  base_eq : heap.base = base
  limit_eq : heap.limit = rangeLimit base size
  base_le : heap.base ≤ heap.next
  next_le : heap.next ≤ heap.limit

/-- The blocks lie one behind the other between where the next one starts in `heap` and in `left`,
and all but the first one at multiples of sixteen. -/
structure Row (heap : Heap) (blocks : List Extent) (left : Heap) : Prop where
  grows : heap.next ≤ left.next
  ordered : blocks.Pairwise fun first second => first.stop ≤ second.address
  within : ∀ block ∈ blocks, heap.next ≤ block.address ∧ block.stop ≤ left.next
  aligned : alignment ∣ heap.next → ∀ block ∈ blocks, alignment ∣ block.address
  alignedTail : ∀ block ∈ blocks.tail, alignment ∣ block.address

theorem Row.nil (heap : Heap) : Row heap [] heap :=
  ⟨Nat.le_refl _, .nil, nofun, fun _ => nofun, nofun⟩

/-- One more block in front of a row. -/
theorem Row.cons {blocks : List Extent} {left : Heap} (request : BlockRequest)
    (row : Row { heap with next := heap.stop request } blocks left) :
    Row heap (⟨heap.next, request.length⟩ :: blocks) left := by
  have fits := heap.le_stop request
  have grows : heap.stop request ≤ left.next := row.grows
  refine ⟨by omega, .cons (fun block member => ?_) row.ordered, fun block member => ?_,
    fun multiple block member => ?_, row.aligned (heap.alignment_dvd_stop request)⟩
  · exact fits.trans (row.within block member).1
  · obtain rfl | member := List.mem_cons.mp member
    · exact ⟨Nat.le_refl _, fits.trans grows⟩
    · obtain ⟨above, below⟩ := row.within block member
      have above : heap.stop request ≤ block.address := above
      exact ⟨by omega, below⟩
  · obtain rfl | member := List.mem_cons.mp member
    · exact multiple
    · exact row.aligned (heap.alignment_dvd_stop request) block member

variable {base size : Nat}

/-- One request hands out the next block, or nothing changes. -/
theorem step_cases (heap : Heap) (memory : Memory) (request : BlockRequest) :
    (issued? (heap, memory) request = some ⟨heap.next, request.length⟩ ∧ ¬ heap.Exceeds request ∧
      ∃ memory', after (heap, memory) request = ({ heap with next := heap.stop request }, memory')) ∨
    issued? (heap, memory) request = none ∧ after (heap, memory) request = (heap, memory) := by
  unfold issued? after
  cases ended : carve request (heap, memory) with
  | ok address left =>
    obtain ⟨fits, rfl, advanced, -, -⟩ := granted_of_carve ended
    exact .inl ⟨rfl, fits, left.2, by rw [← advanced]⟩
  | error cause left => exact .inr ⟨rfl, (refused_of_carve ended).1⟩

/-- What a run of requests keeps, and the blocks that it hands out. -/
theorem Sound.afterAll {heap : Heap} (sound : Sound base size heap) (memory : Memory)
    (requests : List BlockRequest) :
    Sound base size (afterAll (heap, memory) requests).1 ∧
      Row heap (issuedAll (heap, memory) requests) (Heap.afterAll (heap, memory) requests).1 := by
  induction requests generalizing heap memory with
  | nil => exact ⟨sound, .nil heap⟩
  | cons request rest ih =>
    rw [issuedAll, Heap.afterAll, List.foldl_cons]
    obtain ⟨issued, fits, changed, left⟩ | ⟨issued, left⟩ := step_cases heap memory request
    · have advanced : Sound base size { heap with next := heap.stop request } := by
        have above := heap.le_stop request
        have below := Nat.not_lt.mp (not_or.mp fits).1
        exact { sound with
          base_le := sound.base_le.trans ((Nat.le_add_right _ _).trans above)
          next_le := below }
      rw [issued, left]
      exact ⟨(ih advanced changed).1, (ih advanced changed).2.cons request⟩
    · rw [issued, left]
      exact ih sound memory

/-- What a run of requests has handed out of the `size` bytes from `base` on, and the heap and the
memory that it left. -/
structure Carved (base size : Nat) (blocks : List Extent) (heap : Heap) (memory : Memory) : Prop where
  /-- Every block ends before the next one starts. -/
  ordered : blocks.Pairwise fun first second => first.stop ≤ second.address
  within : ∀ block ∈ blocks, base ≤ block.address ∧ block.stop ≤ base + size ∧
    block.stop < addressSpace
  /-- Every block but the first starts at a multiple of sixteen. -/
  aligned : ∀ block ∈ blocks.tail, alignment ∣ block.address
  /-- What is used and what is left are differences that do not fall below zero. -/
  used : heap.base = base ∧ heap.base + heap.used = heap.next
  available : heap.limit = rangeLimit base size ∧ heap.next + (heap.limit - heap.next) = heap.limit
  /-- `carve` is `allocate` with the state that it leaves. -/
  allocates : ∀ request, carve request (heap, memory) =
    match heap.allocate memory request.size request.cleared with
    | .ok (address, advanced, after) => .ok address (advanced, after)
    | .error cause => .error cause (heap, memory)
  granted : ∀ request address left, carve request (heap, memory) = .ok address left →
    Granted heap memory request address left
  refused : ∀ request cause left, carve request (heap, memory) = .error cause left →
    left = (heap, memory) ∧ Refused heap memory request cause
  exhausted : ∀ request, (∃ region requested available left,
    carve request (heap, memory) = .error (.exhausted region requested available) left) ↔
      heap.limit < alignUp (heap.next + max request.size 1) 16 ∨
        addressSpace - 1 < alignUp (heap.next + max request.size 1) 16

theorem sound_ofRange (base size : UInt32) :
    Sound base.toNat size.toNat (.ofRange base.toNat size.toNat) := by
  have narrow := base.toNat_lt
  refine ⟨rfl, rfl, Nat.le_refl _, Nat.le_min.mpr ⟨Nat.le_add_right _ _, ?_⟩⟩
  show base.toNat ≤ 0x100000000 - 1
  omega

end Heap

/-- **Blocks are cut off the heap one behind the other**, inside its range and at multiples of
sixteen, save for the first. A request that fails, for want of room or of memory to be cleared,
leaves the heap and the memory as they were. -/
theorem heap_carved (base size : UInt32) (memory : Memory) (requests : List BlockRequest) :
    Heap.Carved base.toNat size.toNat
      (Heap.issuedAll (.ofRange base.toNat size.toNat, memory) requests)
      (Heap.afterAll (.ofRange base.toNat size.toNat, memory) requests).1
      (Heap.afterAll (.ofRange base.toNat size.toNat, memory) requests).2 := by
  obtain ⟨sound, row⟩ := (Heap.sound_ofRange base size).afterAll memory requests
  refine ⟨row.ordered, fun block member => ?_, row.alignedTail,
    ⟨sound.base_eq, Nat.add_sub_cancel' sound.base_le⟩,
    ⟨sound.limit_eq, Nat.add_sub_cancel' sound.next_le⟩, Heap.carve_eq _ _,
    fun _ _ _ => Heap.granted_of_carve, fun _ _ _ => Heap.refused_of_carve, Heap.exhausted_iff _ _⟩
  obtain ⟨above, below⟩ := row.within block member
  have limit := below.trans (sound.next_le.trans (Nat.le_of_eq sound.limit_eq))
  obtain ⟨inside, narrow⟩ := Nat.le_min.mp limit
  exact ⟨above, inside, Nat.lt_of_le_of_lt narrow (by decide)⟩

-- The second block is too long, and the last one cannot be cleared.
example : Heap.issuedAll (.ofRange 5 100, .zeroed 0 48)
    [⟨3, true⟩, ⟨200, true⟩, ⟨0, false⟩, ⟨20, false⟩, ⟨20, true⟩] =
      [⟨5, 3⟩, ⟨16, 1⟩, ⟨32, 20⟩] := rfl

end GuestDraw
