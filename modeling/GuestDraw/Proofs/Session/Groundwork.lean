/-
**What is done before an object is created.**

Creating a surface or a palette first lays its ground: blocks are cut off the heap, stubs are handed
out for a vtable, the frame buffer is mapped. None of it touches an object or a byte that was in
use: `Groundwork` says which bytes can have changed. It goes on while the new object is linked to
its block.

* `Groundwork.trans`: groundwork on groundwork is groundwork;
* `ends_allocate`, `ends_surfaceVtable`, `ends_mapFrameBuffer`, `ends_linkBlock`: each of the steps
  is groundwork.
-/

import GuestDraw.Proofs.Session.Calls

namespace GuestDraw

/-! ### Blocks -/

theorem le_alignUp {unit : Nat} (positive : 0 < unit) (address : Nat) :
    address ≤ alignUp address unit := by
  unfold alignUp
  have split := Nat.div_add_mod (address + (unit - 1)) unit
  have rest := Nat.mod_lt (address + (unit - 1)) positive
  rw [Nat.mul_comm] at split
  omega

/-- Where a block ends: behind its bytes, within the range and the address space. -/
theorem blockEnd?_eq_some {start size unit limit stop : Nat} (positive : 0 < unit)
    (ends : blockEnd? start size unit limit = some stop) :
    start + size ≤ stop ∧ start < stop ∧ stop ≤ limit ∧ start + size < addressSpace := by
  unfold blockEnd? at ends
  dsimp only at ends
  split at ends
  · next fits =>
    cases ends
    have above := le_alignUp positive (start + max size 1)
    omega
  · cases ends

/-- There is room behind a block to round its end up. -/
theorem blockEnd?_narrow {start size unit limit stop : Nat} (positive : 0 < unit)
    (ends : blockEnd? start size unit limit = some stop) : start + size + unit ≤ addressSpace := by
  unfold blockEnd? at ends
  dsimp only at ends
  split at ends
  · omega
  · cases ends

/-- A block ends at a whole unit. -/
theorem dvd_blockEnd? {start size unit limit stop : Nat}
    (ends : blockEnd? start size unit limit = some stop) : unit ∣ stop := by
  unfold blockEnd? at ends
  dsimp only at ends
  split at ends
  · cases ends
    exact Nat.dvd_mul_left _ _
  · cases ends

/-- What cutting off a cleared block does. -/
theorem Heap.allocate_eq_ok {heap advanced : Heap} {memory after : Memory} {size address : Nat}
    (allocated : heap.allocate memory size true = .ok (address, advanced, after)) :
    ∃ stop, blockEnd? heap.next size alignment heap.limit = some stop ∧ address = heap.next ∧
      advanced = { heap with next := stop } ∧ memory.holds address size = true ∧
      after = memory.put address (List.replicate size 0) := by
  unfold Heap.allocate Heap.reserve at allocated
  cases ends : blockEnd? heap.next size alignment heap.limit with
  | none =>
    rw [ends] at allocated
    cases allocated
  | some stop =>
    rw [ends] at allocated
    cases filled : memory.fill heap.next size 0 with
    | error cause =>
      simp only [bind, Except.bind, if_true, filled] at allocated
      cases allocated
    | ok cleared =>
      simp only [bind, Except.bind, if_true, filled] at allocated
      cases allocated
      obtain ⟨backed, rfl⟩ := Memory.fill_eq_ok filled
      exact ⟨stop, rfl, rfl, rfl, backed, rfl⟩

theorem Aperture.map_eq_ok {aperture after : Aperture} {size address : Nat}
    (mapped : aperture.map size = .ok (address, after)) :
    ∃ stop, blockEnd? aperture.next size page aperture.limit = some stop ∧ address = aperture.next ∧
      after = { aperture with
        next := stop
        mappings := (aperture.next, stop - aperture.next) :: aperture.mappings } := by
  unfold Aperture.map at mapped
  cases ends : blockEnd? aperture.next size page aperture.limit with
  | none =>
    rw [ends] at mapped
    cases mapped
  | some stop =>
    rw [ends] at mapped
    cases mapped
    exact ⟨stop, rfl, rfl, rfl⟩

/-! ### Vtables -/

/-- The interfaces that guest code calls through a vtable. -/
inductive Interface where
  | surface
  | palette
  deriving DecidableEq

/-- The methods of an interface, one for each slot of its vtable. -/
def Interface.methods : Interface → List Method
  | surface => Method.surfaces
  | palette => Method.palettes

/-- The bytes of the vtable of an interface. -/
def Interface.tableSize (interface : Interface) : Nat := interface.methods.length * 4

/-- The vtable of an interface, if it is built. -/
def Vtables.table? (vtables : Vtables) : Interface → Option Nat
  | .surface => vtables.surface
  | .palette => vtables.palette

/-- The vtables once that of an interface is built. -/
def Vtables.install (vtables : Vtables) (vtable : Nat) : Interface → Vtables
  | .surface => { vtables with surface := some vtable }
  | .palette => { vtables with palette := some vtable }

theorem Vtables.table?_install (vtables : Vtables) (vtable : Nat) (interface : Interface) :
    (vtables.install vtable interface).table? =
      Function.update vtables.table? interface (some vtable) := by
  funext other
  cases interface <;> cases other <;> rfl

/-- The slot at `place` holds a stub for the method, save for bytes that are not told. -/
def Leads (untold : Nat → Prop) (session : Session) (place : Nat) (method : Method) : Prop :=
  ∃ stub, stub < session.stubs.next ∧ stub < addressSpace ∧
    session.methodAt? stub = some method ∧
    ∀ offset, offset < 4 →
      session.memory.byte? (place + offset) =
        (LittleEndian.ofDword (UInt32.ofNat stub))[offset]? ∨ untold (place + offset)

/-- A frame buffer could be mapped there. -/
def Session.Mappable (session : Session) (point : Nat) : Prop :=
  session.video.next ≤ point ∧ point < session.video.limit

/-- The slots from `vtable` on hold stubs for the methods of an interface, save where something
could be mapped since `start`. -/
def Filled (start final : Session) (interface : Interface) (vtable : Nat) : Prop :=
  ∀ index method, interface.methods[index]? = some method →
    Leads start.Mappable final (vtable + 4 * index) method

/-- The vtables that are new since `start` lie between the heap of then and `limit`. -/
def TablesBefore (start final : Session) (limit : Nat) : Prop :=
  ∀ interface vtable, final.vtables.table? interface = some vtable →
    start.vtables.table? interface = some vtable ∨
      start.heap.next ≤ vtable ∧ vtable + interface.tableSize ≤ limit

/-! ### Groundwork -/

/-- From `start` to `final` only free parts of the heap and an unmapped frame buffer were
written. -/
structure Groundwork (start final : Session) : Prop where
  heapBase : final.heap.base = start.heap.base
  heapLimit : final.heap.limit = start.heap.limit
  heapNext : start.heap.next ≤ final.heap.next
  heapWithin : start.heap.next ≤ start.heap.limit → final.heap.next ≤ start.heap.limit
  memoryBase : final.memory.base = start.memory.base
  memorySize : final.memory.size = start.memory.size
  bytes : ∀ point, final.memory.byte? point = start.memory.byte? point ∨
    (start.heap.next ≤ point ∧ point < final.heap.next) ∨
    (start.frameBuffer = none ∧ start.video.next ≤ point ∧ point < start.video.limit)
  mode : final.mode = start.mode
  chain : final.chain = start.chain
  videoBase : final.video.base = start.video.base
  videoLimit : final.video.limit = start.video.limit
  videoNext : start.video.next ≤ final.video.next
  frame : final.frameBuffer = start.frameBuffer ∨ start.frameBuffer = none ∧ ∃ address size,
    final.frameBuffer = some address ∧ start.mode.frameSize? = some size ∧
      start.video.next ≤ address ∧ address + size ≤ start.video.limit ∧
      address < start.video.limit ∧ start.memory.holds address size = true
  /-- A frame buffer that is new has a mapping that is long enough for the picture, and one that is
  not new has the mapping that it had. -/
  mapping : ∀ address, final.frameBuffer = some address →
    start.frameBuffer = some address ∧ final.video = start.video ∨
      start.frameBuffer = none ∧ ∃ size length, start.mode.frameSize? = some size ∧
        final.video.length? address = some length ∧ size ≤ length
  /-- A picture that is mapped ends a page before the address space does. -/
  paged : final.frameBuffer = start.frameBuffer ∨
    ∀ size, start.mode.frameSize? = some size → size + Aperture.page ≤ addressSpace
  tables : ∀ interface, final.vtables.table? interface = start.vtables.table? interface ∨
    ∃ vtable, final.vtables.table? interface = some vtable ∧ start.heap.next ≤ vtable ∧
      vtable + interface.tableSize ≤ final.heap.next
  /-- Two vtables that are both new do not overlap. -/
  tablesApart : ∀ one other first second, one ≠ other → final.vtables.table? one = some first →
    final.vtables.table? other = some second → start.vtables.table? one = some first ∨
      start.vtables.table? other = some second ∨
      first + one.tableSize ≤ second ∨ second + other.tableSize ≤ first
  /-- Only a picture that memory does not back was mapped in vain. -/
  mappings : final.frameBuffer = start.frameBuffer ∧ final.video.mappings = start.video.mappings ∨
    (start.frameBuffer = none ∧ ∃ address length, final.frameBuffer = some address ∧
      final.video.mappings = (address, length) :: start.video.mappings) ∨
    ∃ place size, start.video.next ≤ place ∧ place + size ≤ start.video.limit ∧
      start.memory.holds place size = false
  stubsNext : start.stubs.next ≤ final.stubs.next
  methodsKept : ∀ stub, stub < start.stubs.next → final.methodAt? stub = start.methodAt? stub
  methodsNew : ∀ stub method, final.methodAt? stub = some method →
    start.methodAt? stub = some method ∨ stub < final.stubs.next
  tablesKept : ∀ interface vtable, start.vtables.table? interface = some vtable →
    final.vtables.table? interface = some vtable
  tablesFilled : ∀ interface vtable, final.vtables.table? interface = some vtable →
    start.vtables.table? interface = some vtable ∨
      vtable + interface.tableSize < addressSpace ∧ Filled start final interface vtable

/-- Groundwork since `start`, with the given objects. -/
def Prepared (start : Session) (objects : ObjectTable) (session : Session) : Prop :=
  Groundwork start session ∧ session.objects = objects

theorem Groundwork.refl (session : Session) : Groundwork session session where
  heapBase := rfl
  heapLimit := rfl
  heapNext := Nat.le_refl _
  heapWithin := id
  memoryBase := rfl
  memorySize := rfl
  bytes _ := .inl rfl
  mode := rfl
  chain := rfl
  videoBase := rfl
  videoLimit := rfl
  videoNext := Nat.le_refl _
  frame := .inl rfl
  mapping _ mapped := .inl ⟨mapped, rfl⟩
  paged := .inl rfl
  tables _ := .inl rfl
  tablesApart _ _ _ _ _ has _ := .inl has
  mappings := .inl ⟨rfl, rfl⟩
  stubsNext := Nat.le_refl _
  methodsKept _ _ := rfl
  methodsNew _ _ known := .inl known
  tablesKept _ _ has := has
  tablesFilled _ _ has := .inl has

theorem Groundwork.holds {start final : Session} (groundwork : Groundwork start final)
    (address length : Nat) :
    final.memory.holds address length = start.memory.holds address length := by
  rw [Memory.holds, Memory.holds, groundwork.memoryBase, groundwork.memorySize]

/-- A slot of an interface lies in its vtable. -/
theorem Interface.slot_lt {interface : Interface} {index : Nat} {method : Method}
    (slot : interface.methods[index]? = some method) : 4 * index + 4 ≤ interface.tableSize := by
  have inside := (List.getElem?_eq_some_iff.mp slot).1
  unfold Interface.tableSize
  omega

namespace Leads

variable {untold : Nat → Prop} {start middle final : Session} {place : Nat} {method : Method}

/-- Less is told of the bytes. -/
theorem mono {more : Nat → Prop} (leads : Leads untold final place method)
    (fewer : ∀ point, untold point → more point) : Leads more final place method := by
  obtain ⟨stub, handed, narrow, known, bytes⟩ := leads
  exact ⟨stub, handed, narrow, known, fun offset small => (bytes offset small).imp_right (fewer _)⟩

/-- What could be mapped since `middle` could be mapped since `start`. -/
theorem since (leads : Leads middle.Mappable final place method)
    (next : start.video.next ≤ middle.video.next)
    (limit : middle.video.limit = start.video.limit) : Leads start.Mappable final place method :=
  leads.mono fun _ inside => ⟨next.trans inside.1, limit ▸ inside.2⟩

/-- A slot keeps its stub, and the stub its method, while neither is touched. -/
theorem keep (leads : Leads untold middle place method) (next : middle.stubs.next ≤ final.stubs.next)
    (methods : ∀ stub, stub < middle.stubs.next → final.methodAt? stub = middle.methodAt? stub)
    (bytes : ∀ offset, offset < 4 →
      final.memory.byte? (place + offset) = middle.memory.byte? (place + offset) ∨
        untold (place + offset)) :
    Leads untold final place method := by
  obtain ⟨stub, handed, narrow, known, held⟩ := leads
  refine ⟨stub, Nat.lt_of_lt_of_le handed next, narrow, (methods stub handed).trans known,
    fun offset small => ?_⟩
  rcases bytes offset small with same | mapped
  · exact (held offset small).imp_left same.trans
  · exact .inr mapped

/-- Groundwork touches no slot of a vtable that is there. -/
theorem grow (leads : Leads start.Mappable middle place method) (ground : Groundwork middle final)
    (next : start.video.next ≤ middle.video.next) (limit : middle.video.limit = start.video.limit)
    (below : place + 4 ≤ middle.heap.next) : Leads start.Mappable final place method := by
  refine leads.keep ground.stubsNext ground.methodsKept fun offset small => ?_
  rcases ground.bytes (place + offset) with same | ⟨above, -⟩ | ⟨-, above, inside⟩
  · exact .inl same
  · omega
  · exact .inr ⟨next.trans above, limit ▸ inside⟩

end Leads

theorem Groundwork.trans {start middle final : Session} (first : Groundwork start middle)
    (second : Groundwork middle final) : Groundwork start final where
  heapBase := second.heapBase.trans first.heapBase
  heapLimit := second.heapLimit.trans first.heapLimit
  heapNext := first.heapNext.trans second.heapNext
  heapWithin within := first.heapLimit ▸ second.heapWithin (first.heapLimit ▸ first.heapWithin within)
  memoryBase := second.memoryBase.trans first.memoryBase
  memorySize := second.memorySize.trans first.memorySize
  bytes point := by
    have later := first.heapNext.trans second.heapNext
    rcases second.bytes point with same | ⟨above, below⟩ | ⟨unmapped, above, below⟩
    · rw [same]
      exact (first.bytes point).imp_right fun changed => changed.imp_left fun inside =>
        ⟨inside.1, Nat.lt_of_lt_of_le inside.2 second.heapNext⟩
    · exact .inr (.inl ⟨first.heapNext.trans above, below⟩)
    · refine .inr (.inr ⟨?_, first.videoNext.trans above, first.videoLimit ▸ below⟩)
      rcases first.frame with still | ⟨none, -⟩
      · exact still ▸ unmapped
      · exact none
  mode := second.mode.trans first.mode
  chain := second.chain.trans first.chain
  videoBase := second.videoBase.trans first.videoBase
  videoLimit := second.videoLimit.trans first.videoLimit
  videoNext := first.videoNext.trans second.videoNext
  frame := by
    rcases second.frame with same |
      ⟨unmapped, address, size, mapped, sized, above, below, inside, backed⟩
    · exact same ▸ first.frame
    · rcases first.frame with still | ⟨none, other, _, taken, -⟩
      · exact .inr ⟨still ▸ unmapped, address, size, mapped, first.mode ▸ sized,
          first.videoNext.trans above, first.videoLimit ▸ below, first.videoLimit ▸ inside,
          first.holds _ _ ▸ backed⟩
      · rw [taken] at unmapped
        cases unmapped
  mapping address mapped := by
    rcases second.mapping address mapped with ⟨before, video⟩ | ⟨none, size, length, sized, rest⟩
    · rw [video]
      exact first.mapping address before
    · rcases first.frame with still | ⟨-, other, _, taken, -⟩
      · exact .inr ⟨still ▸ none, size, length, first.mode ▸ sized, rest⟩
      · rw [taken] at none
        cases none
  paged := by
    rcases second.paged with same | narrow
    · exact same ▸ first.paged
    · exact .inr (first.mode ▸ narrow)
  tables interface := by
    have earlier := first.heapNext
    have later := second.heapNext
    rcases second.tables interface with same | ⟨vtable, has, above, below⟩
    · rw [same]
      refine (first.tables interface).imp_right fun ⟨vtable, has, above, below⟩ => ?_
      exact ⟨vtable, has, above, below.trans later⟩
    · exact .inr ⟨vtable, has, earlier.trans above, below⟩
  tablesApart one other left right different hasOne hasOther := by
    -- What is there in the middle ends before whatever came later.
    have known : ∀ interface vtable, final.vtables.table? interface = some vtable →
        middle.vtables.table? interface = some vtable ∨ middle.heap.next ≤ vtable := by
      intro interface vtable has
      rcases second.tables interface with same | ⟨_, new, above, -⟩
      · exact .inl (same ▸ has)
      · cases new.symm.trans has
        exact .inr above
    have ended : ∀ interface vtable, middle.vtables.table? interface = some vtable →
        start.vtables.table? interface = some vtable ∨
          vtable + interface.tableSize ≤ middle.heap.next := by
      intro interface vtable has
      rcases first.tables interface with same | ⟨_, new, -, below⟩
      · exact .inl (same ▸ has)
      · cases new.symm.trans has
        exact .inr below
    rcases known one left hasOne with was | aboveOne
    · rcases known other right hasOther with wasOther | aboveOther
      · exact first.tablesApart one other left right different was wasOther
      · rcases ended one left was with old | below
        · exact .inl old
        · exact .inr (.inr (.inl (below.trans aboveOther)))
    · rcases known other right hasOther with wasOther | aboveOther
      · rcases ended other right wasOther with old | below
        · exact .inr (.inl old)
        · exact .inr (.inr (.inr (below.trans aboveOne)))
      · rcases second.tablesApart one other left right different hasOne hasOther with
          was | was | apart
        · rcases ended one left was with old | below
          · exact .inl old
          · exact .inr (.inr (.inl (below.trans aboveOther)))
        · rcases ended other right was with old | below
          · exact .inr (.inl old)
          · exact .inr (.inr (.inr (below.trans aboveOne)))
        · exact .inr (.inr apart)
  mappings := by
    rcases first.mappings with ⟨frame, same⟩ | ⟨none, address, length, mapped, more⟩ | unbacked
    · rw [← frame, ← same]
      refine second.mappings.imp_right fun changed => changed.imp_right ?_
      rintro ⟨place, size, above, below, unbacked⟩
      exact ⟨place, size, first.videoNext.trans above, first.videoLimit ▸ below,
        first.holds _ _ ▸ unbacked⟩
    · rcases second.mappings with ⟨frame, same⟩ | ⟨unmapped, -⟩ |
        ⟨place, size, above, below, unbacked⟩
      · exact .inr (.inl ⟨none, address, length, frame.trans mapped, same.trans more⟩)
      · cases mapped.symm.trans unmapped
      · exact .inr (.inr ⟨place, size, first.videoNext.trans above, first.videoLimit ▸ below,
          first.holds _ _ ▸ unbacked⟩)
    · exact .inr (.inr unbacked)
  stubsNext := first.stubsNext.trans second.stubsNext
  methodsKept stub handed :=
    (second.methodsKept stub (Nat.lt_of_lt_of_le handed first.stubsNext)).trans
      (first.methodsKept stub handed)
  methodsNew stub method known := by
    rcases second.methodsNew stub method known with was | handed
    · exact (first.methodsNew stub method was).imp_right
        fun handed => Nat.lt_of_lt_of_le handed second.stubsNext
    · exact .inr handed
  tablesKept interface vtable has := second.tablesKept interface vtable (first.tablesKept _ _ has)
  tablesFilled interface vtable has := by
    rcases second.tablesFilled interface vtable has with was | ⟨narrow, filled⟩
    · rcases first.tables interface with same | ⟨_, new, -, below⟩
      · exact .inl (same ▸ was)
      · cases new.symm.trans was
        refine (first.tablesFilled interface vtable was).imp_right fun ⟨narrow, filled⟩ => ?_
        refine ⟨narrow, fun index method slot => ?_⟩
        have inside := Interface.slot_lt slot
        exact (filled index method slot).grow second first.videoNext first.videoLimit (by omega)
    · exact .inr ⟨narrow, fun index method slot =>
        (filled index method slot).since first.videoNext first.videoLimit⟩

/-- A frame buffer that is mapped stays where it is. -/
theorem Groundwork.frameBuffer {start final : Session} (groundwork : Groundwork start final)
    {address : Nat} (mapped : start.frameBuffer = some address) :
    final.frameBuffer = some address := by
  rcases groundwork.frame with same | ⟨unmapped, -⟩
  · exact same.trans mapped
  · rw [mapped] at unmapped
    cases unmapped

section Steps

variable {start session : Session} {objects : ObjectTable}

/-- The vtables that are new lie before what is cut off next. -/
theorem Groundwork.tablesBefore (groundwork : Groundwork start session) :
    TablesBefore start session session.heap.next := by
  intro interface vtable has
  rcases groundwork.tables interface with same | ⟨_, new, above, below⟩
  · exact .inl (same ▸ has)
  · cases new.symm.trans has
    exact .inr ⟨above, below⟩

/-- Vtables are found where they were found before. -/
theorem TablesBefore.congr {other : Session} {limit more : Nat} (before : TablesBefore start session limit)
    (tables : other.vtables.table? = session.vtables.table?) (further : limit ≤ more) :
    TablesBefore start other more := by
  intro interface vtable has
  rw [tables] at has
  exact (before interface vtable has).imp_right fun inside => ⟨inside.1, inside.2.trans further⟩

/-- A store to blocks that were cut off since `start`, behind the new vtables. -/
theorem Prepared.put (prepared : Prepared start objects session) {place : Nat}
    (data : List UInt8) (backed : session.memory.holds place data.length = true)
    (above : start.heap.next ≤ place)
    (below : place + data.length ≤ session.heap.next) (free : TablesBefore start session place) :
    Prepared start objects { session with memory := session.memory.put place data } := by
  obtain ⟨groundwork, same⟩ := prepared
  refine ⟨{ groundwork with
    memorySize := (Memory.size_put _ _ _).trans groundwork.memorySize
    bytes := fun point => ?_
    tablesFilled := fun interface vtable has => ?_ }, same⟩
  · show (session.memory.put place data).byte? point = _ ∨ _
    rw [Memory.byte?_put backed]
    split
    · refine .inr (.inl ⟨?_, ?_⟩)
      · omega
      · show point < session.heap.next
        omega
    · exact groundwork.bytes point
  · rcases free interface vtable has with was | ⟨-, before⟩
    · exact .inl was
    · refine (groundwork.tablesFilled interface vtable has).imp_right fun ⟨narrow, filled⟩ => ?_
      refine ⟨narrow, fun index method slot => ?_⟩
      have inside := Interface.slot_lt slot
      refine (filled index method slot).keep (Nat.le_refl _) (fun _ _ => rfl)
        fun offset small => .inl ?_
      show (session.memory.put place data).byte? _ = _
      rw [Memory.byte?_put backed, if_neg (by omega)]

variable (prepared : Prepared start objects session)

include prepared

theorem ends_allocate (size : Nat) :
    Ends (Engine.allocate size) session
      (fun address final => Prepared start objects final ∧ address < final.heap.next ∧
        session.heap.next ≤ address ∧ address + size ≤ final.heap.next ∧
        address + size ≤ start.heap.limit ∧ address + size < addressSpace ∧
        final.memory.holds address size = true ∧ final.vtables = session.vtables ∧
        ∀ point, address ≤ point → point < address + size → final.memory.byte? point = some 0)
      (Prepared start objects) := by
  unfold Ends Engine.allocate
  cases allocated : session.heap.allocate session.memory size true with
  | error cause => exact prepared
  | ok result =>
    obtain ⟨address, advanced, after⟩ := result
    obtain ⟨stop, ends, rfl, rfl, backed, rfl⟩ := Heap.allocate_eq_ok allocated
    obtain ⟨fits, grows, within, narrow⟩ := blockEnd?_eq_some (by decide) ends
    obtain ⟨groundwork, same⟩ := prepared
    have advanced : Prepared start objects
        { session with heap := { session.heap with next := stop } } := by
      refine ⟨{ groundwork with
        heapNext := groundwork.heapNext.trans (Nat.le_of_lt grows)
        heapWithin := fun _ => groundwork.heapLimit ▸ within
        bytes := fun point => (groundwork.bytes point).imp_right fun changed =>
          changed.imp_left fun inside => ⟨inside.1, Nat.lt_trans inside.2 grows⟩
        tables := fun interface => (groundwork.tables interface).imp_right
          fun ⟨vtable, has, above, below⟩ =>
            ⟨vtable, has, above, below.trans (Nat.le_of_lt grows)⟩ }, same⟩
    have cleared := advanced.put (List.replicate size 0)
      (by rw [List.length_replicate]; exact backed) groundwork.heapNext
      (by rw [List.length_replicate]; exact fits) groundwork.tablesBefore
    refine ⟨cleared, grows, Nat.le_refl _, fits, ?_, narrow, ?_, rfl,
      fun point above below => ?_⟩
    · exact groundwork.heapLimit ▸ fits.trans within
    · rw [Memory.holds_put]
      exact backed
    · rw [Memory.byte?_put (by rw [List.length_replicate]; exact backed), List.length_replicate,
        if_pos ⟨above, below⟩, List.getElem?_replicate, if_pos (by omega)]

/-- A store to blocks that were cut off since `start`, if it succeeds. -/
theorem ends_writeFresh {place : Nat} {data : List UInt8} (above : start.heap.next ≤ place)
    (below : place + data.length ≤ session.heap.next) (free : TablesBefore start session place) :
    Ends (Engine.write place data) session
      (fun _ final => Prepared start objects final ∧
        session.memory.holds place data.length = true ∧
        final = { session with memory := session.memory.put place data })
      (Prepared start objects) := by
  refine (ends_write prepared place data).weaken ?_
  rintro _ _ ⟨backed, rfl⟩
  exact ⟨prepared.put data backed above below free, backed, rfl⟩

/-- A vtable is installed that was cut off the heap after the other one. -/
theorem Prepared.install {before : Session} (earlier : Prepared start objects before)
    (interface : Interface) {vtable : Nat} (tables : session.vtables.table? = before.vtables.table?)
    (absent : before.vtables.table? interface = none)
    (above : before.heap.next ≤ vtable) (below : vtable + interface.tableSize ≤ session.heap.next)
    (narrow : vtable + interface.tableSize < addressSpace)
    (filled : Filled start session interface vtable) :
    Prepared start objects
      { session with vtables := session.vtables.install vtable interface } := by
  obtain ⟨groundwork, same⟩ := prepared
  have installed := session.vtables.table?_install vtable interface
  have own : (session.vtables.install vtable interface).table? interface = some vtable := by
    rw [installed, Function.update_self]
  -- The other vtable was there at the start, or it ends before this one.
  have apart : ∀ other place, other ≠ interface →
      (session.vtables.install vtable interface).table? other = some place →
        start.vtables.table? other = some place ∨ place + other.tableSize ≤ vtable := by
    intro other place different has
    rw [installed, Function.update_of_ne different, tables] at has
    rcases earlier.1.tables other with was | ⟨_, new, -, ends⟩
    · exact .inl (was ▸ has)
    · cases new.symm.trans has
      exact .inr (ends.trans above)
  have methods : ({ session with vtables := session.vtables.install vtable interface } :
      Session).methodAt? = session.methodAt? := by
    cases interface <;> rfl
  refine ⟨{ groundwork with
    tables := fun one => ?_
    tablesApart := fun one other first second different hasOne hasOther => ?_
    methodsKept := by rw [methods]; exact groundwork.methodsKept
    methodsNew := by rw [methods]; exact groundwork.methodsNew
    tablesKept := fun one place has => ?_
    tablesFilled := fun one place has => ?_ }, same⟩
  · by_cases is : one = interface
    · subst is
      exact .inr ⟨vtable, own, earlier.1.heapNext.trans above, below⟩
    · have still := groundwork.tables one
      rw [← Function.update_of_ne is (some vtable) session.vtables.table?, ← installed] at still
      exact still
  · by_cases is : one = interface
    · subst is
      cases own.symm.trans hasOne
      rcases apart other second (Ne.symm different) hasOther with was | ends
      · exact .inr (.inl was)
      · exact .inr (.inr (.inr ends))
    · have isOther : other = interface := by
        cases one <;> cases other <;> cases interface <;> simp_all
      subst isOther
      cases own.symm.trans hasOther
      rcases apart one first is hasOne with was | ends
      · exact .inl was
      · exact .inr (.inr (.inl ends))
  · have there := groundwork.tablesKept one place has
    have different : one ≠ interface := by
      rintro rfl
      rw [tables, absent] at there
      cases there
    show (session.vtables.install vtable interface).table? one = _
    rw [installed, Function.update_of_ne different, there]
  · have led : ∀ {place method}, Leads start.Mappable session place method →
        Leads start.Mappable { session with vtables := session.vtables.install vtable interface }
          place method :=
      fun leads => leads.keep (Nat.le_refl _) (fun stub _ => congrFun methods stub) fun _ _ => .inl rfl
    change (session.vtables.install vtable interface).table? one = _ at has
    by_cases is : one = interface
    · subst is
      cases own.symm.trans has
      exact .inr ⟨narrow, fun index method slot => led (filled index method slot)⟩
    · rw [installed, Function.update_of_ne is] at has
      exact (groundwork.tablesFilled one place has).imp_right fun ⟨narrow, filled⟩ =>
        ⟨narrow, fun index method slot => led (filled index method slot)⟩

theorem ends_registerStub (name : String) :
    Ends (Engine.registerStub name) session
      (fun stub final => Prepared start objects final ∧ stub = session.stubs.next ∧
        ∃ stubs, stub < stubs.next ∧ stub < addressSpace ∧ final = { session with stubs := stubs })
      (Prepared start objects) := by
  unfold Ends Engine.registerStub StubTable.register
  by_cases room : session.stubs.next + StubTable.slot < addressSpace ∧
      session.stubs.next + StubTable.slot ≤ session.stubs.limit
  · rw [if_pos room]
    obtain ⟨groundwork, same⟩ := prepared
    have positive : 0 < StubTable.slot := by decide
    refine ⟨⟨{ groundwork with
      stubsNext := ?_
      methodsNew := fun stub method known => ?_
      tablesFilled := fun interface vtable has => ?_ }, same⟩, rfl, _, ?_, by omega, rfl⟩
    · exact groundwork.stubsNext.trans (Nat.le_add_right _ _)
    · exact (groundwork.methodsNew stub method known).imp_right
        fun handed => Nat.lt_of_lt_of_le handed (Nat.le_add_right _ _)
    · refine (groundwork.tablesFilled interface vtable has).imp_right fun ⟨narrow, filled⟩ => ?_
      refine ⟨narrow, fun index method slot => ?_⟩
      exact (filled index method slot).keep (Nat.le_add_right _ _) (fun _ _ => rfl)
        fun _ _ => .inl rfl
    · exact Nat.lt_add_of_pos_right positive
  · rw [if_neg room]
    exact prepared

omit prepared in
/-- The newest stub is given its method, which hides that of no other stub. -/
theorem Session.methodAt?_of_cons (session : Session) {later : Session} {stub : Nat} {method : Method}
    (noted : later.vtables.methods = (stub, method) :: session.vtables.methods) (other : Nat) :
    later.methodAt? other = if other = stub then some method else session.methodAt? other := by
  rw [Session.methodAt?, noted, List.lookup_cons]
  by_cases same : other = stub
  · simp [same]
  · simp [same, beq_eq_false_iff_ne.mpr same, Session.methodAt?]

/-- A slot behind the new vtables is filled with the stub that was handed out last. -/
theorem Prepared.slot {stubs : StubTable} {place : Nat} (method : Method)
    (handed : session.stubs.next < stubs.next)
    (backed : session.memory.holds place 4 = true) (above : start.heap.next ≤ place)
    (below : place + 4 ≤ session.heap.next) (free : TablesBefore start session place) :
    Prepared start objects
      { session with
        stubs := stubs
        memory := session.memory.put place (LittleEndian.ofDword (UInt32.ofNat session.stubs.next))
        vtables := { session.vtables with
          methods := (session.stubs.next, method) :: session.vtables.methods } } := by
  have length := LittleEndian.length_ofDword (UInt32.ofNat session.stubs.next)
  obtain ⟨groundwork, same⟩ := prepared.put (LittleEndian.ofDword (UInt32.ofNat session.stubs.next))
    (length.symm ▸ backed) above (length.symm ▸ below) free
  generalize stored : session.memory.put place _ = memory at groundwork ⊢
  have next : start.stubs.next ≤ session.stubs.next := groundwork.stubsNext
  have tables : ({ session.vtables with
      methods := (session.stubs.next, method) :: session.vtables.methods } :
      Vtables).table? = session.vtables.table? := funext fun interface => by cases interface <;> rfl
  -- The stub that was handed out last is none of those that had a method.
  have noted : ∀ later : Session,
      later.vtables.methods = (session.stubs.next, method) :: session.vtables.methods →
        ∀ stub, stub < session.stubs.next → later.methodAt? stub = session.methodAt? stub := by
    intro later methods stub earlier
    rw [session.methodAt?_of_cons methods, if_neg (Nat.ne_of_lt earlier)]
  refine ⟨{ groundwork with
    tables := by rw [tables]; exact groundwork.tables
    tablesApart := by rw [tables]; exact groundwork.tablesApart
    stubsNext := next.trans handed.le
    methodsKept := fun stub earlier => ?_
    methodsNew := fun stub other known => ?_
    tablesKept := by rw [tables]; exact groundwork.tablesKept
    tablesFilled := fun interface vtable has => ?_ }, same⟩
  · rw [noted _ rfl stub (Nat.lt_of_lt_of_le earlier next)]
    exact groundwork.methodsKept stub earlier
  · rw [session.methodAt?_of_cons rfl] at known
    split at known
    · next newest => exact .inr (newest ▸ handed)
    · exact (groundwork.methodsNew stub other known).imp_right (Nat.lt_trans · handed)
  · dsimp only at has
    rw [tables] at has
    refine (groundwork.tablesFilled interface vtable has).imp_right fun ⟨narrow, filled⟩ => ?_
    refine ⟨narrow, fun index other slot => ?_⟩
    exact (filled index other slot).keep handed.le (noted _ rfl) fun _ _ => .inl rfl

/-- From `session` to `final` the slots from `address` on were filled with stubs for the methods. -/
structure Slotted (session : Session) (address : Nat) (methods : List Method) (final : Session) :
    Prop where
  heap : final.heap = session.heap
  video : final.video = session.video
  tables : final.vtables.table? = session.vtables.table?
  stubsNext : session.stubs.next ≤ final.stubs.next
  methodsKept : ∀ stub, stub < session.stubs.next → final.methodAt? stub = session.methodAt? stub
  bytes : ∀ point, point < address → final.memory.byte? point = session.memory.byte? point
  slots : ∀ index method, methods[index]? = some method →
    Leads session.Mappable final (address + 4 * index) method

omit prepared in
theorem ends_installSlots (methods : List Method) (address : Nat)
    (prepared : Prepared start objects session) (above : start.heap.next ≤ address)
    (below : address + methods.length * 4 ≤ session.heap.next)
    (free : TablesBefore start session address) :
    Ends (Engine.installSlots address methods) session
      (fun _ final => Prepared start objects final ∧ Slotted session address methods final)
      (Prepared start objects) := by
  induction methods generalizing address session with
  | nil =>
    exact ⟨prepared, rfl, rfl, rfl, Nat.le_refl _, fun _ _ => rfl, fun _ _ => rfl,
      fun _ _ slot => nomatch slot⟩
  | cons method rest ih =>
    rw [List.length_cons] at below
    refine (ends_registerStub prepared _).bind ?_
    rintro _ _ ⟨registered, rfl, stubs, handed, narrow, rfl⟩
    have length := LittleEndian.length_ofDword (UInt32.ofNat session.stubs.next)
    refine (ends_write registered _ _).bind ?_
    rintro _ _ ⟨backed, rfl⟩
    rw [length] at backed
    refine .change ?_
    have slotted := prepared.slot method handed backed above (by omega) free
    have same : ({ session.vtables with
        methods := (session.stubs.next, method) :: session.vtables.methods } :
        Vtables).table? = session.vtables.table? := funext fun interface => by cases interface <;> rfl
    refine Ends.weaken (ih (address + 4) slotted (by omega)
      (show address + 4 + rest.length * 4 ≤ session.heap.next by omega)
      (free.congr same (by omega))) ?_
    rintro _ final ⟨done, after⟩
    have kept : ∀ stub, stub < session.stubs.next →
        final.methodAt? stub = session.methodAt? stub := by
      intro stub earlier
      rw [after.methodsKept stub (Nat.lt_trans earlier handed), session.methodAt?_of_cons rfl,
        if_neg (Nat.ne_of_lt earlier)]
    refine ⟨done, after.heap, after.video, after.tables.trans same, handed.le.trans after.stubsNext,
      kept, fun point before => ?_, fun index wanted slot => ?_⟩
    · refine (after.bytes point (by omega)).trans ?_
      show (session.memory.put address _).byte? point = _
      rw [Memory.byte?_put (length.symm ▸ backed), if_neg (by omega)]
    · cases index with
      | zero =>
        cases slot
        -- The stub that was handed out here is known from now on.
        refine ⟨session.stubs.next, Nat.lt_of_lt_of_le handed after.stubsNext, narrow, ?_,
          fun offset small => .inl ?_⟩
        · rw [after.methodsKept _ handed, session.methodAt?_of_cons rfl, if_pos rfl]
        · refine (after.bytes _ (by omega)).trans ?_
          show (session.memory.put address _).byte? (address + offset) = _
          rw [Memory.byte?_put (length.symm ▸ backed), length, if_pos (by omega),
            Nat.add_sub_cancel_left]
      | succ index =>
        have later := after.slots index wanted slot
        rw [Nat.add_assoc, Nat.add_comm 4] at later
        refine later.mono fun point mappable => ?_
        unfold Session.Mappable at mappable ⊢
        exact mappable

theorem ends_installVtable (methods : List Method) :
    Ends (Engine.installVtable methods) session
      (fun vtable final => Prepared start objects final ∧ session.heap.next ≤ final.heap.next ∧
        session.heap.next ≤ vtable ∧ vtable + methods.length * 4 ≤ final.heap.next ∧
        vtable + methods.length * 4 < addressSpace ∧
        final.vtables.table? = session.vtables.table? ∧
        ∀ index method, methods[index]? = some method →
          Leads start.Mappable final (vtable + 4 * index) method) (Prepared start objects) := by
  unfold Engine.installVtable
  have grown := prepared.1.heapNext
  have before := prepared.1.tablesBefore
  refine (ends_allocate prepared _).bind ?_
  rintro vtable reserved ⟨prepared, grows, above, below, -, narrow, -, same, -⟩
  refine (ends_installSlots methods vtable prepared (grown.trans above) below
    (before.congr (congrArg _ same) above)).bind ?_
  rintro _ final ⟨after, slotted⟩
  refine ⟨after, ?_, above, ?_, narrow, ?_, fun index method slot => ?_⟩
  · rw [slotted.heap]
    exact above.trans (Nat.le_of_lt grows)
  · rw [slotted.heap]
    exact below
  · rw [slotted.tables, same]
  · exact (slotted.slots index method slot).since prepared.1.videoNext prepared.1.videoLimit

theorem ends_surfaceVtable :
    Ends Engine.surfaceVtable session
      (fun vtable final => Prepared start objects final ∧ session.heap.next ≤ final.heap.next ∧
        final.vtables.table? .surface = some vtable) (Prepared start objects) := by
  unfold Engine.surfaceVtable
  refine .read ?_
  cases has : session.vtables.surface with
  | some vtable => exact ⟨prepared, Nat.le_refl _, has⟩
  | none =>
    refine Ends.bind (ends_installVtable prepared Method.surfaces) ?_
    rintro vtable installed ⟨after, grows, above, below, narrow, tables, filled⟩
    exact ⟨after.install prepared .surface tables has above below narrow filled, grows, rfl⟩

theorem ends_paletteVtable :
    Ends Engine.paletteVtable session
      (fun vtable final => Prepared start objects final ∧ session.heap.next ≤ final.heap.next ∧
        final.vtables.table? .palette = some vtable) (Prepared start objects) := by
  unfold Engine.paletteVtable
  refine .read ?_
  cases has : session.vtables.palette with
  | some vtable => exact ⟨prepared, Nat.le_refl _, has⟩
  | none =>
    refine Ends.bind (ends_installVtable prepared Method.palettes) ?_
    rintro vtable installed ⟨after, grows, above, below, narrow, tables, filled⟩
    exact ⟨after.install prepared .palette tables has above below narrow filled, grows, rfl⟩

/-- Where the frame buffer could be mapped there was none before. -/
theorem Prepared.unmapped (mapped : session.frameBuffer = none) : start.frameBuffer = none := by
  rcases prepared.1.frame with still | ⟨none, -⟩
  · rw [← still, mapped]
  · exact none

/-- A part of the aperture that memory does not back is mapped in vain. -/
theorem Prepared.inVain {video : Aperture} {size stop : Nat} (mapped : session.frameBuffer = none)
    (fits : session.video.next + size ≤ stop) (grows : session.video.next < stop)
    (within : stop ≤ session.video.limit)
    (unbacked : session.memory.holds session.video.next size = false)
    (moved : video = { session.video with
      next := stop
      mappings := (session.video.next, stop - session.video.next) :: session.video.mappings }) :
    Prepared start objects { session with video := video } := by
  subst moved
  obtain ⟨groundwork, same⟩ := prepared
  have next := groundwork.videoNext
  have limit := groundwork.videoLimit
  refine ⟨{ groundwork with
    videoNext := next.trans grows.le
    mapping := fun _ has => nomatch mapped.symm.trans has
    mappings := .inr (.inr ⟨session.video.next, size, next, by omega, ?_⟩) }, same⟩
  rw [← groundwork.holds, unbacked]

/-- The frame buffer is mapped and cleared. -/
theorem Prepared.mapped {video : Aperture} {size stop : Nat} (mapped : session.frameBuffer = none)
    (sized : session.mode.frameSize? = some size)
    (fits : session.video.next + size ≤ stop) (grows : session.video.next < stop)
    (within : stop ≤ session.video.limit) (narrow : size + Aperture.page ≤ addressSpace)
    (backed : session.memory.holds session.video.next size = true)
    (moved : video = { session.video with
      next := stop
      mappings := (session.video.next, stop - session.video.next) :: session.video.mappings }) :
    Prepared start objects { session with
      video := video
      memory := session.memory.put session.video.next (List.replicate size 0)
      frameBuffer := some session.video.next } := by
  have unmapped := prepared.unmapped mapped
  subst moved
  obtain ⟨groundwork, same⟩ := prepared
  have next := groundwork.videoNext
  have limit := groundwork.videoLimit
  have cleared : ∀ point, (session.memory.put session.video.next (List.replicate size 0)).byte? point =
      session.memory.byte? point ∨ start.video.next ≤ point ∧ point < start.video.limit := by
    intro point
    rw [Memory.byte?_put (by rw [List.length_replicate]; exact backed), List.length_replicate]
    split
    · exact .inr ⟨by omega, by omega⟩
    · exact .inl rfl
  refine ⟨{ groundwork with
    memorySize := (Memory.size_put _ _ _).trans groundwork.memorySize
    bytes := fun point => ?_
    videoNext := next.trans grows.le
    frame := .inr ⟨unmapped, session.video.next, size, rfl, groundwork.mode ▸ sized, next, by omega,
      by omega, groundwork.holds _ _ ▸ backed⟩
    mapping := fun address has => ?_
    paged := .inr fun other taken => ?_
    mappings := ?_
    tablesFilled := fun interface vtable has => ?_ }, same⟩
  · rcases cleared point with same | ⟨above, below⟩
    · show (session.memory.put _ _).byte? point = _ ∨ _
      rw [same]
      exact groundwork.bytes point
    · exact .inr (.inr ⟨unmapped, above, below⟩)
  · cases has
    refine .inr ⟨unmapped, size, stop - session.video.next, groundwork.mode ▸ sized, ?_, by omega⟩
    exact List.lookup_cons_self
  · cases (groundwork.mode ▸ sized).symm.trans taken
    exact narrow
  · rcases groundwork.mappings with ⟨-, mappings⟩ | ⟨-, _, _, frame, -⟩ | unbacked
    · exact .inr (.inl ⟨unmapped, _, _, rfl, congrArg _ mappings⟩)
    · cases mapped.symm.trans frame
    · exact .inr (.inr unbacked)
  · refine (groundwork.tablesFilled interface vtable has).imp_right fun ⟨narrow, filled⟩ => ?_
    refine ⟨narrow, fun index method slot => ?_⟩
    exact (filled index method slot).keep (Nat.le_refl _) (fun _ _ => rfl) fun _ _ => cleared _

/-- The frame buffer is mapped where nothing was mapped before. -/
theorem ends_mapFrameBuffer (entry : String) :
    Ends (Engine.mapFrameBuffer entry) session
      (fun address final => Prepared start objects final ∧ final.heap = session.heap ∧
        final.frameBuffer = some address) (Prepared start objects) := by
  unfold Engine.mapFrameBuffer
  refine .read ?_
  cases mapped : session.frameBuffer with
  | some address => exact ⟨prepared, rfl, mapped⟩
  | none =>
    dsimp only
    split
    · next size sized =>
      generalize mapping : session.video.map size = result
      refine Ends.bind (ends_liftMemory prepared result) ?_
      rintro ⟨address, video⟩ session ⟨rfl, rfl⟩
      obtain ⟨stop, ends, rfl, moved⟩ := Aperture.map_eq_ok mapping
      obtain ⟨fits, grows, within, -⟩ := blockEnd?_eq_some (by decide) ends
      refine .change ?_
      cases backed : session.memory.holds session.video.next size with
      | true =>
        refine Ends.bind (ends_fill_backed backed) ?_
        rintro _ _ rfl
        have narrow := blockEnd?_narrow (by decide) ends
        exact ⟨prepared.mapped mapped sized fits grows within (by omega) backed moved, rfl, rfl⟩
      | false =>
        have reserved := prepared.inVain mapped fits grows within backed moved
        refine Ends.bind (ends_fill reserved _ _ _) ?_
        rintro _ _ ⟨inside, -⟩
        cases backed.symm.trans inside
    · exact prepared

/-- Linking an object to its fresh block succeeds. -/
theorem ends_linkBlock {failed : Session → Prop} {block size : Nat} (vtable : Nat) (handle : Handle)
    (roomy : Block.dataOffset ≤ size) (backed : session.memory.holds block size = true)
    (above : start.heap.next ≤ block) (below : block + size ≤ session.heap.next)
    (free : TablesBefore start session block) :
    Ends (Engine.linkBlock block vtable handle) session
      (fun _ final => Prepared start objects final ∧
        final = { session with
          memory := (session.memory.put block (LittleEndian.ofDword (UInt32.ofNat vtable))).put
            (block + Block.handleOffset) (LittleEndian.ofDword handle.dword) }) failed := by
  have inside : ∀ offset, offset + 4 ≤ size →
      session.memory.holds (block + offset) 4 = true := by
    intro offset fits
    rw [Memory.holds_iff] at backed ⊢
    omega
  have roomy : 8 ≤ size := roomy
  unfold Engine.linkBlock
  have first : session.memory.holds block 4 = true := inside 0 (by omega)
  have second : session.memory.holds (block + Block.handleOffset) 4 = true :=
    inside 4 (by omega)
  have wide : block + Block.handleOffset = block + 4 := rfl
  refine (ends_write_backed (by rw [LittleEndian.length_ofDword]; exact first)).bind ?_
  rintro _ _ rfl
  have linked := prepared.put (LittleEndian.ofDword (UInt32.ofNat vtable))
    (by rw [LittleEndian.length_ofDword]; exact first) above
    (by rw [LittleEndian.length_ofDword]; omega) free
  refine (ends_write_backed ?_).weaken ?_
  · rw [LittleEndian.length_ofDword, Memory.holds_put]
    exact second
  · rintro _ _ rfl
    refine ⟨linked.put _ ?_ (above.trans (Nat.le_add_right _ _)) ?_
      (free.congr rfl (Nat.le_add_right _ _)), rfl⟩
    · rw [LittleEndian.length_ofDword, Memory.holds_put]
      exact second
    · rw [LittleEndian.length_ofDword]
      show block + 4 + 4 ≤ session.heap.next
      omega

end Steps

end GuestDraw
