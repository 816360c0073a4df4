/-
**Creating surfaces and palettes.**

A new object comes with a block of its own, and a surface with pixels besides: cut off the heap, or
in the frame buffer. A surface that is to be flipped comes with a second one. Whatever goes wrong on
the way, at most a back buffer was created by then, and it is closed again.

* `ends_place`: an object is created and linked to its block;
* `Built`, `Created`, `Mixed`: what there is after a surface or a palette was created;
* `ends_createSurface`, `ends_createPalette`: the calls, and what they leave behind when they fail.
-/

import GuestDraw.Proofs.Interface.Records
import GuestDraw.Proofs.Session.Groundwork

namespace GuestDraw

/-! ### Objects and their blocks -/

/-- The block at `address`, of `size` bytes, was cut off the heap between `start` and `final`. -/
structure CutOff (start final : Session) (address size : Nat) : Prop where
  above : start.heap.next ≤ address
  below : address + size ≤ final.heap.next
  narrow : address + size < addressSpace

/-- Cleared pixels at `address` were cut off the heap since `start`, before anything else that was
cut off, which lies beyond them; the vtables do, and what lies at `limit`. -/
structure Carved (start final : Session) (address size limit : Nat) : Prop where
  inside : address < limit
  before : address + size ≤ limit
  tables : ∀ interface vtable, final.vtables.table? interface = some vtable →
    start.vtables.table? interface = some vtable ∨ address + size ≤ vtable
  backed : start.memory.holds address size = true
  blank : ∀ point, address ≤ point → point < address + size →
    final.memory.byte? point = some 0 ∨ start.video.next ≤ point ∧ point < start.video.limit

/-- What comes after pixels were cut off lies beyond them. -/
theorem Carved.of_cleared {start middle final : Session} {address size limit : Nat}
    (ground : Groundwork start middle) (more : Groundwork middle final)
    (inside : address < middle.heap.next) (ends : address + size ≤ middle.heap.next)
    (beyond : middle.heap.next ≤ limit)
    (tables : middle.vtables = start.vtables) (backed : middle.memory.holds address size = true)
    (blank : ∀ point, address ≤ point → point < address + size →
      middle.memory.byte? point = some 0) : Carved start final address size limit where
  inside := Nat.lt_of_lt_of_le inside beyond
  before := ends.trans beyond
  tables interface vtable has := by
    rcases more.tables interface with same | ⟨_, new, above, -⟩
    · exact .inl (by rw [← tables, ← same, has])
    · cases new.symm.trans has
      exact .inr (ends.trans above)
  backed := ground.holds _ _ ▸ backed
  blank point above below := by
    rcases more.bytes point with same | ⟨past, -⟩ | ⟨-, low, high⟩
    · exact .inl (same.trans (blank point above below))
    · omega
    · exact .inr ⟨ground.videoNext.trans low, ground.videoLimit ▸ high⟩

/-- The bytes of the block of an object: vtable, handle and data, and zeros behind them. -/
def Block.bytes (vtable : Nat) (handle : Handle) (data : List UInt8) (size : Nat) : List UInt8 :=
  LittleEndian.ofDword (UInt32.ofNat vtable) ++ LittleEndian.ofDword handle.dword ++ data
    ++ List.replicate (size - Block.dataOffset - data.length) 0

/-- The block of an object holds the vtable of its interface, the handle of the object and its
data. -/
def Session.Links (session : Session) (interface : Interface) (handle : Handle) (data : List UInt8)
    (block size : Nat) : Prop :=
  ∃ vtable, session.vtables.table? interface = some vtable ∧ ∀ offset, offset < size →
    session.memory.byte? (block + offset) = (Block.bytes vtable handle data size)[offset]?

/-- The bytes of a block, piece by piece. -/
theorem Block.getElem?_bytes {data : List UInt8} {size : Nat}
    (fits : Block.dataOffset + data.length ≤ size) (vtable : Nat) (handle : Handle) {offset : Nat}
    (inside : offset < size) :
    (Block.bytes vtable handle data size)[offset]? =
      if offset < 4 then (LittleEndian.ofDword (UInt32.ofNat vtable))[offset]?
      else if offset < 8 then (LittleEndian.ofDword handle.dword)[offset - 4]?
      else if offset < 8 + data.length then data[offset - 8]?
      else some 0 := by
  have data8 : Block.dataOffset = 8 := rfl
  have first := LittleEndian.length_ofDword (UInt32.ofNat vtable)
  have second := LittleEndian.length_ofDword handle.dword
  rw [data8] at fits
  simp only [Block.bytes, List.getElem?_append, List.length_append, first, second, data8,
    List.getElem?_replicate]
  by_cases low : offset < 4
  · simp only [show offset < 4 + 4 + data.length by omega, show offset < 4 + 4 by omega, low, if_true]
  · by_cases middle : offset < 8
    · simp only [show offset < 4 + 4 + data.length by omega, show offset < 4 + 4 by omega, low,
        if_true, if_false]
    · by_cases high : offset < 8 + data.length
      · simp only [show offset < 4 + 4 + data.length by omega, show ¬ offset < 4 + 4 by omega, low,
          if_true, if_false]
      · simp only [show ¬ offset < 4 + 4 + data.length by omega, low, middle, if_false,
          show offset - (4 + 4 + data.length) < size - 8 - data.length by omega, if_true]

/-- What is stored one after the other in a cleared block. -/
theorem Memory.byte?_link {memory : Memory} {block size : Nat} {data : List UInt8}
    (backed : memory.holds block size = true)
    (blank : ∀ point, block ≤ point → point < block + size → memory.byte? point = some 0)
    (fits : Block.dataOffset + data.length ≤ size) (vtable : Nat) (handle : Handle) {offset : Nat}
    (inside : offset < size) :
    (((memory.put (block + Block.dataOffset) data).put block
      (LittleEndian.ofDword (UInt32.ofNat vtable))).put (block + Block.handleOffset)
        (LittleEndian.ofDword handle.dword)).byte? (block + offset) =
      (Block.bytes vtable handle data size)[offset]? := by
  have data8 : Block.dataOffset = 8 := rfl
  have handle4 : Block.handleOffset = 4 := rfl
  have held : ∀ place length, block ≤ place → place + length ≤ block + size →
      memory.holds place length = true := by
    intro place length above below
    rw [Memory.holds_iff] at backed ⊢
    omega
  have first := LittleEndian.length_ofDword (UInt32.ofNat vtable)
  have second := LittleEndian.length_ofDword handle.dword
  have cleared : memory.byte? (block + offset) = some 0 := blank _ (by omega) (by omega)
  rw [Block.getElem?_bytes fits vtable handle inside]
  rw [data8] at fits ⊢
  rw [handle4, Memory.byte?_put (by
      rw [second, Memory.holds_put, Memory.holds_put]
      exact held _ _ (by omega) (by omega)),
    Memory.byte?_put (by
      rw [first, Memory.holds_put]
      exact held _ _ (by omega) (by omega)),
    Memory.byte?_put (held _ _ (by omega) (by omega)), first, second, cleared]
  by_cases low : offset < 4
  · rw [if_neg (by omega), if_pos (by omega), if_pos low, Nat.add_sub_cancel_left]
  · by_cases middle : offset < 8
    · rw [if_pos (by omega), if_neg low, if_pos middle, Nat.add_sub_add_left]
    · rw [if_neg (by omega), if_neg (by omega), if_neg low, if_neg middle, Nat.add_sub_add_left]
      by_cases high : offset < 8 + data.length
      · rw [if_pos (by omega), if_pos high]
      · rw [if_neg (by omega), if_neg high]

/-- An object is created together with its block, or the ground is all that is left. What comes
after it starts with the object linked to the block. -/
theorem ends_place {α : Type} {start : Session} {table : Engine Nat} {interface : Interface}
    {size : Nat}
    {data : Nat → List UInt8}
    {shape : Nat → Payload} {rest : Nat → Handle → Engine α} {done : α → Session → Prop}
    {failed : Session → Prop}
    (tabled : Ends table start (fun vtable final => Prepared start start.objects final ∧
      final.vtables.table? interface = some vtable) (Prepared start start.objects))
    (fits : ∀ object, Block.dataOffset + (data object).length ≤ size)
    (left : ∀ final, Prepared start start.objects final → failed final)
    (next : ∀ object handle final, Groundwork start final → CutOff start final object size →
      TablesBefore start final object → final.Links interface handle (data object) object size →
      start.objects.create (shape object) = .ok (handle, final.objects) →
        Ends (rest object handle) final done failed) :
    Ends (do
      let vtable ← table
      let object ← Engine.allocate size
      Engine.write (object + Block.dataOffset) (data object)
      let handle ← Engine.create (shape object)
      Engine.linkBlock object vtable handle
      rest object handle) start done failed := by
  refine Ends.bind (tabled.imp (fun _ _ done => done) left) ?_
  rintro vtable middle ⟨prepared, has⟩
  have above := prepared.1.heapNext
  refine Ends.bind ((ends_allocate prepared size).imp (fun _ _ done => done) left) ?_
  rintro object reserved ⟨reservedSo, grows, begins, below, -, narrow, backed, tables, blank⟩
  have free : TablesBefore start reserved object :=
    prepared.1.tablesBefore.congr (congrArg _ tables) begins
  have roomy := fits object
  have roomy8 : 8 ≤ Block.dataOffset := Nat.le_refl _
  refine Ends.bind ((ends_writeFresh reservedSo (by omega) (by omega)
    (free.congr rfl (Nat.le_add_right _ _))).imp (fun _ _ done => done) left) ?_
  rintro _ stored ⟨prepared, inside, same⟩
  have heap : stored.heap = reserved.heap := by rw [same]
  have still : stored.vtables = middle.vtables := by rw [same, ← tables]
  have memory : stored.memory = reserved.memory.put (object + Block.dataOffset) (data object) := by
    rw [same]
  clear same
  refine Ends.bind (ends_onObjects (left _ prepared)) ?_
  rintro handle _ ⟨objects, made, rfl⟩
  rw [prepared.2] at made
  have created : Prepared start objects { stored with objects := objects } :=
    ⟨{ prepared.1 with }, rfl⟩
  refine Ends.bind (ends_linkBlock created vtable handle (show Block.dataOffset ≤ size by omega)
    (prepared.1.holds object size ▸ reservedSo.1.holds object size ▸ backed) (by omega)
    (heap ▸ below) (free.congr (congrArg _ (still.trans tables.symm)) (Nat.le_refl _))) ?_
  rintro _ final ⟨linked, same⟩
  refine next object handle final linked.1 ⟨by omega, ?_, narrow⟩ ?_ ⟨vtable, ?_, ?_⟩
    (linked.2 ▸ made)
  · rw [same]
    exact heap ▸ below
  · refine free.congr (congrArg Vtables.table? ?_) (Nat.le_refl _)
    rw [same, tables]
    exact still
  · rw [same]
    exact still ▸ has
  · intro offset small
    rw [same, ← Memory.byte?_link backed blank roomy vtable handle small]
    exact congrArg (fun memory : Memory => Memory.byte? (Memory.put (Memory.put memory object _)
      (object + Block.handleOffset) _) (object + offset)) memory

/-! ### Surfaces -/

theorem Descriptor.length_bytes (descriptor : Descriptor) :
    descriptor.bytes.length ≤ GuestDraw.descriptorSize true := by
  rw [Descriptor.bytes, length_recordBytes]
  cases descriptor.extended <;> decide

/-- A plan for the frame buffer has the size of the picture. -/
def SurfacePlan.Shows (plan : SurfacePlan) (mode : DisplayMode) : Prop :=
  plan.backing = .frameBuffer →
    plan.width = mode.width ∧ plan.height = mode.height ∧ plan.depth = mode.depth

/-- A plan is that of a primary surface or of one that is not shown and not empty, with more
capabilities and maybe a back buffer. -/
theorem planSurface_eq_ok {mode : DisplayMode} {chain : FlipChain} {request : Request}
    {plan : SurfacePlan} (planned : planSurface mode chain request = .ok plan) :
    ∃ (chosen : SurfacePlan) (caps : SurfaceCaps) (backBuffer : Bool),
      plan = { chosen with caps := caps, backBuffer := backBuffer } ∧
        (request.caps.contains SurfaceCaps.primarySurface = true ∧
            (∃ flags, chosen = primaryPlan mode flags request) ∨
          request.caps.contains SurfaceCaps.primarySurface = false ∧ chosen.backing = .heap ∧
            chosen.height ≠ 0) := by
  -- What is decided last changes neither size nor backing.
  have finish : ∀ (chosen : SurfacePlan) (caps more : SurfaceCaps) (wanted : Except Failure Bool),
      chosen.backBuffer = false →
      (do
        if ← wanted then
          return { chosen with caps := more, backBuffer := true }
        else
          return { chosen with caps := caps }) = Except.ok plan →
      ∃ caps backBuffer, plan = { chosen with caps := caps, backBuffer := backBuffer } := by
    intro chosen caps more wanted alone decided
    cases wanted with
    | error cause => cases decided
    | ok answer =>
      cases answer with
      | true =>
        cases decided
        exact ⟨more, true, rfl⟩
      | false =>
        cases decided
        exact ⟨caps, false, by rw [← alone]⟩
  unfold planSurface at planned
  cases generation : request.generation? with
  | none =>
    rw [generation] at planned
    cases planned
  | some flags =>
    rw [generation] at planned
    dsimp only at planned
    split at planned
    · cases planned
    · split at planned
      · cases planned
      · cases planned
      · next primary _ =>
        split at planned
        · cases planned
        · obtain ⟨caps, backBuffer, is⟩ := finish _ _ _ _ rfl planned
          exact ⟨primaryPlan mode flags request, caps, backBuffer, is, .inl ⟨primary, flags, rfl⟩⟩
      · next hidden _ =>
        cases chosen : offscreenPlan mode flags request with
        | error cause =>
          rw [chosen] at planned
          cases planned
        | ok offscreen =>
          rw [chosen] at planned
          have plain : (offscreen.backing = .heap ∧ offscreen.height ≠ 0) ∧
              offscreen.backBuffer = false := by
            unfold offscreenPlan at chosen
            split at chosen
            · cases chosen
            · next sized =>
              split at chosen
              · cases chosen
              · cases chosen
                refine ⟨⟨rfl, fun empty => sized (.inr (.inr ?_))⟩, rfl⟩
                exact UInt32.toNat_inj.mp empty
          simp only [bind, Except.bind] at planned
          split at planned
          · cases planned
          · obtain ⟨caps, backBuffer, is⟩ := finish _ _ _ _ plain.2 planned
            exact ⟨offscreen, caps, backBuffer, is, .inr ⟨hidden, plain.1⟩⟩

theorem planSurface_shows {mode : DisplayMode} {chain : FlipChain} {request : Request}
    {plan : SurfacePlan} (planned : planSurface mode chain request = .ok plan) :
    plan.Shows mode := by
  obtain ⟨chosen, caps, backBuffer, rfl, ⟨-, flags, rfl⟩ | ⟨-, onHeap, -⟩⟩ := planSurface_eq_ok planned
  · exact fun _ => ⟨rfl, rfl, rfl⟩
  · intro shown
    cases onHeap.symm.trans shown

/-- While the picture has a scanline every surface that is planned has. -/
theorem planSurface_high {mode : DisplayMode} {chain : FlipChain} {request : Request}
    {plan : SurfacePlan} (planned : planSurface mode chain request = .ok plan)
    (high : mode.height ≠ 0) : plan.height ≠ 0 := by
  obtain ⟨chosen, caps, backBuffer, rfl, ⟨-, flags, rfl⟩ | ⟨-, -, tall⟩⟩ := planSurface_eq_ok planned
  · exact high
  · exact tall

/-- Primary surfaces, and no others, have their pixels in the frame buffer. -/
theorem planSurface_backing {mode : DisplayMode} {chain : FlipChain} {request : Request}
    {plan : SurfacePlan} (planned : planSurface mode chain request = .ok plan) :
    plan.backing = .frameBuffer ↔ request.caps.contains SurfaceCaps.primarySurface = true := by
  obtain ⟨chosen, caps, backBuffer, rfl, ⟨primary, flags, rfl⟩ | ⟨hidden, onHeap, -⟩⟩ :=
    planSurface_eq_ok planned
  · exact iff_of_true rfl primary
  · refine iff_of_false (fun shown => ?_) (Bool.eq_false_iff.mp hidden)
    cases onHeap.symm.trans shown

/-- The surface of a plan, with the places of its block and its pixels. -/
def SurfacePlan.surface (plan : SurfacePlan) (backBuffer : Option Handle) (memory object : Nat) :
    Surface where
  object := object
  flags := plan.flags
  width := plan.width
  height := plan.height
  depth := plan.depth
  pitch := pitch plan.width plan.depth
  caps := plan.caps
  memory := memory
  palette := none
  backBuffer := backBuffer
  deviceContext := none
  cache := none
  locked := false

/-- The pixels of a plan lie at `memory`: in the frame buffer, or cut off the heap since `start`. -/
def SurfacePlan.PixelsAt (plan : SurfacePlan) (start final : Session) (memory : Nat) : Prop :=
  match plan.backing with
  | .heap => CutOff start final memory (pitch plan.width plan.depth * plan.height)
  | .frameBuffer => final.frameBuffer = some memory

/-- From `start` to `final` the surface of a plan was created, with the given back buffer. -/
structure Built (start : Session) (plan : SurfacePlan) (backBuffer : Option Handle)
    (handle : Handle) (surface : Surface) (final : Session) : Prop where
  groundwork : Groundwork start final
  made : start.objects.create (.surface surface) = .ok (handle, final.objects)
  shape : surface = plan.surface backBuffer surface.memory surface.object
  block : CutOff start final surface.object Surface.blockSize
  pixels : plan.PixelsAt start final surface.memory
  tables : TablesBefore start final surface.object
  carved : plan.backing = .heap → Carved start final surface.memory
    (pitch plan.width plan.depth * plan.height) surface.object
  links : ∃ format, FormatRecord.forDepth? plan.depth = some format ∧ final.Links .surface handle
    (plan.descriptor format backBuffer.isSome).bytes surface.object Surface.blockSize

/-- A surface has the size that was planned for it. -/
theorem Built.sizes {start final : Session} {plan : SurfacePlan} {backBuffer : Option Handle}
    {handle : Handle} {surface : Surface} (built : Built start plan backBuffer handle surface final) :
    surface.width = plan.width ∧ surface.height = plan.height ∧ surface.depth = plan.depth ∧
      surface.pitch = pitch plan.width plan.depth := by
  rw [built.shape]
  exact ⟨rfl, rfl, rfl, rfl⟩

/-- A surface is created on prepared ground, or the ground is all that is left. -/
theorem ends_buildSingle (start : Session) (plan : SurfacePlan) (backBuffer : Option Handle) :
    Ends (Engine.buildSingle plan backBuffer) start
      (fun handle final => ∃ surface, Built start plan backBuffer handle surface final)
      (Prepared start start.objects) := by
  have prepared : Prepared start start.objects start := ⟨.refl start, rfl⟩
  unfold Engine.buildSingle
  refine Ends.bind (.ofExcept prepared) ?_
  rintro bytes start ⟨rfl, sized⟩
  have length : bytes = pitch plan.width plan.depth * plan.height := by
    unfold SurfacePlan.pixelBytes at sized
    dsimp only at sized
    split at sized <;> cases sized
    rfl
  cases known : FormatRecord.forDepth? plan.depth with
  | none => exact prepared
  | some format =>
    -- What follows is the same for both backings, once the pixels have their place.
    have finish : ∀ memory middle, Prepared start start.objects middle →
        plan.PixelsAt start middle memory →
        (∀ object final, Groundwork middle final → middle.heap.next ≤ object →
          plan.backing = .heap → Carved start final memory
            (pitch plan.width plan.depth * plan.height) object) →
        Ends (do
          let vtable ← Engine.surfaceVtable
          let object ← Engine.allocate Surface.blockSize
          Engine.write (object + Block.dataOffset) (plan.descriptor format backBuffer.isSome).bytes
          let handle ← Engine.create (.surface (plan.surface backBuffer memory object))
          Engine.linkBlock object vtable handle
          return handle) middle
          (fun handle final => ∃ surface, Built start plan backBuffer handle surface final)
          (Prepared start start.objects) := by
      intro memory middle before placed carved
      have tabled := (ends_surfaceVtable ⟨.refl middle, rfl⟩).weaken
        fun _ _ (ended : Prepared middle middle.objects _ ∧ _ ∧ _) => And.intro ended.1 ended.2.2
      refine ends_place tabled
        (fun _ => Nat.add_le_add_left (Descriptor.length_bytes _) _)
        (fun final left => ⟨before.1.trans left.1, left.2.trans before.2⟩) ?_
      intro object handle final groundwork block tables links made
      refine ⟨plan.surface backBuffer memory object, before.1.trans groundwork, before.2 ▸ made, rfl,
        ⟨before.1.heapNext.trans block.above, block.below, block.narrow⟩, ?_, ?_,
        carved object final groundwork block.above, format, known, links⟩
      · unfold SurfacePlan.PixelsAt at placed ⊢
        split at placed
        · exact ⟨placed.above, placed.below.trans groundwork.heapNext, placed.narrow⟩
        · exact groundwork.frameBuffer placed
      · intro interface vtable has
        have grown := before.1.heapNext
        have above := block.above
        rcases tables interface vtable has with was | ⟨high, low⟩
        · rcases before.1.tables interface with same | ⟨_, new, high, low⟩
          · exact .inl (same ▸ was)
          · cases new.symm.trans was
            exact .inr ⟨high, low.trans above⟩
        · exact .inr ⟨grown.trans high, low⟩
    cases backing : plan.backing with
    | frameBuffer =>
      refine Ends.bind (ends_mapFrameBuffer prepared _) ?_
      rintro memory middle ⟨before, -, mapped⟩
      refine finish memory middle before ?_ fun _ _ _ _ onHeap => ?_
      · rw [SurfacePlan.PixelsAt, backing]
        exact mapped
      · rw [backing] at onHeap
        cases onHeap
    | heap =>
      refine Ends.bind (ends_allocate prepared bytes) ?_
      rintro memory middle ⟨before, inside, above, below, -, narrow, backed, tables, blank⟩
      refine finish memory middle before ?_ fun object final more beyond _ => ?_
      · rw [SurfacePlan.PixelsAt, backing, ← length]
        exact ⟨above, below, narrow⟩
      · rw [← length]
        exact .of_cleared before.1 more inside below beyond tables backed blank

/-- From `start` to `final` the surface of a plan was created, and before it its back buffer. -/
inductive Raised (start : Session) (plan : SurfacePlan) (handle : Handle) (surface : Surface) :
    Session → Prop
  | single {final : Session} (built : Built start plan none handle surface final) :
    Raised start plan handle surface final
  | double {middle final : Session} {child : Handle} {back : Surface}
    (first : Built start (plan.child start.chain) none child back middle)
    (second : Built middle plan (some child) handle surface final) :
    Raised start plan handle surface final

/-- What is left of a surface that could not be created: groundwork, and a back buffer that was
closed again. -/
inductive Abandoned (start : Session) : Session → Prop
  | early {final : Session} (ground : Prepared start start.objects final) : Abandoned start final
  | late {plan : SurfacePlan} {middle final : Session} {child : Handle} {back : Surface}
    (first : Built start (plan.child start.chain) none child back middle)
    (ground : Prepared middle middle.objects final) :
    Abandoned start { final with objects := .drain [.close child] middle.objects }

/-- A surface is created, with a back buffer if it was planned with one. -/
theorem ends_buildSurface (start : Session) (plan : SurfacePlan) :
    Ends (Engine.buildSurface plan) start
      (fun handle final => ∃ surface, Raised start plan handle surface final ∧
        surface.backBuffer.isSome = plan.backBuffer) (Abandoned start) := by
  unfold Engine.buildSurface
  split
  · next doubled =>
    refine .read (Ends.bind ((ends_buildSingle start (plan.child start.chain) none).imp
      (fun _ _ ended => ended) fun _ failed => .early failed) ?_)
    rintro child middle ⟨back, first⟩
    refine .rescue ((ends_buildSingle middle plan (some child)).weaken ?_) ?_
    · rintro handle final ⟨surface, second⟩
      refine ⟨surface, .double first second, ?_⟩
      rw [second.shape, doubled]
      rfl
    · rintro cause final ground
      refine .change (.throw ?_)
      have closed := Abandoned.late first ground
      rw [← ground.2] at closed
      exact closed
  · next single =>
    refine (ends_buildSingle start plan none).imp ?_ fun _ failed => .early failed
    rintro handle final ⟨surface, built⟩
    refine ⟨surface, .single built, ?_⟩
    rw [built.shape, Bool.eq_false_iff.mpr single]
    rfl

/-- A surface that was created is alive. -/
theorem Built.live {start final : Session} {plan : SurfacePlan} {backBuffer : Option Handle}
    {handle : Handle} {surface : Surface} (built : Built start plan backBuffer handle surface final)
    (numbered : start.objects.Numbered 0) : final.objects.surface? handle = some surface := by
  rw [ObjectTable.surface?_of_update (ObjectTable.payload?_create numbered built.made),
    Function.update_self]
  rfl

/-- References are in order after a surface was created, if nobody has its back buffer yet. -/
theorem Linked.built {start final : Session} {plan : SurfacePlan} {backBuffer : Option Handle}
    {handle : Handle} {surface : Surface} (linked : Linked start.objects)
    (built : Built start plan backBuffer handle surface final)
    (last : ∀ child, backBuffer = some child → ∃ back,
      start.objects.surface? child = some back ∧ back.backBuffer = none)
    (unowned : ∀ child, backBuffer = some child → ∀ other owner,
      start.objects.surface? other = some owner → owner.backBuffer ≠ some child) :
    Linked final.objects := by
  obtain ⟨-, made, shape, -⟩ := built
  obtain ⟨_, own, counted⟩ := ObjectTable.insert_eq_ok_iff.mp made
  have next : final.objects.next = start.objects.next + 1 := by rw [counted]
  have holds : surface.backBuffer = backBuffer := by rw [shape]; rfl
  refine linked.create made (fun new child same owns other owner found => ?_) fun graph grows => ?_
  · cases same
    exact unowned child (holds ▸ owns) other owner (ObjectTable.surface?_eq_some_iff.mpr found)
  · have bare : surface.deviceContext = none ∧ surface.cache = none ∧ surface.palette = none := by
      rw [shape]
      exact ⟨rfl, rfl, rfl⟩
    refine ⟨fun _ has => by simp [bare] at has, fun _ has => by simp [bare] at has,
      fun _ has => by simp [bare] at has, fun child has => ?_,
      fun child has other owner found owns => ?_⟩
    · obtain ⟨back, live, alone⟩ := last child (holds ▸ has)
      have live := ObjectTable.surface?_eq_some_iff.mp live
      refine ⟨next ▸ Nat.lt_succ_of_lt (linked.number_lt live), fun content now => ?_⟩
      obtain ⟨new, there, becomes⟩ := grows.kept child _ live
      cases now.symm.trans there
      cases becomes with
      | surface fixed => exact ⟨_, rfl, (Surface.backBuffer_of_fixed fixed).trans alone⟩
      | same => exact ⟨_, rfl, alone⟩
    · cases before : start.objects.payload? other with
      | none =>
        have number := grows.fresh other _ found before
        rw [own, ← number]
      | some was =>
        obtain ⟨new, now, becomes⟩ := grows.kept other was before
        cases now.symm.trans found
        cases becomes with
        | surface fixed =>
          exact absurd ((Surface.backBuffer_of_fixed fixed).symm.trans owns)
            (unowned child (holds ▸ has) other _ (ObjectTable.surface?_eq_some_iff.mpr before))
        | same =>
          exact absurd owns
            (unowned child (holds ▸ has) other _ (ObjectTable.surface?_eq_some_iff.mpr before))

/-- Nobody has a surface as a back buffer that was only just created. -/
theorem Linked.unowned_built {start middle : Session} {plan : SurfacePlan} {child : Handle}
    {back : Surface} (linked : Linked start.objects) (built : Built start plan none child back middle)
    {other : Handle} {owner : Surface} (live : middle.objects.surface? other = some owner) :
    owner.backBuffer ≠ some child := by
  intro owns
  rcases ObjectTable.surface?_of_create linked.numbered built.made live with live | ⟨-, is⟩
  · obtain ⟨below, -⟩ := (linked.surface live).backBuffer child owns
    obtain ⟨_, own, -⟩ := ObjectTable.insert_eq_ok_iff.mp built.made
    rw [own] at below
    exact Nat.lt_irrefl _ below
  · cases is
    rw [built.shape] at owns
    cases owns

theorem Linked.raised {start final : Session} {plan : SurfacePlan} {handle : Handle}
    {surface : Surface} (linked : Linked start.objects)
    (raised : Raised start plan handle surface final) : Linked final.objects := by
  cases raised with
  | single built => exact linked.built built (fun _ none => nomatch none) fun _ none => nomatch none
  | double first second =>
    refine (linked.built first (fun _ none => nomatch none) fun _ none => nomatch none).built second
      (fun child same => ?_) fun child same other owner live => ?_
    · cases same
      exact ⟨_, first.live linked.numbered, by rw [first.shape]; rfl⟩
    · cases same
      exact linked.unowned_built first live

/-- What is kept when a single surface is built is kept when one is created with its back buffer. -/
theorem Raised.keeps {holds : Session → Prop} {start final : Session} {plan : SurfacePlan}
    {handle : Handle} {surface : Surface} (raised : Raised start plan handle surface final)
    (linked : Linked start.objects) (held : holds start) (shows : plan.Shows start.mode)
    (keeps : ∀ {start final : Session} {made : SurfacePlan} {backBuffer : Option Handle}
      {handle : Handle} {surface : Surface}, holds start →
      Built start made backBuffer handle surface final → made.Shows start.mode →
      made.height = plan.height → Linked final.objects → holds final) : holds final := by
  have linkedFinal := linked.raised raised
  cases raised with
  | single built => exact keeps held built shows rfl linkedFinal
  | double first second =>
    have middle := keeps held first (fun onScreen => nomatch onScreen) rfl (linked.raised (.single first))
    exact keeps middle second (first.groundwork.mode ▸ shows) rfl linkedFinal

theorem Linked.abandoned {start final : Session} (linked : Linked start.objects)
    (abandoned : Abandoned start final) : Linked final.objects := by
  cases abandoned with
  | early ground => exact ground.2.symm ▸ linked
  | late first ground =>
    have middle := linked.built first (fun _ none => nomatch none) fun _ none => nomatch none
    refine middle.drain _ fun step listed payload found => ?_
    cases List.mem_singleton.mp listed
    have live := ObjectTable.surface?_eq_some_iff.mp (first.live linked.numbered)
    cases live.symm.trans found
    exact .inl ⟨_, rfl⟩

/-- From `start` to `final` a surface was created, the pointer to which is not stored yet. -/
def Created (start : Session) (handle : Handle) (surface : Surface) (final : Session) : Prop :=
  ∃ plan : SurfacePlan, plan.Shows start.mode ∧ Raised start plan handle surface final

theorem Created.live {start final : Session} {handle : Handle} {surface : Surface}
    (created : Created start handle surface final) (numbered : start.objects.Numbered 0) :
    final.objects.surface? handle = some surface := by
  obtain ⟨plan, -, built | ⟨first, second⟩⟩ := created
  · exact built.live numbered
  · exact second.live (numbered.insert first.made)

theorem Created.groundwork {start final : Session} {handle : Handle} {surface : Surface}
    (created : Created start handle surface final) : Groundwork start final := by
  obtain ⟨plan, -, built | ⟨first, second⟩⟩ := created
  · exact built.groundwork
  · exact first.groundwork.trans second.groundwork

theorem Created.holds {start final : Session} {handle : Handle} {surface : Surface}
    (created : Created start handle surface final) (address length : Nat) :
    final.memory.holds address length = start.memory.holds address length :=
  created.groundwork.holds address length

/-- The surface of `plan` is what the request at `request` asks for. -/
def Session.Orders (session : Session) (request : Nat) (plan : SurfacePlan) : Prop :=
  ∃ wanted, Request.read session.memory request = .ok wanted ∧
    planSurface session.mode session.chain wanted = .ok plan

/-- A surface is created as it is ordered, and the pointer to it stored. -/
theorem ends_createSurface_ordered {start : Session} (numbered : start.objects.Numbered 0)
    (request out : Nat) :
    Ends (Engine.createSurface request out) start
      (fun pointer final => ∃ plan handle surface middle, start.Orders request plan ∧
        Raised start plan handle surface middle ∧ surface.backBuffer.isSome = plan.backBuffer ∧
        pointer = surface.object ∧
        start.memory.holds out 4 = true ∧ final = middle.answered out pointer)
      (fun final => Abandoned start final ∨ start.memory.holds out 4 = false ∧
        ∃ plan handle surface, start.Orders request plan ∧
          Raised start plan handle surface final) := by
  have unchanged : Abandoned start start := .early ⟨.refl start, rfl⟩
  unfold Engine.createSurface
  refine .guarded (.inl unchanged) fun notNull => .read ?_
  refine Ends.bind (.ofExcept (.inl unchanged)) ?_
  rintro wanted _ ⟨rfl, asked⟩
  refine Ends.bind (.ofExcept (.inl unchanged)) ?_
  rintro plan start ⟨rfl, planned⟩
  have ordered : start.Orders request plan := ⟨wanted, asked, planned⟩
  refine Ends.bind ((ends_buildSurface start plan).imp (fun _ _ ended => ended)
    fun _ failed => .inl failed) ?_
  rintro handle middle ⟨surface, raised, doubled⟩
  have created : Created start handle surface middle := ⟨plan, planSurface_shows planned, raised⟩
  refine (ends_surfaceAt_live (created.live numbered)).bind ?_
  rintro _ _ ⟨rfl, rfl⟩
  cases backed : start.memory.holds out 4 with
  | true =>
    refine (ends_write_backed ?_).bind ?_
    · rw [LittleEndian.length_ofDword, created.holds, backed]
    · rintro _ _ rfl
      exact ⟨plan, handle, _, _, ordered, raised, doubled, rfl, rfl, rfl⟩
  | false =>
    refine (ends_write (.inr ⟨rfl, plan, handle, _, ordered, raised⟩) _ _).bind ?_
    rintro _ _ ⟨inside, -⟩
    rw [LittleEndian.length_ofDword, created.holds, backed] at inside
    cases inside

/-- A surface is created and the pointer to it stored. -/
theorem ends_createSurface {start : Session} (numbered : start.objects.Numbered 0)
    (request out : Nat) :
    Ends (Engine.createSurface request out) start
      (fun pointer final => ∃ handle surface middle, Created start handle surface middle ∧
        pointer = surface.object ∧ start.memory.holds out 4 = true ∧
        final = middle.answered out pointer)
      (fun final => Abandoned start final ∨ start.memory.holds out 4 = false ∧
        ∃ handle surface, Created start handle surface final) := by
  refine (ends_createSurface_ordered numbered request out).imp ?_ ?_
  · rintro pointer final ⟨plan, handle, surface, middle, ⟨_, -, planned⟩, raised, -, ended⟩
    exact ⟨handle, surface, middle, ⟨plan, planSurface_shows planned, raised⟩, ended⟩
  · rintro final (abandoned | ⟨unbacked, plan, handle, surface, ⟨_, -, planned⟩, raised⟩)
    · exact .inl abandoned
    · exact .inr ⟨unbacked, handle, surface, plan, planSurface_shows planned, raised⟩

/-! ### Palettes -/

/-- From `start` to `final` a palette was created, the pointer to which is not stored yet. -/
structure Mixed (start : Session) (handle : Handle) (palette : Palette) (final : Session) :
    Prop where
  groundwork : Groundwork start final
  made : start.objects.create (.palette palette) = .ok (handle, final.objects)
  block : CutOff start final palette.object Palette.blockSize
  tables : TablesBefore start final palette.object
  sized : palette.entries.size ≤ Palette.slots
  toned : ∀ (index : Nat) (colour : UInt32), palette.entries[index]? = some colour →
    colour.toNat < 0x1000000
  links : final.Links .palette handle palette.blockBytes palette.object Palette.blockSize

theorem Linked.mixed {start final : Session} {handle : Handle} {palette : Palette}
    (linked : Linked start.objects) (mixed : Mixed start handle palette final) :
    Linked final.objects :=
  linked.create mixed.made (fun _ _ same => nomatch same) fun _ _ => trivial

theorem length?_le {caps : PaletteCaps} {count : Nat} (known : Palette.length? caps = some count) :
    count ≤ Palette.slots := by
  unfold Palette.length? at known
  split at known
  · cases known
    decide
  · split at known
    · cases known
      decide
    · cases known

/-- A palette is created and the pointer to it stored. -/
theorem ends_createPalette (start : Session) (caps : PaletteCaps) (colours out : Nat) :
    Ends (Engine.createPalette caps colours out) start
      (fun pointer final => ∃ handle palette middle, Mixed start handle palette middle ∧
        pointer = palette.object ∧ start.memory.holds out 4 = true ∧
        final = middle.answered out pointer)
      (fun final => Prepared start start.objects final ∨ start.memory.holds out 4 = false ∧
        ∃ handle palette, Mixed start handle palette final) := by
  have unchanged : Prepared start start.objects start := ⟨.refl start, rfl⟩
  unfold Engine.createPalette
  refine .guarded (.inl unchanged) fun notNull => .guarded (.inl unchanged) fun words => ?_
  cases known : Palette.length? caps with
  | none => exact .inl unchanged
  | some count =>
    refine Ends.bind (ends_readColours (.inl unchanged) _ _) ?_
    rintro entries start ⟨rfl, length, toned⟩
    have tabled := (ends_paletteVtable unchanged).weaken
      fun _ _ (ended : Prepared start start.objects _ ∧ _ ∧ _) => And.intro ended.1 ended.2.2
    have sized : entries.toArray.size ≤ Palette.slots := by
      rw [List.size_toArray, length]
      exact length?_le known
    refine ends_place tabled (fun object => ?_) (fun _ left => .inl left) ?_
    · rw [Palette.length_blockBytes]
      show Block.dataOffset + 4 * entries.toArray.size ≤ Block.dataOffset + Palette.slots * 4
      omega
    · intro object handle final groundwork block tables links made
      have mixed : Mixed start handle ⟨object, caps, entries.toArray⟩ final := by
        refine ⟨groundwork, made, block, tables, sized, fun index colour found => ?_, links⟩
        rw [List.getElem?_toArray] at found
        exact toned colour (List.mem_of_getElem? found)
      cases backed : start.memory.holds out 4 with
      | true =>
        refine (ends_write_backed ?_).bind ?_
        · rw [LittleEndian.length_ofDword, groundwork.holds, backed]
        · rintro _ _ rfl
          exact ⟨handle, _, _, mixed, rfl, rfl, rfl⟩
      | false =>
        refine (ends_write (.inr ⟨rfl, handle, _, mixed⟩) _ _).bind ?_
        rintro _ _ ⟨inside, -⟩
        rw [LittleEndian.length_ofDword, groundwork.holds, backed] at inside
        cases inside

end GuestDraw
