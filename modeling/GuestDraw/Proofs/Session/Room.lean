/-
**Room for surfaces.**

What guest code can run out of is the heap, the stubs, the handles and the aperture. As long as
there is room in all of them a surface that is planned is built, whatever the session has been
through.

* `Session.Room`: what is left;
* `ends_allocate_roomy`, `ends_surfaceVtable_roomy`, `ends_buildSingle_roomy`: each step succeeds
  and takes its share;
* `Session.Room.createSurface`: a request with a plan is met.
-/

import GuestDraw.Proofs.Session.Creating

namespace GuestDraw

variable {session : Session} {bytes stubs handles : Nat}

/-- The bytes that a block of the heap takes at most, with what is lost behind it. -/
def Heap.taken (size : Nat) : Nat := max size 1 + (alignment - 1)

theorem Heap.le_taken (size : Nat) : size ≤ taken size :=
  (Nat.le_max_left _ _).trans (Nat.le_add_right _ _)

/-- What is left of the heap, all of it backed, and of stubs and handles. The picture is mapped, or
it can be. -/
structure Session.Room (session : Session) (bytes stubs handles : Nat) : Prop where
  heap : session.heap.next + bytes ≤ session.heap.limit
  heapNarrow : session.heap.limit < addressSpace
  backed : ∀ address length, session.heap.next ≤ address → address + length ≤ session.heap.limit →
    session.memory.holds address length = true
  stubs : session.stubs.next + stubs * StubTable.slot ≤ session.stubs.limit
  stubsNarrow : session.stubs.limit < addressSpace
  handles : session.objects.next + handles < UInt32.size
  picture : session.frameBuffer.isSome ∨ ∃ size stop, session.mode.frameSize? = some size ∧
    blockEnd? session.video.next size Aperture.page session.video.limit = some stop ∧
      session.memory.holds session.video.next size = true

/-! ### Steps -/

theorem alignUp_le (address unit : Nat) : alignUp address unit ≤ address + (unit - 1) :=
  Nat.div_mul_le_self _ _

/-- There is a block where there is room for it. -/
theorem blockEnd?_of_room {start size limit : Nat} (room : start + Heap.taken size ≤ limit)
    (narrow : limit < addressSpace) :
    ∃ stop, blockEnd? start size Heap.alignment limit = some stop ∧ start ≤ stop ∧
      stop ≤ start + Heap.taken size := by
  have above := le_alignUp (show 0 < Heap.alignment by decide) (start + max size 1)
  have below := alignUp_le (start + max size 1) Heap.alignment
  unfold Heap.taken at room ⊢
  refine ⟨_, if_pos ⟨?_, ?_⟩, ?_, ?_⟩ <;> omega

theorem ends_allocate_roomy {size : Nat} (room : session.Room (Heap.taken size + bytes) stubs handles) :
    Ends (Engine.allocate size) session
      (fun address final => final.Room bytes stubs handles ∧
        final.memory.holds address size = true) fun _ => False := by
  have heap := room.heap
  obtain ⟨stop, ends, grows, below⟩ :=
    blockEnd?_of_room (show session.heap.next + Heap.taken size ≤ session.heap.limit by omega)
      room.heapNarrow
  have fits := Heap.le_taken size
  have backed := room.backed session.heap.next size (Nat.le_refl _) (by omega)
  unfold Ends Engine.allocate Heap.allocate Heap.reserve Memory.fill
  rw [ends]
  simp only [bind, Except.bind, if_true, Memory.check_eq_ok_iff.mpr backed]
  refine ⟨{ room with heap := ?_, backed := ?_, picture := ?_ }, ?_⟩
  · show stop + bytes ≤ session.heap.limit
    omega
  · intro address length above within
    rw [Memory.holds_put]
    exact room.backed address length (grows.trans above) within
  · simp only [Memory.holds_put]
    exact room.picture
  · rw [Memory.holds_put]
    exact backed

/-- Less is left as well. -/
theorem Session.Room.le {moreBytes moreStubs moreHandles : Nat}
    (room : session.Room moreBytes moreStubs moreHandles) (lessBytes : bytes ≤ moreBytes)
    (lessStubs : stubs ≤ moreStubs) (lessHandles : handles ≤ moreHandles) :
    session.Room bytes stubs handles :=
  { room with
    heap := (Nat.add_le_add_left lessBytes _).trans room.heap
    stubs := (Nat.add_le_add_left (Nat.mul_le_mul_right _ lessStubs) _).trans room.stubs
    handles := Nat.lt_of_le_of_lt (Nat.add_le_add_left lessHandles _) room.handles }

/-- A store takes no room. -/
theorem Session.Room.put (room : session.Room bytes stubs handles) (place : Nat) (data : List UInt8) :
    ({ session with memory := session.memory.put place data } : Session).Room bytes stubs handles :=
  { room with
    backed := fun address length above within => by
      rw [Memory.holds_put]
      exact room.backed address length above within
    picture := by
      simp only [Memory.holds_put]
      exact room.picture }

theorem ends_installSlots_roomy (methods : List Method) {address : Nat}
    (room : session.Room bytes (methods.length + stubs) handles)
    (backed : session.memory.holds address (methods.length * 4) = true) :
    Ends (Engine.installSlots address methods) session
      (fun _ final => final.Room bytes stubs handles) fun _ => False := by
  induction methods generalizing session address with
  | nil => exact room.le (Nat.le_refl _) (Nat.le_add_left _ _) (Nat.le_refl _)
  | cons method rest ih =>
    rw [List.length_cons] at room backed
    have next := room.stubs
    have narrow := room.stubsNarrow
    rw [show StubTable.slot = 8 from rfl] at next
    have slot : StubTable.slot = 8 := rfl
    have registered : Ends (Engine.registerStub method.name) session
        (fun _ final => final.Room bytes (rest.length + stubs) handles ∧
          final.memory = session.memory) fun _ => False := by
      unfold Ends Engine.registerStub StubTable.register
      rw [if_pos (by omega)]
      refine ⟨{ room with stubs := ?_ }, rfl⟩
      show session.stubs.next + 8 + (rest.length + stubs) * 8 ≤ session.stubs.limit
      omega
    refine registered.bind ?_
    rintro stub handed ⟨room, same⟩
    rw [← same, Memory.holds_iff] at backed
    have first : handed.memory.holds address
        (LittleEndian.ofDword (UInt32.ofNat stub)).length = true := by
      rw [LittleEndian.length_ofDword, Memory.holds_iff]
      omega
    refine (ends_write_backed first).bind ?_
    rintro _ _ rfl
    refine .change (ih { room.put address _ with } ?_)
    show (handed.memory.put address _).holds (address + 4) (rest.length * 4) = true
    rw [Memory.holds_put, Memory.holds_iff]
    omega

theorem ends_surfaceVtable_roomy
    (room : session.Room (Heap.taken Interface.surface.tableSize + bytes)
      (Method.surfaces.length + stubs) handles) :
    Ends Engine.surfaceVtable session (fun _ final => final.Room bytes stubs handles)
      fun _ => False := by
  unfold Engine.surfaceVtable
  refine .read ?_
  cases built : session.vtables.surface with
  | some vtable => exact room.le (Nat.le_add_left _ _) (Nat.le_add_left _ _) (Nat.le_refl _)
  | none =>
    have installed : Ends (Engine.installVtable Method.surfaces) session
        (fun _ final => final.Room bytes stubs handles) fun _ => False := by
      refine (ends_allocate_roomy room).bind ?_
      rintro vtable reserved ⟨room, backed⟩
      exact (ends_installSlots_roomy Method.surfaces room backed).bind fun _ _ room => room
    exact installed.bind fun _ _ room => .change { room with }

theorem ends_mapFrameBuffer_roomy (room : session.Room bytes stubs handles) (entry : String) :
    Ends (Engine.mapFrameBuffer entry) session (fun _ final => final.Room bytes stubs handles)
      fun _ => False := by
  unfold Engine.mapFrameBuffer
  refine .read ?_
  cases mapped : session.frameBuffer with
  | some address => exact room
  | none =>
    obtain ⟨size, stop, sized, ends, backed⟩ := room.picture.resolve_left (by simp [mapped])
    have placed : session.video.map size = .ok (session.video.next, { session.video with
        next := stop
        mappings := (session.video.next, stop - session.video.next) :: session.video.mappings }) := by
      unfold Aperture.map
      rw [ends]
    dsimp only
    rw [sized]
    dsimp only
    rw [placed]
    refine Ends.bind (Ends.of_eq_ok rfl) ?_
    rintro ⟨address, video⟩ _ ⟨is, rfl⟩
    cases is
    refine .change (Ends.bind (ends_fill_backed backed) ?_)
    rintro _ _ rfl
    exact { room.put _ _ with picture := .inl rfl }

/-! ### Surfaces -/

/-- The bytes of the heap that a planned surface takes at most, with the vtable of surfaces. -/
def SurfacePlan.taken (plan : SurfacePlan) : Nat :=
  Heap.taken (pitch plan.width plan.depth * plan.height) +
    (Heap.taken Interface.surface.tableSize + Heap.taken Surface.blockSize)

/-- The pixels of a planned surface get their place, wherever they are to lie. -/
theorem ends_backing_roomy {α : Type} (backing : Backing) {size : Nat} {rest : Nat → Engine α}
    {done : α → Session → Prop} (room : session.Room (Heap.taken size + bytes) stubs handles)
    (next : ∀ memory placed, Session.Room placed bytes stubs handles →
      Ends (rest memory) placed done fun _ => False) :
    Ends (match backing with
      | .frameBuffer => do rest (← Engine.mapFrameBuffer createSurfaceEntry)
      | .heap => do rest (← Engine.allocate size)) session done fun _ => False := by
  cases backing with
  | frameBuffer =>
    refine (ends_mapFrameBuffer_roomy room _).bind fun memory placed room => next memory placed ?_
    exact room.le (Nat.le_add_left _ _) (Nat.le_refl _) (Nat.le_refl _)
  | heap => exact (ends_allocate_roomy room).bind fun memory placed ended => next memory placed ended.1

theorem ends_create_roomy (room : session.Room bytes stubs (handles + 1)) (payload : Payload) :
    Ends (Engine.create payload) session
      (fun _ final => final.Room bytes stubs handles ∧ final.memory = session.memory)
      fun _ => False := by
  have left := room.handles
  have free : session.objects.next + 1 < UInt32.size := by omega
  refine (ends_onObjects_of_ok (ObjectTable.insert_eq_ok_iff.mpr ⟨free, rfl, rfl⟩)).weaken ?_
  rintro handle _ ⟨-, rfl⟩
  refine ⟨{ room with handles := ?_ }, rfl⟩
  show session.objects.next + 1 + handles < UInt32.size
  omega

theorem ends_linkBlock_roomy (room : session.Room bytes stubs handles) {object : Nat}
    (backed : session.memory.holds object Surface.blockSize = true) (vtable : Nat) (handle : Handle) :
    Ends (Engine.linkBlock object vtable handle) session
      (fun _ final => final.Room bytes stubs handles) fun _ => False := by
  rw [Memory.holds_iff] at backed
  have size : Surface.blockSize = 132 := rfl
  unfold Engine.linkBlock Block.vtableOffset Block.handleOffset
  refine (ends_write_backed ?_).bind ?_
  · rw [LittleEndian.length_ofDword, Memory.holds_iff]
    omega
  rintro _ _ rfl
  refine (ends_write_backed ?_).weaken ?_
  · rw [LittleEndian.length_ofDword, Memory.holds_put, Memory.holds_iff]
    omega
  · rintro _ _ rfl
    exact (room.put _ _).put _ _

/-- A planned surface is built where there is room for it. -/
theorem ends_buildSingle_roomy (plan : SurfacePlan) (known : (FormatRecord.forDepth? plan.depth).isSome)
    (room : session.Room (plan.taken + bytes) (Method.surfaces.length + stubs) (handles + 1))
    (backBuffer : Option Handle) :
    Ends (Engine.buildSingle plan backBuffer) session
      (fun _ final => final.Room bytes stubs handles) fun _ => False := by
  obtain ⟨format, known⟩ := Option.isSome_iff_exists.mp known
  have heap := room.heap
  have narrow := room.heapNarrow
  have fits := Heap.le_taken (pitch plan.width plan.depth * plan.height)
  rw [SurfacePlan.taken, Nat.add_assoc] at heap
  have sized : plan.pixelBytes = .ok (pitch plan.width plan.depth * plan.height) :=
    if_pos (by omega)
  rw [SurfacePlan.taken, Nat.add_assoc] at room
  unfold Engine.buildSingle
  rw [sized]
  refine Ends.bind (Ends.of_eq_ok rfl) ?_
  rintro _ _ ⟨rfl, rfl⟩
  rw [known]
  refine ends_backing_roomy plan.backing room fun memory placed room => ?_
  rw [Nat.add_assoc] at room
  refine (ends_surfaceVtable_roomy room).bind fun vtable tabled room => ?_
  refine (ends_allocate_roomy room).bind ?_
  rintro object reserved ⟨room, backed⟩
  have length := Descriptor.length_bytes (plan.descriptor format backBuffer.isSome)
  have inside : reserved.memory.holds (object + Block.dataOffset)
      (plan.descriptor format backBuffer.isSome).bytes.length = true := by
    have size : Surface.blockSize = Block.dataOffset + descriptorSize true := rfl
    rw [Memory.holds_iff] at backed ⊢
    omega
  refine (ends_write_backed inside).bind ?_
  rintro _ _ rfl
  have room := room.put (object + Block.dataOffset) (plan.descriptor format backBuffer.isSome).bytes
  refine (ends_create_roomy room _).bind ?_
  rintro handle created ⟨room, memory⟩
  refine (ends_linkBlock_roomy room ?_ vtable handle).bind fun _ _ room => room
  rw [memory, Memory.holds_put]
  exact backed

/-- A planned surface and its back buffer are built where there is room for both. -/
theorem ends_buildSurface_roomy {plan : SurfacePlan}
    (known : (FormatRecord.forDepth? plan.depth).isSome)
    (room : session.Room (plan.taken + plan.taken)
      (Method.surfaces.length + Method.surfaces.length) 2) :
    Ends (Engine.buildSurface plan) session (fun _ _ => True) fun _ => False := by
  unfold Engine.buildSurface
  split
  · have room : session.Room ((plan.child session.chain).taken + (plan.taken + 0))
        (Method.surfaces.length + (Method.surfaces.length + 0)) (1 + 1) := room
    have back := ends_buildSingle_roomy (plan.child session.chain) known room none
    refine .read (back.bind fun child middle room => ?_)
    have front := ends_buildSingle_roomy plan known room (some child)
    exact .rescue (front.weaken fun _ _ _ => trivial) fun _ _ impossible => impossible.elim
  · have room : session.Room (plan.taken + 0) (Method.surfaces.length + 0) (0 + 1) :=
      room.le (by omega) (by omega) (by omega)
    exact (ends_buildSingle_roomy _ known room none).weaken fun _ _ _ => trivial

/-- A request for which there is a plan is met where there is room. -/
theorem Session.Room.createSurface (numbered : session.objects.Numbered 0) {request out : Nat}
    (notNull : request ≠ 0 ∧ out ≠ 0) {wanted : Request}
    (asked : Request.read session.memory request = .ok wanted) {plan : SurfacePlan}
    (planned : planSurface session.mode session.chain wanted = .ok plan)
    (known : (FormatRecord.forDepth? plan.depth).isSome)
    (room : session.Room (plan.taken + plan.taken)
      (Method.surfaces.length + Method.surfaces.length) 2)
    (backed : session.memory.holds out 4 = true) :
    ∃ pointer final, Engine.createSurface request out session = .ok pointer final := by
  obtain ⟨handle, middle, built, -⟩ := (ends_buildSurface_roomy known room).exists_ok
  obtain ⟨surface, raised, -⟩ := (ends_buildSurface session plan).of_ok built
  have created : Created session handle surface middle := ⟨plan, planSurface_shows planned, raised⟩
  have ends : Ends (Engine.createSurface request out) session (fun _ _ => True) fun _ => False := by
    unfold Engine.createSurface
    refine .refusing (fun null => null.elim notNull.1 notNull.2) fun _ => .read ?_
    rw [asked]
    refine Ends.bind (Ends.of_eq_ok rfl) ?_
    rintro _ _ ⟨rfl, rfl⟩
    rw [planned]
    refine Ends.bind (Ends.of_eq_ok rfl) ?_
    rintro _ _ ⟨rfl, rfl⟩
    refine (Ends.of_eq_ok built).bind ?_
    rintro _ _ ⟨rfl, rfl⟩
    refine (ends_surfaceAt_live (created.live numbered)).bind ?_
    rintro _ _ ⟨rfl, rfl⟩
    refine (ends_write_backed ?_).bind fun _ _ _ => trivial
    rw [LittleEndian.length_ofDword, created.holds, backed]
  obtain ⟨pointer, final, ended, -⟩ := ends.exists_ok
  exact ⟨pointer, final, ended⟩

end GuestDraw
