/-
**Locking a surface.**

The guest hands in a record in which it has filled in the size, and finds the descriptor of the
surface in it, with the address of the pixels. Then what was drawn on the surface is stored, and the
cache goes. When that begins the record is already filled, so that it must not fail: what is cached
can be stored, or its pixels are indices and the process ends.

The descriptor is copied in one piece, and the address of the pixels is stored into the copy. In a
window that goes on behind the last address the copy may fit and its field may not have an address.
Then the field is looked for in front of the window, and the lock fails with the record overwritten.

* `Session.AcceptsLock`, `Session.Lockable`: what has to be so for a lock;
* `Fitting.isFatal_of_balks`: what was drawn can be stored, or the process ends;
* `Describes`, `Memory.byte?_describing`: what the record holds;
* `Locking`, `Astray`, `endsWith_lock`: what a lock does, and what is left where it goes astray;
* `locks_unless_astray`: a lock does all of it, or nothing if the guest is told that it failed,
  unless it goes astray.
-/

import GuestDraw.Proofs.Interface.Flags
import GuestDraw.Proofs.Session.Fitting
import GuestDraw.Proofs.Session.FlipChains
import GuestDraw.Proofs.Session.Settling

namespace GuestDraw

variable {start final : Session} {this out : Nat} {flags : LockFlags} {handle : Handle}
  {surface : Surface}

/-! ### What a lock asks for -/

/-- None of the ways of locking is asked for that do not exist. -/
theorem LockFlags.supported_iff : (flags ∩ LockFlags.unsupported).isEmpty = true ↔
    ∀ flag ∈ [LockFlags.event, LockFlags.noSystemLock, LockFlags.noOverwrite,
      LockFlags.discardContents], flags.meets flag = false := by
  rw [← not_iff_not, ← FlagSet.meets_iff_inter, LockFlags.unsupported]
  simp only [FlagSet.meets_union, List.forall_mem_cons, List.not_mem_nil, false_implies,
    implies_true, and_true, ← Bool.not_eq_true]
  tauto

/-- `this` is a surface, and there is room for its descriptor at `out`, where its size is filled
in. -/
structure Session.AcceptsLock (session : Session) (this out : Nat) (flags : LockFlags)
    (handle : Handle) (surface : Surface) : Prop where
  leads : session.surfaceFor? this = some handle
  live : session.objects.surface? handle = some surface
  supported : ∀ flag ∈ [LockFlags.event, LockFlags.noSystemLock, LockFlags.noOverwrite,
    LockFlags.discardContents], flags.meets flag = false
  notNull : out ≠ 0
  sized : ∃ size, session.memory.readDword out = .ok size ∧ size.toNat = surface.descriptorSize
  readable : session.memory.holds surface.descriptor surface.descriptorSize = true
  backed : session.memory.holds out surface.descriptorSize = true

/-- A lock that is accepted can be carried out: the field for the address of the pixels has an
address itself, and what was drawn on the surface can be stored. -/
structure Session.Lockable (session : Session) (this out : Nat) (flags : LockFlags)
    (handle : Handle) (surface : Surface) : Prop
    extends session.AcceptsLock this out flags handle surface where
  inSpace : out + Descriptor.pixelsOffset < addressSpace
  settles : session.Settles handle

/-! ### Settling -/

namespace Fitting

variable (fitting : Fitting start) (live : start.objects.surface? handle = some surface)

include fitting live

/-- What was drawn on a cache suits the pixels of the surface. -/
theorem drawn {raster : Raster} {buffer : PixelBuffer}
    (drawn : start.drawn? handle = some (raster, buffer)) :
    raster.Suits buffer ∧ start.memory.Backs buffer := by
  cases has : surface.cache with
  | none => cases (Session.drawn?_of_bare live has).symm.trans drawn
  | some cache =>
    obtain ⟨cached, content, -, suits, backs⟩ := fitting.cache live has
    rw [Session.drawn?_of_cache live has content] at drawn
    split at drawn
    · cases drawn
      exact ⟨suits, backs⟩
    · cases drawn

/-- The process ends where a surface cannot be settled. -/
theorem isFatal_of_balks {cause : Failure} (balks : start.Balks handle cause) :
    cause.isFatal = true := by
  obtain ⟨raster, buffer, error, drawn, refused, rfl⟩ := balks
  obtain ⟨suits, backs⟩ := fitting.drawn live drawn
  rcases Conversion.encoded_or_indexed suits backs with ⟨data, encoded⟩ | ⟨feature, indexed⟩
  · cases refused.symm.trans encoded
  · cases refused.symm.trans indexed
    rfl

end Fitting

/-! ### Describing -/

/-- The memory once the descriptor of a surface was copied to `out`, with the address of the
pixels. -/
def Memory.describing (memory : Memory) (surface : Surface) (out : Nat) : Memory :=
  (memory.put out (memory.slice surface.descriptor surface.descriptorSize)).put
    (out + Descriptor.pixelsOffset) (LittleEndian.ofDword (UInt32.ofNat surface.memory))

theorem Memory.holds_describing (memory : Memory) (surface : Surface) (out address length : Nat) :
    (memory.describing surface out).holds address length = memory.holds address length := by
  rw [describing, holds_put, holds_put]

/-- The record at `out` is the descriptor in `memory`, but for the address of the pixels. -/
structure Describes (memory after : Memory) (surface : Surface) (out : Nat) : Prop where
  copied : ∀ offset, offset < surface.descriptorSize →
    (offset < Descriptor.pixelsOffset ∨ Descriptor.pixelsOffset + 4 ≤ offset) →
      after.byte? (out + offset) = memory.byte? (surface.descriptor + offset)
  pointed : after.readDword (out + Descriptor.pixelsOffset) = .ok (UInt32.ofNat surface.memory)

section Describing

variable {memory : Memory} (readable : memory.holds surface.descriptor surface.descriptorSize = true)
  (backed : memory.holds out surface.descriptorSize = true)

include backed

theorem Memory.holds_pixelsOffset (data : List UInt8) (word : UInt32) :
    (memory.put out data).holds (out + Descriptor.pixelsOffset) (LittleEndian.ofDword word).length =
      true := by
  have fits := surface.fieldsFit
  rw [holds_put, holds_iff, LittleEndian.length_ofDword]
  rw [holds_iff] at backed
  omega

include readable

/-- Each byte of the record is stored, and no other. -/
theorem Memory.byte?_describing (point : Nat) :
    (memory.describing surface out).byte? point =
      if out + Descriptor.pixelsOffset ≤ point ∧ point < out + Descriptor.pixelsOffset + 4 then
        (LittleEndian.ofDword (UInt32.ofNat surface.memory))[point - (out + Descriptor.pixelsOffset)]?
      else if out ≤ point ∧ point < out + surface.descriptorSize then
        memory.byte? (surface.descriptor + (point - out))
      else memory.byte? point := by
  have length := length_slice readable
  rw [describing, byte?_put (holds_pixelsOffset backed _ _), LittleEndian.length_ofDword,
    byte?_put (length.symm ▸ backed), length]
  split
  · rfl
  · split
    · rw [getElem?_slice readable (by omega)]
    · rfl

theorem Memory.byte?_describing_of_outside (point : Nat)
    (outside : ¬ Extent.Covers ⟨out, surface.descriptorSize⟩ point) :
    (memory.describing surface out).byte? point = memory.byte? point := by
  have fits := surface.fieldsFit
  simp only [Extent.Covers, Extent.stop] at outside
  rw [byte?_describing readable backed, if_neg (by omega), if_neg outside]

/-- The record stays what it is as long as other bytes change. -/
theorem Memory.describes (after : Memory) (same : ∀ point,
    Extent.Covers ⟨out, surface.descriptorSize⟩ point →
      after.byte? point = (memory.describing surface out).byte? point) :
    Describes memory after surface out := by
  have fits := surface.fieldsFit
  constructor
  · intro offset inside plain
    have covers : Extent.Covers ⟨out, surface.descriptorSize⟩ (out + offset) :=
      ⟨Nat.le_add_right _ _, Nat.add_lt_add_left inside _⟩
    rw [same _ covers, byte?_describing readable backed, if_neg (by omega), if_pos (by omega),
      Nat.add_sub_cancel_left]
  · refine readDword_of_bytes fun offset inside => ?_
    have covers : Extent.Covers ⟨out, surface.descriptorSize⟩
        (out + Descriptor.pixelsOffset + offset) := by
      simp only [Extent.Covers, Extent.stop]
      omega
    rw [same _ covers, byte?_describing readable backed, if_pos (by omega), Nat.add_sub_cancel_left]

end Describing

/-! ### Locking -/

/-- A surface while the guest has its pixels. -/
def Surface.handedOut (surface : Surface) : Surface :=
  { surface with cache := none, locked := true }

/-- From `start` to `final` a surface was locked, and the record at `out` tells where its pixels
lie. -/
structure Locking (start : Session) (handle : Handle) (surface : Surface) (out : Nat)
    (final : Session) : Prop where
  only : final = { start with memory := final.memory, objects := final.objects }
  /-- Pixels are stored after the record, so that a record among them is overwritten. -/
  described : (∀ point, Extent.Covers ⟨out, surface.descriptorSize⟩ point →
    ¬ surface.buffer.Covers point) → Describes start.memory final.memory surface out
  /-- What was drawn on the cache is what the pixels show. -/
  drawn : ∀ raster buffer, start.drawn? handle = some (raster, buffer) →
    final.decodeSurface surface.handedOut = .ok raster
  /-- Beside the record only pixels change, and these only if something was drawn. -/
  spared : ∀ point, ¬ Extent.Covers ⟨out, surface.descriptorSize⟩ point →
    (start.drawn? handle = none ∨ ¬ surface.buffer.Covers point) →
      final.memory.byte? point = start.memory.byte? point
  own : final.objects.find? handle = (start.objects.find? handle).map fun object =>
    { object with payload := .surface surface.handedOut }
  dropped : ∀ cache, surface.cache = some cache → final.objects.find? cache = none
  others : ∀ other, other ≠ handle → surface.cache ≠ some other →
    final.objects.find? other = start.objects.find? other

/-- The session once the descriptor of a surface was copied to `out`. -/
def Session.copied (session : Session) (surface : Surface) (out : Nat) : Session :=
  { session with
    memory := session.memory.put out
      (session.memory.slice surface.descriptor surface.descriptorSize) }

/-- A lock was accepted, but the field for the address of the pixels lies beyond the last address.
The descriptor has been copied by then. -/
structure Astray (start : Session) (this out : Nat) (flags : LockFlags) (handle : Handle)
    (surface : Surface) (cause : Failure) (final : Session) : Prop
    extends start.AcceptsLock this out flags handle surface where
  beyond : addressSpace ≤ out + Descriptor.pixelsOffset
  because : cause = .memory (.outOfRange (wrapped (out + Descriptor.pixelsOffset)) 4)
  left : final = start.copied surface out

/-- A surface that is described, settled and marked is locked. -/
theorem Settled.locking {middle : Session}
    (suits : ∀ raster buffer, start.drawn? handle = some (raster, buffer) → raster.Suits buffer)
    (readable : start.memory.holds surface.descriptor surface.descriptorSize = true)
    (backed : start.memory.holds out surface.descriptorSize = true)
    (own : surface.cache ≠ some handle)
    (settled : Settled { start with memory := start.memory.describing surface out } handle surface
      middle) :
    Locking start handle surface out { middle with
      objects := middle.objects.setPayload handle (.surface surface.handedOut) } := by
  have described := Memory.describes readable backed
  have outside := Memory.byte?_describing_of_outside readable backed
  generalize start.memory.describing surface out = memory at settled described outside
  obtain ⟨only, stored, found⟩ := settled
  obtain ⟨after, objects, rfl⟩ : ∃ after objects,
    middle = { start with memory := after, objects := objects } := ⟨_, _, only⟩
  refine ⟨rfl, fun clear => ?_, fun raster buffer drawn => ?_, fun point beside spared => ?_, ?_,
    fun cache has => ?_, fun other foreign apart => ?_⟩
  · exact described _ fun point covers => stored.byte? (.inr (clear point covers))
  · exact stored.decode drawn (suits raster buffer drawn) _
  · exact (stored.byte? spared).trans (outside point beside)
  · rw [ObjectTable.find?_setPayload, if_pos rfl, found, if_neg own, if_pos rfl, Option.map_map]
    rfl
  · have apart : cache ≠ handle := fun same => own (same ▸ has)
    rw [ObjectTable.find?_setPayload_of_ne apart, found, if_pos has]
  · rw [ObjectTable.find?_setPayload_of_ne foreign, found, if_neg apart, if_neg foreign]

/-- Storing the record does not matter for what was drawn. -/
theorem Session.settles_describing (session : Session) (surface : Surface) (out : Nat)
    (handle : Handle) :
    ({ session with memory := session.memory.describing surface out } : Session).Settles handle ↔
      session.Settles handle := by
  have holds := session.memory.holds_describing surface out
  generalize session.memory.describing surface out = memory at holds
  exact Session.settles_congr rfl holds

/-- Storing the record leaves what is cached fit for the pixels. -/
theorem Fitting.describing (fitting : Fitting start) (surface : Surface) (out : Nat) :
    Fitting { start with memory := start.memory.describing surface out } := by
  refine ⟨fitting.linked, fun cache cached surface content owns => ?_⟩
  refine (fitting.fits cache cached surface content owns).imp_right fun backs => ?_
  exact backs.congr (Memory.holds_describing start.memory _ _)

section Calls

variable {failed : Failure → Session → Prop}
  (fatal : ∀ cause final, cause.isFatal = true → failed cause final) (fitting : Fitting start)

include fatal fitting

/-- A surface that was described is locked, or the process ends. -/
theorem endsWith_settleAndLock (live : start.objects.surface? handle = some surface)
    (readable : start.memory.holds surface.descriptor surface.descriptorSize = true)
    (backed : start.memory.holds out surface.descriptorSize = true) :
    EndsWith (Engine.settle handle >>= fun _ => Engine.setLocked handle true)
      { start with memory := start.memory.describing surface out }
      (fun _ final => start.Settles handle ∧ Locking start handle surface out final) failed := by
  have own : surface.cache ≠ some handle := fun has => (fitting.linked.cache live has).1 rfl
  have described := fitting.describing surface out
  refine EndsWith.bind ((endsWith_settle described.linked live).imp (fun _ _ settled => settled)
    fun cause _ balked => fatal _ _ (described.isFatal_of_balks live balked.2)) ?_
  intro _ middle settled
  have settles := (start.settles_describing surface out handle).mp settled.stored.settles
  refine (ends_updateSurface_live (settled.surface? described.linked live) _).whatever.weaken ?_
  rintro _ _ rfl
  exact ⟨settles, settled.locking (fun _ _ drawn => (fitting.drawn live drawn).1) readable backed own⟩

/-- Once the descriptor was copied the surface is locked, or the lock goes astray, or the process
ends. -/
theorem Session.AcceptsLock.endsWith_describe
    (accepts : start.AcceptsLock this out flags handle surface)
    (astray : ∀ cause final, Astray start this out flags handle surface cause final →
      failed cause final) :
    EndsWith (Engine.writeDword (wrapped (out + Descriptor.pixelsOffset))
        (UInt32.ofNat surface.memory) >>= fun _ =>
      Engine.settle handle >>= fun _ => Engine.setLocked handle true)
      (start.copied surface out)
      (fun _ final => start.Lockable this out flags handle surface ∧
        Locking start handle surface out final) failed := by
  have field := Memory.holds_pixelsOffset accepts.backed
    (start.memory.slice surface.descriptor surface.descriptorSize) (UInt32.ofNat surface.memory)
  refine (endsWith_write_exact _ _).andThen ?_ ?_
  · rintro cause final ⟨unbacked, rfl, rfl⟩
    refine astray _ _ ⟨accepts, Nat.le_of_not_lt fun inSpace => ?_, rfl, rfl⟩
    rw [wrapped_of_lt inSpace] at unbacked
    cases unbacked.symm.trans field
  · rintro _ _ ⟨stored, rfl⟩
    have inSpace := surface.inSpace_of_field accepts.backed (Nat.le_refl _) stored
    rw [wrapped_of_lt inSpace]
    refine (endsWith_settleAndLock fatal fitting accepts.live accepts.readable
      accepts.backed).weaken ?_
    exact fun _ _ ⟨settles, locking⟩ => ⟨⟨accepts, inSpace, settles⟩, locking⟩

/-- A lock is refused before anything has changed, or it goes astray, or the process ends. -/
theorem endsWith_lock (held : ∀ cause, failed cause start)
    (astray : ∀ handle surface cause final, Astray start this out flags handle surface cause final →
      failed cause final) :
    EndsWith (Engine.lock this out flags) start
      (fun _ final => ∃ handle surface, start.Lockable this out flags handle surface ∧
        Locking start handle surface out final) failed := by
  unfold Engine.lock
  refine (ends_resolveSurface held _ _).whatever.bind ?_
  rintro handle start ⟨rfl, leads⟩
  refine .guarded (held _) fun supported => .guarded (held _) fun notNull => ?_
  refine (ends_surfaceAt held handle).whatever.bind ?_
  rintro surface start ⟨rfl, live⟩
  refine (ends_readDword held out).whatever.bind ?_
  rintro size start ⟨rfl, taken⟩
  refine .guarded (held _) fun sized => ?_
  refine (ends_move held _ _ _).whatever.bind ?_
  rintro _ _ ⟨data, copied, backed, rfl⟩
  obtain ⟨readable, rfl⟩ := Memory.read_eq_ok_iff.mp copied
  rw [Memory.length_slice readable] at backed
  have accepts : start.AcceptsLock this out flags handle surface :=
    ⟨leads, live, LockFlags.supported_iff.mp (by simpa using supported), notNull,
      ⟨size, taken, Decidable.not_not.mp sized⟩, readable, backed⟩
  refine (accepts.endsWith_describe fatal fitting (astray handle surface)).weaken ?_
  exact fun _ _ locked => ⟨handle, surface, locked⟩

end Calls

/-- Moving bytes that are there to a place that is there succeeds. -/
theorem ends_move_backed {failed : Session → Prop} {source target length : Nat}
    (readable : start.memory.holds source length = true)
    (backed : start.memory.holds target length = true) :
    Ends (Engine.move source target length) start
      (fun _ final => final = { start with
        memory := start.memory.put target (start.memory.slice source length) }) failed := by
  have taken : Ends (Engine.read source length) start
      (fun data final => data = start.memory.slice source length ∧ final = start) failed := by
    refine .read ?_
    rw [Memory.read_eq_ok_iff.mpr ⟨readable, rfl⟩]
    exact ⟨rfl, rfl⟩
  refine taken.bind ?_
  rintro _ _ ⟨rfl, rfl⟩
  exact ends_write_backed ((Memory.length_slice readable).symm ▸ backed)

/-- A lock that is accepted comes to the point where the descriptor is copied. -/
theorem Session.AcceptsLock.endsWith_lock {done : Unit → Session → Prop}
    {failed : Failure → Session → Prop} (accepts : start.AcceptsLock this out flags handle surface)
    (next : EndsWith (Engine.writeDword (wrapped (out + Descriptor.pixelsOffset))
        (UInt32.ofNat surface.memory) >>= fun _ =>
      Engine.settle handle >>= fun _ => Engine.setLocked handle true)
      (start.copied surface out) done failed) :
    EndsWith (Engine.lock this out flags) start done failed := by
  obtain ⟨leads, live, supported, notNull, ⟨size, taken, sized⟩, readable, backed⟩ := accepts
  have plain : (flags ∩ LockFlags.unsupported).isEmpty = true :=
    LockFlags.supported_iff.mpr supported
  unfold Engine.lock
  refine (ends_resolveSurface_live leads _).whatever.bind ?_
  rintro handle start ⟨rfl, rfl⟩
  refine .refusing (fun refused => by simp [plain] at refused) fun _ => ?_
  refine .refusing (fun null => (notNull null).elim) fun _ => ?_
  refine (ends_surfaceAt_live live).whatever.bind ?_
  rintro surface start ⟨rfl, rfl⟩
  refine (ends_readDword_refusing fun unread => (unread size taken).elim).whatever.bind ?_
  rintro given start ⟨rfl, same⟩
  cases taken.symm.trans same
  refine .refusing (fun wrong => (wrong sized).elim) fun _ => ?_
  refine (ends_move_backed readable backed).whatever.bind ?_
  rintro _ _ rfl
  exact next

/-- A surface that was described is locked if what was drawn on it can be stored. -/
theorem ends_settleAndLock_described (linked : Linked start.objects)
    (live : start.objects.surface? handle = some surface) (settles : start.Settles handle) :
    Ends (Engine.settle handle >>= fun _ => Engine.setLocked handle true)
      { start with memory := start.memory.describing surface out } (fun _ _ => True)
      fun _ => False := by
  have able := (start.settles_describing surface out handle).mpr settles
  have linked : Linked { start with memory := start.memory.describing surface out }.objects := linked
  refine EndsWith.bind ((endsWith_settle linked live).imp (fun _ _ settled => settled)
    fun _ _ balked => balked.2.not_settles able) ?_
  intro _ middle settled
  exact (ends_updateSurface_live (settled.surface? linked live) _).weaken fun _ _ _ => trivial

/-- What can be locked is locked. -/
theorem Session.Lockable.exists_ok (linked : Linked start.objects)
    (lockable : start.Lockable this out flags handle surface) :
    ∃ final, Engine.lock this out flags start = .ok () final := by
  have ends : Ends (Engine.lock this out flags) start (fun _ _ => True) fun _ => False := by
    refine lockable.toAcceptsLock.endsWith_lock ?_
    rw [wrapped_of_lt lockable.inSpace]
    refine Ends.bind (ends_write_backed (Memory.holds_pixelsOffset lockable.backed _ _)) ?_
    rintro _ _ rfl
    exact ends_settleAndLock_described linked lockable.live lockable.settles
  obtain ⟨_, final, ended, -⟩ := ends.exists_ok
  exact ⟨final, ended⟩

/-- A lock that is accepted goes astray if the field for the address of the pixels has no
address. -/
theorem Session.AcceptsLock.astray (accepts : start.AcceptsLock this out flags handle surface)
    (beyond : addressSpace ≤ out + Descriptor.pixelsOffset) :
    ∃ cause final, Engine.lock this out flags start = .error cause final ∧
      Astray start this out flags handle surface cause final := by
  have ends : EndsWith (Engine.lock this out flags) start (fun _ _ => False) fun cause final =>
      Astray start this out flags handle surface cause final := by
    refine accepts.endsWith_lock ((endsWith_write_exact _ _).andThen ?_ ?_)
    · rintro cause final ⟨-, rfl, rfl⟩
      exact ⟨accepts, beyond, rfl, rfl⟩
    · rintro _ _ ⟨stored, -⟩
      have inSpace := surface.inSpace_of_field accepts.backed (Nat.le_refl _) stored
      exact absurd inSpace (Nat.not_lt.mpr beyond)
  cases ended : Engine.lock this out flags start with
  | ok _ final => exact (ends.of_ok ended).elim
  | error cause final => exact ⟨cause, final, rfl, ends.of_error ended⟩

/-! ### A surface that has just come -/

/-- A surface that has just come can be locked. -/
theorem lockable_of_raised (sited : Sited start) {plan : SurfacePlan}
    (raised : Raised start plan handle surface final) (shows : plan.Shows start.mode) {place : Nat}
    (outside : start.Outside place) (backed : start.memory.holds place 4 = true) (notNull : out ≠ 0)
    (inSpace : out + Descriptor.pixelsOffset < addressSpace)
    (room : start.memory.holds out surface.descriptorSize = true)
    (sized : ∃ size, (final.answered place surface.object).memory.readDword out = .ok size ∧
      size.toNat = surface.descriptorSize) :
    (final.answered place surface.object).Lockable surface.object out ∅ handle surface := by
  have created : Created start handle surface final := ⟨plan, shows, raised⟩
  have live : (final.answered place surface.object).objects.surface? handle = some surface := by
    rw [Session.objects_answered, created.live sited.linked.numbered]
  obtain ⟨format, -, mirrored⟩ := raised.mirrored sited
  obtain ⟨backBuffer, shape⟩ := raised.shape
  have bare : surface.cache = none := by rw [shape]; rfl
  have block := mirrored.backed
  refine ⟨⟨surfaceFor?_of_raised sited raised shows outside backed, live, by decide, notNull, sized,
    ?_, ?_⟩, inSpace, ?_⟩
  · rw [Session.answered, Memory.holds_put, Memory.holds_iff]
    rw [Memory.holds_iff] at block
    have size : surface.descriptorSize ≤ descriptorSize true := by
      unfold Surface.descriptorSize descriptorSize
      split <;> decide
    simp only [Surface.block, Surface.blockSize, Surface.descriptor] at block ⊢
    omega
  · rw [Session.answered, Memory.holds_put, created.holds, room]
  · intro raster buffer drawn
    cases (Session.drawn?_of_bare live bare).symm.trans drawn

/-- A dword before the heap and behind the aperture stays when a surface comes. -/
theorem Created.readDword_answered (created : Created start handle surface final)
    {place pointer : Nat}
    {word : UInt32} (backed : start.memory.holds place 4 = true)
    (given : ∀ offset, offset < 4 →
      start.memory.byte? (out + offset) = (LittleEndian.ofDword word)[offset]?)
    (apart : out + 4 ≤ place) (low : out + 4 ≤ start.heap.next) (high : start.video.limit ≤ out) :
    (final.answered place pointer).memory.readDword out = .ok word := by
  refine Memory.readDword_of_bytes fun offset inside => ?_
  have length := LittleEndian.length_ofDword (UInt32.ofNat pointer)
  rw [← given offset inside, Session.answered,
    Memory.byte?_put (by rw [length, created.holds, backed]), if_neg (by omega)]
  rcases created.groundwork.bytes (out + offset) with same | ⟨above, -⟩ | ⟨-, -, below⟩
  · exact same
  · omega
  · omega

theorem Session.through_created {session : Session} {request pointer : Nat}
    (created : Engine.createSurface request out session = .ok pointer final) :
    session.through [.call (.createSurface request out)] = final := by
  have ran : Ends (Act.call (.createSurface request out)).run session (fun _ left => left = final)
      fun left => left = final :=
    (Ends.of_eq_ok created).discard.weaken fun _ _ ended => ended.elim fun _ same => same.2
  exact ran.next

/-! ### Every state -/

/-- **A lock is done as a whole, or refused before anything has changed**, in every state that a
session can come to: it is done exactly where a surface can be locked, and if it fails the guest is
told so only if the session is what it was before. The one exception is a lock that goes astray:
that is told to the guest too, with its record overwritten, and so ends every lock that is accepted
with the field for the address of the pixels beyond the last address. -/
theorem locks_unless_astray (memory : Memory) (heap : Heap) (video : Aperture) (stubs : StubTable)
    (firstHandle : Nat) (mode : DisplayMode) (chain : FlipChain) (acts : List Act)
    {session : Session}
    (reached : session =
      (Session.start memory heap video stubs firstHandle mode chain).through acts)
    (this out : Nat) (flags : LockFlags) :
    (∀ final, Engine.lock this out flags session = .ok () final →
      ∃ handle surface, session.Lockable this out flags handle surface ∧
        Locking session handle surface out final) ∧
    (∀ handle surface, session.Lockable this out flags handle surface →
      ∃ final, Engine.lock this out flags session = .ok () final) ∧
    (∀ cause final, Engine.lock this out flags session = .error cause final →
      cause.isFatal = false → final = session ∨
        ∃ handle surface, Astray session this out flags handle surface cause final) ∧
    ∀ handle surface, session.AcceptsLock this out flags handle surface →
      addressSpace ≤ out + Descriptor.pixelsOffset →
        ∃ cause final, Engine.lock this out flags session = .error cause final ∧
          Astray session this out flags handle surface cause final := by
  have fitting : Fitting session :=
    reached ▸ fitting_through memory heap video stubs firstHandle mode chain acts
  have ends : EndsWith (Engine.lock this out flags) session
      (fun _ final => ∃ handle surface, session.Lockable this out flags handle surface ∧
        Locking session handle surface out final)
      (fun cause final => cause.isFatal = true ∨ final = session ∨
        ∃ handle surface, Astray session this out flags handle surface cause final) :=
    endsWith_lock (fun _ _ => .inl) fitting (fun _ => .inr (.inl rfl))
      fun handle surface _ _ astray => .inr (.inr ⟨handle, surface, astray⟩)
  refine ⟨fun final locked => ends.of_ok locked,
    fun handle surface lockable => lockable.exists_ok fitting.linked,
    fun cause final refused told => (ends.of_error refused).resolve_left fun fatal => ?_,
    fun handle surface accepts => accepts.astray⟩
  cases told.symm.trans fatal

/-- A surface of one pixel is locked at the record in which it was asked for. -/
theorem locks_unless_astray_one_pixel :
    ∃ pointer session, Engine.createSurface 0x1000 0x106C onePixelFlipped = .ok pointer session ∧
      ∃ handle surface final, session.Lockable pointer 0x1000 ∅ handle surface ∧
        Engine.lock pointer 0x1000 ∅ session = .ok () final ∧
        Locking session handle surface 0x1000 final := by
  obtain ⟨pointer, session, created⟩ := onePixelFlipped_created
  have reached := (Session.through_created created).symm
  obtain ⟨plan, handle, surface, middle, ⟨wanted, read, planned⟩, raised, -, rfl, backed, rfl⟩ :=
    (ends_createSurface_ordered onePixelFlipped_sited.linked.numbered _ _).of_ok created
  cases onePixelFlipped_asked.symm.trans read
  have plain : plan.flags.contains SurfaceFlags.wideDescriptor = false := by
    have known : (planSurface onePixelFlipped.mode onePixelFlipped.chain flippedRequest).map
        (·.flags.contains SurfaceFlags.wideDescriptor) = .ok false := rfl
    rw [planned] at known
    exact Except.ok.inj known
  have size : surface.descriptorSize = 0x6C := by
    obtain ⟨backBuffer, shape⟩ := raised.shape
    rw [shape]
    show descriptorSize (plan.flags.contains SurfaceFlags.wideDescriptor) = 0x6C
    rw [plain]
    rfl
  have sized : (middle.answered 0x106C surface.object).memory.readDword 0x1000 = .ok 0x6C :=
    Created.readDword_answered ⟨plan, planSurface_shows planned, raised⟩ backed (by decide +kernel)
      (by decide) (by decide) (by decide)
  have lockable := lockable_of_raised onePixelFlipped_sited raised (planSurface_shows planned)
    onePixelFlipped_outside backed (by decide : 0x1000 ≠ 0) (by decide)
    (size ▸ onePixelFlipped_holds (by decide) (by decide)) ⟨0x6C, sized, size.symm⟩
  obtain ⟨locked, locks, -⟩ := locks_unless_astray _ _ _ _ _ _ _ _ reached surface.object 0x1000 ∅
  obtain ⟨final, done⟩ := locks handle surface lockable
  obtain ⟨other, same, able, locking⟩ := locked final done
  exact ⟨_, _, created, other, same, final, able, done, locking⟩

end GuestDraw
