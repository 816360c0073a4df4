/-
**Failures that the guest is told of.**

A failure must not look like a success to the guest: it is answered by a word with the top bit set,
or the process ends. So it is with every failure of every call, also where a failure carries a
status of its own.

* `Failure.Told`: the guest can tell, and `told_memory`, `told_pixel` and so on: it can with each
  cause;
* `Engine.Frank`: of all failures of a call the guest is told, and `frank_lock`, `frank_flip` and so
  on: it is so with each call.
-/

import GuestDraw.Session.Dispatch

namespace GuestDraw

variable {α β : Type}

/-! ### Failures -/

/-- A status is that of a failure if its top bit is set. -/
theorem Status.isSuccess_eq_false_iff {status : Status} :
    status.isSuccess = false ↔ status.word.toBitVec.msb = true := by
  rw [Status.isSuccess, decide_eq_false_iff_not, BitVec.msb_eq_decide, decide_eq_true_iff,
    UInt32.lt_iff_toNat_lt, Nat.not_lt]
  rfl

/-- The guest can tell that a call failed, or the process ends. -/
def Failure.Told (cause : Failure) : Prop :=
  ∀ status, cause.disposition = .status status → status.isSuccess = false

namespace Failure

theorem told_memory (cause : MemoryError) : (Failure.memory cause).Told := by
  rintro status ⟨⟩
  cases cause <;> rfl

theorem told_object (cause : ObjectError) : (Failure.object cause).Told := by
  rintro status ⟨⟩
  cases cause <;> rfl

theorem told_pixel (cause : PixelError) : (Failure.pixel cause).Told := by
  intro status known
  cases cause with
  | memory cause => exact told_memory cause status known
  | _ =>
    cases known
    try rfl

theorem told_unsupported (entry : String) (limitation : Limitation) :
    (Failure.unsupported entry limitation).Told := nofun

theorem told_unknownHandle (entry : String) (handle : Handle) :
    (Failure.unknownHandle entry handle).Told := by
  rintro status ⟨⟩
  rfl

theorem told_notImplemented (feature : String) : (Failure.notImplemented feature).Told := by
  rintro status ⟨⟩
  rfl

theorem told_invalidArgument {entry : String} {status : Status} (fails : status.isSuccess = false) :
    (Failure.invalidArgument entry status).Told := by
  rintro _ ⟨⟩
  exact fails

theorem told_failed {entry : String} {status : Status} (fails : status.isSuccess = false) :
    (Failure.failed entry status).Told := by
  rintro _ ⟨⟩
  exact fails

theorem told_invalidParams (entry : String) : (Failure.invalidParams entry).Told :=
  told_invalidArgument rfl

theorem told_nullPointer (entry : String) : (Failure.nullPointer entry).Told :=
  told_invalidArgument rfl

end Failure

/-! ### Calls -/

namespace Engine

/-- The guest is told of every failure of a call. -/
def Frank (call : Engine α) : Prop :=
  ∀ session cause final, call session = .error cause final → cause.Told

namespace Frank

theorem pure (value : α) : Frank (Pure.pure value) := by
  intro session cause final failed
  change EStateM.Result.ok value session = _ at failed
  cases failed

theorem throw {cause : Failure} (told : cause.Told) : Frank (MonadExcept.throw cause : Engine α) := by
  rintro session _ _ ⟨⟩
  exact told

theorem bind {call : Engine α} {rest : α → Engine β} (first : Frank call)
    (next : ∀ value, Frank (rest value)) : Frank (call >>= rest) := by
  intro session cause final failed
  change EStateM.bind call rest session = _ at failed
  unfold EStateM.bind at failed
  cases ended : call session with
  | ok value middle =>
    rw [ended] at failed
    exact next value middle cause final failed
  | error earlier middle =>
    rw [ended] at failed
    cases failed
    exact first session cause final ended

theorem guarded {refused : Prop} [Decidable refused] {cause : Failure} {rest : Unit → Engine α}
    (told : cause.Told) (next : Frank (rest ())) :
    Frank (if refused then MonadExcept.throw cause >>= rest else rest ()) := by
  split
  · exact (throw told).bind fun _ => next
  · exact next

theorem ite {condition : Prop} [Decidable condition] {call other : Engine α} (first : Frank call)
    (second : Frank other) : Frank (if condition then call else other) := by
  split
  · exact first
  · exact second

theorem read {rest : Session → Engine α} (next : ∀ session, Frank (rest session)) :
    Frank (MonadState.get >>= rest) :=
  fun session => next session session

theorem change (change : Session → Session) : Frank (modify change : Engine Unit) := by
  intro session cause final failed
  change EStateM.Result.ok () (change session) = _ at failed
  cases failed

theorem ofExcept {ε : Type} {wrap : ε → Failure} (told : ∀ cause, (wrap cause).Told)
    (result : Except ε α) : Frank (Engine.ofExcept wrap result) := by
  cases result with
  | ok value => exact pure value
  | error cause => exact throw (told cause)

theorem discard {call : Engine α} (frank : Frank call) : Frank (Functor.discard call) :=
  frank.bind fun _ => pure ()

theorem forM {each : Handle → Engine Unit} (one : ∀ handle, Frank (each handle))
    (handles : List Handle) : Frank (handles.forM each) := by
  induction handles with
  | nil => exact pure ()
  | cons handle rest ih => exact (one handle).bind fun _ => ih

end Frank

section Steps

theorem frank_read (address length : Nat) : Frank (read address length) :=
  .read fun _ => .ofExcept Failure.told_memory _

theorem frank_readDword (address : Nat) : Frank (readDword address) :=
  .read fun _ => .ofExcept Failure.told_memory _

theorem frank_write (address : Nat) (data : List UInt8) : Frank (write address data) := by
  intro session cause final failed
  unfold write at failed
  split at failed
  · cases failed
  · cases failed
    exact Failure.told_memory _

theorem frank_move (source target length : Nat) : Frank (move source target length) :=
  (frank_read _ _).bind fun _ => frank_write _ _

theorem frank_onObjects (change : ObjectTable → Except ObjectError (α × ObjectTable)) :
    Frank (onObjects change) := by
  intro session cause final failed
  unfold onObjects at failed
  split at failed
  · cases failed
  · cases failed
    exact Failure.told_object _

theorem frank_surfaceAt (handle : Handle) : Frank (surfaceAt handle) :=
  .read fun session => by
    cases session.objects.surface? handle with
    | some surface => exact .pure surface
    | none => exact .throw (Failure.told_object _)

theorem frank_paletteAt (handle : Handle) : Frank (paletteAt handle) :=
  .read fun session => by
    cases session.objects.palette? handle with
    | some palette => exact .pure palette
    | none => exact .throw (Failure.told_object _)

theorem frank_cachedAt (handle : Handle) : Frank (cachedAt handle) :=
  .read fun session => by
    cases session.objects.cachedRaster? handle with
    | some cached => exact .pure cached
    | none => exact .throw (Failure.told_object _)

theorem frank_resolveSurface (entry : String) (this : Nat) : Frank (resolveSurface entry this) :=
  .read fun session => by
    cases session.surfaceFor? this with
    | some handle => exact .pure handle
    | none => exact .throw (Failure.told_unknownHandle _ _)

theorem frank_resolvePalette (entry : String) (this : Nat) : Frank (resolvePalette entry this) :=
  .read fun session => by
    cases session.paletteFor? this with
    | some handle => exact .pure handle
    | none => exact .throw (Failure.told_unknownHandle _ _)

theorem frank_setPayload (handle : Handle) (payload : Payload) : Frank (setPayload handle payload) :=
  frank_onObjects _

theorem frank_updateSurface (handle : Handle) (change : Surface → Surface) :
    Frank (updateSurface handle change) :=
  (frank_surfaceAt handle).bind fun _ => frank_setPayload _ _

/-! ### Contents -/

theorem frank_decodeSurface (handle : Handle) : Frank (decodeSurface handle) :=
  (frank_surfaceAt handle).bind fun _ => .read fun _ => .ofExcept Failure.told_pixel _

theorem frank_storePixels (surface : Surface) (raster : Raster) : Frank (storePixels surface raster) :=
  .read fun _ => Frank.bind (.ofExcept Failure.told_pixel _) fun _ => frank_write _ _

theorem frank_cacheOf (handle : Handle) (make : Bool) : Frank (cacheOf handle make) := by
  refine (frank_surfaceAt handle).bind fun surface => ?_
  refine .ite (.pure _) (.ite (.pure _) ?_)
  refine (frank_decodeSurface handle).bind fun raster => ?_
  refine Frank.bind (frank_onObjects _) fun cache => ?_
  exact (frank_updateSurface _ _).bind fun _ => .pure _

theorem frank_dropCache (handle : Handle) : Frank (dropCache handle) := by
  refine (frank_surfaceAt handle).bind fun surface => ?_
  cases surface.cache with
  | none => exact .pure ()
  | some cache => exact (frank_updateSurface _ _).bind fun _ => frank_onObjects _

theorem frank_writeBack (handle : Handle) : Frank (writeBack handle) := by
  refine (frank_surfaceAt handle).bind fun surface => ?_
  cases surface.cache with
  | none => exact .pure ()
  | some cache =>
    refine (frank_cachedAt cache).bind fun cached => ?_
    exact .ite ((frank_storePixels _ _).bind fun _ => frank_setPayload _ _) (.pure ())

theorem frank_settle (handle : Handle) : Frank (settle handle) :=
  (frank_writeBack handle).bind fun _ => frank_dropCache handle

theorem frank_picture (handle : Handle) : Frank (picture handle) := by
  refine (frank_cacheOf handle true).bind fun cache => ?_
  cases cache with
  | none => exact frank_decodeSurface handle
  | some cache =>
    refine .read fun session => ?_
    cases session.objects.cachedRaster? cache with
    | none => exact frank_decodeSurface handle
    | some cached => exact .pure _

theorem frank_drawOn (handle : Handle) (draw : Raster → Raster) : Frank (drawOn handle draw) := by
  refine (frank_cacheOf handle true).bind fun cache => ?_
  cases cache with
  | none =>
    refine (frank_surfaceAt handle).bind fun surface => ?_
    exact (frank_decodeSurface handle).bind fun raster => frank_storePixels _ _
  | some cache => exact (frank_cachedAt cache).bind fun _ => frank_setPayload _ _

theorem frank_show (handle : Handle) : Frank (do present (← picture handle)) :=
  (frank_picture handle).bind fun _ => .change _

theorem frank_presentIfVisible (handle : Handle) : Frank (presentIfVisible handle) :=
  (frank_surfaceAt handle).bind fun _ => .ite (frank_show handle) (.pure ())

theorem frank_setLocked (handle : Handle) (locked : Bool) : Frank (setLocked handle locked) :=
  frank_updateSurface _ _

theorem frank_contextOf (handle : Handle) : Frank (contextOf handle) := by
  refine (frank_surfaceAt handle).bind fun surface => ?_
  cases surface.deviceContext with
  | some context => exact .pure context
  | none =>
    refine Frank.bind (frank_onObjects _) fun context => ?_
    exact (frank_updateSurface _ _).bind fun _ => .pure context

end Steps

/-! ### Entry points -/

section Entries

open Failure

theorem frank_surfaceAddReference (this : Nat) : Frank (surfaceAddReference this) :=
  (frank_resolveSurface _ _).bind fun _ => frank_onObjects _

theorem frank_surfaceRelease (this : Nat) : Frank (surfaceRelease this) :=
  (frank_resolveSurface _ _).bind fun _ => frank_onObjects _

theorem frank_paletteAddReference (this : Nat) : Frank (paletteAddReference this) :=
  (frank_resolvePalette _ _).bind fun _ => frank_onObjects _

theorem frank_paletteRelease (this : Nat) : Frank (paletteRelease this) :=
  (frank_resolvePalette _ _).bind fun _ => frank_onObjects _

theorem frank_getAttachedSurface (this caps out : Nat) : Frank (getAttachedSurface this caps out) := by
  refine (frank_resolveSurface _ _).bind fun handle => (frank_surfaceAt _).bind fun surface => ?_
  refine .guarded (told_nullPointer _) ((frank_readDword _).bind fun wanted => ?_)
  refine .guarded (told_unsupported _ _) ?_
  cases surface.backBuffer with
  | none => exact .throw (told_failed rfl)
  | some child =>
    refine Frank.bind (frank_onObjects _) fun count => (frank_surfaceAt child).bind fun back => ?_
    exact (frank_write _ _).bind fun _ => .pure _

theorem frank_getPalette (this out : Nat) : Frank (getPalette this out) := by
  refine (frank_resolveSurface _ _).bind fun handle => (frank_surfaceAt _).bind fun surface => ?_
  refine .guarded (told_nullPointer _) ?_
  cases surface.palette with
  | none => exact .throw (told_failed rfl)
  | some attached =>
    refine (frank_paletteAt attached).bind fun palette => Frank.bind (frank_onObjects _) fun count => ?_
    exact (frank_write _ _).bind fun _ => .pure _

theorem frank_setPalette (this palette : Nat) : Frank (setPalette this palette) := by
  refine (frank_resolveSurface _ _).bind fun handle => .guarded (told_nullPointer _) ?_
  refine (frank_resolvePalette _ _).bind fun attached => (frank_surfaceAt _).bind fun surface => ?_
  refine .ite ?_ (.pure ())
  refine (frank_settle handle).bind fun _ => Frank.bind (frank_onObjects _) fun count => ?_
  refine (frank_surfaceAt handle).bind fun settled => (frank_updateSurface _ _).bind fun _ => ?_
  cases settled.palette with
  | none => exact .pure ()
  | some previous => exact Frank.discard (frank_onObjects _)

theorem frank_lock (this out : Nat) (flags : LockFlags) : Frank (lock this out flags) := by
  refine (frank_resolveSurface _ _).bind fun handle => .guarded (told_unsupported _ _) ?_
  refine .guarded (told_nullPointer _) ((frank_surfaceAt _).bind fun surface => ?_)
  refine (frank_readDword _).bind fun size => .guarded (told_invalidParams _) ?_
  refine (frank_move _ _ _).bind fun _ => (frank_write _ _).bind fun _ => ?_
  exact (frank_settle handle).bind fun _ => frank_setLocked _ _

theorem frank_unlock (this : Nat) : Frank (unlock this) :=
  (frank_resolveSurface _ _).bind fun _ => frank_setLocked _ _

theorem frank_getDC (this out : Nat) : Frank (getDC this out) := by
  refine (frank_resolveSurface _ _).bind fun handle => .guarded (told_invalidParams _) ?_
  refine (frank_contextOf handle).bind fun context => Frank.bind (frank_onObjects _) fun count => ?_
  refine (frank_write _ _).bind fun _ => (frank_settle handle).bind fun _ => ?_
  exact (frank_setLocked _ _).bind fun _ => .pure _

theorem frank_releaseDC (this context : Nat) : Frank (releaseDC this context) := by
  refine (frank_resolveSurface _ _).bind fun handle => (frank_surfaceAt _).bind fun surface => ?_
  refine .guarded (told_invalidParams _) (.read fun session => ?_)
  cases session.objects.find? ⟨context⟩ with
  | none => exact frank_setLocked _ _
  | some object =>
    exact .ite (Frank.bind (frank_onObjects _) fun _ => frank_setLocked _ _) (frank_setLocked _ _)

theorem frank_bltFast (this : Nat) (x y : Int32) (source region : Nat) (flags : BltFastFlags) :
    Frank (bltFast this x y source region flags) := by
  refine (frank_resolveSurface _ _).bind fun target => .guarded (told_invalidParams _) ?_
  refine (frank_resolveSurface _ _).bind fun origin => .guarded (told_notImplemented _) ?_
  refine (frank_picture origin).bind fun image => ?_
  have drawn : ∀ rect, Frank (do
      drawOn target fun raster => raster.blit image rect x y
      presentIfVisible target) :=
    fun rect => (frank_drawOn _ _).bind fun _ => frank_presentIfVisible target
  exact .ite (drawn _) (.read fun session => Frank.bind (.ofExcept told_memory _) drawn)

theorem frank_flip (this target : Nat) : Frank (flip this target) := by
  refine (frank_resolveSurface _ _).bind fun front => ?_
  refine .ite ((frank_resolveSurface _ _).bind frank_show) ?_
  exact (frank_surfaceAt front).bind fun _ => frank_show _

/-! ### Questions -/

theorem frank_lookUp (entry : String) (this : Nat) : Frank (discard (resolveSurface entry this)) :=
  (frank_resolveSurface entry this).discard

theorem frank_surfaceSetUp (this : Nat) : Frank (surfaceSetUp this) :=
  (frank_lookUp _ this).bind fun _ => .throw (told_failed rfl)

theorem frank_paletteSetUp (this : Nat) : Frank (paletteSetUp this) :=
  (frank_resolvePalette _ this).discard.bind fun _ => .throw (told_failed rfl)

theorem frank_getSurfaceDesc (this out : Nat) : Frank (getSurfaceDesc this out) := by
  refine (frank_resolveSurface _ _).bind fun handle => (frank_surfaceAt _).bind fun surface => ?_
  refine .guarded (told_invalidParams _) ((frank_readDword _).bind fun size => ?_)
  exact .guarded (told_invalidParams _) (frank_move _ _ _)

theorem frank_getCaps (this out : Nat) : Frank (getCaps this out) := by
  refine (frank_resolveSurface _ _).bind fun handle => (frank_surfaceAt _).bind fun surface => ?_
  exact .guarded (told_nullPointer _) (frank_move _ _ _)

theorem frank_getPixelFormat (this out : Nat) : Frank (getPixelFormat this out) := by
  refine (frank_resolveSurface _ _).bind fun handle => (frank_surfaceAt _).bind fun surface => ?_
  refine .guarded (told_nullPointer _) ((frank_readDword _).bind fun size => ?_)
  exact .guarded (told_invalidParams _) (frank_move _ _ _)

theorem frank_paletteGetCaps (this out : Nat) : Frank (paletteGetCaps this out) := by
  refine (frank_resolvePalette _ _).bind fun handle => .guarded (told_nullPointer _) ?_
  exact (frank_paletteAt handle).bind fun _ => frank_write _ _

theorem frank_checkEntries (entry : String) (handle : Handle) (start count buffer : Nat) :
    Frank (checkEntries entry handle start count buffer) :=
  (frank_paletteAt handle).bind fun _ => .ite (.throw (told_invalidParams _)) (.pure ())

theorem frank_writeColours (address : Nat) (colours : List UInt32) :
    Frank (writeColours address colours) := by
  induction colours generalizing address with
  | nil => exact .pure ()
  | cons colour rest ih => exact (frank_write _ _).bind fun _ => ih _

theorem frank_paletteGetEntries (this first count out : Nat) :
    Frank (paletteGetEntries this first count out) := by
  refine (frank_resolvePalette _ _).bind fun handle => (frank_checkEntries _ _ _ _ _).bind fun _ => ?_
  exact (frank_paletteAt handle).bind fun _ => frank_writeColours _ _

theorem frank_readColours (address count : Nat) : Frank (readColours address count) := by
  induction count generalizing address with
  | zero => exact .pure []
  | succ count ih => exact (frank_read _ _).bind fun _ => (ih _).bind fun _ => .pure _

theorem frank_paletteSetEntries (this first count source : Nat) :
    Frank (paletteSetEntries this first count source) := by
  refine (frank_resolvePalette _ _).bind fun handle => (frank_checkEntries _ _ _ _ _).bind fun _ => ?_
  refine .read fun session => Frank.bind (.forM frank_settle _) fun _ => ?_
  refine (frank_readColours _ _).bind fun colours => (frank_paletteAt handle).bind fun palette => ?_
  refine (frank_setPayload _ _).bind fun _ => Frank.bind (frank_write _ _) fun _ => ?_
  exact .forM frank_presentIfVisible _

end Entries

end Engine

end GuestDraw
