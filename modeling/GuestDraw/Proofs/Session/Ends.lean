/-
**How a call ends.**

A call ends with a value or with a failure, and either way leaves a session behind. `Ends` says what
is known about that session in the two cases, and calls are followed step by step with it: what
holds after the first step is where the next one starts, and a failure of any step is a failure of
the whole.

* `Ends.bind`, `Ends.guarded`, `Ends.read`: one rule for each way in which calls are put together;
* `ends_surfaceAt`, `ends_write`, `ends_create` and so on: one rule for each step;
* `EndsWith`: the same where it matters why a call fails.
-/

import GuestDraw.Session.Dispatch

namespace GuestDraw

variable {α β : Type}

theorem Memory.fill_eq_ok {memory after : Memory} {address length : Nat} {value : UInt8}
    (filled : memory.fill address length value = .ok after) :
    memory.holds address length = true ∧
      after = memory.put address (List.replicate length value) := by
  rw [fill_eq] at filled
  split at filled
  · next backed =>
    cases filled
    exact ⟨backed, rfl⟩
  · cases filled

/-- A call from `start` ends with `done` if it succeeds, and with what `failed` says of the cause if
it does not. -/
def EndsWith (call : Engine α) (start : Session) (done : α → Session → Prop)
    (failed : Failure → Session → Prop) : Prop :=
  match call start with
  | .ok value final => done value final
  | .error cause final => failed cause final

namespace EndsWith

variable {call : Engine α} {start : Session} {done : α → Session → Prop}
  {failed : Failure → Session → Prop}

theorem imp {done' : α → Session → Prop} {failed' : Failure → Session → Prop}
    (ends : EndsWith call start done' failed')
    (weaker : ∀ value final, done' value final → done value final)
    (weakerFailed : ∀ cause final, failed' cause final → failed cause final) :
    EndsWith call start done failed := by
  unfold EndsWith at *
  cases ended : call start with
  | ok value final =>
    rw [ended] at ends
    exact weaker _ _ ends
  | error cause final =>
    rw [ended] at ends
    exact weakerFailed _ _ ends

theorem weaken {done' : α → Session → Prop} (ends : EndsWith call start done' failed)
    (weaker : ∀ value final, done' value final → done value final) :
    EndsWith call start done failed :=
  ends.imp weaker fun _ _ failed => failed

theorem bind {middle : α → Session → Prop} {rest : α → Engine β} {done : β → Session → Prop}
    (first : EndsWith call start middle failed)
    (next : ∀ value final, middle value final → EndsWith (rest value) final done failed) :
    EndsWith (call >>= rest) start done failed := by
  unfold EndsWith at first ⊢
  cases ended : call start with
  | ok value final =>
    have continued : (call >>= rest) start = rest value final := by
      show EStateM.bind call rest start = _
      simp only [EStateM.bind, ended]
    rw [ended] at first
    rw [continued]
    exact next value final first
  | error cause final =>
    have stopped : (call >>= rest) start = .error cause final := by
      show EStateM.bind call rest start = _
      simp only [EStateM.bind, ended]
    rw [ended] at first
    rw [stopped]
    exact first

/-- Two halves that fail for different reasons. -/
theorem andThen {middle : α → Session → Prop} {broken : Failure → Session → Prop} {rest : α → Engine β}
    {done : β → Session → Prop} (first : EndsWith call start middle broken)
    (fails : ∀ cause final, broken cause final → failed cause final)
    (next : ∀ value final, middle value final → EndsWith (rest value) final done failed) :
    EndsWith (call >>= rest) start done failed :=
  (first.imp (fun _ _ ended => ended) fails).bind next

/-- What is known of a call for two reasons. -/
theorem and {doneToo : α → Session → Prop} {failedToo : Failure → Session → Prop}
    (first : EndsWith call start done failed) (second : EndsWith call start doneToo failedToo) :
    EndsWith call start (fun value final => done value final ∧ doneToo value final)
      (fun cause final => failed cause final ∧ failedToo cause final) := by
  unfold EndsWith at *
  cases ended : call start with
  | ok value final =>
    rw [ended] at first second
    exact ⟨first, second⟩
  | error cause final =>
    rw [ended] at first second
    exact ⟨first, second⟩

/-- A step that is refused under a condition, which is known where it is refused. -/
theorem refusing {refused : Prop} [Decidable refused] {cause : Failure} {rest : Unit → Engine α}
    (held : refused → failed cause start)
    (next : ¬ refused → EndsWith (rest ()) start done failed) :
    EndsWith (if refused then MonadExcept.throw cause >>= rest else rest ()) start done failed := by
  split
  · next known => exact held known
  · next accepted => exact next accepted

/-- A step that is refused under a condition. -/
theorem guarded {refused : Prop} [Decidable refused] {cause : Failure} {rest : Unit → Engine α}
    (held : failed cause start) (next : ¬ refused → EndsWith (rest ()) start done failed) :
    EndsWith (if refused then MonadExcept.throw cause >>= rest else rest ()) start done failed :=
  refusing (fun _ => held) next

theorem read {rest : Session → Engine α} (next : EndsWith (rest start) start done failed) :
    EndsWith (MonadState.get >>= rest) start done failed := next

/-- What a call that succeeds leaves behind. -/
theorem of_ok (ends : EndsWith call start done failed) {value : α} {final : Session}
    (succeeds : call start = .ok value final) : done value final := by
  unfold EndsWith at ends
  rw [succeeds] at ends
  exact ends

/-- What a call that fails leaves behind. -/
theorem of_error (ends : EndsWith call start done failed) {cause : Failure} {final : Session}
    (fails : call start = .error cause final) : failed cause final := by
  unfold EndsWith at ends
  rw [fails] at ends
  exact ends

end EndsWith

/-- A call from `start` ends with `done` if it succeeds, and with `failed` if it does not. -/
def Ends (call : Engine α) (start : Session) (done : α → Session → Prop)
    (failed : Session → Prop) : Prop :=
  match call start with
  | .ok value final => done value final
  | .error _ final => failed final

namespace Ends

variable {call : Engine α} {start : Session} {done : α → Session → Prop}
  {failed : Session → Prop}

/-! ### Putting steps together -/

theorem imp {done' : α → Session → Prop} {failed' : Session → Prop}
    (ends : Ends call start done' failed')
    (weaker : ∀ value final, done' value final → done value final)
    (weakerFailed : ∀ final, failed' final → failed final) : Ends call start done failed :=
  EndsWith.imp ends weaker fun _ => weakerFailed

theorem weaken {done' : α → Session → Prop} (ends : Ends call start done' failed)
    (weaker : ∀ value final, done' value final → done value final) : Ends call start done failed :=
  ends.imp weaker fun _ failed => failed

theorem bind {middle : α → Session → Prop} {rest : α → Engine β} {done : β → Session → Prop}
    (first : Ends call start middle failed)
    (next : ∀ value final, middle value final → Ends (rest value) final done failed) :
    Ends (call >>= rest) start done failed :=
  EndsWith.bind first next

theorem throw {cause : Failure} (holds : failed start) :
    Ends (MonadExcept.throw cause) start done failed := holds

/-- A step that is refused under a condition, which is known where it is refused. -/
theorem refusing {refused : Prop} [Decidable refused] {cause : Failure} {rest : Unit → Engine α}
    (held : refused → failed start) (next : ¬ refused → Ends (rest ()) start done failed) :
    Ends (if refused then MonadExcept.throw cause >>= rest else rest ()) start done failed :=
  EndsWith.refusing held next

/-- A step that is refused under a condition. -/
theorem guarded {refused : Prop} [Decidable refused] {cause : Failure} {rest : Unit → Engine α}
    (held : failed start) (next : ¬ refused → Ends (rest ()) start done failed) :
    Ends (if refused then MonadExcept.throw cause >>= rest else rest ()) start done failed :=
  refusing (fun _ => held) next

theorem read {rest : Session → Engine α} (next : Ends (rest start) start done failed) :
    Ends (MonadState.get >>= rest) start done failed := next

theorem change {change : Session → Session} {rest : Unit → Engine α}
    (next : Ends (rest ()) (change start) done failed) :
    Ends (modify change >>= rest) start done failed := next

/-- A computation that does not depend on the session leaves it alone. -/
theorem ofExcept {ε : Type} {wrap : ε → Failure} {result : Except ε α} (held : failed start) :
    Ends (Engine.ofExcept wrap result) start
      (fun value final => final = start ∧ result = .ok value) failed := by
  cases result with
  | ok value => exact ⟨rfl, rfl⟩
  | error cause => exact held

theorem discard (ends : Ends call start done failed) :
    Ends (Functor.discard call) start (fun _ final => ∃ value, done value final) failed := by
  show Ends (call >>= fun _ => Pure.pure ()) start _ _
  refine ends.bind fun value final holds => ?_
  exact ⟨value, holds⟩

/-- A call for which the answer says nothing of the state. -/
theorem forget {holds : Session → Prop} (ends : Ends call start (fun _ => holds) failed) :
    Ends (Functor.discard call) start (fun _ => holds) failed :=
  ends.discard.weaken fun _ _ ended => ended.elim fun _ held => held

/-- A call that is rescued when it fails. -/
theorem rescue {handler : Failure → Engine α} {middle : Session → Prop}
    (first : Ends call start done middle)
    (rest : ∀ cause final, middle final → Ends (handler cause) final done failed) :
    Ends (tryCatch call handler) start done failed := by
  unfold Ends at first ⊢
  cases ended : call start with
  | ok value final =>
    have finished : (tryCatch call handler) start = .ok value final := by
      show EStateM.tryCatch call handler start = _
      delta EStateM.tryCatch
      simp only [ended]
    rw [ended] at first
    rw [finished]
    exact first
  | error cause final =>
    have handled : (tryCatch call handler) start = handler cause final := by
      show EStateM.tryCatch call handler start = _
      delta EStateM.tryCatch
      simp only [ended]
      rfl
    rw [ended] at first
    rw [handled]
    exact rest cause final first

/-- What a call that succeeds leaves behind. -/
theorem of_ok (ends : Ends call start done failed) {value : α} {final : Session}
    (succeeds : call start = .ok value final) : done value final :=
  EndsWith.of_ok ends succeeds

/-- What a call that fails leaves behind. -/
theorem of_error (ends : Ends call start done failed) {cause : Failure} {final : Session}
    (fails : call start = .error cause final) : failed final :=
  EndsWith.of_error ends fails

/-- A call that cannot fail succeeds. -/
theorem exists_ok (ends : Ends call start done fun _ => False) :
    ∃ value final, call start = .ok value final ∧ done value final := by
  unfold Ends at ends
  cases ended : call start with
  | ok value final =>
    rw [ended] at ends
    exact ⟨value, final, rfl, ends⟩
  | error cause final =>
    rw [ended] at ends
    exact ends.elim

/-- A call of which it is known that it succeeds. -/
theorem of_eq_ok {value : α} {final : Session} (succeeds : call start = .ok value final) :
    Ends call start (fun given left => given = value ∧ left = final) failed := by
  unfold Ends
  rw [succeeds]
  exact ⟨rfl, rfl⟩

/-- A call that fails only where `allowed` does not hold succeeds exactly where it does. -/
theorem ok_iff {allowed : Prop} {value : α} {final : Session}
    (ends : Ends call start (fun answer left => allowed ∧ answer = value ∧ left = final)
      fun _ => ¬ allowed) {other : Session} :
    call start = .ok value other ↔ allowed ∧ other = final := by
  unfold Ends at ends
  cases ended : call start with
  | ok answer left =>
    rw [ended] at ends
    obtain ⟨holds, rfl, rfl⟩ := ends
    simp [holds, eq_comm]
  | error cause left =>
    rw [ended] at ends
    simp [show ¬ allowed from ends]

/-- What is known of a call whatever the cause of a failure is. -/
theorem whatever {reason : Failure → Session → Prop}
    (ends : Ends call start done fun final => ∀ cause, reason cause final) :
    EndsWith call start done reason :=
  EndsWith.imp ends (fun _ _ ended => ended) fun cause _ left => left cause

end Ends

/-! ### Steps -/

section Steps

variable {start : Session} {failed : Session → Prop} (held : failed start)

include held

theorem ends_surfaceAt (handle : Handle) :
    Ends (Engine.surfaceAt handle) start
      (fun surface final => final = start ∧ start.objects.surface? handle = some surface) failed := by
  refine .read ?_
  cases found : start.objects.surface? handle with
  | none => exact held
  | some surface => exact ⟨rfl, rfl⟩

theorem ends_paletteAt (handle : Handle) :
    Ends (Engine.paletteAt handle) start
      (fun palette final => final = start ∧ start.objects.palette? handle = some palette) failed := by
  refine .read ?_
  cases found : start.objects.palette? handle with
  | none => exact held
  | some palette => exact ⟨rfl, rfl⟩

theorem ends_cachedAt (handle : Handle) :
    Ends (Engine.cachedAt handle) start
      (fun cached final => final = start ∧ start.objects.cachedRaster? handle = some cached)
      failed := by
  refine .read ?_
  cases found : start.objects.cachedRaster? handle with
  | none => exact held
  | some cached => exact ⟨rfl, rfl⟩

theorem ends_resolveSurface (entry : String) (this : Nat) :
    Ends (Engine.resolveSurface entry this) start
      (fun handle final => final = start ∧ start.surfaceFor? this = some handle) failed := by
  refine .read ?_
  cases found : start.surfaceFor? this with
  | none => exact held
  | some handle => exact ⟨rfl, rfl⟩

theorem ends_resolvePalette (entry : String) (this : Nat) :
    Ends (Engine.resolvePalette entry this) start
      (fun handle final => final = start ∧ start.paletteFor? this = some handle) failed := by
  refine .read ?_
  cases found : start.paletteFor? this with
  | none => exact held
  | some handle => exact ⟨rfl, rfl⟩

theorem ends_read (address length : Nat) :
    Ends (Engine.read address length) start
      (fun data final => final = start ∧ start.memory.read address length = .ok data) failed :=
  .read (.ofExcept held)

theorem ends_readDword (address : Nat) :
    Ends (Engine.readDword address) start
      (fun word final => final = start ∧ start.memory.readDword address = .ok word) failed :=
  .read (.ofExcept held)

omit held in
/-- A dword that cannot be read is the only reason to fail. -/
theorem ends_readDword_refusing {address : Nat}
    (held : (∀ word, start.memory.readDword address ≠ .ok word) → failed start) :
    Ends (Engine.readDword address) start
      (fun word final => final = start ∧ start.memory.readDword address = .ok word) failed := by
  refine .read ?_
  cases taken : start.memory.readDword address with
  | ok word => exact ⟨rfl, rfl⟩
  | error cause => exact held fun word same => nomatch taken.symm.trans same

omit held in
/-- Memory that is not there is the only reason to fail. -/
theorem ends_write_refusing {address : Nat} {data : List UInt8}
    (held : start.memory.holds address data.length = false → failed start) :
    Ends (Engine.write address data) start
      (fun _ final => start.memory.holds address data.length = true ∧
        final = { start with memory := start.memory.put address data }) failed := by
  unfold Ends Engine.write
  cases checked : start.memory.check address data.length with
  | ok _ => exact ⟨Memory.check_eq_ok_iff.mp checked, rfl⟩
  | error cause =>
    refine held (Bool.eq_false_iff.mpr fun backed => ?_)
    cases checked.symm.trans (Memory.check_eq_ok_iff.mpr backed)

theorem ends_write (address : Nat) (data : List UInt8) :
    Ends (Engine.write address data) start
      (fun _ final => start.memory.holds address data.length = true ∧
        final = { start with memory := start.memory.put address data }) failed :=
  ends_write_refusing fun _ => held

omit held in
/-- A store to memory that is there succeeds. -/
theorem ends_write_backed {address : Nat} {data : List UInt8}
    (backed : start.memory.holds address data.length = true) :
    Ends (Engine.write address data) start
      (fun _ final => final = { start with memory := start.memory.put address data }) failed := by
  unfold Ends Engine.write
  rw [Memory.check_eq_ok_iff.mpr backed]

omit held in
/-- A store fails because memory is not there, and then it stores nothing. -/
theorem endsWith_write_exact (address : Nat) (data : List UInt8) :
    EndsWith (Engine.write address data) start
      (fun _ final => start.memory.holds address data.length = true ∧
        final = { start with memory := start.memory.put address data })
      (fun cause final => start.memory.holds address data.length = false ∧
        cause = .memory (.outOfRange address data.length) ∧ final = start) := by
  unfold EndsWith Engine.write Memory.check
  cases backed : start.memory.holds address data.length with
  | true => exact ⟨rfl, rfl⟩
  | false => exact ⟨rfl, rfl, rfl⟩

theorem ends_liftMemory (result : Except MemoryError α) :
    Ends (liftM result : Engine α) start
      (fun value final => final = start ∧ result = .ok value) failed :=
  .ofExcept held

theorem ends_fill (address length : Nat) (value : UInt8) :
    Ends (Engine.fill address length value) start
      (fun _ final => start.memory.holds address length = true ∧ final = { start with
        memory := start.memory.put address (List.replicate length value) }) failed := by
  unfold Ends Engine.fill
  cases filled : start.memory.fill address length value with
  | ok memory =>
    obtain ⟨backed, rfl⟩ := Memory.fill_eq_ok filled
    exact ⟨backed, rfl⟩
  | error cause => exact held

omit held in
/-- Filling memory that is there succeeds. -/
theorem ends_fill_backed {address length : Nat} {value : UInt8}
    (backed : start.memory.holds address length = true) :
    Ends (Engine.fill address length value) start
      (fun _ final => final = { start with
        memory := start.memory.put address (List.replicate length value) }) failed := by
  unfold Ends Engine.fill Memory.fill
  rw [Memory.check_eq_ok_iff.mpr backed]
  rfl

theorem ends_move (source target length : Nat) :
    Ends (Engine.move source target length) start
      (fun _ final => ∃ data, start.memory.read source length = .ok data ∧
        start.memory.holds target data.length = true ∧
        final = { start with memory := start.memory.put target data }) failed := by
  refine (ends_read held source length).bind ?_
  rintro data _ ⟨rfl, taken⟩
  exact (ends_write held target data).imp
    (fun _ _ stored => ⟨data, taken, stored.1, stored.2⟩) fun _ holds => holds

theorem ends_onObjects {change : ObjectTable → Except ObjectError (α × ObjectTable)} :
    Ends (Engine.onObjects change) start
      (fun value final => ∃ objects, change start.objects = .ok (value, objects) ∧
        final = { start with objects := objects }) failed := by
  unfold Ends Engine.onObjects
  cases changed : change start.objects with
  | ok result => exact ⟨result.2, rfl, rfl⟩
  | error cause => exact held

omit held in
theorem ends_setPayload (handle : Handle) (payload : Payload) :
    Ends (Engine.setPayload handle payload) start
      (fun _ final => final = { start with objects := start.objects.setPayload handle payload })
      failed := rfl

theorem ends_updateSurface (handle : Handle) (change : Surface → Surface) :
    Ends (Engine.updateSurface handle change) start
      (fun _ final => ∃ surface, start.objects.surface? handle = some surface ∧
        final = { start with
          objects := start.objects.setPayload handle (.surface (change surface)) }) failed := by
  refine (ends_surfaceAt held handle).bind ?_
  rintro surface _ ⟨rfl, found⟩
  exact ⟨surface, found, rfl⟩

omit held in
/-- A live surface is found. -/
theorem ends_surfaceAt_live {handle : Handle} {surface : Surface}
    (live : start.objects.surface? handle = some surface) :
    Ends (Engine.surfaceAt handle) start (fun found final => found = surface ∧ final = start)
      failed := by
  refine .read ?_
  rw [live]
  exact ⟨rfl, rfl⟩

omit held in
/-- A palette is found by its handle. -/
theorem ends_paletteAt_live {handle : Handle} {palette : Palette}
    (live : start.objects.palette? handle = some palette) :
    Ends (Engine.paletteAt handle) start (fun found final => found = palette ∧ final = start)
      failed := by
  refine .read ?_
  rw [live]
  exact ⟨rfl, rfl⟩

omit held in
/-- A cache is found by its handle. -/
theorem ends_cachedAt_live {handle : Handle} {cached : CachedRaster}
    (live : start.objects.cachedRaster? handle = some cached) :
    Ends (Engine.cachedAt handle) start (fun found final => found = cached ∧ final = start)
      failed := by
  refine .read ?_
  rw [live]
  exact ⟨rfl, rfl⟩

omit held in
/-- A pointer that leads to a surface is resolved. -/
theorem ends_resolveSurface_live {this : Nat} {handle : Handle}
    (leads : start.surfaceFor? this = some handle) (entry : String) :
    Ends (Engine.resolveSurface entry this) start
      (fun found final => found = handle ∧ final = start) failed := by
  refine .read ?_
  rw [leads]
  exact ⟨rfl, rfl⟩

omit held in
/-- Changing a live surface succeeds. -/
theorem ends_updateSurface_live {handle : Handle} {surface : Surface}
    (live : start.objects.surface? handle = some surface) (change : Surface → Surface) :
    Ends (Engine.updateSurface handle change) start
      (fun _ final => final = { start with
        objects := start.objects.setPayload handle (.surface (change surface)) }) failed := by
  refine (ends_surfaceAt_live live).bind ?_
  rintro _ _ ⟨rfl, rfl⟩
  exact rfl

omit held in
theorem ends_onObjects_of_ok {change : ObjectTable → Except ObjectError (α × ObjectTable)}
    {value : α} {objects : ObjectTable} (changed : change start.objects = .ok (value, objects)) :
    Ends (Engine.onObjects change) start
      (fun given final => given = value ∧ final = { start with objects := objects }) failed := by
  unfold Ends Engine.onObjects
  rw [changed]
  exact ⟨rfl, rfl⟩

omit held in
theorem ends_onObjects_of_error {change : ObjectTable → Except ObjectError (α × ObjectTable)}
    {cause : ObjectError} {done : α → Session → Prop} (refused : change start.objects = .error cause) :
    Ends (Engine.onObjects change) start done fun final => final = start := by
  unfold Ends Engine.onObjects
  rw [refused]

omit held in
/-- Closing a live object succeeds. -/
theorem ends_close_live {handle : Handle} (live : (start.objects.find? handle).isSome) :
    Ends (Engine.close handle) start
      (fun _ final => final = { start with objects := .drain [.close handle] start.objects })
      failed := by
  obtain ⟨object, found⟩ := Option.isSome_iff_exists.mp live
  have closed : (start.objects.close handle).map ((), ·) =
      .ok ((), .drain [.close handle] start.objects) := by
    simp only [ObjectTable.close, found, Except.map]
  exact (ends_onObjects_of_ok closed).weaken fun _ _ ends => ends.2

end Steps

end GuestDraw
