/-
**The mappings of the aperture.**

Mappings lie one behind the other, each on whole pages, and only giving back the last one moves the
end back. So a hole is not used again before everything behind it is given back, and what is mapped
later never overlaps what is still mapped. `Aperture.attach` and `Aperture.detach` run step by step
on an aperture that changes while they run: a mapping is recorded over one at the same place, and
struck off before it is known whether there was one. They come to the same as `map` and `unmap`
(`attach_eq`, `detach_eq`), because nothing is ever mapped where the next mapping starts.

* `Aperture.Sound`: where live mappings lie, and `Sound.serve`: each request keeps it;
* `Aperture.Nested`: requests that give back the newest mapping first, and `Nested.detachAll_eq`:
  what is left to give back restores the aperture;
* `Aperture.Paged`, `aperture_paged`: all of it after any run of requests.
-/

import GuestDraw.Proofs.Memory.Allocation

namespace GuestDraw

/-- A request to the aperture. -/
inductive PageRequest where
  | map (size : Nat)
  | unmap (address : Nat)

namespace Aperture

/-! ### One request -/

/-- Strikes off what is mapped at `address`. -/
def strike (aperture : Aperture) (address : Nat) : Aperture :=
  { aperture with mappings := aperture.mappings.filter (·.1 ≠ address) }

/-- Records a mapping, in place of one at the same address. -/
def record (aperture : Aperture) (address length : Nat) : Aperture :=
  { aperture with mappings := (address, length) :: (aperture.strike address).mappings }

/-- Moves the end back to where a mapping starts, if that was the last one. -/
def retract (aperture : Aperture) (address length : Nat) : Aperture :=
  if address + length = aperture.next then { aperture with next := address } else aperture

/-- Maps at least `size` bytes: room is looked for, the end moves, and the mapping is recorded. -/
def attach (size : Nat) : EStateM MemoryError Aperture Nat := do
  let aperture ← get
  let some stop := blockEnd? aperture.next size page aperture.limit
    | throw (.exhausted region size (aperture.limit - aperture.next))
  modify fun aperture => { aperture with next := stop }
  modify (·.record aperture.next (stop - aperture.next))
  return aperture.next

/-- Gives back the mapping at `address`: it is struck off, and the end moves back if it was the last
one. -/
def detach (address : Nat) : EStateM MemoryError Aperture Unit := do
  let length? := (← get).length? address
  modify (·.strike address)
  let some length := length? | throw (.unknownAllocation region address)
  modify (·.retract address length)

/-- Gives back one mapping after the other. -/
def detachAll (addresses : List Nat) : EStateM MemoryError Aperture Unit := addresses.forM detach

/-- The aperture with the live mappings that were asked for, each with its address and the size that
was asked for, the newest first. -/
structure Ledger where
  aperture : Aperture
  asked : List (Nat × Nat)

/-- A request is met, or refused. -/
def Ledger.serve (ledger : Ledger) : PageRequest → Ledger
  | .map size =>
    match attach size ledger.aperture with
    | .ok address left => ⟨left, (address, size) :: ledger.asked⟩
    | .error _ left => ⟨left, ledger.asked⟩
  | .unmap address =>
    match detach address ledger.aperture with
    | .ok _ left => ⟨left, ledger.asked.filter (·.1 ≠ address)⟩
    | .error _ left => ⟨left, ledger.asked⟩

/-! ### Where mappings lie -/

/-- The mappings of an aperture over the `size` bytes from `base` on lie in a row, the newest first,
below the end. -/
structure Sound (base size : Nat) (aperture : Aperture) : Prop where
  limit_eq : aperture.limit = rangeLimit base size
  base_le : base ≤ aperture.next
  next_le : aperture.next ≤ aperture.limit
  aligned : aperture.next = base ∨ page ∣ aperture.next
  ordered : aperture.mappings.Pairwise fun newer older => older.1 + older.2 ≤ newer.1
  each : ∀ mapping ∈ aperture.mappings, base ≤ mapping.1 ∧ 0 < mapping.2 ∧
    mapping.1 + mapping.2 ≤ aperture.next ∧ (mapping.1 = base ∨ page ∣ mapping.1)

variable {base size : Nat} {aperture left start middle final : Aperture} {address length : Nat}

theorem filter_eq_self_of_free (free : ∀ mapping ∈ aperture.mappings, mapping.1 ≠ address) :
    aperture.mappings.filter (·.1 ≠ address) = aperture.mappings :=
  List.filter_eq_self.mpr fun mapping member => decide_eq_true (free mapping member)

/-- Nothing is found where nothing starts. -/
theorem length?_eq_none_iff :
    aperture.length? address = none ↔ ∀ mapping ∈ aperture.mappings, mapping.1 ≠ address := by
  unfold length?
  rw [List.lookup_eq_none_iff]
  simp only [bne_iff_ne, ne_comm]

theorem mem_of_length? (found : aperture.length? address = some length) :
    (address, length) ∈ aperture.mappings := by
  obtain ⟨before, after, parts, -⟩ := List.lookup_eq_some_iff.mp found
  rw [parts]
  exact List.mem_append_right _ (List.mem_cons_self ..)

/-- Giving back step by step is `unmap`, and a failure leaves the aperture as it was. -/
theorem detach_eq (aperture : Aperture) (address : Nat) :
    detach address aperture = match aperture.unmap address with
      | .ok left => .ok () left
      | .error cause => .error cause aperture := by
  unfold detach unmap
  simp only [bind, EStateM.bind, get, getThe, MonadStateOf.get]
  delta EStateM.get
  dsimp only
  cases found : aperture.length? address with
  | none =>
    show EStateM.Result.error _ (aperture.strike address) = _
    rw [strike, filter_eq_self_of_free (length?_eq_none_iff.mp found)]
  | some length =>
    show EStateM.Result.ok () ((aperture.strike address).retract address length) = _
    unfold retract strike
    dsimp only
    split <;> rfl

namespace Sound

/-- Nothing is mapped where the next mapping starts. -/
theorem next_free (sound : Sound base size aperture) :
    ∀ mapping ∈ aperture.mappings, mapping.1 ≠ aperture.next := by
  intro mapping member same
  obtain ⟨-, positive, below, -⟩ := sound.each mapping member
  omega

/-- Mapping step by step is `map`, and a failure leaves the aperture as it was. -/
theorem attach_eq (sound : Sound base size aperture) (wanted : Nat) :
    attach wanted aperture = match aperture.map wanted with
      | .ok (address, left) => .ok address left
      | .error cause => .error cause aperture := by
  unfold attach map
  simp only [bind, EStateM.bind, get, getThe, MonadStateOf.get]
  delta EStateM.get
  dsimp only
  cases ends : blockEnd? aperture.next wanted page aperture.limit with
  | none => rfl
  | some stop =>
    show EStateM.Result.ok _ (record _ _ _) = _
    rw [record, strike, filter_eq_self_of_free sound.next_free]

/-- What a request for a mapping does. -/
theorem map (sound : Sound base size aperture) {wanted : Nat}
    (mapped : aperture.map wanted = .ok (address, left)) :
    Sound base size left ∧ ∃ length, max wanted 1 ≤ length ∧ address = aperture.next ∧
      left = { aperture with
        next := address + length
        mappings := (address, length) :: aperture.mappings } := by
  obtain ⟨stop, ends, rfl, rfl⟩ := map_eq_ok mapped
  obtain ⟨fits, grows, within, -⟩ := blockEnd?_eq_some (by decide) ends
  have above := sound.base_le
  have whole : aperture.next + (stop - aperture.next) = stop := by omega
  refine ⟨⟨sound.limit_eq, above.trans grows.le, within, .inr (dvd_blockEnd? ends), ?_, ?_⟩,
    stop - aperture.next, by omega, rfl, by rw [whole]⟩
  · exact .cons (fun older member => (sound.each older member).2.2.1) sound.ordered
  · intro mapping member
    obtain rfl | member := List.mem_cons.mp member
    · exact ⟨above, by omega, whole.le, sound.aligned⟩
    · obtain ⟨low, positive, below, aligned⟩ := sound.each mapping member
      exact ⟨low, positive, below.trans grows.le, aligned⟩

/-- What giving back a mapping does. -/
theorem unmap (sound : Sound base size aperture) (unmapped : aperture.unmap address = .ok left) :
    Sound base size left ∧ left.mappings = aperture.mappings.filter (·.1 ≠ address) := by
  unfold Aperture.unmap at unmapped
  cases found : aperture.length? address with
  | none =>
    rw [found] at unmapped
    cases unmapped
  | some length =>
    rw [found] at unmapped
    cases unmapped
    obtain ⟨before, after, parts, -⟩ := List.lookup_eq_some_iff.mp found
    obtain ⟨low, positive, below, aligned⟩ := sound.each _ (mem_of_length? found)
    have ordered := sound.ordered
    rw [parts, List.pairwise_append] at ordered
    obtain ⟨-, ordered, newer⟩ := ordered
    -- What else is mapped ends before the end, also when the end moves back.
    have ends : ∀ mapping ∈ aperture.mappings, mapping.1 ≠ address → mapping.1 + mapping.2 ≤
        if address + length = aperture.next then address else aperture.next := by
      intro mapping member other
      obtain ⟨-, positive, below, -⟩ := sound.each mapping member
      split
      · next last =>
        rw [parts, List.mem_append, List.mem_cons] at member
        obtain member | rfl | member := member
        · have beyond := newer mapping member _ (List.mem_cons_self ..)
          dsimp only at beyond
          omega
        · exact absurd rfl other
        · exact List.rel_of_pairwise_cons ordered member
      · exact below
    refine ⟨⟨sound.limit_eq, ?_, ?_, ?_, sound.ordered.filter _, fun mapping member => ?_⟩, rfl⟩
    · dsimp only
      split
      · exact low
      · exact sound.base_le
    · have within := sound.next_le
      dsimp only at below ⊢
      split <;> omega
    · dsimp only
      split
      · exact aligned
      · exact sound.aligned
    · rw [List.mem_filter, decide_eq_true_eq] at member
      obtain ⟨low, positive, -, aligned⟩ := sound.each mapping member.1
      exact ⟨low, positive, ends mapping member.1 member.2, aligned⟩

/-- Giving back at once what was just mapped restores the aperture. -/
theorem unmap_map (sound : Sound base size aperture) {wanted : Nat}
    (mapped : aperture.map wanted = .ok (address, left)) : left.unmap address = .ok aperture := by
  obtain ⟨-, length, -, rfl, rfl⟩ := sound.map mapped
  unfold Aperture.unmap Aperture.length?
  rw [List.lookup_cons_self]
  dsimp only
  rw [if_pos rfl, List.filter_cons_of_neg (by simp), filter_eq_self_of_free sound.next_free]

/-- Giving back step by step at once what was just mapped step by step restores the aperture. -/
theorem detach_attach (sound : Sound base size aperture) {wanted : Nat}
    (mapped : attach wanted aperture = .ok address left) : detach address left = .ok () aperture := by
  rw [sound.attach_eq] at mapped
  split at mapped
  · next taken =>
    cases mapped
    rw [detach_eq, sound.unmap_map taken]
  · cases mapped

/-- A mapping that is granted leaves the aperture in order. -/
theorem attach (sound : Sound base size aperture) {wanted : Nat}
    (mapped : attach wanted aperture = .ok address left) :
    Sound base size left ∧ ∃ length, max wanted 1 ≤ length ∧
      left.mappings = (address, length) :: aperture.mappings := by
  rw [sound.attach_eq] at mapped
  split at mapped
  · next taken =>
    cases mapped
    obtain ⟨kept, length, covers, rfl, rfl⟩ := sound.map taken
    exact ⟨kept, length, covers, rfl⟩
  · cases mapped

/-- A mapping that is refused leaves the aperture as it was. -/
theorem attach_refused (sound : Sound base size aperture) {wanted : Nat} {cause : MemoryError}
    (refused : Aperture.attach wanted aperture = .error cause left) : left = aperture := by
  rw [sound.attach_eq] at refused
  split at refused <;> cases refused
  rfl

/-- A mapping that is given back leaves the aperture in order. -/
theorem detach (sound : Sound base size aperture) (unmapped : detach address aperture = .ok () left) :
    Sound base size left ∧ left.mappings = aperture.mappings.filter (·.1 ≠ address) := by
  rw [detach_eq] at unmapped
  split at unmapped
  · next given =>
    cases unmapped
    exact sound.unmap given
  · cases unmapped

end Sound

/-- What is not mapped cannot be given back, and nothing changes. -/
theorem detach_refused {cause : MemoryError} (refused : detach address aperture = .error cause left) :
    left = aperture := by
  rw [detach_eq] at refused
  split at refused <;> cases refused
  rfl

/-- Exactly what is mapped can be given back. -/
theorem detach_ok_iff :
    (∃ left, detach address aperture = .ok () left) ↔ address ∈ aperture.mappings.map Prod.fst := by
  rw [detach_eq, Aperture.unmap]
  cases found : aperture.length? address with
  | none =>
    refine iff_of_false nofun fun listed => ?_
    obtain ⟨mapping, member, same⟩ := List.mem_map.mp listed
    exact length?_eq_none_iff.mp found mapping member same
  | some length => exact iff_of_true ⟨_, rfl⟩ (List.mem_map_of_mem (mem_of_length? found))

/-! ### Nested requests -/

/-- From `start` to `final` there were requests, each of which that was met mapped something or gave
back the newest of what was mapped since `start`; `fresh` is what of it is still mapped, the newest
first. -/
inductive Nested (start : Aperture) : List Nat → Aperture → Prop
  | refl : Nested start [] start
  | mapped {fresh : List Nat} {middle final : Aperture} {wanted address : Nat}
    (nested : Nested start fresh middle) (done : attach wanted middle = .ok address final) :
    Nested start (address :: fresh) final
  | unmapped {fresh : List Nat} {middle final : Aperture} {address : Nat}
    (nested : Nested start (address :: fresh) middle) (done : detach address middle = .ok () final) :
    Nested start fresh final
  | unmet {fresh : List Nat} {middle final : Aperture} {wanted : Nat} {cause : MemoryError}
    (nested : Nested start fresh middle) (refused : attach wanted middle = .error cause final) :
    Nested start fresh final
  | unknown {fresh : List Nat} {middle final : Aperture} {address : Nat} {cause : MemoryError}
    (nested : Nested start fresh middle) (refused : detach address middle = .error cause final) :
    Nested start fresh final

theorem detachAll_cons (addresses : List Nat) :
    detachAll (address :: addresses) = detach address >>= fun _ => detachAll addresses := rfl

/-- Giving back what is left, the newest first, restores the aperture. -/
theorem Nested.detachAll_eq (sound : Sound base size start) {fresh : List Nat}
    (nested : Nested start fresh final) :
    Sound base size final ∧ detachAll fresh final = .ok () start := by
  induction nested with
  | refl => exact ⟨sound, rfl⟩
  | mapped _ done ih =>
    refine ⟨(ih.1.attach done).1, ?_⟩
    rw [detachAll_cons]
    simp only [bind, EStateM.bind, ih.1.detach_attach done]
    exact ih.2
  | unmapped _ done ih =>
    refine ⟨(ih.1.detach done).1, ?_⟩
    have restored := ih.2
    rw [detachAll_cons] at restored
    simp only [bind, EStateM.bind, done] at restored
    exact restored
  | unmet _ refused ih => rwa [ih.1.attach_refused refused]
  | unknown _ refused ih => rwa [detach_refused refused]

/-! ### Runs -/

/-- A mapping covers what was asked for. -/
def Covers (mapping asked : Nat × Nat) : Prop :=
  mapping.1 = asked.1 ∧ max asked.2 1 ≤ mapping.2

namespace Ledger

/-- Each request keeps mappings in their row, and each of them covers what was asked for. -/
theorem serve_sound {ledger : Ledger} (sound : Sound base size ledger.aperture)
    (covers : List.Forall₂ Covers ledger.aperture.mappings ledger.asked) (request : PageRequest) :
    Sound base size (ledger.serve request).aperture ∧
      List.Forall₂ Covers (ledger.serve request).aperture.mappings (ledger.serve request).asked := by
  cases request with
  | map wanted =>
    unfold serve
    dsimp only
    split
    · next done =>
      obtain ⟨kept, length, enough, recorded⟩ := sound.attach done
      refine ⟨kept, ?_⟩
      rw [recorded]
      exact .cons ⟨rfl, enough⟩ covers
    · next refused =>
      rw [sound.attach_refused refused]
      exact ⟨sound, covers⟩
  | unmap address =>
    unfold serve
    dsimp only
    split
    · next done =>
      obtain ⟨kept, struck⟩ := sound.detach done
      refine ⟨kept, ?_⟩
      rw [struck]
      refine List.rel_filter (fun mapping asked covers => ?_) covers
      simp only [covers.1]
    · next refused =>
      rw [detach_refused refused]
      exact ⟨sound, covers⟩

end Ledger

/-- What a run of requests has left of an aperture over the `size` bytes from `base` on. -/
structure Paged (base size : Nat) (aperture : Aperture) (asked : List (Nat × Nat)) : Prop where
  /-- The live mappings, each with at least the bytes that it was asked for. -/
  covers : List.Forall₂ Covers aperture.mappings asked
  /-- Every mapping starts behind the end of the older ones. -/
  ordered : aperture.mappings.Pairwise fun newer older => older.1 + older.2 ≤ newer.1
  within : ∀ mapping ∈ aperture.mappings, base ≤ mapping.1 ∧
    mapping.1 + mapping.2 ≤ base + size ∧ mapping.1 + mapping.2 < addressSpace
  aligned : ∀ mapping ∈ aperture.mappings, mapping.1 = base ∨ 4096 ∣ mapping.1
  /-- The free space starts behind all mappings, and it is a difference that does not fall below
  zero. -/
  free : (∀ mapping ∈ aperture.mappings, mapping.1 + mapping.2 ≤ aperture.next) ∧
    aperture.limit = rangeLimit base size ∧ base ≤ aperture.next ∧ aperture.next ≤ aperture.limit
  /-- `attach` and `detach` are `map` and `unmap` with the state that they leave. -/
  maps : ∀ wanted, attach wanted aperture = match aperture.map wanted with
    | .ok (address, left) => .ok address left
    | .error cause => .error cause aperture
  unmaps : ∀ address, detach address aperture = match aperture.unmap address with
    | .ok left => .ok () left
    | .error cause => .error cause aperture
  /-- Exactly the live mappings can be given back. -/
  unmappable : ∀ address, (∃ left, detach address aperture = .ok () left) ↔
    ∃ wanted, (address, wanted) ∈ asked
  /-- A request that is refused changes nothing. -/
  unmet : ∀ wanted cause left, attach wanted aperture = .error cause left → left = aperture
  unknown : ∀ address cause left, detach address aperture = .error cause left → left = aperture
  /-- What is mapped from here on, the newest given back first, leaves no trace. -/
  restored : ∀ fresh final, Nested aperture fresh final → detachAll fresh final = .ok () aperture

theorem Sound.paged {asked : List (Nat × Nat)} (sound : Sound base size aperture)
    (covers : List.Forall₂ Covers aperture.mappings asked) : Paged base size aperture asked where
  covers := covers
  ordered := sound.ordered
  within mapping member := by
    obtain ⟨low, -, below, -⟩ := sound.each mapping member
    have limit := below.trans (sound.next_le.trans sound.limit_eq.le)
    obtain ⟨inside, narrow⟩ := Nat.le_min.mp limit
    exact ⟨low, inside, Nat.lt_of_le_of_lt narrow (by decide)⟩
  aligned mapping member := (sound.each mapping member).2.2.2
  free := ⟨fun mapping member => (sound.each mapping member).2.2.1, sound.limit_eq, sound.base_le,
    sound.next_le⟩
  maps := sound.attach_eq
  unmaps := detach_eq aperture
  unmappable address := by
    have same : aperture.mappings.map Prod.fst = asked.map Prod.fst := by
      rw [← List.forall₂_eq_eq_eq, List.forall₂_map_left_iff, List.forall₂_map_right_iff]
      exact covers.imp fun _ _ covers => covers.1
    rw [detach_ok_iff, same, List.mem_map]
    constructor
    · rintro ⟨⟨_, wanted⟩, member, rfl⟩
      exact ⟨wanted, member⟩
    · rintro ⟨wanted, member⟩
      exact ⟨_, member, rfl⟩
  unmet _ _ _ := sound.attach_refused
  unknown _ _ _ := detach_refused
  restored _ _ nested := (nested.detachAll_eq sound).2

theorem sound_ofRange (base size : UInt32) :
    Sound base.toNat size.toNat (.ofRange base.toNat size.toNat) := by
  have narrow := base.toNat_lt
  refine ⟨rfl, Nat.le_refl _, Nat.le_min.mpr ⟨Nat.le_add_right _ _, ?_⟩, .inl rfl, .nil, nofun⟩
  show base.toNat ≤ 0x100000000 - 1
  omega

end Aperture

/-- **Mappings lie one behind the other in the aperture**, each on pages of its own, after any run
of requests. Exactly what is mapped can be given back, what fails changes nothing, and giving back
the newest first restores the aperture with all its free space. -/
theorem aperture_paged (base size : UInt32) (requests : List PageRequest) :
    let ledger := requests.foldl Aperture.Ledger.serve ⟨.ofRange base.toNat size.toNat, []⟩
    Aperture.Paged base.toNat size.toNat ledger.aperture ledger.asked := by
  suffices kept : ∀ ledger : Aperture.Ledger,
      Aperture.Sound base.toNat size.toNat ledger.aperture →
      List.Forall₂ Aperture.Covers ledger.aperture.mappings ledger.asked →
      Aperture.Paged base.toNat size.toNat (requests.foldl Aperture.Ledger.serve ledger).aperture
        (requests.foldl Aperture.Ledger.serve ledger).asked from
    kept ⟨.ofRange base.toNat size.toNat, []⟩ (Aperture.sound_ofRange base size) .nil
  induction requests with
  | nil => exact fun _ sound covers => sound.paged covers
  | cons request rest ih =>
    intro ledger sound covers
    obtain ⟨sound, covers⟩ := ledger.serve_sound sound covers request
    exact ih _ sound covers

-- The hole that the first mapping leaves is not used again, the space of the last one is.
example : (([.map 100, .map 5000, .map 0, .unmap 0x2005, .unmap 5, .unmap 0x3000, .map 1] :
    List PageRequest).foldl Aperture.Ledger.serve ⟨.ofRange 5 0x10000, []⟩).asked =
      [(0x3000, 1), (0x1000, 5000)] := by
  decide +kernel

end GuestDraw
