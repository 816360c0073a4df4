/-
**Where references come from.**

The objects with a block in guest memory are those that the guest refers to. Each reference to such
an object is held by the guest, under the address of the block, or by another object, which gives it
back when it is closed. `Balanced` says that the count of every object with a block is the sum of
the two.

* `Balanced.setPayload`: a reference that an object takes or gives back is one that the guest has
  less or more;
* `Balanced.create`, `Balanced.createPlain`, `Balanced.addReference`, `Balanced.recount`: the other
  changes;
* `Balanced.drain`: whatever a teardown takes with it, the counts of the others stay balanced.
-/

import GuestDraw.Proofs.Objects.Payloads

namespace GuestDraw

/-- The address of the block of an object, which is the interface pointer to it. -/
def Payload.block? : Payload → Option Nat
  | surface content => some content.object
  | palette content => some content.object
  | _ => none

/-- Only surfaces and palettes have blocks. -/
theorem Payload.of_block? {payload : Payload} {pointer : Nat} (has : payload.block? = some pointer) :
    (∃ content, payload = .surface content) ∨ ∃ content, payload = .palette content := by
  cases payload with
  | surface content => exact .inl ⟨content, rfl⟩
  | palette content => exact .inr ⟨content, rfl⟩
  | _ => cases has

namespace ObjectTable

variable {table after : ObjectTable} {handle : Handle} {held held' : Nat → Nat} {limit : Nat}

/-- The address of the block of a live object that has one. -/
def block? (table : ObjectTable) (handle : Handle) : Option Nat :=
  (table.payload? handle).bind Payload.block?

theorem block?_of_surface? {surface : Surface} (live : table.surface? handle = some surface) :
    table.block? handle = some surface.object := by
  rw [block?, surface?_eq_some_iff.mp live]
  rfl

theorem block?_of_palette? {palette : Palette} (live : table.palette? handle = some palette) :
    table.block? handle = some palette.object := by
  rw [block?, palette?_eq_some_iff.mp live]
  rfl

theorem block?_of_payload?_eq (same : after.payload? = table.payload?) :
    after.block? = table.block? := by
  funext other
  rw [block?, same]
  rfl

theorem block?_setPayload {old new : Payload} (live : table.payload? handle = some old)
    (block : new.block? = old.block?) : (table.setPayload handle new).block? = table.block? := by
  funext other
  rw [block?, payload?_setPayload live, Function.update_apply]
  split
  · next same => rw [block?, same, live, Option.bind_some, Option.bind_some, block]
  · rfl

/-- The references to `target` that objects hold. -/
def referrers (table : ObjectTable) (target : Handle) : Nat :=
  table.total fun object => object.payload.teardown.count (.release target)

/-- The references to all objects with a block are accounted for, with those that are `held`
outside. -/
structure Balanced (held : Nat → Nat) (limit : Nat) (table : ObjectTable) : Prop where
  counted : ∀ handle object pointer, table.find? handle = some object →
    table.block? handle = some pointer → object.references = held pointer + table.referrers handle
  /-- What an object refers to is alive and has a block. -/
  alive : ∀ owner payload target, table.payload? owner = some payload →
    .release target ∈ payload.teardown → (table.block? target).isSome
  /-- What belongs to an object has no block. -/
  plain : ∀ owner payload target, table.payload? owner = some payload →
    .close target ∈ payload.teardown → table.block? target = none
  known : ∀ pointer, 0 < held pointer → ∃ handle, table.block? handle = some pointer
  placed : ∀ handle pointer, table.block? handle = some pointer → pointer < limit
  apart : ∀ first second pointer, table.block? first = some pointer →
    table.block? second = some pointer → first = second

/-- A reference to an object is a step in the teardown of another one. -/
theorem referrers_eq_zero_iff (wf : table.WellFormed) {target : Handle} :
    table.referrers target = 0 ↔ ∀ owner payload, table.payload? owner = some payload →
      .release target ∉ payload.teardown := by
  rw [referrers, total_eq_zero_iff]
  simp only [List.count_eq_zero]
  constructor
  · intro none owner payload found
    obtain ⟨object, member, rfl, rfl⟩ := exists_of_payload? found
    exact none object member
  · intro none object member
    exact none object.handle _ (payload?_of_mem wf.distinct member)

/-- A change that keeps the content of objects keeps the references between them. -/
theorem referrers_update (handle : Handle) (change : Object → Object)
    (keepsPayload : ∀ object, (change object).payload = object.payload) (target : Handle) :
    (table.update handle change).referrers target = table.referrers target := by
  unfold referrers total ObjectTable.update
  rw [List.map_map]
  refine congrArg List.sum (List.map_congr_left fun object _ => ?_)
  rw [Function.comp_apply]
  split
  · rw [keepsPayload]
  · rfl

/-- An object trades the references that it held for those that it holds now. -/
theorem referrers_setPayload (wf : table.WellFormed) {old : Payload}
    (live : table.payload? handle = some old) (new : Payload) (target : Handle) :
    (table.setPayload handle new).referrers target + old.teardown.count (.release target) =
      table.referrers target + new.teardown.count (.release target) := by
  obtain ⟨object, member, rfl, rfl⟩ := exists_of_payload? live
  exact total_update wf.distinct (fun object => object.payload.teardown.count (.release target))
    (fun object => { object with payload := new }) member

theorem referrers_create {payload : Payload} (made : table.create payload = .ok (handle, after))
    (target : Handle) :
    after.referrers target = table.referrers target + payload.teardown.count (.release target) := by
  obtain ⟨_, rfl, rfl⟩ := insert_eq_ok_iff.mp made
  simp only [referrers, total, List.map_append, List.map_cons, List.map_nil, List.sum_append,
    List.sum_cons, List.sum_nil, Nat.add_zero]

theorem find?_create {payload : Payload} (numbered : table.Numbered 0)
    (made : table.create payload = .ok (handle, after)) (other : Handle) :
    after.find? other =
      if other = handle then some ⟨handle, none, 1, payload⟩ else table.find? other := by
  obtain ⟨_, rfl, rfl⟩ := insert_eq_ok_iff.mp made
  rw [find?_append]
  by_cases same : other = ⟨table.next⟩
  · rw [if_pos same.symm, if_pos same, same, numbered.find?_next, Option.none_or]
  · rw [if_neg fun equal => same equal.symm, if_neg same, Option.or_none]

namespace Balanced

/-- A ledger that differs nowhere that matters. -/
theorem raise (balanced : table.Balanced held limit) {higher : Nat} (above : limit ≤ higher) :
    table.Balanced held higher :=
  { balanced with
    placed := fun handle pointer has =>
      Nat.lt_of_lt_of_le (balanced.placed handle pointer has) above }

/-- An object changes what it refers to: what it takes is held less outside, what it gives back
more. -/
theorem setPayload (balanced : table.Balanced held limit) (wf : table.WellFormed)
    {old new : Payload} (live : table.payload? handle = some old) (block : new.block? = old.block?)
    (released : ∀ target, .release target ∈ new.teardown → (table.block? target).isSome)
    (closed : ∀ target, .close target ∈ new.teardown → table.block? target = none)
    (exchange : ∀ other pointer, table.block? other = some pointer →
      held pointer + old.teardown.count (.release other) =
        held' pointer + new.teardown.count (.release other))
    (known : ∀ pointer, 0 < held' pointer → ∃ handle, table.block? handle = some pointer) :
    (table.setPayload handle new).Balanced held' limit := by
  have graph := payload?_setPayload live new
  have blocks := block?_setPayload live block
  refine ⟨fun other object pointer found has => ?_, fun owner payload target found => ?_,
    fun owner payload target found => ?_, fun pointer has => ?_, ?_, ?_⟩
  · rw [blocks] at has
    obtain ⟨before, was, references⟩ : ∃ before, table.find? other = some before ∧
        object.references = before.references := by
      rw [find?_setPayload] at found
      split at found
      · obtain ⟨before, was, rfl⟩ := Option.map_eq_some_iff.mp found
        exact ⟨before, was, rfl⟩
      · exact ⟨object, found, rfl⟩
    have count := balanced.counted other before pointer was has
    have change := referrers_setPayload wf live new other
    have pays := exchange other pointer has
    omega
  · rw [blocks]
    rw [graph, Function.update_apply] at found
    split at found
    · cases found
      exact released target
    · exact balanced.alive owner payload target found
  · rw [blocks]
    rw [graph, Function.update_apply] at found
    split at found
    · cases found
      exact closed target
    · exact balanced.plain owner payload target found
  · rw [blocks]
    exact known pointer has
  · rw [blocks]
    exact balanced.placed
  · rw [blocks]
    exact balanced.apart

/-- A change of an object that has no part in the references between objects with a block. -/
theorem setPlain (balanced : table.Balanced held limit) (wf : table.WellFormed)
    {old new : Payload} (live : table.payload? handle = some old) (block : new.block? = old.block?)
    (releases : ∀ target, new.teardown.count (.release target) = old.teardown.count (.release target))
    (closed : ∀ target, .close target ∈ new.teardown → table.block? target = none) :
    (table.setPayload handle new).Balanced held limit := by
  refine balanced.setPayload wf live block (fun target step => ?_) closed (fun other _ _ => ?_)
    balanced.known
  · refine balanced.alive handle old target live ?_
    rw [← List.count_pos_iff, ← releases]
    exact List.count_pos_iff.mpr step
  · rw [releases]

/-! ### Counts -/

/-- A new count for one object, which is balanced by what is held outside. -/
theorem recount (balanced : table.Balanced held limit) {count : Nat}
    (exact : ∀ pointer, table.block? handle = some pointer →
      count = held' pointer + table.referrers handle)
    (others : ∀ other pointer, other ≠ handle → table.block? other = some pointer →
      held' pointer = held pointer)
    (known : ∀ pointer, 0 < held' pointer → ∃ handle, table.block? handle = some pointer) :
    (table.update handle fun object => { object with references := count }).Balanced held' limit := by
  have kept : ∀ object : Object,
      ({ object with references := count } : Object).handle = object.handle := fun _ => rfl
  have graph : (table.update handle fun object => { object with references := count }).payload? =
      table.payload? := payload?_recount count
  have blocks := block?_of_payload?_eq graph
  have referring : ∀ target, (table.update handle fun object =>
      { object with references := count }).referrers target = table.referrers target :=
    referrers_update handle _ fun _ => rfl
  refine ⟨fun other object pointer found has => ?_, ?_, ?_, ?_, ?_, ?_⟩
  · rw [blocks] at has
    rw [referring]
    rw [find?_update kept] at found
    split at found
    · next same =>
      subst same
      obtain ⟨before, was, rfl⟩ := Option.map_eq_some_iff.mp found
      exact exact pointer has
    · next different =>
      rw [others other pointer different has]
      exact balanced.counted other object pointer found has
  all_goals rw [blocks]
  · rw [graph]
    exact balanced.alive
  · rw [graph]
    exact balanced.plain
  · exact known
  · exact balanced.placed
  · exact balanced.apart

/-- Counts of objects without a block are not accounted for. -/
theorem recountPlain (balanced : table.Balanced held limit) (plain : table.block? handle = none)
    (count : Nat) :
    (table.update handle fun object => { object with references := count }).Balanced held limit :=
  balanced.recount (fun pointer has => by rw [plain] at has; cases has) (fun _ _ _ _ => rfl)
    balanced.known

/-- One more reference is held outside. -/
theorem addReference (balanced : table.Balanced held limit) {count pointer : Nat}
    (has : table.block? handle = some pointer)
    (counted : table.addReference handle = .ok (count, after))
    (room : ∀ object ∈ table.objects, object.references < UInt32.size - 1) :
    after.Balanced (Function.update held pointer (held pointer + 1)) limit := by
  obtain ⟨object, found, rfl, rfl⟩ := addReference_eq_ok_iff.mp counted
  have exact := balanced.counted handle object pointer found has
  have below := room object (mem_of_find? found)
  refine balanced.recount (fun place same => ?_) (fun other place different same => ?_)
    fun place positive => ?_
  · cases has.symm.trans same
    rw [Function.update_self, Nat.min_eq_left (by omega)]
    omega
  · refine Function.update_of_ne (fun equal => different ?_) _ _
    exact balanced.apart other handle place same (equal ▸ has)
  · by_cases equal : place = pointer
    · exact ⟨handle, equal ▸ has⟩
    · rw [Function.update_of_ne equal] at positive
      exact balanced.known place positive

/-! ### New objects -/

/-- A new object with a block above all others, the only reference to which is held outside. -/
theorem create (balanced : table.Balanced held limit) (wf : table.WellFormed)
    (numbered : table.Numbered 0)
    {payload : Payload} {pointer higher : Nat} (made : table.create payload = .ok (handle, after))
    (block : payload.block? = some pointer) (fresh : limit ≤ pointer) (below : pointer < higher)
    (released : ∀ target, .release target ∈ payload.teardown → (table.block? target).isSome)
    (closed : ∀ target, .close target ∉ payload.teardown)
    (unowned : ∀ owner content, table.payload? owner = some content →
      .close handle ∉ content.teardown)
    (exchange : ∀ other place, table.block? other = some place →
      held place = held' place + payload.teardown.count (.release other))
    (one : held' pointer = 1)
    (known : ∀ place, place ≠ pointer → 0 < held' place → 0 < held place) :
    after.Balanced held' higher := by
  have graph := payload?_create numbered made
  have dead : table.block? handle = none := by
    obtain ⟨_, rfl, _⟩ := insert_eq_ok_iff.mp made
    rw [ObjectTable.block?, ObjectTable.payload?, numbered.find?_next]
    rfl
  have blocks : after.block? = Function.update table.block? handle (some pointer) := by
    funext other
    rw [ObjectTable.block?, graph, Function.update_apply, Function.update_apply]
    split
    · exact block
    · rfl
  have stays : ∀ {other place}, table.block? other = some place →
      after.block? other = some place := by
    intro other place has
    rw [blocks, Function.update_of_ne, has]
    rintro rfl
    rw [dead] at has
    cases has
  have alone : after.referrers handle = 0 := by
    rw [referrers_create made, Nat.add_eq_zero_iff]
    refine ⟨(referrers_eq_zero_iff wf).mpr fun owner content found step => ?_,
      List.count_eq_zero.mpr fun step => ?_⟩
    · have live := balanced.alive owner content handle found step
      rw [dead] at live
      cases live
    · have live := released handle step
      rw [dead] at live
      cases live
  refine ⟨fun other object place found has => ?_, fun owner content target found step => ?_,
    fun owner content target found step => ?_, fun place positive => ?_,
    fun other place has => ?_, fun first second place has again => ?_⟩
  · rw [find?_create numbered made] at found
    rw [blocks, Function.update_apply] at has
    split at found
    · next same =>
      cases found
      rw [if_pos same] at has
      cases has
      rw [same, alone, one]
    · next different =>
      rw [if_neg different] at has
      have count := balanced.counted other object place found has
      rw [exchange other place has] at count
      rw [referrers_create made]
      omega
  · have live : (table.block? target).isSome := by
      rw [graph, Function.update_apply] at found
      split at found
      · cases found
        exact released target step
      · exact balanced.alive owner content target found step
    obtain ⟨place, has⟩ := Option.isSome_iff_exists.mp live
    rw [stays has]
    rfl
  · rw [graph, Function.update_apply] at found
    split at found
    · cases found
      exact absurd step (closed target)
    · have plain := balanced.plain owner content target found step
      rw [blocks, Function.update_apply]
      split
      · next same => exact absurd (same ▸ step) (unowned owner content found)
      · exact plain
  · by_cases new : place = pointer
    · exact ⟨handle, by rw [blocks, new, Function.update_self]⟩
    · obtain ⟨other, has⟩ := balanced.known place (known place new positive)
      exact ⟨other, stays has⟩
  · rw [blocks, Function.update_apply] at has
    split at has
    · cases has
      exact below
    · have old := balanced.placed other place has
      omega
  · rw [blocks, Function.update_apply] at has again
    split at has <;> split at again
    · next one two => rw [one, two]
    · cases has
      have old := balanced.placed second pointer again
      omega
    · cases again
      have old := balanced.placed first pointer has
      omega
    · exact balanced.apart first second place has again

/-- A new object without a block, which refers to nothing. -/
theorem createPlain (balanced : table.Balanced held limit) (numbered : table.Numbered 0)
    {payload : Payload}
    (made : table.create payload = .ok (handle, after)) (block : payload.block? = none)
    (alone : payload.teardown = []) : after.Balanced held limit := by
  have graph := payload?_create numbered made
  have dead : table.block? handle = none := by
    obtain ⟨_, rfl, _⟩ := insert_eq_ok_iff.mp made
    rw [ObjectTable.block?, ObjectTable.payload?, numbered.find?_next]
    rfl
  have blocks : after.block? = table.block? := by
    funext other
    rw [ObjectTable.block?, graph, Function.update_apply]
    split
    · next same => rw [same, dead, Option.bind_some, block]
    · rfl
  have was : ∀ {owner content step}, after.payload? owner = some content →
      step ∈ content.teardown → table.payload? owner = some content := by
    intro owner content step found listed
    rw [graph, Function.update_apply] at found
    split at found
    · cases found
      rw [alone] at listed
      cases listed
    · exact found
  refine ⟨fun other object place found has => ?_, fun owner content target found step => ?_,
    fun owner content target found step => ?_, ?_, ?_, ?_⟩
  · rw [blocks] at has
    rw [find?_create numbered made] at found
    split at found
    · next same =>
      rw [same, dead] at has
      cases has
    · rw [referrers_create made, alone, List.count_nil, Nat.add_zero]
      exact balanced.counted other object place found has
  all_goals rw [blocks]
  · exact balanced.alive owner content target (was found step) step
  · exact balanced.plain owner content target (was found step) step
  · exact balanced.known
  · exact balanced.placed
  · exact balanced.apart

/-! ### Teardown -/

/-- The references that are left between the objects that are left. -/
theorem referrers_swept {steps : List Teardown} {members : Finset Handle}
    (swept : table.Swept steps members after) (target : Handle) :
    after.referrers target + table.returned members target = table.referrers target := by
  have split : ∀ objects : List Object,
      (((objects.filter fun object => decide (object.handle ∉ members)).map
        (table.lower steps members)).map
          fun object => object.payload.teardown.count (.release target)).sum +
        (objects.map (share members target)).sum =
          (objects.map fun object => object.payload.teardown.count (.release target)).sum := by
    intro objects
    induction objects with
    | nil => rfl
    | cons object rest ih =>
      by_cases inside : object.handle ∈ members
      · rw [List.filter_cons_of_neg (by simpa using inside), List.map_cons, List.map_cons,
          List.sum_cons, List.sum_cons, share, if_pos inside]
        omega
      · rw [List.filter_cons_of_pos (by simpa using inside), List.map_cons, List.map_cons,
          List.map_cons, List.map_cons, List.sum_cons, List.sum_cons, List.sum_cons, share,
          if_neg inside]
        simp only [lower] at ih ⊢
        omega
  rw [referrers, returned, referrers, total, total, total, swept.objects]
  exact split table.objects

/-- A teardown gives references back: those that `steps` list are held outside no more. -/
theorem drain (balanced : table.Balanced held limit) (wf : table.WellFormed)
    (steps : List Teardown) (closed : ∀ target, .close target ∈ steps → table.block? target = none)
    (spent : ∀ other pointer, table.block? other = some pointer →
      held pointer = held' pointer + steps.count (.release other))
    (known : ∀ pointer, 0 < held' pointer → 0 < held pointer) :
    (ObjectTable.drain steps table).Balanced held' limit := by
  obtain ⟨members, swept⟩ := swept_drain wf steps
  have blocks : ∀ other, (ObjectTable.drain steps table).block? other =
      if other ∈ members then none else table.block? other := by
    intro other
    rw [ObjectTable.block?, swept.payload?]
    split <;> rfl
  have left : ∀ {other pointer}, (ObjectTable.drain steps table).block? other = some pointer →
      other ∉ members ∧ table.block? other = some pointer := by
    intro other pointer has
    rw [blocks] at has
    split at has
    · cases has
    · next outside => exact ⟨outside, has⟩
  have stays : ∀ {owner content}, (ObjectTable.drain steps table).payload? owner = some content →
      table.payload? owner = some content := by
    intro owner content found
    rw [swept.payload?] at found
    split at found
    · cases found
    · exact found
  -- An object with a block leaves only when nobody refers to it any more.
  have gone : ∀ other pointer, table.block? other = some pointer → other ∈ members →
      held' pointer = 0 ∧ (ObjectTable.drain steps table).referrers other = 0 := by
    intro other pointer has inside
    obtain ⟨payload, found, -⟩ := Option.bind_eq_some_iff.mp has
    obtain ⟨object, member, rfl, rfl⟩ := exists_of_payload? found
    have count := balanced.counted _ object pointer (find?_of_mem wf.distinct member) has
    have paid := spent _ pointer has
    have kept := referrers_swept swept object.handle
    rcases swept.demanded wf member inside with closes | spentAll
    · rcases closes with step | ⟨owner, ownerMember, -, step⟩
      · rw [closed _ step] at has
        cases has
      · have plain := balanced.plain owner.handle _ _ (payload?_of_mem wf.distinct ownerMember) step
        rw [plain] at has
        cases has
    · rw [demand] at spentAll
      omega
  refine ⟨fun other object pointer found has => ?_, fun owner content target found step => ?_,
    fun owner content target found step => ?_, fun pointer positive => ?_,
    fun other pointer has => balanced.placed other pointer (left has).2,
    fun first second pointer one two => balanced.apart first second pointer (left one).2 (left two).2⟩
  · obtain ⟨outside, had⟩ := left has
    rw [swept.find?, if_neg outside] at found
    obtain ⟨before, was, rfl⟩ := Option.map_eq_some_iff.mp found
    have own := handle_of_find? was
    have count := balanced.counted other before pointer was had
    have paid := spent other pointer had
    have kept := referrers_swept swept other
    simp only [lower, demand, own]
    omega
  · have live := balanced.alive owner content target (stays found) step
    obtain ⟨pointer, has⟩ := Option.isSome_iff_exists.mp live
    rw [blocks]
    split
    · next inside =>
      obtain ⟨-, none⟩ := gone target pointer has inside
      exact absurd step
        ((referrers_eq_zero_iff (swept.wellFormed wf)).mp none owner content found)
    · rw [has]
      rfl
  · rw [blocks]
    split
    · rfl
    · exact balanced.plain owner content target (stays found) step
  · obtain ⟨other, has⟩ := balanced.known pointer (known pointer positive)
    refine ⟨other, ?_⟩
    rw [blocks, if_neg, has]
    intro inside
    have nothing := (gone other pointer has inside).1
    omega

end Balanced

end ObjectTable

end GuestDraw
