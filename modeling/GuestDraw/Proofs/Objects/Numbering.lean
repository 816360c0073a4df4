/-
**Tables through their whole life.**

A table changes by calls: objects are created, referred to, given back, closed, and get new
contents. A call that fails changes nothing, also where it changes a table step by step. Handles are
numbers in the order of creation, whatever else happens in between.

* `Numbered`: every handle is a number between the first one and the next one;
* `wellFormed_after`, `numbered_after`: what one call keeps;
* `run_eq_error_iff`: why a call is refused;
* `TableCall.inPlace_eq`: a call that is made step by step;
* `run_orderly`: the handles that a run gives out, its names and counts, and the failures that are
  possible after it.
-/

import GuestDraw.Proofs.Objects.Closing
import GuestDraw.Proofs.Objects.InPlace

namespace GuestDraw

/-- A call on a table of objects. -/
inductive TableCall where
  | create (payload : Payload)
  | createNamed (name : String) (payload : Payload)
  | addReference (handle : Handle)
  | release (handle : Handle)
  | close (handle : Handle)
  /-- New contents for an object, if it is alive. -/
  | replace (handle : Handle) (payload : Payload)

namespace TableCall

open ObjectTable

/-- What a call gives: the handle of a new object, and the changed table. -/
def run (table : ObjectTable) : TableCall → Except ObjectError (Option Handle × ObjectTable)
  | create payload => (table.create payload).map fun made => (some made.1, made.2)
  | createNamed name payload =>
    (table.createNamed name payload).map fun made => (some made.1, made.2)
  | addReference handle => (table.addReference handle).map fun counted => (none, counted.2)
  | release handle => (table.release handle).map fun counted => (none, counted.2)
  | close handle => (table.close handle).map fun left => (none, left)
  | replace handle payload => .ok (none, table.setPayload handle payload)

/-- Makes a call step by step, on a table that changes. -/
def inPlace : TableCall → EStateM ObjectError ObjectTable (Option Handle)
  | create payload => some <$> insertInPlace none payload
  | createNamed name payload => some <$> createNamedInPlace name payload
  | addReference handle => (fun _ => none) <$> addReferenceInPlace handle
  | release handle => (fun _ => none) <$> releaseInPlace handle
  | close handle => (fun _ => none) <$> closeInPlace handle
  | replace handle payload => do
    modify (·.setPayload handle payload)
    return none

/-- The table after a call. -/
def after (table : ObjectTable) (call : TableCall) : ObjectTable :=
  match call.run table with
  | .ok (_, changed) => changed
  | .error _ => table

/-- The handle that a call gives out. -/
def issued (table : ObjectTable) (call : TableCall) : Option Handle :=
  match call.run table with
  | .ok (handle, _) => handle
  | .error _ => none

/-- The table after a run of calls. -/
def afterAll (table : ObjectTable) : List TableCall → ObjectTable
  | [] => table
  | call :: rest => afterAll (call.after table) rest

/-- The handles that a run of calls gives out, in order. -/
def issuedAll (table : ObjectTable) : List TableCall → List Handle
  | [] => []
  | call :: rest => (call.issued table).toList ++ issuedAll (call.after table) rest

/-- The reasons for which a call is refused. -/
inductive Refused (table : ObjectTable) : TableCall → ObjectError → Prop
  | addReference {handle : Handle} (dead : table.find? handle = none) :
    Refused table (.addReference handle) (.invalidHandle handle)
  | release {handle : Handle} (dead : table.find? handle = none) :
    Refused table (.release handle) (.invalidHandle handle)
  | close {handle : Handle} (dead : table.find? handle = none) :
    Refused table (.close handle) (.invalidHandle handle)
  /-- The name belongs to a live object. -/
  | nameInUse {name : String} {payload : Payload} {holder : Object}
    (alive : table.find? holder.handle = some holder) (bears : holder.name = some name) :
    Refused table (.createNamed name payload) (.nameInUse name holder.handle)
  | exhausted {payload : Payload} (full : UInt32.size ≤ table.next + 1) :
    Refused table (.create payload) .exhausted
  | exhaustedNamed {name : String} {payload : Payload}
    (free : ∀ object ∈ table.objects, object.name ≠ some name)
    (full : UInt32.size ≤ table.next + 1) :
    Refused table (.createNamed name payload) .exhausted

/-- Step by step a call gives what it gives as a whole, and leaves what there was if it fails. -/
theorem inPlace_eq (call : TableCall) (table : ObjectTable) :
    call.inPlace table = table.kept (call.run table) := by
  cases call with
  | create payload => exact map_of_kept (insertInPlace_eq none payload table) some
  | createNamed name payload => exact map_of_kept (createNamedInPlace_eq name payload table) some
  | addReference handle => exact map_of_kept (addReferenceInPlace_eq handle table) fun _ => none
  | release handle => exact map_of_kept (releaseInPlace_eq handle table) fun _ => none
  | close handle =>
    rw [run, inPlace, map_of_kept (closeInPlace_eq handle table)]
    cases table.close handle <;> rfl
  | replace handle payload => rfl

theorem eq_of_inPlace_error {table after : ObjectTable} {call : TableCall} {cause : ObjectError}
    (failed : call.inPlace table = .error cause after) : after = table := by
  rw [call.inPlace_eq] at failed
  cases ended : call.run table with
  | ok left =>
    rw [ended] at failed
    cases failed
  | error cause =>
    rw [ended] at failed
    cases failed
    rfl

end TableCall

namespace ObjectTable

variable {table : ObjectTable}

/-- Live handles are numbers from `first` on and below the next one, which fit a dword. -/
structure Numbered (first : Nat) (table : ObjectTable) : Prop where
  first_le_next : first ≤ table.next
  first_le : ∀ object ∈ table.objects, first ≤ object.handle.number
  below : ∀ object ∈ table.objects, object.handle.number < table.next
  narrow : ∀ object ∈ table.objects, object.handle.number + 1 < UInt32.size

namespace Numbered

variable {first : Nat}

/-- A table keeps its numbers while only handles that were alive before are alive. -/
theorem of_handles {after : ObjectTable} (numbered : table.Numbered first)
    (next : after.next = table.next)
    (handles : ∀ object ∈ after.objects, ∃ original ∈ table.objects,
      original.handle = object.handle) : after.Numbered first := by
  refine ⟨next ▸ numbered.first_le_next, ?_, ?_, ?_⟩ <;> intro object inside <;>
    obtain ⟨original, member, same⟩ := handles object inside <;> rw [← same]
  · exact numbered.first_le original member
  · rw [next]
    exact numbered.below original member
  · exact numbered.narrow original member

theorem update (numbered : table.Numbered first) {handle : Handle} {change : Object → Object}
    (keeps : ∀ object, (change object).handle = object.handle) :
    (table.update handle change).Numbered first := by
  refine numbered.of_handles rfl fun object inside => ?_
  obtain ⟨original, member, rfl⟩ := List.mem_map.mp inside
  refine ⟨original, member, ?_⟩
  split
  · exact (keeps original).symm
  · rfl

theorem drain (numbered : table.Numbered first) (wf : table.WellFormed) (steps : List Teardown) :
    (drain steps table).Numbered first := by
  obtain ⟨members, swept⟩ := swept_drain wf steps
  refine numbered.of_handles swept.next fun object inside => ?_
  rw [swept.objects] at inside
  obtain ⟨original, kept, rfl⟩ := List.mem_map.mp inside
  exact ⟨original, List.mem_of_mem_filter kept, rfl⟩

/-- The number of the next object belongs to no live one. -/
theorem find?_next (numbered : table.Numbered first) : table.find? ⟨table.next⟩ = none :=
  find?_eq_none_iff.mpr fun object member same => by
    have below := numbered.below object member
    rw [same] at below
    exact Nat.lt_irrefl _ below

end Numbered

/-! ### Creating -/

/-- What creating an object does, when there is a number for it. -/
theorem insert_eq_ok_iff {name : Option String} {payload : Payload} {handle : Handle}
    {after : ObjectTable} :
    table.insert name payload = .ok (handle, after) ↔
      table.next + 1 < UInt32.size ∧ handle = ⟨table.next⟩ ∧
        after =
          { next := table.next + 1
            objects := table.objects ++ [⟨handle, name, 1, payload⟩]
            names := (name.map (·, handle)).toList ++ table.names } := by
  unfold insert
  split
  · next room =>
    simp only [room, true_and, Except.ok.injEq, Prod.mk.injEq]
    constructor
    · rintro ⟨rfl, rfl⟩
      exact ⟨rfl, rfl⟩
    · rintro ⟨rfl, rfl⟩
      exact ⟨rfl, rfl⟩
  · next full => simp [full]

theorem insert_eq_error_iff {name : Option String} {payload : Payload} {cause : ObjectError} :
    table.insert name payload = .error cause ↔
      UInt32.size ≤ table.next + 1 ∧ cause = .exhausted := by
  unfold insert
  split
  · next room => simp [room]
  · next full => simp [Nat.le_of_not_lt full, eq_comm]

section Inserting

variable {first : Nat} {name : Option String} {payload : Payload} {handle : Handle}
  {after : ObjectTable}

theorem WellFormed.insert (wf : table.WellFormed) (numbered : table.Numbered first)
    (unused : ∀ own, name = some own → table.names.lookup own = none)
    (made : table.insert name payload = .ok (handle, after)) : after.WellFormed := by
  obtain ⟨_, rfl, rfl⟩ := insert_eq_ok_iff.mp made
  exact wf.append numbered.find?_next Nat.one_pos unused

theorem Numbered.insert (numbered : table.Numbered first)
    (made : table.insert name payload = .ok (handle, after)) : after.Numbered first := by
  obtain ⟨room, rfl, rfl⟩ := insert_eq_ok_iff.mp made
  refine ⟨Nat.le_succ_of_le numbered.first_le_next, ?_, ?_, ?_⟩ <;> intro object inside <;>
    rcases List.mem_append.mp inside with member | new
  · exact numbered.first_le object member
  · rw [List.mem_singleton.mp new]
    exact numbered.first_le_next
  · exact Nat.lt_succ_of_lt (numbered.below object member)
  · rw [List.mem_singleton.mp new]
    exact Nat.lt_succ_self _
  · exact numbered.narrow object member
  · rw [List.mem_singleton.mp new]
    exact room

end Inserting

/-! ### One call -/

/-- The ways in which a call ends: it adds an object, changes one, does some teardown, or fails. -/
inductive Outcome (table : ObjectTable) : Except ObjectError (Option Handle × ObjectTable) → Prop
  | added {name : Option String} {payload : Payload} {handle : Handle} {after : ObjectTable}
    (unused : ∀ own, name = some own → table.names.lookup own = none)
    (made : table.insert name payload = .ok (handle, after)) :
    Outcome table (.ok (some handle, after))
  | changed {handle : Handle} {change : Object → Object}
    (keepsHandle : ∀ object, (change object).handle = object.handle)
    (keepsName : ∀ object, (change object).name = object.name)
    (referenced : ∀ object, table.find? handle = some object → 0 < (change object).references) :
    Outcome table (.ok (none, table.update handle change))
  | tornDown (steps : List Teardown) : Outcome table (.ok (none, drain steps table))
  | failed (cause : ObjectError) : Outcome table (.error cause)

theorem outcome_insert {name : Option String} (payload : Payload)
    (unused : ∀ own, name = some own → table.names.lookup own = none) :
    table.Outcome ((table.insert name payload).map fun made => (some made.1, made.2)) := by
  cases made : table.insert name payload with
  | error cause => exact .failed cause
  | ok result => exact .added unused made

/-- What a call can do. -/
theorem outcome_run (wf : table.WellFormed) (call : TableCall) : table.Outcome (call.run table) := by
  cases call with
  | create payload => exact outcome_insert payload fun own named => nomatch named
  | createNamed name payload =>
    rw [TableCall.run, createNamed]
    cases taken : table.names.lookup name with
    | some existing => exact .failed _
    | none =>
      refine outcome_insert payload fun own named => ?_
      rw [← Option.some.inj named, taken]
  | addReference handle =>
    rw [TableCall.run, addReference]
    cases found : table.find? handle with
    | none => exact .failed _
    | some object =>
      refine .changed (fun _ => rfl) (fun _ => rfl) fun _ _ => ?_
      show 0 < min (object.references + 1) (UInt32.size - 1)
      exact Nat.lt_min.mpr ⟨Nat.succ_pos _, by decide⟩
  | release handle =>
    rw [TableCall.run, release]
    cases table.find? handle with
    | none => exact .failed _
    | some object => exact .tornDown _
  | close handle =>
    rw [TableCall.run, close]
    cases table.find? handle with
    | none => exact .failed _
    | some object => exact .tornDown _
  | replace handle payload =>
    exact .changed (fun _ => rfl) (fun _ => rfl)
      fun object found => wf.referenced object (mem_of_find? found)

section Calling

variable {first : Nat} (wf : table.WellFormed) (numbered : table.Numbered first)
  (call : TableCall)

include wf numbered

theorem wellFormed_after : (call.after table).WellFormed := by
  have outcome := outcome_run wf call
  unfold TableCall.after
  generalize call.run table = result at outcome ⊢
  cases outcome with
  | added unused made => exact wf.insert numbered unused made
  | changed keepsHandle keepsName referenced => exact wf.update keepsHandle keepsName referenced
  | tornDown steps => exact wf.drain steps
  | failed cause => exact wf

theorem numbered_after : (call.after table).Numbered first := by
  have outcome := outcome_run wf call
  unfold TableCall.after
  generalize call.run table = result at outcome ⊢
  cases outcome with
  | added unused made => exact numbered.insert made
  | changed keepsHandle keepsName referenced => exact numbered.update keepsHandle
  | tornDown steps => exact numbered.drain wf steps
  | failed cause => exact numbered

omit numbered in
/-- A call gives out the next handle and moves on to the one after it, or gives out none. -/
theorem issued_after :
    call.issued table = some ⟨table.next⟩ ∧ (call.after table).next = table.next + 1 ∨
      call.issued table = none ∧ (call.after table).next = table.next := by
  have outcome := outcome_run wf call
  unfold TableCall.issued TableCall.after
  generalize call.run table = result at outcome ⊢
  cases outcome with
  | added unused made =>
    obtain ⟨_, rfl, rfl⟩ := insert_eq_ok_iff.mp made
    exact .inl ⟨rfl, rfl⟩
  | changed keepsHandle keepsName referenced => exact .inr ⟨rfl, rfl⟩
  | tornDown steps =>
    obtain ⟨_, swept⟩ := swept_drain wf steps
    exact .inr ⟨rfl, swept.next⟩
  | failed cause => exact .inr ⟨rfl, rfl⟩

omit numbered in
/-- A handle that was given out and finds nothing finds nothing after the call. -/
theorem dead_after {handle : Handle} (used : handle.number < table.next)
    (dead : table.find? handle = none) : (call.after table).find? handle = none := by
  have outcome := outcome_run wf call
  unfold TableCall.after
  generalize call.run table = result at outcome ⊢
  cases outcome with
  | added unused made =>
    obtain ⟨_, rfl, rfl⟩ := insert_eq_ok_iff.mp made
    have older : (⟨table.next⟩ : Handle) ≠ handle := fun same => by simp [← same] at used
    rw [find?_append, dead, if_neg older]
    rfl
  | changed keepsHandle keepsName referenced =>
    rw [find?_update keepsHandle, dead]
    exact ite_self none
  | tornDown steps =>
    obtain ⟨_, swept⟩ := swept_drain wf steps
    rw [swept.find?, dead]
    exact ite_self none
  | failed cause => exact dead

end Calling

/-! ### Refusals -/

theorem map_eq_error_iff {ε α β : Type} {result : Except ε α} {change : α → β} {cause : ε} :
    result.map change = .error cause ↔ result = .error cause := by
  cases result <;> simp [Except.map]

theorem createNamed_eq_error_iff (wf : table.WellFormed) {name : String} {payload : Payload}
    {cause : ObjectError} :
    table.createNamed name payload = .error cause ↔
      (∃ holder, table.find? holder.handle = some holder ∧ holder.name = some name ∧
        cause = .nameInUse name holder.handle) ∨
      (∀ object ∈ table.objects, object.name ≠ some name) ∧
        UInt32.size ≤ table.next + 1 ∧ cause = .exhausted := by
  unfold createNamed
  cases taken : table.names.lookup name with
  | some existing =>
    obtain ⟨holder, member, rfl, bears⟩ := (wf.named name existing).mp taken
    constructor
    · intro failed
      exact .inl ⟨holder, find?_of_mem wf.distinct member, bears, (Except.error.inj failed).symm⟩
    · rintro (⟨other, found, otherBears, rfl⟩ | ⟨free, _⟩)
      · rw [wf.handle_eq_of_name_eq member (mem_of_find? found) bears otherBears]
      · exact absurd bears (free holder member)
  | none =>
    have free : ∀ object ∈ table.objects, object.name ≠ some name := fun object member bears => by
      have listed := (wf.named name object.handle).mpr ⟨object, member, rfl, bears⟩
      simp [taken] at listed
    show table.insert _ _ = _ ↔ _
    rw [insert_eq_error_iff]
    constructor
    · exact fun exhausted => .inr ⟨free, exhausted⟩
    · rintro (⟨holder, found, bears, _⟩ | ⟨_, exhausted⟩)
      · exact absurd bears (free holder (mem_of_find? found))
      · exact exhausted

/-- A call fails exactly for one of the reasons for refusing it. -/
theorem run_eq_error_iff (wf : table.WellFormed) (call : TableCall) {cause : ObjectError} :
    call.run table = .error cause ↔ TableCall.Refused table call cause := by
  cases call with
  | create payload =>
    rw [TableCall.run, map_eq_error_iff, create, insert_eq_error_iff]
    constructor
    · rintro ⟨full, rfl⟩
      exact .exhausted full
    · rintro ⟨full⟩
      exact ⟨‹_›, rfl⟩
  | createNamed name payload =>
    rw [TableCall.run, map_eq_error_iff, createNamed_eq_error_iff wf]
    constructor
    · rintro (⟨holder, found, bears, rfl⟩ | ⟨free, full, rfl⟩)
      · exact .nameInUse found bears
      · exact .exhaustedNamed free full
    · intro refused
      cases refused with
      | nameInUse found bears => exact .inl ⟨_, found, bears, rfl⟩
      | exhaustedNamed free full => exact .inr ⟨free, full, rfl⟩
  | addReference handle =>
    rw [TableCall.run, map_eq_error_iff, addReference]
    cases found : table.find? handle with
    | none =>
      constructor
      · rintro ⟨⟩
        exact .addReference found
      · rintro ⟨⟩
        rfl
    | some object =>
      constructor
      · intro failed
        cases failed
      · intro refused
        cases refused with
        | addReference dead => simp [found] at dead
  | release handle =>
    rw [TableCall.run, map_eq_error_iff, release]
    cases found : table.find? handle with
    | none =>
      constructor
      · rintro ⟨⟩
        exact .release found
      · rintro ⟨⟩
        rfl
    | some object =>
      constructor
      · intro failed
        cases failed
      · intro refused
        cases refused with
        | release dead => simp [found] at dead
  | close handle =>
    rw [TableCall.run, map_eq_error_iff, close]
    cases found : table.find? handle with
    | none =>
      constructor
      · rintro ⟨⟩
        exact .close found
      · rintro ⟨⟩
        rfl
    | some object =>
      constructor
      · intro failed
        cases failed
      · intro refused
        cases refused with
        | close dead => simp [found] at dead
  | replace handle payload =>
    constructor
    · intro failed
      cases failed
    · intro refused
      cases refused

/-! ### A run -/

/-- What a run of calls on a table numbered from `first` has given out, and the table it left. -/
structure Orderly (first : Nat) (given : List Handle) (table : ObjectTable) : Prop where
  /-- The handles are the numbers from `first` on, in order. -/
  given_eq : given = (List.range given.length).map fun index => ⟨first + index⟩
  next_eq : table.next = first + given.length
  /-- Every live object is found under its own handle, which was given out. -/
  found : ∀ object ∈ table.objects, table.find? object.handle = some object
  issued : ∀ object ∈ table.objects, object.handle ∈ given
  below : ∀ object ∈ table.objects, object.handle.number < table.next
  referenced : ∀ object ∈ table.objects, 0 < object.references
  /-- A name leads to the live object that bears it. -/
  named : ∀ name handle, table.names.lookup name = some handle ↔
    ∃ object, table.find? handle = some object ∧ object.name = some name
  /-- A call fails exactly for one of the reasons for refusing it. -/
  refused : ∀ call cause, TableCall.run table call = .error cause ↔
    TableCall.Refused table call cause
  /-- A call that is made step by step comes to the same, and one that fails on the way has changed
  nothing. -/
  stepwise : ∀ call, TableCall.inPlace call table = table.kept (TableCall.run table call)
  unchanged : ∀ call cause after, TableCall.inPlace call table = .error cause after → after = table
  /-- No later call brings a handle back that was given out and finds nothing. -/
  retired : ∀ handle ∈ given, table.find? handle = none →
    ∀ calls, (TableCall.afterAll table calls).find? handle = none

/-- What a run of calls keeps, and the handles that it gives out. -/
theorem numbered_afterAll {first : Nat} (calls : List TableCall) (wf : table.WellFormed)
    (numbered : table.Numbered first) :
    (TableCall.afterAll table calls).WellFormed ∧
      (TableCall.afterAll table calls).Numbered first ∧
      (TableCall.afterAll table calls).next =
        table.next + (TableCall.issuedAll table calls).length ∧
      TableCall.issuedAll table calls =
        (List.range (TableCall.issuedAll table calls).length).map fun index =>
          ⟨table.next + index⟩ := by
  induction calls generalizing table with
  | nil => exact ⟨wf, numbered, rfl, rfl⟩
  | cons call rest ih =>
    obtain ⟨restWf, restNumbered, next, given⟩ :=
      ih (wellFormed_after wf numbered call) (numbered_after wf numbered call)
    refine ⟨restWf, restNumbered, ?_⟩
    rw [TableCall.afterAll, TableCall.issuedAll]
    obtain ⟨issued, advanced⟩ | ⟨issued, advanced⟩ := issued_after wf call
    · rw [issued, next, advanced]
      refine ⟨by simp only [Option.toList_some, List.singleton_append, List.length_cons]; omega, ?_⟩
      simp only [Option.toList_some, List.singleton_append, List.length_cons,
        List.range_succ_eq_map, List.map_cons, List.map_map, Nat.add_zero]
      refine congrArg (_ :: ·) (given.trans (List.map_congr_left fun index _ => ?_))
      rw [advanced]
      show (⟨_⟩ : Handle) = ⟨_⟩
      congr 1
      omega
    · rw [issued, next, advanced]
      exact ⟨rfl, advanced ▸ given⟩

/-- A handle that was given out and finds nothing is never found again. -/
theorem dead_afterAll {first : Nat} (calls : List TableCall) (wf : table.WellFormed)
    (numbered : table.Numbered first) {handle : Handle} (used : handle.number < table.next)
    (dead : table.find? handle = none) : (TableCall.afterAll table calls).find? handle = none := by
  induction calls generalizing table with
  | nil => exact dead
  | cons call rest ih =>
    refine ih (wellFormed_after wf numbered call) (numbered_after wf numbered call) ?_
      (dead_after wf call used dead)
    obtain ⟨_, advanced⟩ | ⟨_, advanced⟩ := issued_after wf call <;> omega

theorem wellFormed_startingAt (base : Nat) : (startingAt base).WellFormed :=
  ⟨List.nodup_nil, fun _ inside => (nomatch inside), fun _ _ => by simp [startingAt]⟩

theorem numbered_startingAt (base : Nat) : (startingAt base).Numbered (max base 1) :=
  ⟨Nat.le_refl _, fun _ inside => (nomatch inside), fun _ inside => (nomatch inside),
    fun _ inside => (nomatch inside)⟩

/-- **Whatever is called in whatever order, handles are given out in order and never again.** -/
theorem run_orderly (base : Nat) (calls : List TableCall) :
    Orderly (max base 1) (TableCall.issuedAll (startingAt base) calls)
      (TableCall.afterAll (startingAt base) calls) := by
  obtain ⟨wf, numbered, next, given⟩ :=
    numbered_afterAll calls (wellFormed_startingAt base) (numbered_startingAt base)
  have next : (TableCall.afterAll (startingAt base) calls).next =
      max base 1 + (TableCall.issuedAll (startingAt base) calls).length := next
  have given : TableCall.issuedAll (startingAt base) calls =
      (List.range (TableCall.issuedAll (startingAt base) calls).length).map fun index =>
        ⟨max base 1 + index⟩ := given
  have issued_iff : ∀ handle, handle ∈ TableCall.issuedAll (startingAt base) calls ↔
      max base 1 ≤ handle.number ∧
        handle.number < (TableCall.afterAll (startingAt base) calls).next := by
    intro handle
    rw [given, next, List.mem_map]
    constructor
    · rintro ⟨index, inside, rfl⟩
      have below := List.mem_range.mp inside
      show max base 1 ≤ max base 1 + index ∧ max base 1 + index < _
      omega
    · rintro ⟨least, below⟩
      refine ⟨handle.number - max base 1, List.mem_range.mpr (by omega), ?_⟩
      show (⟨_⟩ : Handle) = ⟨handle.number⟩
      congr 1
      omega
  refine ⟨given, next, fun object member => find?_of_mem wf.distinct member,
    fun object member => (issued_iff _).mpr
      ⟨numbered.first_le object member, numbered.below object member⟩,
    numbered.below, wf.referenced, fun name handle => ?_, fun call cause => run_eq_error_iff wf call,
    fun call => call.inPlace_eq _, fun call cause after => TableCall.eq_of_inPlace_error,
    fun handle inside dead later =>
      dead_afterAll later wf numbered ((issued_iff handle).mp inside).2 dead⟩
  rw [wf.named]
  constructor
  · rintro ⟨object, member, own, bears⟩
    exact ⟨object, (find?_eq_some_iff wf.distinct).mpr ⟨member, own⟩, bears⟩
  · rintro ⟨object, found, bears⟩
    exact ⟨object, mem_of_find? found, handle_of_find? found, bears⟩

end ObjectTable

end GuestDraw
