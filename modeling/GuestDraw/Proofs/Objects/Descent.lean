/-
**Teardown as calls within calls.**

Closing an object calls for each thing that the object owns, those calls close further objects, and
so on. Objects may own each other in circles, and themselves. All such calls return: an object
leaves the table before its teardown is called, so a closing that finds an object has one object
fewer to deal with further down, and there are no more of these closings than there were objects.

* `closeWithin`, `releaseWithin`: closing and giving back as functions that call each other, given
  up where the calls go deeper than they may;
* `Departure`: a closing that found its object; `Dwindling`: each of them leaves fewer objects than
  it met;
* `steps_return`: the calls of a teardown return, by induction on the number of objects;
* `teardown_returns`: calls return, with what `close` and `release` give, once they may go a little
  deeper than twice the number of objects.

A call that goes deeper does so on fewer objects, or gives back a last reference and then closes the
object on the same ones. So each object accounts for two levels of depth.
-/

import GuestDraw.Proofs.Objects.Payloads

namespace GuestDraw.ObjectTable

/-! ### Calls within calls -/

/-- A closing that found its object: how many objects were alive when it was called, and how many
when it went on to call the teardown. -/
structure Departure where
  handle : Handle
  live : Nat
  left : Nat
  deriving DecidableEq

/-- A table while calls are under way, and the closings so far that found their objects. -/
structure Progress where
  table : ObjectTable
  departures : List Departure
  deriving DecidableEq

/-- The object leaves the table. -/
def Progress.depart (progress : Progress) (object : Object) : Progress where
  table := progress.table.remove object
  departures := progress.departures ++
    [⟨object.handle, progress.table.objects.length, (progress.table.remove object).objects.length⟩]

/-- The object with a handle has one reference fewer. -/
def Progress.lower (progress : Progress) (handle : Handle) : Progress :=
  { progress with table := progress.table.update handle Object.giveBack }

mutual

/-- Closes an object and calls its teardown, of which failures are passed over. There is no answer
where the calls go deeper than `depth`. -/
def closeWithin (depth : Nat) (handle : Handle) (progress : Progress) :
    Option (Except ObjectError Unit × Progress) :=
  match depth with
  | 0 => none
  | depth + 1 =>
    match progress.table.find? handle with
    | none => some (.error (.invalidHandle handle), progress)
    | some object => do
      let reached ← object.payload.teardown.foldlM (fun reached step =>
        match step with
        | .release owned => (releaseWithin depth owned reached).map Prod.snd
        | .close owned => (closeWithin depth owned reached).map Prod.snd) (progress.depart object)
      return (.ok (), reached)

/-- Gives back one reference, and calls for the closing of the object if none is left. -/
def releaseWithin (depth : Nat) (handle : Handle) (progress : Progress) :
    Option (Except ObjectError Nat × Progress) :=
  match depth with
  | 0 => none
  | depth + 1 =>
    match progress.table.find? handle with
    | none => some (.error (.invalidHandle handle), progress)
    | some object =>
      if object.references - 1 = 0 then do
        let (answer, reached) ← closeWithin depth handle (progress.lower handle)
        return (answer.map fun _ => 0, reached)
      else some (.ok (object.references - 1), progress.lower handle)

end

/-- One call of a teardown, of which failures are passed over. -/
def callWithin (depth : Nat) (progress : Progress) : Teardown → Option Progress
  | .release owned => (releaseWithin depth owned progress).map Prod.snd
  | .close owned => (closeWithin depth owned progress).map Prod.snd

theorem Progress.length_lower (progress : Progress) (handle : Handle) :
    (progress.lower handle).table.objects.length = progress.table.objects.length :=
    List.length_map _

theorem Progress.find?_lower {progress : Progress} {handle : Handle} {object : Object}
    (found : progress.table.find? handle = some object) :
    (progress.lower handle).table.find? handle = some object.giveBack := by
  rw [lower, find?_update Object.handle_giveBack, if_pos rfl, found]
  rfl

section Unfolding

variable {depth : Nat} {handle : Handle} {progress : Progress}

theorem closeWithin_of_dead (dead : progress.table.find? handle = none) :
    closeWithin (depth + 1) handle progress = some (.error (.invalidHandle handle), progress) := by
  rw [closeWithin, dead]

theorem closeWithin_of_found {object : Object} (found : progress.table.find? handle = some object) :
    closeWithin (depth + 1) handle progress =
      (object.payload.teardown.foldlM (callWithin depth) (progress.depart object)).map
        (.ok (), ·) := by
  have calls : (fun reached step => match step with
      | Teardown.release owned => (releaseWithin depth owned reached).map Prod.snd
      | Teardown.close owned => (closeWithin depth owned reached).map Prod.snd) =
        callWithin depth := by
    funext reached step
    cases step <;> rfl
  rw [closeWithin, found]
  dsimp only
  rw [calls, Option.map_eq_bind]
  rfl

theorem releaseWithin_of_dead (dead : progress.table.find? handle = none) :
    releaseWithin (depth + 1) handle progress =
      some (.error (.invalidHandle handle), progress) := by
  rw [releaseWithin, dead]

theorem releaseWithin_of_several {object : Object}
    (found : progress.table.find? handle = some object) (several : 1 < object.references) :
    releaseWithin (depth + 1) handle progress =
      some (.ok (object.references - 1), progress.lower handle) := by
  rw [releaseWithin, found]
  dsimp only
  rw [if_neg (by omega)]

theorem releaseWithin_of_last {object : Object} (found : progress.table.find? handle = some object)
    (last : object.references ≤ 1) :
    releaseWithin (depth + 1) handle progress =
      (closeWithin depth handle (progress.lower handle)).map
        fun closed => (closed.1.map fun _ => 0, closed.2) := by
  rw [releaseWithin, found]
  dsimp only
  rw [if_pos (by omega), Option.map_eq_bind]
  rfl

end Unfolding

/-! ### Fewer objects each time -/

/-- Closings that each meet what the one before it left, and leave fewer. -/
inductive Dwindling : Nat → List Departure → Nat → Prop
  | still (live : Nat) : Dwindling live [] live
  | depart {handle : Handle} {live left final : Nat} {rest : List Departure} (fewer : left < live)
      (onward : Dwindling left rest final) : Dwindling live (⟨handle, live, left⟩ :: rest) final

namespace Dwindling

variable {live middle final : Nat} {departures later : List Departure}

theorem append (first : Dwindling live departures middle) (second : Dwindling middle later final) :
    Dwindling live (departures ++ later) final := by
  induction first with
  | still => exact second
  | depart fewer _ ih => exact .depart fewer (ih second)

/-- Each closing takes an object out, so there are no more of them than objects that went. -/
theorem length_add_le (dwindling : Dwindling live departures final) :
    departures.length + final ≤ live := by
  induction dwindling with
  | still => simp
  | depart fewer _ ih =>
    rw [List.length_cons]
    omega

theorem left_lt (dwindling : Dwindling live departures final) :
    ∀ departure ∈ departures, departure.left < departure.live := by
  induction dwindling with
  | still => simp
  | depart fewer _ ih => exact List.forall_mem_cons.mpr ⟨fewer, ih⟩

end Dwindling

/-- Calls for `steps` lead from one point to another: the table is what the work makes of it, and
the closings on the way dwindle from one table to the other. -/
structure Leads (progress : Progress) (steps : List Teardown) (reached : Progress) : Prop where
  drains : reached.table = drain steps progress.table
  dwindles : ∃ departures, reached.departures = progress.departures ++ departures ∧
    Dwindling progress.table.objects.length departures reached.table.objects.length

namespace Leads

variable {progress middle reached : Progress} {steps rest : List Teardown} {handle : Handle}
  {object : Object}

theorem nil (progress : Progress) : Leads progress [] progress :=
  ⟨by rw [drain], [], (List.append_nil _).symm, .still _⟩

theorem append (first : Leads progress steps middle) (second : Leads middle rest reached) :
    Leads progress (steps ++ rest) reached := by
  obtain ⟨some, log, dwindling⟩ := first.dwindles
  obtain ⟨more, relog, further⟩ := second.dwindles
  refine ⟨?_, some ++ more, ?_, dwindling.append further⟩
  · rw [drain_append, ← first.drains, second.drains]
  · rw [relog, log, List.append_assoc]

/-- Work that changes no count of objects and closes none. -/
theorem of_same_length {table : ObjectTable} (drains : table = drain steps progress.table)
    (same : table.objects.length = progress.table.objects.length) :
    Leads progress steps { progress with table := table } :=
  ⟨drains, [], (List.append_nil _).symm, by rw [same]; exact .still _⟩

theorem close_of_dead (dead : progress.table.find? handle = none) :
    Leads progress [.close handle] progress :=
  of_same_length (drain_close_of_dead dead).symm rfl

theorem release_of_dead (dead : progress.table.find? handle = none) :
    Leads progress [.release handle] progress :=
  of_same_length (drain_release_of_dead dead).symm rfl

theorem release_of_several (found : progress.table.find? handle = some object)
    (several : 1 < object.references) :
    Leads progress [.release handle] (progress.lower handle) :=
  of_same_length (drain_release_of_several found several).symm (List.length_map _)

theorem close_of_found (found : progress.table.find? handle = some object)
    (inner : Leads (progress.depart object) object.payload.teardown reached) :
    Leads progress [.close handle] reached := by
  obtain ⟨departures, log, dwindling⟩ := inner.dwindles
  refine ⟨inner.drains.trans (drain_close found).symm,
    ⟨object.handle, progress.table.objects.length, (progress.table.remove object).objects.length⟩ ::
      departures,
    ?_, .depart (length_remove_lt found) dwindling⟩
  rw [log, Progress.depart, List.append_assoc, List.singleton_append]

/-- The closing takes out the object whose last reference was given back, with its count at zero by
then. -/
theorem release_of_last (found : progress.table.find? handle = some object)
    (last : object.references ≤ 1)
    (closed : Leads (progress.lower handle) [.close handle] reached) :
    Leads progress [.release handle] reached := by
  obtain ⟨departures, log, dwindling⟩ := closed.dwindles
  have own : object.handle = handle := handle_of_find? found
  have lowered : (progress.lower handle).table.find? handle = some object.giveBack :=
    Progress.find?_lower found
  refine ⟨?_, departures, log, Progress.length_lower progress handle ▸ dwindling⟩
  rw [closed.drains, drain_close lowered, drain_release_of_last found last, drain_close found,
    Progress.lower, ← own,
    remove_giveBack, Object.payload_giveBack]

end Leads

/-! ### All calls return -/

/-- Calls for `steps` return once they may go deep enough for the live objects. -/
def StepsReturn (steps : List Teardown) (progress : Progress) : Prop :=
  ∃ reached, Leads progress steps reached ∧ ∀ depth, 2 * progress.table.objects.length + 2 ≤ depth →
    steps.foldlM (callWithin depth) progress = some reached

section Fewer

variable (progress : Progress) (fewer : ∀ next : Progress,
  next.table.objects.length < progress.table.objects.length → ∀ steps, StepsReturn steps next)

include fewer

/-- A closing returns if all work on fewer objects does. -/
theorem closeWithin_returns (handle : Handle) :
    ∃ reached, Leads progress [.close handle] reached ∧
      ∀ depth, 2 * progress.table.objects.length + 1 ≤ depth →
        closeWithin depth handle progress =
          some ((progress.table.close handle).map fun _ => (), reached) := by
  cases found : progress.table.find? handle with
  | none =>
    refine ⟨progress, .close_of_dead found, fun depth deep => ?_⟩
    obtain ⟨below, rfl⟩ := Nat.exists_eq_add_of_le' (Nat.one_le_of_lt deep)
    rw [closeWithin_of_dead found, close, found]
    rfl
  | some object =>
    have less := length_remove_lt found
    obtain ⟨reached, leads, returns⟩ := fewer (progress.depart object) less object.payload.teardown
    refine ⟨reached, .close_of_found found leads, fun depth deep => ?_⟩
    obtain ⟨below, rfl⟩ := Nat.exists_eq_add_of_le' (Nat.one_le_of_lt deep)
    have enough : 2 * (progress.depart object).table.objects.length + 2 ≤ below := by
      simp only [Progress.depart]
      omega
    rw [closeWithin_of_found found, returns below enough, close, found]
    rfl

/-- Giving back goes one call deeper than the closing that it may lead to. -/
theorem releaseWithin_returns (handle : Handle) :
    ∃ reached, Leads progress [.release handle] reached ∧
      ∀ depth, 2 * progress.table.objects.length + 2 ≤ depth →
        releaseWithin depth handle progress =
          some ((progress.table.release handle).map Prod.fst, reached) := by
  cases found : progress.table.find? handle with
  | none =>
    refine ⟨progress, .release_of_dead found, fun depth deep => ?_⟩
    obtain ⟨below, rfl⟩ := Nat.exists_eq_add_of_le' (Nat.one_le_of_lt deep)
    rw [releaseWithin_of_dead found, release, found]
    rfl
  | some object =>
    rcases Nat.lt_or_ge 1 object.references with several | last
    · refine ⟨_, .release_of_several found several, fun depth deep => ?_⟩
      obtain ⟨below, rfl⟩ := Nat.exists_eq_add_of_le' (Nat.one_le_of_lt deep)
      rw [releaseWithin_of_several found several, release, found]
      rfl
    · have same := progress.length_lower handle
      obtain ⟨reached, leads, returns⟩ :=
        closeWithin_returns (progress.lower handle) (by rwa [same]) handle
      refine ⟨reached, .release_of_last found last leads, fun depth deep => ?_⟩
      obtain ⟨below, rfl⟩ := Nat.exists_eq_add_of_le' (Nat.one_le_of_lt deep)
      have closes : ((progress.lower handle).table.close handle).map (fun _ => ()) = .ok () := by
        rw [close, Progress.find?_lower found]
        rfl
      rw [releaseWithin_of_last found last, returns below (by omega), closes, release, found]
      show some (Except.ok 0, reached) = some (.ok (object.references - 1), reached)
      rw [Nat.sub_eq_zero_of_le last]

theorem callWithin_returns (step : Teardown) :
    ∃ reached, Leads progress [step] reached ∧
      ∀ depth, 2 * progress.table.objects.length + 2 ≤ depth →
        callWithin depth progress step = some reached := by
  cases step with
  | release handle =>
    obtain ⟨reached, leads, returns⟩ := releaseWithin_returns progress fewer handle
    refine ⟨reached, leads, fun depth deep => ?_⟩
    rw [callWithin, returns depth deep, Option.map_some]
  | close handle =>
    obtain ⟨reached, leads, returns⟩ := closeWithin_returns progress fewer handle
    refine ⟨reached, leads, fun depth deep => ?_⟩
    rw [callWithin, returns depth (by omega), Option.map_some]

end Fewer

/-- The calls of a teardown return, on any table. -/
theorem steps_return (progress : Progress) (steps : List Teardown) :
    StepsReturn steps progress := by
  -- On the number of objects for the calls that a call makes, and on the steps for one call after
  -- the other.
  induction live : progress.table.objects.length using Nat.strong_induction_on
    generalizing progress steps with
  | _ live fewer =>
  subst live
  replace fewer (next : Progress) (less : next.table.objects.length < progress.table.objects.length)
      (steps : List Teardown) : StepsReturn steps next := fewer _ less next steps rfl
  induction steps generalizing progress with
  | nil => exact ⟨progress, .nil progress, fun _ _ => rfl⟩
  | cons step rest ih =>
    obtain ⟨middle, first, call⟩ := callWithin_returns progress fewer step
    obtain ⟨departures, -, dwindling⟩ := first.dwindles
    have still := dwindling.length_add_le
    obtain ⟨reached, second, calls⟩ := ih middle fun next less => fewer next (by omega)
    refine ⟨reached, first.append second, fun depth deep => ?_⟩
    rw [List.foldlM_cons, call depth deep]
    exact calls depth (by omega)

/-! ### The calls of the table -/

/-- A call answers and leaves a table, if it may go deep enough. Each closing on the way that finds
its object leaves fewer objects to the calls that it makes, and there are no more of them than
objects that went. -/
structure Returns {α : Type} (call : Nat → Option (Except ObjectError α × Progress))
    (table : ObjectTable) (answer : Except ObjectError α) (after : ObjectTable)
    (departures : List Departure) : Prop where
  returns : ∀ depth, 2 * table.objects.length + 2 ≤ depth →
    call depth = some (answer, ⟨after, departures⟩)
  dwindles : Dwindling table.objects.length departures after.objects.length
  fewer : ∀ departure ∈ departures, departure.left < departure.live
  few : departures.length + after.objects.length ≤ table.objects.length

theorem Leads.returns {α : Type} {call : Nat → Option (Except ObjectError α × Progress)}
    {answer : Except ObjectError α} {table : ObjectTable} {steps : List Teardown}
    {reached : Progress} (leads : Leads ⟨table, []⟩ steps reached)
    (returns : ∀ depth, 2 * table.objects.length + 2 ≤ depth →
      call depth = some (answer, reached)) :
    Returns call table answer (drain steps table) reached.departures := by
  obtain ⟨departures, log, dwindling⟩ := leads.dwindles
  rw [List.nil_append] at log
  subst log
  rw [← leads.drains]
  exact ⟨returns, dwindling, dwindling.left_lt, dwindling.length_add_le⟩

theorem after_close (table : ObjectTable) (handle : Handle) :
    (TableCall.close handle).after table = drain [.close handle] table := by
  rw [TableCall.after, TableCall.run, close]
  cases found : table.find? handle with
  | none => exact (drain_close_of_dead found).symm
  | some object => rfl

theorem after_release (table : ObjectTable) (handle : Handle) :
    (TableCall.release handle).after table = drain [.release handle] table := by
  rw [TableCall.after, TableCall.run, release]
  cases found : table.find? handle with
  | none => exact (drain_release_of_dead found).symm
  | some object => rfl

/-- Closing and giving back return on every table, whatever its objects own, and each does what the
call of the table does. -/
theorem teardown_returns (table : ObjectTable) (handle : Handle) :
    (∃ departures, Returns (closeWithin · handle ⟨table, []⟩) table
        ((table.close handle).map fun _ => ()) ((TableCall.close handle).after table) departures) ∧
    ∃ departures, Returns (releaseWithin · handle ⟨table, []⟩) table
        ((table.release handle).map Prod.fst) ((TableCall.release handle).after table)
        departures := by
  have fewer (next : Progress) (_ : next.table.objects.length < table.objects.length)
      (steps : List Teardown) : StepsReturn steps next := steps_return next steps
  constructor
  · obtain ⟨reached, leads, returns⟩ := closeWithin_returns ⟨table, []⟩ fewer handle
    rw [after_close]
    exact ⟨_, leads.returns fun depth deep => returns depth (Nat.le_of_succ_le deep)⟩
  · obtain ⟨reached, leads, returns⟩ := releaseWithin_returns ⟨table, []⟩ fewer handle
    rw [after_release]
    exact ⟨_, leads.returns returns⟩

/-- A view of itself is closed once, though its own closing gives it back. -/
example : closeWithin 3 ⟨1⟩ ⟨⟨2, [⟨⟨1⟩, none, 1, .fileMapping ⟨some ⟨1⟩, 0⟩⟩], []⟩, []⟩ =
    some (.ok (), ⟨⟨2, [], []⟩, [⟨⟨1⟩, 1, 0⟩]⟩) := by rfl

end GuestDraw.ObjectTable
