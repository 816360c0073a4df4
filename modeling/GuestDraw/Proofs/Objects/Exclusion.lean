/-
**One owner at a time.**

Threads acquire a mutex and release it, in any order and however often, and a mutex only knows its
present owner and a count. What a thread has outstanding is the number of its acquisitions that
succeeded less the number of its releases that did. As long as no thread has so many outstanding
that they do not fit the count, the mutex belongs to the one thread that has any, and counts them.

* `Mutex.through`, `Mutex.granted`: the mutex after a sequence of calls, and the calls that
  succeeded;
* `outstanding`: what a thread has outstanding after a sequence of calls, which might be a negative
  number;
* `Tallies`: owner and count say what every thread has outstanding; `Tallies.acquire`,
  `Tallies.release`: a call that succeeds keeps that, and `Tallies.step`: so does any call;
* `through_exclusive`: what holds after any sequence of calls.

The induction is on the sequence of calls, at its end, since what is outstanding is asked of all
that was called before.
-/

import GuestDraw.Objects.Synchronisation
import Mathlib.Data.List.Induction
import Mathlib.Data.List.Infix

namespace GuestDraw

/-! ### Sequences of calls -/

/-- A call of a thread on a mutex. -/
inductive MutexCall where
  | acquire (thread : Nat)
  | release (thread : Nat)
  deriving DecidableEq

/-- Whether a call succeeds, and the mutex afterwards. -/
def MutexCall.run (mutex : Mutex) : MutexCall → Bool × Mutex
  | acquire thread => mutex.tryAcquire thread
  | release thread => mutex.release thread

namespace Mutex

/-- The mutex after a sequence of calls. -/
def through (mutex : Mutex) : List MutexCall → Mutex
  | [] => mutex
  | call :: rest => through (call.run mutex).2 rest

/-- The calls of a sequence that succeed. -/
def granted (mutex : Mutex) : List MutexCall → List MutexCall
  | [] => []
  | call :: rest => (if (call.run mutex).1 then [call] else []) ++ granted (call.run mutex).2 rest

variable {mutex : Mutex} {calls : List MutexCall} {call : MutexCall} {thread : Nat}

theorem through_concat (mutex : Mutex) (calls : List MutexCall) (call : MutexCall) :
    mutex.through (calls ++ [call]) = (call.run (mutex.through calls)).2 := by
  induction calls generalizing mutex with
  | nil => rfl
  | cons first rest ih => exact ih (first.run mutex).2

theorem granted_concat (mutex : Mutex) (calls : List MutexCall) (call : MutexCall) :
    mutex.granted (calls ++ [call]) =
      mutex.granted calls ++ if (call.run (mutex.through calls)).1 then [call] else [] := by
  induction calls generalizing mutex with
  | nil => exact List.append_nil _
  | cons first rest ih =>
    rw [List.cons_append, granted, granted, ih, List.append_assoc]
    rfl

theorem granted_sublist (mutex : Mutex) (calls : List MutexCall) :
    (mutex.granted calls).Sublist calls := by
  induction calls generalizing mutex with
  | nil => exact List.Sublist.refl _
  | cons first rest ih =>
    rw [granted]
    split
    · exact (ih _).cons_cons first
    · exact (ih _).cons first

/-! ### What threads have outstanding -/

/-- The successful acquisitions of a thread, less its successful releases, in a sequence of calls on
a mutex that had no owner. -/
def outstanding (calls : List MutexCall) (thread : Nat) : Int :=
  (free.granted calls).count (.acquire thread) - (free.granted calls).count (.release thread)

/-- At no time does a thread have so many acquisitions outstanding that they do not fit a dword. -/
def Shallow (calls : List MutexCall) : Prop :=
  ∀ before, before <+: calls → ∀ thread, outstanding before thread < UInt32.size

/-- What a call that succeeds adds to what a thread has outstanding. -/
def change (call : MutexCall) (thread : Nat) : Int :=
  (if call = .acquire thread then 1 else 0) - if call = .release thread then 1 else 0

theorem change_acquire (own thread : Nat) : change (.acquire own) thread = if own = thread then 1 else 0 := by
  simp [change]

theorem change_release (own thread : Nat) : change (.release own) thread = if own = thread then -1 else 0 := by
  by_cases same : own = thread <;> simp [change, same]

theorem outstanding_concat (calls : List MutexCall) (call : MutexCall) (thread : Nat) :
    outstanding (calls ++ [call]) thread = outstanding calls thread +
      if (call.run (free.through calls)).1 then change call thread else 0 := by
  rw [outstanding, outstanding, granted_concat]
  split
  · simp only [List.count_append, List.count_singleton, beq_iff_eq, change]
    split <;> split <;> omega
  · simp

/-- No more is outstanding than was called. -/
theorem shallow_of_length (short : calls.length < UInt32.size) : Shallow calls := by
  intro before start thread
  have called := start.length_le
  have succeeded := (granted_sublist free before).length_le
  have counted := List.count_le_length (a := MutexCall.acquire thread) (l := free.granted before)
  unfold outstanding
  omega

/-! ### One call -/

/-- The owner of the mutex has `held` outstanding, which is some and what the mutex counts, and no
other thread has anything outstanding. -/
structure Tallies (mutex : Mutex) (held : Nat → Int) : Prop where
  owner : ∀ thread, mutex.owner = some thread → 0 < held thread ∧ held thread = mutex.recursion.toNat
  others : ∀ thread, mutex.owner ≠ some thread → held thread = 0
  free : mutex.owner = none → mutex.recursion = 0

theorem tallies_free : Tallies free fun _ => 0 :=
  ⟨nofun, fun _ _ => rfl, fun _ => rfl⟩

theorem fst_tryAcquire : (mutex.tryAcquire thread).1 = true ↔
    mutex.owner = none ∨ mutex.owner = some thread := by
  unfold tryAcquire
  split
  · next free => exact iff_of_true rfl free
  · next taken => exact iff_of_false nofun taken

theorem fst_release : (mutex.release thread).1 = true ↔ mutex.owner = some thread := by
  unfold release
  split
  · next owned => exact iff_of_true rfl owned
  · next foreign => exact iff_of_false nofun foreign

/-- A call that fails changes nothing. -/
theorem run_failed (failed : (call.run mutex).1 = false) : (call.run mutex).2 = mutex := by
  cases call with
  | acquire thread =>
    rw [MutexCall.run, ← Bool.not_eq_true, fst_tryAcquire] at failed
    rw [MutexCall.run, tryAcquire, if_neg failed]
  | release thread =>
    rw [MutexCall.run, ← Bool.not_eq_true, fst_release] at failed
    rw [MutexCall.run, release, if_neg failed]

namespace Tallies

variable {held : Nat → Int} (tallies : Tallies mutex held)

include tallies

/-- The mutex counts what a thread that may acquire it has outstanding. -/
theorem held_of_granted (granted : (mutex.tryAcquire thread).1 = true) :
    held thread = mutex.recursion.toNat := by
  rcases fst_tryAcquire.mp granted with free | owned
  · have none : mutex.owner ≠ some thread := by
      rw [free]
      exact nofun
    rw [tallies.others thread none, tallies.free free]
    rfl
  · exact (tallies.owner thread owned).2

/-- A release that succeeds counts down by one, and not below zero. -/
theorem release_counts (granted : (mutex.release thread).1 = true) :
    (mutex.release thread).2.recursion.toNat + 1 = mutex.recursion.toNat := by
  have owned := fst_release.mp granted
  obtain ⟨some, counted⟩ := tallies.owner thread owned
  have one : (1 : UInt32) ≤ mutex.recursion := by
    rw [UInt32.le_iff_toNat_le]
    show 1 ≤ mutex.recursion.toNat
    omega
  rw [release, if_pos owned]
  show (mutex.recursion - 1).toNat + 1 = _
  rw [UInt32.toNat_sub_of_le _ _ one]
  show mutex.recursion.toNat - 1 + 1 = _
  omega

/-- An acquisition that succeeds adds one to what its thread has outstanding, which is the only one
with any. -/
theorem acquire {own : Nat} (granted : (mutex.tryAcquire own).1 = true) (fits : held own + 1 < UInt32.size) :
    Tallies (mutex.tryAcquire own).2 fun thread => held thread + change (.acquire own) thread := by
  have counted := tallies.held_of_granted granted
  have may := fst_tryAcquire.mp granted
  have next : (mutex.recursion + 1).toNat = mutex.recursion.toNat + 1 := by
    rw [UInt32.toNat_add]
    exact Nat.mod_eq_of_lt (show mutex.recursion.toNat + 1 < UInt32.size by omega)
  rw [tryAcquire, if_pos may]
  refine ⟨fun thread owned => ?_, fun thread other => ?_, nofun⟩
  · cases owned
    rw [change_acquire, if_pos rfl, next]
    omega
  · have different : own ≠ thread := fun same => other (congrArg some same)
    have foreign : mutex.owner ≠ some thread := by
      rcases may with free | owned
      · rw [free]
        exact nofun
      · rw [owned]
        exact other
    rw [change_acquire, if_neg different, tallies.others thread foreign]
    rfl

/-- A release that succeeds takes one off what the owner has outstanding; without any left the mutex
is free. -/
theorem release {own : Nat} (granted : (mutex.release own).1 = true) :
    Tallies (mutex.release own).2 fun thread => held thread + change (.release own) thread := by
  have owned := fst_release.mp granted
  obtain ⟨-, counted⟩ := tallies.owner own owned
  have down := tallies.release_counts granted
  have stays : ∀ thread, own ≠ thread → held thread + change (.release own) thread = 0 := by
    intro thread different
    have foreign : mutex.owner ≠ some thread := fun same =>
      different (Option.some.inj (owned.symm.trans same))
    rw [change_release, if_neg different, tallies.others thread foreign]
    rfl
  rw [Mutex.release, if_pos owned] at down ⊢
  dsimp only at down ⊢
  have less : held own + change (.release own) own = (mutex.recursion - 1).toNat := by
    rw [change_release, if_pos rfl]
    omega
  by_cases last : mutex.recursion - 1 = 0
  · rw [if_pos last, last]
    refine ⟨nofun, fun thread _ => ?_, fun _ => rfl⟩
    by_cases same : own = thread
    · rw [← same, less, last]
      rfl
    · exact stays thread same
  · have positive : (mutex.recursion - 1).toNat ≠ 0 := fun zero => last (UInt32.toNat_inj.mp zero)
    rw [if_neg last]
    refine ⟨fun thread mine => ?_, fun thread other => ?_, fun none => ?_⟩
    · cases owned.symm.trans mine
      exact ⟨by omega, less⟩
    · exact stays thread fun same => other (same ▸ owned)
    · rw [owned] at none
      cases none

/-- Owner and count go on to say what is outstanding, as long as there is room in the count. -/
theorem step (call : MutexCall)
    (room : ∀ thread, held thread + change call thread < UInt32.size) :
    Tallies (call.run mutex).2
      fun thread => held thread + if (call.run mutex).1 then change call thread else 0 := by
  cases granted : (call.run mutex).1 with
  | false =>
    rw [run_failed granted]
    simpa using tallies
  | true =>
    cases call with
    | acquire own =>
      have fits := room own
      rw [change_acquire, if_pos rfl] at fits
      exact tallies.acquire granted fits
    | release own => exact tallies.release granted

end Tallies

/-! ### All calls -/

theorem Shallow.prefix_of {before calls : List MutexCall} (shallow : Shallow calls)
    (start : before <+: calls) : Shallow before :=
  fun earlier earliest thread => shallow earlier (earliest.trans start) thread

/-- After any sequence of calls the mutex says what every thread has outstanding. -/
theorem tallies_through (shallow : Shallow calls) :
    Tallies (free.through calls) (outstanding calls) := by
  induction calls using List.reverseRecOn with
  | nil => exact tallies_free
  | append_singleton calls call ih =>
    have tallies := ih (shallow.prefix_of (List.prefix_append _ _))
    have after : outstanding (calls ++ [call]) = _ := funext (outstanding_concat calls call)
    cases granted : (call.run (free.through calls)).1 with
    | false =>
      rw [through_concat, run_failed granted, after]
      simpa [granted] using tallies
    | true =>
      have room : ∀ thread, outstanding calls thread + change call thread < UInt32.size := by
        intro thread
        have now := shallow (calls ++ [call]) (List.prefix_refl _) thread
        rw [outstanding_concat, granted] at now
        exact now
      rw [through_concat, after]
      exact tallies.step call room

/-- What a mutex is after a sequence of calls, and how it answers the next one. -/
structure Exclusive (calls : List MutexCall) (mutex : Mutex) : Prop where
  nonneg : ∀ thread, 0 ≤ outstanding calls thread
  /-- No two threads have anything outstanding. -/
  one : ∀ first second, 0 < outstanding calls first → 0 < outstanding calls second → first = second
  /-- The owner is the thread that has. -/
  owner : ∀ thread, mutex.owner = some thread ↔ 0 < outstanding calls thread
  counted : ∀ thread, mutex.owner = some thread → (mutex.recursion.toNat : Int) = outstanding calls thread
  free : mutex.owner = none → mutex.recursion = 0
  /-- Another owner is the only reason for which it cannot be acquired. -/
  acquire : ∀ thread, (mutex.tryAcquire thread).1 = false ↔
    ∃ other, mutex.owner = some other ∧ other ≠ thread
  /-- It cannot be released by those who have nothing outstanding, and by no one else. -/
  release : ∀ thread, (mutex.release thread).1 = false ↔ outstanding calls thread = 0
  failed : ∀ call : MutexCall, (call.run mutex).1 = false → (call.run mutex).2 = mutex
  /-- A release takes one off the count, which is not zero then. -/
  counts : ∀ thread, (mutex.release thread).1 = true →
    (mutex.release thread).2.recursion.toNat + 1 = mutex.recursion.toNat

/-- **A mutex belongs to the one thread that has acquisitions outstanding, and counts them**,
whatever threads call on it and in whatever order. -/
theorem through_exclusive {calls : List MutexCall} (shallow : Shallow calls) :
    Exclusive calls (free.through calls) := by
  have tallies := tallies_through shallow
  have owner : ∀ thread, (free.through calls).owner = some thread ↔ 0 < outstanding calls thread := by
    intro thread
    constructor
    · exact fun owned => (tallies.owner thread owned).1
    · intro some
      by_contra other
      rw [tallies.others thread other] at some
      omega
  have nonneg : ∀ thread, 0 ≤ outstanding calls thread := by
    intro thread
    by_cases owned : (free.through calls).owner = some thread
    · exact Int.le_of_lt (tallies.owner thread owned).1
    · exact Int.le_of_eq (tallies.others thread owned).symm
  refine ⟨nonneg, fun first second one two => ?_, owner,
    fun thread owned => (tallies.owner thread owned).2.symm, tallies.free, fun thread => ?_,
    fun thread => ?_, fun call => run_failed, fun thread => tallies.release_counts⟩
  · exact Option.some.inj (((owner first).mpr one).symm.trans ((owner second).mpr two))
  · rw [← Bool.not_eq_true, fst_tryAcquire]
    cases (free.through calls).owner with
    | none => simp
    | some other => simp
  · rw [← Bool.not_eq_true, fst_release, owner]
    have known := nonneg thread
    omega

/-- Two nested acquisitions, another thread that can neither acquire nor release, and one release:
one acquisition is outstanding. -/
theorem through_exclusive_nested :
    let calls : List MutexCall := [.acquire 1, .acquire 1, .acquire 2, .release 2, .release 1]
    Shallow calls ∧ Exclusive calls (free.through calls) ∧ free.through calls = ⟨some 1, 1⟩ ∧
      outstanding calls 1 = 1 ∧ outstanding calls 2 = 0 := by
  intro calls
  have shallow : Shallow calls := shallow_of_length (by decide)
  exact ⟨shallow, through_exclusive shallow, by decide, by decide, by decide⟩

/-- With one acquisition too many the count starts again, and the owner would have nothing to
release. -/
example : Mutex.tryAcquire ⟨some 1, 0xFFFFFFFF⟩ 1 = (true, ⟨some 1, 0⟩) := by decide

end Mutex

end GuestDraw
