/-
**Sets of flags, bit by bit.**

A set of flags is the set of its bits. Union, difference and inclusion act on each bit alone, so
what holds of a set with bits added or removed is read off the bits.

* `FlagSet.has_union`, `FlagSet.has_diff`: the bits of a union and of a difference;
* `FlagSet.contains_iff`, `FlagSet.meets_iff`: inclusion and overlap;
* `FlagSet.contains_union`, `FlagSet.meets_union`: asking for several flags at once.
-/

import GuestDraw.Flags.Families

namespace GuestDraw

namespace FlagSet

variable {family : FlagFamily}

/-- The set has the bit with this number. -/
def has (flags : FlagSet family) (bit : Nat) : Bool := flags.bits.toBitVec.getLsbD bit

theorem ext_has {first second : FlagSet family} (same : ∀ bit, first.has bit = second.has bit) :
    first = second := by
  cases first
  cases second
  refine congrArg FlagSet.mk (UInt32.toBitVec_inj.mp (BitVec.eq_of_getLsbD_eq fun bit _ => ?_))
  exact same bit

@[simp] theorem has_union (first second : FlagSet family) (bit : Nat) :
    (first ∪ second).has bit = (first.has bit || second.has bit) := by
  show (first.bits ||| second.bits).toBitVec.getLsbD bit = _
  rw [UInt32.toBitVec_or, BitVec.getLsbD_or]
  rfl

@[simp] theorem has_inter (first second : FlagSet family) (bit : Nat) :
    (first ∩ second).has bit = (first.has bit && second.has bit) := by
  show (first.bits &&& second.bits).toBitVec.getLsbD bit = _
  rw [UInt32.toBitVec_and, BitVec.getLsbD_and]
  rfl

@[simp] theorem has_diff (first second : FlagSet family) (bit : Nat) :
    (first \ second).has bit = (first.has bit && !second.has bit) := by
  show (first.bits &&& ~~~second.bits).toBitVec.getLsbD bit = _
  rw [UInt32.toBitVec_and, UInt32.toBitVec_not, BitVec.getLsbD_and, BitVec.getLsbD_not]
  show (first.bits.toBitVec.getLsbD bit && (decide (bit < 32) && !second.has bit)) = _
  by_cases inside : bit < 32
  · simp [has, inside]
  · simp [has, BitVec.getLsbD_of_ge _ bit (Nat.le_of_not_lt inside)]

@[simp] theorem has_empty (bit : Nat) : (∅ : FlagSet family).has bit = false := by
  show (0 : UInt32).toBitVec.getLsbD bit = false
  simp

theorem union_assoc (first second third : FlagSet family) :
    first ∪ second ∪ third = first ∪ (second ∪ third) :=
  ext_has fun bit => by simp only [has_union, Bool.or_assoc]

theorem eq_empty_iff {flags : FlagSet family} : flags = ∅ ↔ ∀ bit, flags.has bit = false := by
  refine ⟨fun none bit => by rw [none, has_empty], fun none => ext_has fun bit => ?_⟩
  rw [none, has_empty]

theorem isEmpty_iff {flags : FlagSet family} : flags.isEmpty = true ↔ ∀ bit, flags.has bit = false := by
  rw [← eq_empty_iff]
  cases flags
  simp only [isEmpty, decide_eq_true_eq]
  exact ⟨fun zero => by rw [zero]; rfl, fun none => congrArg bits none⟩

theorem contains_iff {flags wanted : FlagSet family} :
    flags.contains wanted = true ↔ ∀ bit, wanted.has bit = true → flags.has bit = true := by
  have inter : flags.contains wanted = true ↔ flags ∩ wanted = wanted := by
    cases wanted
    simp only [contains, decide_eq_true_eq]
    exact ⟨congrArg FlagSet.mk, congrArg bits⟩
  rw [inter]
  constructor
  · intro same bit listed
    have both := has_inter flags wanted bit
    rw [same, listed] at both
    exact (Bool.and_eq_true_iff.mp both.symm).1
  · intro included
    refine ext_has fun bit => ?_
    rw [has_inter]
    cases listed : wanted.has bit with
    | false => rw [Bool.and_false]
    | true => rw [included bit listed, Bool.true_and]

/-- Sets meet if they have something in common. -/
theorem meets_iff_inter {first second : FlagSet family} :
    first.meets second = true ↔ ¬ (first ∩ second).isEmpty = true := by
  simp only [meets, isEmpty, decide_eq_true_eq]
  exact Iff.rfl

theorem meets_iff {first second : FlagSet family} :
    first.meets second = true ↔ ∃ bit, first.has bit = true ∧ second.has bit = true := by
  rw [meets_iff_inter, isEmpty_iff, Classical.not_forall]
  exact exists_congr fun bit => by rw [has_inter, Bool.not_eq_false, Bool.and_eq_true]

/-- Several flags are contained if each of them is. -/
theorem contains_union {flags first second : FlagSet family} :
    flags.contains (first ∪ second) = true ↔
      flags.contains first = true ∧ flags.contains second = true := by
  simp only [contains_iff, has_union, Bool.or_eq_true]
  exact ⟨fun all => ⟨fun bit one => all bit (.inl one), fun bit one => all bit (.inr one)⟩,
    fun both bit one => one.elim (both.1 bit) (both.2 bit)⟩

theorem meets_union {flags first second : FlagSet family} :
    flags.meets (first ∪ second) = true ↔
      flags.meets first = true ∨ flags.meets second = true := by
  simp only [meets_iff, has_union, Bool.or_eq_true]
  constructor
  · rintro ⟨bit, given, one | other⟩
    · exact .inl ⟨bit, given, one⟩
    · exact .inr ⟨bit, given, other⟩
  · rintro (⟨bit, given, one⟩ | ⟨bit, given, other⟩)
    · exact ⟨bit, given, .inl one⟩
    · exact ⟨bit, given, .inr other⟩

/-- Nothing of `wanted` is looked for among flags that are added without meeting it. -/
theorem contains_union_of_apart {flags added wanted : FlagSet family}
    (apart : added.meets wanted = false) :
    (flags ∪ added).contains wanted = flags.contains wanted := by
  rw [Bool.eq_iff_iff, contains_iff, contains_iff]
  refine forall_congr' fun bit => imp_congr_right fun listed => ?_
  have absent : added.has bit = false := by
    refine Bool.eq_false_iff.mpr fun present => ?_
    rw [meets_iff.mpr ⟨bit, present, listed⟩] at apart
    cases apart
  rw [has_union, absent, Bool.or_false]

theorem contains_union_right (first second : FlagSet family) :
    (first ∪ second).contains second = true :=
  contains_iff.mpr fun bit listed => by rw [has_union, listed, Bool.or_true]

/-- A set has no flag beyond `known` if `known` contains it. -/
theorem isEmpty_diff {flags known : FlagSet family} :
    (flags \ known).isEmpty = known.contains flags := by
  rw [Bool.eq_iff_iff, isEmpty_iff, contains_iff]
  refine forall_congr' fun bit => ?_
  rw [has_diff]
  cases flags.has bit <;> simp

end FlagSet

end GuestDraw
