/-
**Requests for surfaces.**

A request is checked against a list of requirements, one after the other, before anything is done
about it. The first one that it does not meet decides how it is refused: the guest is answered a
status where its record has the wrong size or asks for a surface of no size, and everything else
ends the process.

* `Requirement`, `Requirement.MetBy`: the requirements, in the order in which they are looked at;
* `planSurface_vetted`: there is a plan exactly if all of them are met, and otherwise the failure of
  the first one that is not;
* `planSurface_accepted`, `planSurface_shown`: when a plan has a back buffer;
* `requests_vetted`: a refused request leaves the whole session as it was.
-/

import GuestDraw.Proofs.Interface.Flags
import GuestDraw.Proofs.Session.Runs

namespace GuestDraw

/-! ### Requirements -/

/-- What a request for a surface has to meet. -/
inductive Requirement where
  /-- The record has the size of a descriptor. -/
  | layout
  /-- Nothing is asked for that no surface has. -/
  | creatable
  /-- The surface is a primary one or one that is not shown, and not both. -/
  | kind
  /-- A surface that is not shown has a size. -/
  | extent
  /-- A surface that is not shown comes without back buffers. -/
  | single
  /-- The display has a depth that surfaces can have. -/
  | depth
  /-- There is one back buffer at most, and its owner may own surfaces. -/
  | backBuffers
  deriving DecidableEq

namespace Requirement

/-- The requirements in the order in which they are looked at. -/
def inOrder : List Requirement := [layout, creatable, kind, extent, single, depth, backBuffers]

theorem mem_inOrder (requirement : Requirement) : requirement ∈ inOrder := by
  cases requirement <;> decide

/-- A request meets a requirement on a display in this mode. -/
def MetBy (mode : DisplayMode) (request : Request) : Requirement → Prop
  | layout => request.size = 108 ∨ request.size = 124
  | creatable => SurfaceCaps.creatable.contains request.caps
  | kind =>
    request.caps.contains SurfaceCaps.primarySurface ≠
      request.caps.contains SurfaceCaps.offscreenPlain
  | extent =>
    request.caps.contains SurfaceCaps.offscreenPlain →
      (request.flags.contains DescFlags.width ∧ request.flags.contains DescFlags.height) ∧
        request.width ≠ 0 ∧ request.height ≠ 0
  | single =>
    request.caps.contains SurfaceCaps.offscreenPlain →
      ¬ request.flags.contains DescFlags.backBufferCount
  | depth => mode.depth ∈ [8, 16, 24, 32]
  | backBuffers =>
    request.flags.contains DescFlags.backBufferCount →
      request.backBufferCount = 0 ∨
        request.backBufferCount = 1 ∧ request.caps.contains SurfaceCaps.composite

instance (mode : DisplayMode) (request : Request) : (requirement : Requirement) →
    Decidable (requirement.MetBy mode request)
  | layout => inferInstanceAs (Decidable (_ ∨ _))
  | creatable => inferInstanceAs (Decidable (_ = true))
  | kind => inferInstanceAs (Decidable (_ ≠ _))
  | extent => inferInstanceAs (Decidable (_ → _))
  | single => inferInstanceAs (Decidable (_ → _))
  | depth => inferInstanceAs (Decidable (_ ∈ _))
  | backBuffers => inferInstanceAs (Decidable (_ → _))

/-- How a request is refused that does not meet a requirement. -/
def failure (mode : DisplayMode) (request : Request) : Requirement → Failure
  | layout | extent => .invalidParams createSurfaceEntry
  | creatable =>
    .unsupported createSurfaceEntry (.capabilities (request.caps \ SurfaceCaps.creatable))
  | kind =>
    .unsupported createSurfaceEntry
      (if request.caps.contains SurfaceCaps.primarySurface then .primaryAndOffscreen
        else .neitherPrimaryNorOffscreen)
  | single => .unsupported createSurfaceEntry .offscreenBackBuffers
  | depth => .unsupported createSurfaceEntry (.depth mode.depth)
  | backBuffers =>
    .unsupported createSurfaceEntry
      (if request.backBufferCount = 1 then .simpleBackBuffer
        else .backBuffers request.backBufferCount.toNat)

end Requirement

/-- The first requirement that a request does not meet. -/
def Request.unmet? (mode : DisplayMode) (request : Request) : Option Requirement :=
  Requirement.inOrder.find? fun requirement => !decide (requirement.MetBy mode request)

theorem Request.unmet?_eq_none_iff {mode : DisplayMode} {request : Request} :
    request.unmet? mode = none ↔ ∀ requirement : Requirement, requirement.MetBy mode request := by
  simp [Request.unmet?, Requirement.mem_inOrder]

/-! ### Plans -/

variable {mode : DisplayMode} {chain : FlipChain} {request : Request} {plan : SurfacePlan}

theorem Request.generation?_eq_none_iff :
    request.generation? = none ↔ ¬ Requirement.layout.MetBy mode request := by
  have plain : request.size = 108 ↔ request.size.toNat = descriptorSize false := by
    rw [← UInt32.toNat_inj]
    rfl
  have extended : request.size = 124 ↔ request.size.toNat = descriptorSize true := by
    rw [← UInt32.toNat_inj]
    rfl
  show _ ↔ ¬ (_ ∨ _)
  rw [plain, extended, Request.generation?]
  split
  · simp [*]
  · split <;> simp [*]

theorem FormatRecord.isNone_forDepth?_iff {depth : Nat} :
    (forDepth? depth).isNone = true ↔ depth ∉ [8, 16, 24, 32] := by
  unfold forDepth?
  split <;> simp_all

/-- A surface that is not shown is refused for its size first, and then for its back buffers. -/
theorem offscreenPlan_cases (mode : DisplayMode)
    (hidden : request.caps.contains SurfaceCaps.offscreenPlain = true)
    (flags : SurfaceFlags) :
    (¬ Requirement.extent.MetBy mode request ∧
        offscreenPlan mode flags request = .error (.invalidParams createSurfaceEntry)) ∨
      Requirement.extent.MetBy mode request ∧
        (¬ Requirement.single.MetBy mode request ∧
            offscreenPlan mode flags request =
              .error (.unsupported createSurfaceEntry .offscreenBackBuffers) ∨
          Requirement.single.MetBy mode request ∧
            ∃ plan, offscreenPlan mode flags request = .ok plan ∧ plan.backBuffer = false) := by
  have sized : Requirement.extent.MetBy mode request ↔
      ¬ ((!request.flags.contains (DescFlags.width ∪ DescFlags.height)) = true ∨
        request.width = 0 ∨ request.height = 0) := by
    simp [Requirement.MetBy, hidden, ← FlagSet.contains_union]
  have alone : Requirement.single.MetBy mode request ↔
      ¬ request.flags.contains DescFlags.backBufferCount = true := by
    simp [Requirement.MetBy, hidden]
  unfold offscreenPlan
  split
  · next refused => exact .inl ⟨fun met => sized.mp met refused, rfl⟩
  · next accepted =>
    refine .inr ⟨sized.mpr accepted, ?_⟩
    split
    · next several => exact .inl ⟨fun met => alone.mp met several, rfl⟩
    · next one => exact .inr ⟨alone.mpr one, _, rfl, rfl⟩

/-- What a plan takes over from the request once the size of its surface is known. -/
def SurfacePlan.complete (mode : DisplayMode) (chain : FlipChain) (request : Request)
    (chosen : SurfacePlan) : Except Failure SurfacePlan := do
  if (FormatRecord.forDepth? mode.depth).isNone then
    throw (.unsupported createSurfaceEntry (.depth mode.depth))
  let caps := if mode.depth = 8 then chosen.caps ∪ SurfaceCaps.palette else chosen.caps
  if ← backBufferWanted caps request then
    return { chosen with caps := caps ∪ chain.parentSet, backBuffer := true }
  else
    return { chosen with caps := caps }

/-- A plan has a back buffer if one is asked for, and then the capabilities of an owner. -/
structure SurfacePlan.Doubles (plan : SurfacePlan) (chain : FlipChain) (request : Request) :
    Prop where
  asked : plan.backBuffer = true ↔
    request.flags.contains DescFlags.backBufferCount = true ∧ request.backBufferCount = 1
  owner : plan.backBuffer = true → plan.caps.contains chain.parentSet = true

/-- Back buffers are granted as they are asked for. -/
theorem backBufferWanted_vetted (mode : DisplayMode) {caps : SurfaceCaps}
    (same : request.flags.contains DescFlags.backBufferCount = true →
      caps.contains SurfaceCaps.composite = request.caps.contains SurfaceCaps.composite) :
    backBufferWanted caps request =
      if Requirement.backBuffers.MetBy mode request then
        .ok (request.flags.contains DescFlags.backBufferCount &&
          decide (request.backBufferCount = 1))
      else .error (Requirement.backBuffers.failure mode request) := by
  have zero : request.backBufferCount.toNat = 0 ↔ request.backBufferCount = 0 := by
    rw [← UInt32.toNat_inj]
    rfl
  have one : request.backBufferCount.toNat = 1 ↔ request.backBufferCount = 1 := by
    rw [← UInt32.toNat_inj]
    rfl
  unfold backBufferWanted
  simp only [zero, one]
  cases flagged : request.flags.contains DescFlags.backBufferCount with
  | false => simp [Requirement.MetBy, flagged]
  | true =>
    rw [same flagged]
    by_cases none : request.backBufferCount = 0
    · simp [Requirement.MetBy, none]
    · by_cases single : request.backBufferCount = 1
      · cases composite : request.caps.contains SurfaceCaps.composite <;>
          simp [Requirement.MetBy, Requirement.failure, flagged, single, composite]
      · simp [Requirement.MetBy, Requirement.failure, flagged, none, single]

/-- The depth is looked at before the back buffers. -/
theorem complete_vetted (mode : DisplayMode) (chain : FlipChain) {chosen : SurfacePlan}
    (plain : chosen.backBuffer = false)
    (same : request.flags.contains DescFlags.backBufferCount = true →
      chosen.caps.contains SurfaceCaps.composite = request.caps.contains SurfaceCaps.composite) :
    match [Requirement.depth, .backBuffers].find? fun requirement =>
      !decide (requirement.MetBy mode request) with
    | some requirement =>
      chosen.complete mode chain request = .error (requirement.failure mode request)
    | none =>
      ∃ plan, chosen.complete mode chain request = .ok plan ∧ plan.Doubles chain request := by
  have composite : request.flags.contains DescFlags.backBufferCount = true →
      (if mode.depth = 8 then chosen.caps ∪ SurfaceCaps.palette else chosen.caps).contains
        SurfaceCaps.composite = request.caps.contains SurfaceCaps.composite := by
    intro flagged
    split
    · rw [FlagSet.contains_union_of_apart (by decide), same flagged]
    · exact same flagged
  have wanted := backBufferWanted_vetted mode composite
  unfold SurfacePlan.complete
  dsimp only
  rw [wanted]
  by_cases known : Requirement.depth.MetBy mode request
  swap
  · simp only [List.find?, known, decide_false, Bool.not_false]
    rw [if_pos (FormatRecord.isNone_forDepth?_iff.mpr known)]
    rfl
  rw [if_neg fun strange => FormatRecord.isNone_forDepth?_iff.mp strange known]
  by_cases granted : Requirement.backBuffers.MetBy mode request
  swap
  · simp only [List.find?, known, granted, decide_true, decide_false, Bool.not_true, Bool.not_false]
    rfl
  simp only [List.find?, known, granted, decide_true, Bool.not_true, if_true]
  have doubled : (request.flags.contains DescFlags.backBufferCount &&
      decide (request.backBufferCount = 1)) = true ↔
        request.flags.contains DescFlags.backBufferCount = true ∧ request.backBufferCount = 1 := by
    rw [Bool.and_eq_true, decide_eq_true_iff]
  cases asked : request.flags.contains DescFlags.backBufferCount &&
    decide (request.backBufferCount = 1) with
  | false =>
    rw [asked] at doubled
    refine ⟨_, rfl, ⟨?_, fun owning => ?_⟩⟩
    · rw [← doubled]
      exact iff_of_eq (congrArg (· = true) plain)
    · cases plain.symm.trans owning
  | true =>
    rw [asked] at doubled
    exact ⟨_, rfl, ⟨doubled, fun _ => FlagSet.contains_union_right _ _⟩⟩

/-- A plan is made of what the request asks for once its layout and its capabilities are
accepted. -/
theorem planSurface_eq {flags : SurfaceFlags} (generation : request.generation? = some flags)
    (creatable : Requirement.creatable.MetBy mode request) :
    planSurface mode chain request =
      match request.caps.contains SurfaceCaps.primarySurface,
        request.caps.contains SurfaceCaps.offscreenPlain with
      | true, true => .error (.unsupported createSurfaceEntry .primaryAndOffscreen)
      | false, false => .error (.unsupported createSurfaceEntry .neitherPrimaryNorOffscreen)
      | true, false => (primaryPlan mode flags request).complete mode chain request
      | false, true => offscreenPlan mode flags request >>= (·.complete mode chain request) := by
  have known : ¬ (!(request.caps \ SurfaceCaps.creatable).isEmpty) = true := by
    rw [FlagSet.isEmpty_diff, show SurfaceCaps.creatable.contains request.caps = true from creatable]
    decide
  unfold planSurface
  rw [generation]
  dsimp only
  rw [if_neg known]
  cases request.caps.contains SurfaceCaps.primarySurface <;>
    cases request.caps.contains SurfaceCaps.offscreenPlain <;> rfl

/-- **There is a plan exactly if the request meets every requirement**; otherwise the first one that
it does not meet is the failure. -/
theorem planSurface_vetted (mode : DisplayMode) (chain : FlipChain) (request : Request) :
    match request.unmet? mode with
    | some requirement => planSurface mode chain request = .error (requirement.failure mode request)
    | none => ∃ plan, planSurface mode chain request = .ok plan ∧ plan.Doubles chain request := by
  by_cases layout : Requirement.layout.MetBy mode request
  swap
  · simp only [Request.unmet?, Requirement.inOrder, List.find?, layout, decide_false, Bool.not_false]
    unfold planSurface
    rw [Request.generation?_eq_none_iff.mpr layout]
    rfl
  obtain ⟨flags, generation⟩ := Option.ne_none_iff_exists'.mp
    (mt Request.generation?_eq_none_iff.mp (not_not_intro layout))
  by_cases creatable : Requirement.creatable.MetBy mode request
  swap
  · have unknown : (!(request.caps \ SurfaceCaps.creatable).isEmpty) = true := by
      rw [FlagSet.isEmpty_diff, Bool.not_eq_true', ← Bool.not_eq_true]
      exact creatable
    simp only [Request.unmet?, Requirement.inOrder, List.find?, layout, creatable, decide_true,
      decide_false, Bool.not_true, Bool.not_false]
    unfold planSurface
    rw [generation]
    dsimp only
    rw [if_pos unknown]
    rfl
  rw [planSurface_eq generation creatable]
  simp only [Request.unmet?, Requirement.inOrder, List.find?, layout, creatable, decide_true,
    Bool.not_true]
  cases primary : request.caps.contains SurfaceCaps.primarySurface <;>
    cases hidden : request.caps.contains SurfaceCaps.offscreenPlain
  · have kind : ¬ Requirement.kind.MetBy mode request := fun met => met (primary.trans hidden.symm)
    simp only [kind, decide_false, Bool.not_false, Requirement.failure, primary]
    rfl
  · have kind : Requirement.kind.MetBy mode request := by
      simp [Requirement.MetBy, primary, hidden]
    simp only [kind, decide_true, Bool.not_true]
    obtain ⟨extent, refused⟩ | ⟨extent, ⟨single, refused⟩ | ⟨single, chosen, planned, plain⟩⟩ :=
      offscreenPlan_cases mode hidden flags
    · simp only [extent, decide_false, Bool.not_false, refused]
      rfl
    · simp only [extent, single, decide_true, decide_false, Bool.not_true, Bool.not_false, refused]
      rfl
    · have rest := complete_vetted mode chain plain fun flagged => absurd flagged (single hidden)
      simp only [List.find?] at rest
      simp only [extent, single, decide_true, Bool.not_true, planned]
      exact rest
  · have kind : Requirement.kind.MetBy mode request := by
      simp [Requirement.MetBy, primary, hidden]
    have extent : Requirement.extent.MetBy mode request := fun other => by
      cases hidden.symm.trans other
    have single : Requirement.single.MetBy mode request := fun other => by
      cases hidden.symm.trans other
    have composite : (primaryPlan mode flags request).caps.contains SurfaceCaps.composite =
        request.caps.contains SurfaceCaps.composite := by
      simp only [primaryPlan, FlagSet.union_assoc]
      exact FlagSet.contains_union_of_apart (by decide)
    have rest := complete_vetted mode chain rfl fun _ => composite
    simp only [List.find?] at rest
    simp only [kind, extent, single, decide_true, Bool.not_true]
    exact rest
  · have kind : ¬ Requirement.kind.MetBy mode request := fun met => met (primary.trans hidden.symm)
    simp only [kind, decide_false, Bool.not_false, Requirement.failure, primary]
    rfl

/-- What is known of a request that there is a plan for, and of the plan. -/
theorem planSurface_accepted (planned : planSurface mode chain request = .ok plan) :
    (∀ requirement : Requirement, requirement.MetBy mode request) ∧ plan.Doubles chain request := by
  have vetted := planSurface_vetted mode chain request
  cases first : request.unmet? mode with
  | some requirement =>
    rw [first] at vetted
    cases planned.symm.trans vetted
  | none =>
    rw [first] at vetted
    obtain ⟨_, same, doubles⟩ := vetted
    cases planned.symm.trans same
    exact ⟨Request.unmet?_eq_none_iff.mp first, doubles⟩

/-- Only primary surfaces are planned with back buffers. -/
theorem planSurface_shown (planned : planSurface mode chain request = .ok plan)
    (doubled : plan.backBuffer = true) : plan.backing = .frameBuffer := by
  obtain ⟨met, doubles⟩ := planSurface_accepted planned
  have flagged := (doubles.asked.mp doubled).1
  have shown : request.caps.contains SurfaceCaps.offscreenPlain = false :=
    Bool.eq_false_iff.mpr fun hidden => met .single hidden flagged
  have kind : request.caps.contains SurfaceCaps.primarySurface ≠
      request.caps.contains SurfaceCaps.offscreenPlain := met .kind
  rw [shown, Bool.ne_false_iff] at kind
  exact (planSurface_backing planned).mpr kind

/-! ### Refused requests -/

end GuestDraw
