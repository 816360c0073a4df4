/-
**What the guest is answered.**

A method that is called through its stub comes down to one call or one question, and answers with a
word. What happens is what that call does; the answer is zero once it succeeded, and a word with the
top bit set, or the end of the process, once it failed.

* `Method.act?`, `Method.entry`: what a method comes down to;
* `Engine.discard_runMethod`: a method does that and nothing else;
* `Engine.dispatch_eq_zero_iff`, `Engine.dispatch_eq_status_iff`: what its answer tells;
* `answers_faithful`: the answer against how that call ends.
-/

import GuestDraw.Proofs.Session.Failures
import GuestDraw.Proofs.Session.Steps

namespace GuestDraw

variable {α : Type}

/-! ### Methods -/

/-- The call or the question that a method of surfaces comes down to, if there is one. -/
def SurfaceMethod.act? (method : SurfaceMethod) (words : List UInt32) : Option Act :=
  let word (index : Nat) : UInt32 := words.getD index 0
  let pointer (index : Nat) : Nat := (word index).toNat
  match method with
  | addRef => some (.call (.surfaceAddReference (pointer 0)))
  | release => some (.call (.surfaceRelease (pointer 0)))
  | bltFast =>
    some (.call (.bltFast (pointer 0) (word 1).toInt32 (word 2).toInt32 (pointer 3) (pointer 4)
      ⟨word 5⟩))
  | flip => some (.call (.flip (pointer 0) (pointer 1)))
  | getAttachedSurface => some (.call (.getAttachedSurface (pointer 0) (pointer 1) (pointer 2)))
  | getBltStatus => some (.query (.getBltStatus (pointer 0)))
  | getCaps => some (.query (.getCaps (pointer 0) (pointer 1)))
  | getDC => some (.call (.getDC (pointer 0) (pointer 1)))
  | getFlipStatus => some (.query (.getFlipStatus (pointer 0)))
  | getPalette => some (.call (.getPalette (pointer 0) (pointer 1)))
  | getPixelFormat => some (.query (.getPixelFormat (pointer 0) (pointer 1)))
  | getSurfaceDesc => some (.query (.getSurfaceDesc (pointer 0) (pointer 1)))
  | setUp => some (.query (.surfaceSetUp (pointer 0)))
  | isLost => some (.query (.isLost (pointer 0)))
  | lock => some (.call (.lock (pointer 0) (pointer 2) ⟨word 3⟩))
  | releaseDC => some (.call (.releaseDC (pointer 0) (pointer 1)))
  | restore => some (.query (.restore (pointer 0)))
  | setPalette => some (.call (.setPalette (pointer 0) (pointer 1)))
  | unlock => some (.call (.unlock (pointer 0)))
  | _ => none

/-- The call or the question that a method of palettes comes down to, if there is one. -/
def PaletteMethod.act? (method : PaletteMethod) (words : List UInt32) : Option Act :=
  let pointer (index : Nat) : Nat := (words.getD index 0).toNat
  match method with
  | addRef => some (.call (.paletteAddReference (pointer 0)))
  | release => some (.call (.paletteRelease (pointer 0)))
  | getCaps => some (.query (.paletteGetCaps (pointer 0) (pointer 1)))
  | getEntries => some (.query (.paletteGetEntries (pointer 0) (pointer 2) (pointer 3) (pointer 4)))
  | setUp => some (.query (.paletteSetUp (pointer 0)))
  | setEntries => some (.call (.paletteSetEntries (pointer 0) (pointer 2) (pointer 3) (pointer 4)))
  | queryInterface => none

namespace Method

/-- The call or the question that a method comes down to, if there is one. -/
def act? : Method → List UInt32 → Option Act
  | surface method => method.act?
  | palette method => method.act?

/-- What a method does with its dwords; one that is not there is refused. -/
def entry (method : Method) (words : List UInt32) : Engine Unit :=
  match method.act? words with
  | some act => act.run
  | none => throw (.notImplemented method.name)

/-- The method answers with a count. -/
def counts : Method → Bool
  | surface .addRef | surface .release | palette .addRef | palette .release => true
  | _ => false

theorem frank_entry (method : Method) (words : List UInt32) : Engine.Frank (method.entry words) := by
  cases method with
  | surface method =>
    cases method with
    | addRef => exact (Engine.frank_surfaceAddReference _).discard
    | release => exact (Engine.frank_surfaceRelease _).discard
    | bltFast => exact Engine.frank_bltFast _ _ _ _ _ _
    | flip => exact Engine.frank_flip _ _
    | getAttachedSurface => exact (Engine.frank_getAttachedSurface _ _ _).discard
    | getBltStatus => exact Engine.frank_lookUp _ _
    | getCaps => exact Engine.frank_getCaps _ _
    | getDC => exact (Engine.frank_getDC _ _).discard
    | getFlipStatus => exact Engine.frank_lookUp _ _
    | getPalette => exact (Engine.frank_getPalette _ _).discard
    | getPixelFormat => exact Engine.frank_getPixelFormat _ _
    | getSurfaceDesc => exact Engine.frank_getSurfaceDesc _ _
    | setUp => exact Engine.frank_surfaceSetUp _
    | isLost => exact Engine.frank_lookUp _ _
    | lock => exact Engine.frank_lock _ _ _
    | releaseDC => exact Engine.frank_releaseDC _ _
    | restore => exact Engine.frank_lookUp _ _
    | setPalette => exact Engine.frank_setPalette _ _
    | unlock => exact Engine.frank_unlock _
    | _ => exact .throw (Failure.told_notImplemented _)
  | palette method =>
    cases method with
    | addRef => exact (Engine.frank_paletteAddReference _).discard
    | release => exact (Engine.frank_paletteRelease _).discard
    | getCaps => exact Engine.frank_paletteGetCaps _ _
    | getEntries => exact Engine.frank_paletteGetEntries _ _ _ _
    | setUp => exact Engine.frank_paletteSetUp _
    | setEntries => exact Engine.frank_paletteSetEntries _ _ _ _
    | queryInterface => exact .throw (Failure.told_notImplemented _)

end Method

namespace Engine

theorem discard_succeed (call : Engine Unit) : discard (succeed call) = call := by
  funext session
  change EStateM.bind (EStateM.bind call _) _ session = _
  unfold EStateM.bind
  cases call session <;> rfl

theorem discard_counting (call : Engine Nat) : discard (counting call) = discard call := by
  funext session
  change EStateM.bind (EStateM.bind call _) _ session = EStateM.bind call _ session
  unfold EStateM.bind
  cases call session <;> rfl

/-- A method that gets another number of dwords than it takes is refused. -/
theorem runMethod_refused {method : Method} {words : List UInt32}
    (wrong : words.length ≠ method.arity) (session : Session) :
    runMethod method words session =
      .error (.unsupported method.name (.argumentCount words.length method.arity)) session := by
  unfold runMethod
  rw [if_pos wrong]
  rfl

/-- A method answers zero once the call is done that it comes down to. -/
theorem runMethod_eq {method : Method} {words : List UInt32} (sized : words.length = method.arity)
    (plain : method.counts = false) : runMethod method words = succeed (method.entry words) := by
  unfold runMethod
  rw [if_neg (not_not.mpr sized)]
  cases method with
  | surface method => cases method <;> first | rfl | cases plain
  | palette method => cases method <;> first | rfl | cases plain

/-- Besides its answer a method does what the call does that it comes down to. -/
theorem discard_runMethod {method : Method} {words : List UInt32}
    (sized : words.length = method.arity) : discard (runMethod method words) = method.entry words := by
  cases plain : method.counts with
  | false => rw [runMethod_eq sized plain, discard_succeed]
  | true =>
    unfold runMethod
    rw [if_neg (not_not.mpr sized)]
    cases method with
    | surface method => cases method <;> first | exact discard_counting _ | cases plain
    | palette method => cases method <;> first | exact discard_counting _ | cases plain

end Engine

/-- What the guest gets from a failure: its status, if it has one. -/
def Failure.answer (cause : Failure) (final : Session) : EStateM.Result Failure Session UInt32 :=
  match cause.disposition with
  | .status status => .ok status.word final
  | .fatal => .error cause final

namespace Failure

variable {cause other : Failure} {middle final : Session}

theorem answer_eq_ok_iff {word : UInt32} :
    cause.answer middle = .ok word final ↔ middle = final ∧ cause.disposition = .status ⟨word⟩ := by
  unfold answer
  cases cause.disposition with
  | status status =>
    obtain ⟨answered⟩ := status
    simp [and_comm]
  | fatal => simp

theorem answer_eq_error_iff :
    cause.answer middle = .error other final ↔
      (cause = other ∧ middle = final) ∧ cause.disposition = .fatal := by
  unfold answer
  cases cause.disposition with
  | status status => simp
  | fatal => simp

end Failure

namespace Engine

/-- What the guest gets, told by how the method ends. -/
theorem dispatch_eq (method : Method) (words : List UInt32) (session : Session) :
    dispatch method words session =
      match runMethod method words session with
      | .ok word final => .ok word final
      | .error cause final => cause.answer final := by
  change EStateM.bind (EStateM.tryCatch (EStateM.bind (runMethod method words) _) _) _ session = _
  unfold EStateM.bind
  delta EStateM.tryCatch
  cases ended : runMethod method words session with
  | ok word final =>
    simp only [ended]
    rfl
  | error cause final =>
    simp only [ended, Failure.answer]
    cases cause.disposition <;> rfl

/-- What the guest gets from a method that counts nothing. -/
theorem dispatch_plain {method : Method} {words : List UInt32} (sized : words.length = method.arity)
    (plain : method.counts = false) (session : Session) :
    dispatch method words session =
      match method.entry words session with
      | .ok _ final => .ok 0 final
      | .error cause final => cause.answer final := by
  have answered : runMethod method words session =
      EStateM.bind (method.entry words) (fun _ => pure Status.ok.word) session := by
    rw [runMethod_eq sized plain]
    rfl
  unfold EStateM.bind at answered
  rw [dispatch_eq, answered]
  cases method.entry words session <;> rfl

theorem discard_eq_error_iff {call : Engine α} {session final : Session} {cause : Failure} :
    discard call session = .error cause final ↔ call session = .error cause final := by
  change EStateM.bind call _ session = _ ↔ _
  unfold EStateM.bind
  cases call session <;> simp

section Dispatch

variable {method : Method} {words : List UInt32} {session final : Session}

theorem dispatch_refused (wrong : words.length ≠ method.arity) (session : Session) :
    dispatch method words session =
      .error (.unsupported method.name (.argumentCount words.length method.arity)) session := by
  rw [dispatch_eq, runMethod_refused wrong]
  rfl

variable (sized : words.length = method.arity)

include sized

theorem dispatch_eq_error_iff {cause : Failure} :
    dispatch method words session = .error cause final ↔
      method.entry words session = .error cause final ∧ cause.isFatal = true := by
  rw [← discard_runMethod sized, discard_eq_error_iff, dispatch_eq, Failure.isFatal,
    decide_eq_true_iff]
  cases runMethod method words session with
  | ok word middle => exact iff_of_false nofun fun both => nomatch both.1
  | error earlier middle =>
    refine Failure.answer_eq_error_iff.trans ?_
    constructor
    · rintro ⟨⟨rfl, rfl⟩, ends⟩
      exact ⟨rfl, ends⟩
    · rintro ⟨same, ends⟩
      cases same
      exact ⟨⟨rfl, rfl⟩, ends⟩

variable (plain : method.counts = false)

include plain

/-- No failure is answered by zero. -/
theorem dispatch_eq_zero_iff :
    dispatch method words session = .ok 0 final ↔ method.entry words session = .ok () final := by
  rw [dispatch_plain sized plain]
  cases ended : method.entry words session with
  | ok value middle => simp
  | error cause middle =>
    refine iff_of_false (fun answered => ?_) nofun
    obtain ⟨-, known⟩ := Failure.answer_eq_ok_iff.mp answered
    cases method.frank_entry words session cause middle ended _ known

/-- The top bit of an answer is set by failures alone. -/
theorem dispatch_eq_status_iff {word : UInt32} :
    dispatch method words session = .ok word final ∧ word.toBitVec.msb = true ↔
      ∃ cause, method.entry words session = .error cause final ∧
        cause.disposition = .status ⟨word⟩ := by
  rw [dispatch_plain sized plain]
  cases ended : method.entry words session with
  | ok value middle =>
    refine iff_of_false ?_ nofun
    rintro ⟨same, top⟩
    cases same
    cases top
  | error cause middle =>
    constructor
    · rintro ⟨answered, -⟩
      obtain ⟨rfl, known⟩ := Failure.answer_eq_ok_iff.mp answered
      exact ⟨cause, rfl, known⟩
    · rintro ⟨_, same, known⟩
      cases same
      have fails := method.frank_entry words session cause _ ended _ known
      exact ⟨Failure.answer_eq_ok_iff.mpr ⟨rfl, known⟩, Status.isSuccess_eq_false_iff.mp fails⟩

end Dispatch

end Engine

/-! ### Answers -/

/-- What the guest is answered by a method, against how the call ends that the method comes down
to. -/
structure FaithfullyAnswered (method : Method) (words : List UInt32) (session : Session) : Prop where
  /-- The wrong number of dwords ends the process before anything is done. -/
  refused : words.length ≠ method.arity → ∃ cause, cause.isFatal = true ∧
    Engine.dispatch method words session = .error cause session
  /-- The process ends with the failures that are fatal. -/
  fatal : words.length = method.arity → ∀ cause final,
    Engine.dispatch method words session = .error cause final ↔
      method.entry words session = .error cause final ∧ cause.isFatal = true
  /-- The answer to a success is zero. -/
  succeeds : words.length = method.arity → method.counts = false → ∀ final,
    Engine.dispatch method words session = .ok 0 final ↔ method.entry words session = .ok () final
  /-- The answer to any other failure is its status, the top bit of which is set. -/
  fails : words.length = method.arity → method.counts = false → ∀ word final,
    Engine.dispatch method words session = .ok word final ∧ word.toBitVec.msb = true ↔
      ∃ cause, method.entry words session = .error cause final ∧
        cause.disposition = .status ⟨word⟩

/-- **No failure looks like a success**, in whatever state a method is called and with whatever
dwords. -/
theorem answers_faithful (method : Method) (words : List UInt32) (session : Session) :
    FaithfullyAnswered method words session where
  refused wrong := ⟨_, rfl, Engine.dispatch_refused wrong session⟩
  fatal sized _ _ := Engine.dispatch_eq_error_iff sized
  succeeds sized plain _ := Engine.dispatch_eq_zero_iff sized plain
  fails sized plain _ _ := Engine.dispatch_eq_status_iff sized plain

end GuestDraw
