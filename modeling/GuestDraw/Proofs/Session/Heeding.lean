/-
**Runs that heed memory.**

What the guest stores, and what a call or a question stores in the buffer that it was given, can lie
anywhere, also on a block or a vtable. A run heeds memory that is in use for something if none of it
lies there. It does not matter where a buffer is that nothing was stored to, as when a call was
refused.

* `Session.meant?`, `Session.next_meant`: the call or the question that an act comes down to;
* `Session.Overwrites`, `Session.Heeds`: what an act stores on account of the guest, and runs with
  which memory is left alone;
* `ends_refused`: what fails has stored no answer, save for three of them, for which there is
  `ends_hasty`;
* `Tended.through`: what a run keeps that heeds memory.
-/

import GuestDraw.Proofs.Session.Answers
import GuestDraw.Proofs.Session.Separation
import GuestDraw.Proofs.Session.Stores

namespace GuestDraw

/-! ### What acts come down to -/

/-- The call or the question that a method comes down to, if it gets as many dwords as it takes. -/
def Method.asked? (method : Method) (words : List UInt32) : Option Act :=
  if words.length = method.arity then method.act? words else none

theorem Method.plain_of_act? {method : Method} {words : List UInt32} {act : Act}
    (asked : method.act? words = some act) : act.Plain := by
  cases method with
  | surface method => cases method <;> cases asked <;> trivial
  | palette method => cases method <;> cases asked <;> trivial

/-- A call through a stub is one of the method that the stub stands for. -/
theorem Engine.callStub_eq (stub : Nat) (words : List UInt32) (session : Session) :
    callStub stub words session =
      match session.methodAt? stub with
      | some method => dispatch method words session
      | none => .error (.unsupported "vtable dispatch" (.unknownStub stub)) session := by
  unfold callStub
  change EStateM.bind (fun session => .ok session session) _ session = _
  dsimp only [EStateM.bind]
  cases session.methodAt? stub <;> rfl

namespace Session

/-- The call or the question that an act comes down to; a method that is refused comes down to
none. -/
def meant? (session : Session) : Act → Option Act
  | .dispatch method words => method.asked? words
  | .callStub stub words => (session.methodAt? stub).bind fun method => method.asked? words
  | act => some act

/-- The state that a call leaves behind. -/
def left {α : Type} (session : Session) (call : Engine α) : Session :=
  match call session with
  | .ok _ final => final
  | .error _ final => final

theorem next_eq_left (session : Session) (act : Act) : session.next act = session.left act.run := by
  unfold next left
  cases act.run session <;> rfl

theorem left_discard {α : Type} (session : Session) (call : Engine α) :
    session.left (discard call) = session.left call := by
  have ended : discard call session = EStateM.bind call (fun _ => pure ()) session := rfl
  unfold left
  rw [ended, EStateM.bind]
  cases call session <;> rfl

theorem next_dispatch (session : Session) (method : Method) (words : List UInt32) :
    session.next (.dispatch method words) =
      ((method.asked? words).map session.next).getD session := by
  -- A failure that has a status leaves the same state behind as one that has none.
  have answered : session.left (Engine.dispatch method words) =
      session.left (Engine.runMethod method words) := by
    unfold left
    rw [Engine.dispatch_eq]
    cases Engine.runMethod method words session with
    | ok word final => rfl
    | error cause final =>
      dsimp only [Failure.answer]
      cases cause.disposition <;> rfl
  rw [next_eq_left, Act.run, left_discard, answered, Method.asked?]
  by_cases sized : words.length = method.arity
  · rw [if_pos sized, ← left_discard, Engine.discard_runMethod sized, Method.entry]
    cases method.act? words with
    | some act => exact (session.next_eq_left act).symm
    | none => rfl
  · rw [if_neg sized, left, Engine.runMethod_refused sized]
    rfl

/-- An act does what the call or the question does that it comes down to. -/
theorem next_meant (session : Session) (act : Act) :
    session.next act = ((session.meant? act).map session.next).getD session := by
  cases act with
  | dispatch method words => exact session.next_dispatch method words
  | callStub stub words =>
    rw [next_eq_left, Act.run, left_discard, meant?, left, Engine.callStub_eq]
    cases session.methodAt? stub with
    | some method =>
      rw [Option.bind_some, ← next_dispatch, next_eq_left, Act.run, left_discard, left]
    | none => rfl
  | _ => rfl

theorem plain_of_meant? {session : Session} {act asked : Act}
    (meant : session.meant? act = some asked) : asked.Plain := by
  have method : ∀ {method : Method} {words : List UInt32}, method.asked? words = some asked →
      asked.Plain := by
    intro method words known
    unfold Method.asked? at known
    split at known
    · exact Method.plain_of_act? known
    · cases known
  cases act with
  | dispatch => exact method meant
  | callStub stub words =>
    obtain ⟨_, -, known⟩ := Option.bind_eq_some_iff.mp meant
    exact method known
  | _ =>
    cases meant
    trivial

end Session

/-! ### What is stored on account of the guest -/

/-- What is asked for stores its answer, or a part of it, before it is clear that it succeeds. -/
def Act.hasty : Act → Bool
  | call (.lock _ _ _) | call (.getDC _ _) | query (.paletteGetEntries _ _ _ _) => true
  | _ => false

namespace Session

/-- The byte at `point` is one of those that the guest stores, or that are stored in a buffer that
is given for an answer. What is hasty and fails may have stored a part of it. -/
def Overwrites (session : Session) (act : Act) (point : Nat) : Prop :=
  ∃ asked target, session.meant? act = some asked ∧ session.target? asked = some target ∧
    target.Covers point ∧ ((∃ final, asked.run session = .ok () final) ∨ asked.hasty = true ∧
      (session.next asked).memory.byte? point ≠ session.memory.byte? point)

/-- Along the run no act stores on account of the guest where memory is in use for something in
`kept` after it. -/
def Heeds (session : Session) (kept : Use → Prop) : List Act → Prop
  | [] => True
  | act :: rest =>
    (∀ use extent, kept use → (session.next act).extent? use = some extent →
      ∀ point, extent.Covers point → ¬ session.Overwrites act point) ∧
      (session.next act).Heeds kept rest

end Session

section Refused

variable {holds : Session → Prop} (kept : Kept Discreet holds) {session : Session}
  (held : holds session)

include held

/-- A question that fails has stored nothing, unless it is answered piece by piece. -/
theorem ends_refusedQuery (query : Query) (steady : (Act.query query).hasty = false) :
    Ends query.run session (fun _ _ => True) holds := by
  have looked : session.queryBuffer? query = none → Ends query.run session (fun _ _ => True) holds :=
    fun none => (ends_query held query (by simp [none])).weaken fun _ _ _ => trivial
  cases query with
  | getSurfaceDesc this out =>
    refine (ends_resolveSurface held _ this).bind ?_
    rintro handle _ ⟨rfl, -⟩
    refine (ends_surfaceAt held handle).bind ?_
    rintro surface session ⟨rfl, -⟩
    refine .guarded held fun notNull => (ends_readDword held out).bind ?_
    rintro size _ ⟨rfl, -⟩
    exact .guarded held fun sized => (ends_move held _ _ _).weaken fun _ _ _ => trivial
  | getCaps this out =>
    refine (ends_resolveSurface held _ this).bind ?_
    rintro handle _ ⟨rfl, -⟩
    refine (ends_surfaceAt held handle).bind ?_
    rintro surface session ⟨rfl, -⟩
    exact .guarded held fun notNull => (ends_move held _ _ _).weaken fun _ _ _ => trivial
  | getPixelFormat this out =>
    refine (ends_resolveSurface held _ this).bind ?_
    rintro handle _ ⟨rfl, -⟩
    refine (ends_surfaceAt held handle).bind ?_
    rintro surface _ ⟨rfl, -⟩
    refine .guarded held fun notNull => (ends_readDword held out).bind ?_
    rintro size _ ⟨rfl, -⟩
    exact .guarded held fun sized => (ends_move held _ _ _).weaken fun _ _ _ => trivial
  | paletteGetCaps this out =>
    refine (ends_resolvePalette held _ this).bind ?_
    rintro handle _ ⟨rfl, -⟩
    refine .guarded held fun notNull => (ends_paletteAt held handle).bind ?_
    rintro palette _ ⟨rfl, -⟩
    exact (ends_write held out _).weaken fun _ _ _ => trivial
  | paletteGetEntries => cases steady
  | _ => exact looked rfl

include kept

/-- A call that fails has stored no answer, unless it goes on once it has stored it. -/
theorem ends_refusedCall
    (created : ∀ {handle surface final}, Created session handle surface final → holds final)
    (abandoned : ∀ {final}, Abandoned session final → holds final) (call : Call)
    (steady : (Act.call call).hasty = false) :
    Ends call.run session (fun _ _ => True) holds := by
  have unchanged : ∀ final, final = session → holds final := fun _ same => same ▸ held
  have handed : ∀ {call : Engine Nat} {out : Nat} {done : Nat → Session → Prop},
      Ends call session done (fun final => final = session ∨ session.memory.holds out 4 = false ∧
        ∃ pointer, Taking session pointer final) →
      Ends (discard call) session (fun _ _ => True) holds := by
    intro call out done ends
    refine ends.discard.imp (fun _ _ _ => trivial) ?_
    rintro final (same | ⟨-, pointer, taking⟩)
    · exact unchanged final same
    · exact kept.step held (.taking taking)
  have alone : session.callBuffer? call = none → Ends call.run session (fun _ _ => True) holds := by
    intro none
    refine (ends_call kept held call (fun request out same => ?_) (by simp [none])).weaken
      fun _ _ _ => trivial
    subst same
    cases none
  cases call with
  | createSurface request out =>
    refine (ends_createSurface (kept.linked held).numbered request out).discard.imp
      (fun _ _ _ => trivial) ?_
    rintro final (left | ⟨-, handle, surface, made⟩)
    · exact abandoned left
    · exact created made
  | createPalette caps colours out =>
    refine (ends_createPalette session caps colours out).discard.imp (fun _ _ _ => trivial) ?_
    rintro final (ground | ⟨-, handle, palette, mixed⟩)
    · exact kept.step held (.prepared ground)
    · exact kept.step held (.mixed mixed)
  | getAttachedSurface this caps out =>
    exact handed (ends_getAttachedSurface (kept.linked held) this caps out)
  | getPalette this out => exact handed (ends_getPalette this out)
  | lock => cases steady
  | getDC => cases steady
  | _ => exact alone rfl

/-- What fails has stored no answer, save for what stores its answer early. -/
theorem ends_refused
    (created : ∀ {handle surface final}, Created session handle surface final → holds final)
    (abandoned : ∀ {final}, Abandoned session final → holds final) {act : Act} (plain : act.Plain)
    (steady : act.hasty = false) : Ends act.run session (fun _ _ => True) holds := by
  have alone : session.target? act = none → Ends act.run session (fun _ _ => True) holds := by
    intro none
    refine (ends_plain kept held plain (fun request out same => ?_) (by simp [none])).weaken
      fun _ _ _ => trivial
    subst same
    cases none
  cases act with
  | call call => exact ends_refusedCall kept held created abandoned call steady
  | query query => exact ends_refusedQuery held query steady
  | store address data => exact (ends_write held address data).weaken fun _ _ _ => trivial
  | dispatch => exact absurd plain id
  | callStub => exact absurd plain id
  | _ => exact alone rfl

end Refused

/-- What stores its answer early does nothing else that the guest could see. -/
theorem ends_hasty {holds : Session → Prop} (kept : Kept Tidying holds) {session : Session}
    (held : holds session) {act : Act} (hasty : act.hasty = true)
    (answers : ∀ target, session.target? act = some target →
      Spares holds target.address target.length) : Ends act.run session (fun _ => holds) holds := by
  cases act with
  | call call =>
    cases call with
    | lock this out flags =>
      refine ends_lock kept held this out flags fun handle surface resolved live => ?_
      refine answers ⟨out, surface.descriptorSize⟩ ?_
      rw [Session.target?, Session.callBuffer?, Session.surfaceOf?_eq_some resolved live,
        Option.map_some]
    | getDC this out => exact (ends_getDC kept held this out (answers ⟨out, 4⟩ rfl)).forget
    | _ => cases hasty
  | query query => exact ends_query held query answers
  | _ => cases hasty

/-! ### Runs -/

/-- What `holds` says outlives what the engine does, and stores to the bytes in `spoilt`, of which
it says nothing. If no memory in `kept` has such bytes, it says as much as if there were none of
them. -/
structure Tended (kept : Use → Prop) (holds : (Nat → Prop) → Session → Prop) : Prop where
  arranged : ∀ {spoilt session}, holds spoilt session → Arranged session
  discreet : ∀ {spoilt start final}, holds spoilt start → Discreet start final → holds spoilt final
  created : ∀ {spoilt start handle surface final}, holds spoilt start →
    Created start handle surface final → holds spoilt final
  abandoned : ∀ {spoilt start final}, holds spoilt start → Abandoned start final → holds spoilt final
  grazed : ∀ {spoilt start final}, holds spoilt start → Arranged final → Grazed spoilt start final →
    holds spoilt final
  mono : ∀ {spoilt more : Nat → Prop} {session}, (∀ point, spoilt point → more point) →
    holds spoilt session → holds more session
  mend : ∀ {spoilt session}, holds spoilt session →
    (∀ use extent, kept use → session.extent? use = some extent →
      ∀ point, extent.Covers point → ¬ spoilt point) → holds (fun _ => False) session

namespace Tended

variable {kept : Use → Prop} {holds : (Nat → Prop) → Session → Prop} (tended : Tended kept holds)
  {session : Session}

include tended

theorem kept_discreet (spoilt : Nat → Prop) : Kept Discreet (holds spoilt) :=
  ⟨fun held => (tended.arranged held).sited.linked, tended.discreet⟩

theorem spares {spoilt : Nat → Prop} {target : Extent}
    (inside : ∀ point, target.Covers point → spoilt point) :
    Spares (holds spoilt) target.address target.length := by
  intro start place data held backed above below
  refine tended.grazed held ((tended.arranged held).step (.onward (.stored backed)))
    (.stored backed fun point low high => inside point ⟨above.trans low, ?_⟩)
  exact Nat.lt_of_lt_of_le high below

theorem createSurface {spoilt : Nat → Prop} (held : holds spoilt session) (request out : Nat)
    (answers : Spares (holds spoilt) out 4) :
    Ends (discard (Engine.createSurface request out)) session (fun _ => holds spoilt)
      (holds spoilt) := by
  have linked := (tended.arranged held).sited.linked
  refine (ends_createSurface linked.numbered request out).discard.imp ?_ ?_
  · rintro _ _ ⟨_, handle, surface, middle, made, rfl, backed, rfl⟩
    refine answers.answered (tended.created held made) ?_
    rw [made.holds]
    exact backed
  · rintro final (left | ⟨-, handle, surface, made⟩)
    · exact tended.abandoned held left
    · exact tended.created held made

/-- What fails has stored nothing but, perhaps, a part of its answer. -/
theorem next_refused (held : holds (fun _ => False) session) {asked : Act} (plain : asked.Plain)
    (fails : ¬ ∃ final, asked.run session = .ok () final) {spoilt : Nat → Prop}
    (stored : asked.hasty = true → ∀ target, session.target? asked = some target →
      ∀ point, target.Covers point →
        (session.next asked).memory.byte? point ≠ session.memory.byte? point → spoilt point) :
    holds spoilt (session.next asked) := by
  have widened : holds spoilt session := tended.mono (fun _ none => none.elim) held
  by_cases hasty : asked.hasty = true
  · let touched (point : Nat) := ∃ target, session.target? asked = some target ∧ target.Covers point
    have kept : Kept Tidying fun final => Arranged final ∧ Grazed touched session final :=
      ⟨fun held => held.1.sited.linked, fun held step =>
        ⟨held.1.step (.onward (.tidying step)), held.2.trans (.tidying held.1 step)⟩⟩
    obtain ⟨arranged, grazed⟩ :=
      (ends_hasty kept ⟨tended.arranged held, .refl session⟩ hasty fun target given => by
        rintro start place data ⟨arranged, grazed⟩ backed above below
        refine ⟨arranged.step (.onward (.stored backed)), grazed.trans (.stored backed ?_)⟩
        exact fun point low high =>
          ⟨target, given, above.trans low, Nat.lt_of_lt_of_le high below⟩).next
    refine tended.grazed widened arranged (grazed.changed.mono ?_)
    rintro point ⟨⟨target, given, inside⟩, different⟩
    exact stored hasty target given point inside different
  · have ends := ends_refused (tended.kept_discreet _) widened (tended.created widened)
      (tended.abandoned widened) plain (Bool.eq_false_iff.mpr hasty)
    unfold Ends at ends
    unfold Session.next
    cases ended : asked.run session with
    | ok value final => exact absurd ⟨final, ended⟩ fails
    | error cause final =>
      rw [ended] at ends
      exact ends

/-- What is asked for stores nothing on account of the guest but its answer. -/
theorem next_answered {spoilt : Nat → Prop} (held : holds spoilt session) {asked : Act} (plain : asked.Plain)
    (inside : ∀ target, session.target? asked = some target → ∀ point, target.Covers point → spoilt point) :
    holds spoilt (session.next asked) := by
  have answers : ∀ target, session.target? asked = some target →
      Spares (holds spoilt) target.address target.length :=
    fun target given => tended.spares (inside target given)
  refine (ends_plain (tended.kept_discreet spoilt) held plain (fun request out same => ?_) answers).next
  subst same
  exact tended.createSurface held request out (answers ⟨out, 4⟩ rfl)

/-- After what is asked for, memory holds what it has to hold, save for the bytes that were
stored. -/
theorem next_plain (held : holds (fun _ => False) session) {asked : Act} (plain : asked.Plain)
    {spoilt : Nat → Prop}
    (stored : ∀ target, session.target? asked = some target → ∀ point, target.Covers point →
      ((∃ final, asked.run session = .ok () final) ∨ asked.hasty = true ∧
        (session.next asked).memory.byte? point ≠ session.memory.byte? point) → spoilt point) :
    holds spoilt (session.next asked) := by
  by_cases succeeds : ∃ final, asked.run session = .ok () final
  · have widened : holds spoilt session := tended.mono (fun _ none => none.elim) held
    exact tended.next_answered widened plain fun target given point inside =>
      stored target given point inside (.inl succeeds)
  · refine tended.next_refused held plain succeeds fun hasty target given point inside different => ?_
    exact stored target given point inside (.inr ⟨hasty, different⟩)

theorem next (held : holds (fun _ => False) session) (act : Act) :
    holds (session.Overwrites act) (session.next act) := by
  rw [session.next_meant act]
  cases meant : session.meant? act with
  | none => exact tended.mono (fun _ none => none.elim) held
  | some asked =>
    refine tended.next_plain held (Session.plain_of_meant? meant) ?_
    intro target given point inside done
    exact ⟨asked, target, meant, given, inside, done⟩

/-- Memory holds what it has to hold along a run that heeds it. -/
theorem through (held : holds (fun _ => False) session) {acts : List Act}
    (heeds : session.Heeds kept acts) : holds (fun _ => False) (session.through acts) := by
  induction acts generalizing session with
  | nil => exact held
  | cons act rest ih => exact ih (tended.mend (tended.next held act) heeds.1) heeds.2

/-- Whatever the guest has stored, what does not depend on bytes holds along all runs. -/
theorem through_spoilt (held : holds (fun _ => True) session) (acts : List Act) :
    holds (fun _ => True) (session.through acts) := by
  induction acts generalizing session with
  | nil => exact held
  | cons act rest ih =>
    refine ih ?_
    rw [session.next_meant act]
    cases meant : session.meant? act with
    | none => exact held
    | some asked =>
      exact tended.next_answered held (Session.plain_of_meant? meant) fun _ _ _ _ => trivial

end Tended

/-! ### Buffers beyond the ranges of the engine -/

/-- Neither the heap nor the aperture has the address. -/
def Session.Beyond (session : Session) (point : Nat) : Prop :=
  ¬ (session.heap.base ≤ point ∧ point < session.heap.limit) ∧
    ¬ (session.video.base ≤ point ∧ point < session.video.limit)

/-- Heap and aperture have the ranges that they had. -/
structure SameRanges (start final : Session) : Prop where
  heapBase : final.heap.base = start.heap.base
  heapLimit : final.heap.limit = start.heap.limit
  videoBase : final.video.base = start.video.base
  videoLimit : final.video.limit = start.video.limit

namespace SameRanges

variable {start middle final : Session}

theorem trans (first : SameRanges start middle) (second : SameRanges middle final) :
    SameRanges start final where
  heapBase := second.heapBase.trans first.heapBase
  heapLimit := second.heapLimit.trans first.heapLimit
  videoBase := second.videoBase.trans first.videoBase
  videoLimit := second.videoLimit.trans first.videoLimit

theorem of_groundwork (ground : Groundwork start final) : SameRanges start final :=
  ⟨ground.heapBase, ground.heapLimit, ground.videoBase, ground.videoLimit⟩

theorem beyond_iff (same : SameRanges start final) (point : Nat) :
    final.Beyond point ↔ start.Beyond point := by
  rw [Session.Beyond, same.heapBase, same.heapLimit, same.videoBase, same.videoLimit, Session.Beyond]

end SameRanges

theorem Step.sameRanges {start final : Session} (step : Step start final) :
    SameRanges start final := by
  cases step with
  | onward step =>
    have places := step.places
    exact ⟨by rw [places.heap], by rw [places.heap], by rw [places.video], by rw [places.video]⟩
  | unmapped step =>
    obtain ⟨-, base, limit, -, -⟩ := step
    exact ⟨rfl, rfl, base, limit⟩
  | prepared ground => exact .of_groundwork ground.1
  | created created => exact .of_groundwork created.groundwork
  | abandoned abandoned =>
    cases abandoned with
    | early ground => exact .of_groundwork ground.1
    | late first ground => exact { SameRanges.of_groundwork (first.groundwork.trans ground.1) with }
  | mixed mixed => exact .of_groundwork mixed.groundwork

theorem SameRanges.next {session : Session} (linked : Linked session.objects) (act : Act) :
    SameRanges session (session.next act) := by
  have kept : Kept Step fun final => Linked final.objects ∧ SameRanges session final :=
    ⟨And.left, fun held step => ⟨held.1.step step, held.2.trans step.sameRanges⟩⟩
  exact (kept.next ⟨linked, rfl, rfl, rfl, rfl⟩ act).2

/-- An act whose stores on account of the guest lie beyond heap and aperture heeds all memory. -/
theorem Sited.heeds_cons {session : Session} (sited : Sited session) {kept : Use → Prop} {act : Act}
    {rest : List Act} (beyond : ∀ point, session.Overwrites act point → session.Beyond point)
    (heeds : (session.next act).Heeds kept rest) : session.Heeds kept (act :: rest) := by
  refine ⟨fun use extent _ has point inside overwritten => ?_, heeds⟩
  obtain ⟨offHeap, offVideo⟩ :=
    ((SameRanges.next sited.linked act).beyond_iff point).mpr (beyond point overwritten)
  rcases (Sited.kept.next sited act).within has inside with onHeap | onVideo
  · exact offHeap onHeap
  · exact offVideo onVideo

/-! ### The small session -/

theorem disjoint_one_pixel : ∀ point, 0x70 ≤ point → point < rangeLimit 0x70 0x140 →
    0x10000 ≤ point → rangeLimit 0x10000 0x10000 ≤ point := by
  intro point _ below above
  have limit : rangeLimit 0x70 0x140 ≤ 0x10000 := by decide
  omega

theorem sited_one_pixel : Sited onePixel :=
  sited_start _ (by decide) disjoint_one_pixel _ _ _ _

/-- What is stored at the very beginning of memory heeds everything. -/
theorem beyond_one_pixel {point : Nat} (low : point < 8) : onePixel.Beyond point := by
  refine ⟨fun inside => ?_, fun inside => ?_⟩
  · have above : 0x70 ≤ point := inside.1
    omega
  · have above : 0x10000 ≤ point := inside.1
    omega

end GuestDraw
