/-
**What interface pointers lead to.**

The guest names a surface or a palette by the address of its block, and the host finds the object by
the handle that the block holds. The guest can write any handle there. But the block of an object is
cut off the heap, where nothing is given back, and no handle is used twice: so the object that says
that the block is its own is always the same one.

* `ObjectTable.seat?`: the kind of an object and the address of its block;
* `Moves`: from one state to a later one no object comes to an address that was handed out before;
* `Seated.step`: every step is such a move;
* `pointers_unforgeable`: a pointer leads to its own object or to none, whatever lies in memory.
-/

import GuestDraw.Proofs.Session.Inheritance

namespace GuestDraw

/-! ### Seats -/

/-- The kind of an object with a block, and the address of the block. -/
def Payload.seat? : Payload → Option (ObjectKind × Nat)
  | surface content => some (.surface, content.object)
  | palette content => some (.palette, content.object)
  | _ => none

namespace ObjectTable

variable {table after : ObjectTable} {handle : Handle} {kind : ObjectKind} {pointer : Nat}

/-- The kind of a live object with a block, and the address of the block. -/
def seat? (table : ObjectTable) (handle : Handle) : Option (ObjectKind × Nat) :=
  (table.payload? handle).bind Payload.seat?

theorem seat?_of_surface? {surface : Surface} (live : table.surface? handle = some surface) :
    table.seat? handle = some (.surface, surface.object) := by
  rw [seat?, surface?_eq_some_iff.mp live]
  rfl

theorem seat?_of_palette? {palette : Palette} (live : table.palette? handle = some palette) :
    table.seat? handle = some (.palette, palette.object) := by
  rw [seat?, palette?_eq_some_iff.mp live]
  rfl

/-- Only surfaces and palettes have seats. -/
theorem of_seat? (seat : table.seat? handle = some (kind, pointer)) :
    (kind = .surface ∧ ∃ surface, table.surface? handle = some surface ∧ surface.object = pointer) ∨
      (kind = .palette ∧ ∃ palette, table.palette? handle = some palette ∧
        palette.object = pointer) := by
  obtain ⟨payload, holds, has⟩ := Option.bind_eq_some_iff.mp seat
  cases payload with
  | surface content =>
    cases has
    exact .inl ⟨rfl, content, surface?_eq_some_iff.mpr holds, rfl⟩
  | palette content =>
    cases has
    exact .inr ⟨rfl, content, palette?_eq_some_iff.mpr holds, rfl⟩
  | _ => cases has

theorem surface?_of_seat? (seat : table.seat? handle = some (.surface, pointer)) :
    ∃ surface, table.surface? handle = some surface ∧ surface.object = pointer := by
  rcases of_seat? seat with ⟨-, found⟩ | ⟨other, -⟩
  · exact found
  · cases other

theorem palette?_of_seat? (seat : table.seat? handle = some (.palette, pointer)) :
    ∃ palette, table.palette? handle = some palette ∧ palette.object = pointer := by
  rcases of_seat? seat with ⟨other, -⟩ | ⟨-, found⟩
  · cases other
  · exact found

theorem Inherits.seat? (inherits : table.Inherits after)
    (seat : after.seat? handle = some (kind, pointer)) :
    table.seat? handle = some (kind, pointer) := by
  rcases of_seat? seat with ⟨rfl, new, live, rfl⟩ | ⟨rfl, new, live, rfl⟩
  · obtain ⟨old, was, fixed⟩ := inherits.surface handle new live
    have object : new.fixed.object = old.fixed.object := congrArg _ fixed
    exact (seat?_of_surface? was).trans (congrArg (fun place => some (_, place)) object.symm)
  · obtain ⟨old, was, fixed⟩ := inherits.palette handle new live
    have object : new.fixed.object = old.fixed.object := congrArg _ fixed
    exact (seat?_of_palette? was).trans (congrArg (fun place => some (_, place)) object.symm)

/-- Of the seats that there are after an object was created only its own is new. -/
theorem seat?_of_create {payload : Payload} {made : Handle} (numbered : table.Numbered 0)
    (created : table.create payload = .ok (made, after))
    (seat : after.seat? handle = some (kind, pointer)) :
    table.seat? handle = some (kind, pointer) ∨
      handle = made ∧ payload.seat? = some (kind, pointer) := by
  rw [ObjectTable.seat?, payload?_create numbered created, Function.update_apply] at seat
  by_cases same : handle = made
  · rw [if_pos same] at seat
    exact .inr ⟨same, seat⟩
  · rw [if_neg same] at seat
    exact .inl seat

end ObjectTable

/-! ### Moves -/

/-- No two objects have one seat, and all seats are on the part of the heap that was handed out. -/
structure Addressed (session : Session) : Prop where
  below : ∀ handle kind pointer, session.objects.seat? handle = some (kind, pointer) →
    pointer < session.heap.next
  sole : ∀ first second kind other pointer, session.objects.seat? first = some (kind, pointer) →
    session.objects.seat? second = some (other, pointer) → first = second

/-- The objects of `final` were in their seats already in `start`, or these were cut off the heap
since. -/
structure Later (start final : Session) : Prop where
  heap : start.heap.next ≤ final.heap.next
  seat : ∀ handle kind pointer, final.objects.seat? handle = some (kind, pointer) →
    start.objects.seat? handle = some (kind, pointer) ∨ start.heap.next ≤ pointer

theorem Later.refl (session : Session) : Later session session :=
  ⟨Nat.le_refl _, fun _ _ _ seat => .inl seat⟩

theorem Later.trans {start middle final : Session} (first : Later start middle)
    (second : Later middle final) : Later start final where
  heap := first.heap.trans second.heap
  seat handle kind pointer seat := by
    rcases second.seat handle kind pointer seat with was | above
    · exact first.seat handle kind pointer was
    · exact .inr (first.heap.trans above)

/-- A later state, in which the seats are as they should be if they were before. -/
structure Moves (start final : Session) : Prop where
  later : Later start final
  addressed : Addressed start → Addressed final

namespace Moves

variable {start middle final : Session}

theorem trans (first : Moves start middle) (second : Moves middle final) : Moves start final :=
  ⟨first.later.trans second.later, fun addressed => second.addressed (first.addressed addressed)⟩

/-- No object comes. -/
theorem shrink (heap : start.heap.next ≤ final.heap.next)
    (inherits : start.objects.Inherits final.objects) : Moves start final where
  later := ⟨heap, fun _ _ _ seat => .inl (inherits.seat? seat)⟩
  addressed addressed := by
    refine ⟨fun handle kind pointer seat => ?_, fun first second kind other pointer one two => ?_⟩
    · exact Nat.lt_of_lt_of_le (addressed.below handle kind pointer (inherits.seat? seat)) heap
    · exact addressed.sole first second kind other pointer (inherits.seat? one) (inherits.seat? two)

/-- An object comes together with a block. -/
theorem grow {payload : Payload} {made : Handle} {address size : Nat} {kind : ObjectKind}
    (numbered : start.objects.Numbered 0)
    (created : start.objects.create payload = .ok (made, final.objects))
    (seat : payload.seat? = some (kind, address)) (block : CutOff start final address size)
    (positive : 0 < size) : Moves start final := by
  obtain ⟨above, below, -⟩ := block
  have known : ∀ handle kind pointer, final.objects.seat? handle = some (kind, pointer) →
      start.objects.seat? handle = some (kind, pointer) ∨ handle = made ∧ pointer = address := by
    intro handle kind pointer taken
    refine (ObjectTable.seat?_of_create numbered created taken).imp_right fun ⟨same, own⟩ => ?_
    cases seat.symm.trans own
    exact ⟨same, rfl⟩
  refine ⟨⟨by omega, fun handle kind pointer taken => ?_⟩, fun addressed => ⟨?_, ?_⟩⟩
  · refine (known handle kind pointer taken).imp_right fun ⟨_, same⟩ => ?_
    rw [same]
    exact above
  · intro handle kind pointer taken
    rcases known handle kind pointer taken with was | ⟨-, rfl⟩
    · have earlier := addressed.below handle kind pointer was
      omega
    · omega
  · intro first second kind other pointer one two
    -- The new block lies above all those that were there.
    rcases known first kind pointer one with wasOne | ⟨newOne, here⟩
    · rcases known second other pointer two with wasTwo | ⟨-, here⟩
      · exact addressed.sole first second kind other pointer wasOne wasTwo
      · have earlier := addressed.below first kind pointer wasOne
        omega
    · rcases known second other pointer two with wasTwo | ⟨newTwo, -⟩
      · have earlier := addressed.below second other pointer wasTwo
        omega
      · rw [newOne, newTwo]

theorem prepared (ground : Prepared start start.objects final) : Moves start final := by
  refine shrink ground.1.heapNext ?_
  rw [ground.2]
  exact .refl _

theorem built {plan : SurfacePlan} {backBuffer : Option Handle} {handle : Handle} {surface : Surface}
    (numbered : start.objects.Numbered 0)
    (built : Built start plan backBuffer handle surface final) : Moves start final :=
  grow numbered built.made rfl built.block (by decide)

end Moves

/-! ### Steps -/

/-- References are in order, seats as they should be, and no object came to a seat of `origin`. -/
structure Seated (origin session : Session) : Prop where
  linked : Linked session.objects
  addressed : Addressed session
  later : Later origin session

namespace Seated

variable {origin start final : Session}

theorem moves (linked : Linked start.objects) (step : Step start final) : Moves start final := by
  cases step with
  | onward step =>
    exact .shrink (Nat.le_of_eq (congrArg Heap.next step.places.heap).symm) (step.inherits linked)
  | unmapped step =>
    obtain ⟨-⟩ := step
    exact .shrink (Nat.le_refl _) (.refl _)
  | prepared ground => exact .prepared ground
  | created created =>
    obtain ⟨plan, -, built | ⟨first, second⟩⟩ := created
    · exact .built linked.numbered built
    · exact (Moves.built linked.numbered first).trans
        (.built (linked.numbered.insert first.made) second)
  | abandoned abandoned =>
    cases abandoned with
    | early ground => exact .prepared ground
    | @late plan middle final child back first ground =>
      refine (Moves.built linked.numbered first).trans (.shrink ground.1.heapNext ?_)
      exact .drain (linked.raised (.single first)).wf _
  | mixed mixed => exact .grow linked.numbered mixed.made rfl mixed.block (by decide)

theorem step (seated : Seated origin start) (step : Step start final) : Seated origin final := by
  have moves := moves seated.linked step
  exact ⟨seated.linked.step step, moves.addressed seated.addressed, seated.later.trans moves.later⟩

theorem kept : Kept Step (Seated origin) := ⟨Seated.linked, Seated.step⟩

end Seated

theorem seated_start (memory : Memory) (heap : Heap) (video : Aperture) (stubs : StubTable)
    (firstHandle : Nat) (mode : DisplayMode) (chain : FlipChain) :
    let session := Session.start memory heap video stubs firstHandle mode chain
    Seated session session :=
  ⟨.startingAt firstHandle,
    ⟨fun _ _ _ seat => (nomatch seat), fun _ _ _ _ _ seat => (nomatch seat)⟩, .refl _⟩

/-! ### Pointers -/

/-- The pointer `this` leads to the object that has its block there, as long as the block holds the
handle of the object, and to no other one. -/
structure Attributed (session : Session) (this : Nat) : Prop where
  surface : ∀ handle, session.surfaceFor? this = some handle ↔ session.blockHandle this = handle ∧
    ∃ surface, session.objects.surface? handle = some surface ∧ surface.object = this
  palette : ∀ handle, session.paletteFor? this = some handle ↔ session.blockHandle this = handle ∧
    ∃ palette, session.objects.palette? handle = some palette ∧ palette.object = this
  either : session.surfaceFor? this = none ∨ session.paletteFor? this = none
  sole : ∀ first second kind other, session.objects.seat? first = some (kind, this) →
    session.objects.seat? second = some (other, this) → first = second

/-- If `this` is the address of an object in `early`, it leads in `late` to that object or to none,
and to that object only if it was alive `between` the two. -/
structure Unmistaken (early between late : Session) (this : Nat) : Prop where
  surface : ∀ handle surface, early.objects.surface? handle = some surface →
    surface.object = this → late.paletteFor? this = none ∧
      ∀ other, late.surfaceFor? this = some other → other = handle ∧
        ∃ still, between.objects.surface? handle = some still ∧ still.object = this
  palette : ∀ handle palette, early.objects.palette? handle = some palette →
    palette.object = this → late.surfaceFor? this = none ∧
      ∀ other, late.paletteFor? this = some other → other = handle ∧
        ∃ still, between.objects.palette? handle = some still ∧ still.object = this

theorem Session.surfaceFor?_eq_some_iff {session : Session} {this : Nat} {handle : Handle} :
    session.surfaceFor? this = some handle ↔ session.blockHandle this = handle ∧
      ∃ surface, session.objects.surface? handle = some surface ∧ surface.object = this := by
  constructor
  · intro resolved
    refine ⟨?_, session.surface?_of_surfaceFor? resolved⟩
    unfold surfaceFor? at resolved
    dsimp only at resolved
    split at resolved
    · split at resolved <;> cases resolved
      rfl
    · cases resolved
  · rintro ⟨rfl, surface, live, own⟩
    unfold surfaceFor?
    simp only [live, own, if_true]

theorem Session.paletteFor?_eq_some_iff {session : Session} {this : Nat} {handle : Handle} :
    session.paletteFor? this = some handle ↔ session.blockHandle this = handle ∧
      ∃ palette, session.objects.palette? handle = some palette ∧ palette.object = this := by
  constructor
  · intro resolved
    refine ⟨?_, session.palette?_of_paletteFor? resolved⟩
    unfold paletteFor? at resolved
    dsimp only at resolved
    split at resolved
    · split at resolved <;> cases resolved
      rfl
    · cases resolved
  · rintro ⟨rfl, palette, live, own⟩
    unfold paletteFor?
    simp only [live, own, if_true]

theorem Session.seat?_of_surfaceFor? {session : Session} {this : Nat} {handle : Handle}
    (resolved : session.surfaceFor? this = some handle) :
    session.objects.seat? handle = some (.surface, this) := by
  obtain ⟨surface, live, rfl⟩ := session.surface?_of_surfaceFor? resolved
  exact ObjectTable.seat?_of_surface? live

theorem Session.seat?_of_paletteFor? {session : Session} {this : Nat} {handle : Handle}
    (resolved : session.paletteFor? this = some handle) :
    session.objects.seat? handle = some (.palette, this) := by
  obtain ⟨palette, live, rfl⟩ := session.palette?_of_paletteFor? resolved
  exact ObjectTable.seat?_of_palette? live

theorem Addressed.attributed {session : Session} (addressed : Addressed session) (this : Nat) :
    Attributed session this where
  surface _ := Session.surfaceFor?_eq_some_iff
  palette _ := Session.paletteFor?_eq_some_iff
  either := by
    by_contra both
    rw [not_or] at both
    obtain ⟨first, one⟩ := Option.ne_none_iff_exists'.mp both.1
    obtain ⟨second, two⟩ := Option.ne_none_iff_exists'.mp both.2
    have one := Session.seat?_of_surfaceFor? one
    have two := Session.seat?_of_paletteFor? two
    cases addressed.sole first second _ _ this one two
    cases one.symm.trans two
  sole first second kind other := addressed.sole first second kind other this

/-- An object in `late` at an address of `early` is the one that was there all the time. -/
theorem Addressed.stayed {early between late : Session} (addressed : Addressed early)
    (first : Later early between) (second : Later between late) {this : Nat} {handle other : Handle}
    {kind last : ObjectKind} (seat : early.objects.seat? handle = some (kind, this))
    (found : late.objects.seat? other = some (last, this)) :
    other = handle ∧ last = kind ∧ between.objects.seat? handle = some (kind, this) := by
  have below := addressed.below handle kind this seat
  have was : early.objects.seat? other = some (last, this) := by
    refine ((first.trans second).seat other last this found).resolve_right fun above => ?_
    omega
  have there : between.objects.seat? other = some (last, this) := by
    refine (second.seat other last this found).resolve_right fun above => ?_
    have grown := first.heap
    omega
  have same := addressed.sole other handle last kind this was seat
  subst same
  cases was.symm.trans seat
  exact ⟨rfl, rfl, there⟩

theorem Addressed.unmistaken {early between late : Session} (addressed : Addressed early)
    (first : Later early between) (second : Later between late) (this : Nat) :
    Unmistaken early between late this where
  surface handle surface live object := by
    have seat := object ▸ ObjectTable.seat?_of_surface? live
    refine ⟨Option.eq_none_iff_forall_ne_some.mpr fun other resolved => ?_, fun other resolved => ?_⟩
    · have stayed := addressed.stayed first second seat (Session.seat?_of_paletteFor? resolved)
      cases stayed.2.1
    · obtain ⟨same, -, there⟩ :=
        addressed.stayed first second seat (Session.seat?_of_surfaceFor? resolved)
      exact ⟨same, ObjectTable.surface?_of_seat? there⟩
  palette handle palette live object := by
    have seat := object ▸ ObjectTable.seat?_of_palette? live
    refine ⟨Option.eq_none_iff_forall_ne_some.mpr fun other resolved => ?_, fun other resolved => ?_⟩
    · have stayed := addressed.stayed first second seat (Session.seat?_of_surfaceFor? resolved)
      cases stayed.2.1
    · obtain ⟨same, -, there⟩ :=
        addressed.stayed first second seat (Session.seat?_of_paletteFor? resolved)
      exact ⟨same, ObjectTable.palette?_of_seat? there⟩

/-- **Interface pointers cannot be forged.** In every state that a session can come to, whatever its
memory then holds, an address leads to the one object that has its block there, or to none. An
address of an object leads to no other object at any later time, and to none once that object is
gone. -/
theorem pointers_unforgeable (memory : Memory) (heap : Heap) (video : Aperture) (stubs : StubTable)
    (firstHandle : Nat) (mode : DisplayMode) (chain : FlipChain) (acts middle rest : List Act)
    (bytes : Memory) (this : Nat) :
    let early := (Session.start memory heap video stubs firstHandle mode chain).through acts
    let between := early.through middle
    let late := { between.through rest with memory := bytes }
    Attributed late this ∧ Unmistaken early between late this := by
  intro early between late
  have one : Seated _ early := Seated.kept.through
    (seated_start memory heap video stubs firstHandle mode chain) acts
  have two : Seated early between :=
    Seated.kept.through ⟨one.linked, one.addressed, .refl early⟩ middle
  have three : Seated between (between.through rest) :=
    Seated.kept.through ⟨two.linked, two.addressed, .refl between⟩ rest
  have addressed : Addressed late := ⟨three.addressed.below, three.addressed.sole⟩
  have later : Later between late := ⟨three.later.heap, three.later.seat⟩
  exact ⟨addressed.attributed this, one.addressed.unmistaken two.later later this⟩

end GuestDraw
