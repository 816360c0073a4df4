/-
**Accounts.**

Whatever a fair guest does, its ledger and the surfaces that are alive tell how often every surface
and every palette is referred to. A guest that has given everything back leaves nothing behind.

* `Conserved.accounted`: what the invariant says of single surfaces and palettes;
* `Reaches`: the states that a fair guest can bring a session to;
* `references_conserved`: the accounts are right in all of them.
-/

import GuestDraw.Proofs.Session.Conservation

namespace GuestDraw

/-! ### What the invariant says -/

/-- The references to every surface and palette are accounted for, and nothing is left behind. -/
structure Accounted (held : Nat → Nat) (session : Session) : Prop where
  surfaces : ∀ object ∈ session.objects.objects, ∀ surface, object.payload = .surface surface →
    object.references = held surface.object +
      if ∃ owner ∈ session.objects.surfaces, owner.2.backBuffer = some object.handle then 1 else 0
  palettes : ∀ object ∈ session.objects.objects, ∀ palette, object.payload = .palette palette →
    object.references = held palette.object +
      (session.objects.surfaces.filter fun owner => owner.2.palette = some object.handle).length
  attached : ∀ owner ∈ session.objects.surfaces, ∀ palette, owner.2.palette = some palette →
    (session.objects.palette? palette).isSome
  backBuffers : ∀ owner ∈ session.objects.surfaces, ∀ child, owner.2.backBuffer = some child →
    (session.objects.surface? child).isSome
  emptied : (∀ pointer, held pointer = 0) → session.objects.objects = []

/-- References that only surfaces hold, each of them at most one, are as many as these surfaces. -/
theorem ObjectTable.referrers_eq_length {table : ObjectTable} {target : Handle}
    (refers : Surface → Bool)
    (counts : ∀ object ∈ table.objects, object.payload.teardown.count (.release target) =
      match object.payload.surface? with
      | some surface => if refers surface then 1 else 0
      | none => 0) :
    table.referrers target = (table.surfaces.filter fun owner => refers owner.2).length := by
  have sum : ∀ objects : List Object,
      (∀ object ∈ objects, object.payload.teardown.count (.release target) =
        match object.payload.surface? with
        | some surface => if refers surface then 1 else 0
        | none => 0) →
      (objects.map fun object => object.payload.teardown.count (.release target)).sum =
        ((objects.filterMap fun object => object.payload.surface?.map (object.handle, ·)).filter
          fun owner => refers owner.2).length := by
    intro objects
    induction objects with
    | nil => exact fun _ => rfl
    | cons object rest ih =>
      intro counts
      rw [List.map_cons, List.sum_cons, counts object List.mem_cons_self,
        ih fun other inside => counts other (List.mem_cons_of_mem _ inside)]
      cases is : object.payload.surface? with
      | none => simp only [List.filterMap_cons, is, Option.map_none, Nat.zero_add]
      | some surface =>
        simp only [List.filterMap_cons, is, Option.map_some, List.filter_cons]
        by_cases yes : refers surface = true
        · rw [if_pos yes, if_pos yes, List.length_cons, Nat.add_comm]
        · rw [if_neg yes, if_neg yes, Nat.zero_add]
  exact sum table.objects counts

namespace Conserved

variable {session : Session} {held : Nat → Nat}

/-- The count of a surface or palette, with the surfaces that refer to it. -/
theorem references_eq (conserved : Conserved held session) {object : Object}
    (member : object ∈ session.objects.objects) {pointer : Nat}
    (block : object.payload.block? = some pointer) (refers : Surface → Bool)
    (counts : ∀ owner surface, session.objects.surface? owner = some surface →
      (Payload.surface surface).teardown.count (.release object.handle) =
        if refers surface then 1 else 0) :
    object.references = held pointer +
      (session.objects.surfaces.filter fun owner => refers owner.2).length := by
  obtain ⟨linked, balanced⟩ := conserved
  have content := ObjectTable.payload?_of_mem linked.wf.distinct member
  have has : session.objects.block? object.handle = some pointer := by
    rw [ObjectTable.block?, content]
    exact block
  rw [balanced.counted _ object pointer (ObjectTable.find?_of_mem linked.wf.distinct member) has,
    ObjectTable.referrers_eq_length refers fun owner inside => ?_]
  have found := ObjectTable.payload?_of_mem linked.wf.distinct inside
  have fits := linked.fits owner.handle _ found
  cases shape : owner.payload with
  | surface surface =>
    rw [shape] at found
    exact counts owner.handle surface (ObjectTable.surface?_eq_some_iff.mpr found)
  | fileMapping =>
    rw [shape] at fits
    exact fits.elim
  | _ => rfl

theorem references_surface (conserved : Conserved held session) {object : Object}
    (member : object ∈ session.objects.objects) {surface : Surface}
    (shape : object.payload = .surface surface) :
    object.references = held surface.object +
      if ∃ owner ∈ session.objects.surfaces, owner.2.backBuffer = some object.handle then 1
      else 0 := by
  have linked := conserved.linked
  have content := ObjectTable.payload?_of_mem linked.wf.distinct member
  have count := conserved.references_eq member (shape ▸ rfl : object.payload.block? = some surface.object)
    (fun owner => owner.backBuffer = some object.handle) fun owner other live => by
      have palette : other.palette ≠ some object.handle := fun has => by
        obtain ⟨colours, is⟩ := ((linked.surface live).palette _ has).2 _ content
        rw [shape] at is
        cases is
      rw [Surface.count_release, if_neg palette, Nat.zero_add]
      simp
  rw [count]
  -- A back buffer belongs to one surface only.
  have sole : ∀ first ∈ session.objects.surfaces, ∀ second ∈ session.objects.surfaces,
      first.2.backBuffer = some object.handle → second.2.backBuffer = some object.handle →
        first = second := by
    rintro ⟨one, first⟩ inside ⟨two, second⟩ again owns shares
    rw [ObjectTable.mem_surfaces_iff linked.wf] at inside again
    have same := (linked.surface inside).sole _ owns two second
      (ObjectTable.surface?_eq_some_iff.mp again) shares
    subst same
    cases inside.symm.trans again
    rfl
  have distinct := (ObjectTable.nodup_surfaces linked.wf).filter
    fun owner => decide (owner.2.backBuffer = some object.handle)
  congr 1
  cases owners : session.objects.surfaces.filter
      fun owner => decide (owner.2.backBuffer = some object.handle) with
  | nil =>
    rw [if_neg, List.length_nil]
    rintro ⟨owner, inside, owns⟩
    have none := List.filter_eq_nil_iff.mp owners owner inside
    exact none (decide_eq_true owns)
  | cons first rest =>
    have kept : ∀ owner ∈ first :: rest, owner ∈ session.objects.surfaces ∧
        owner.2.backBuffer = some object.handle := fun owner inside => by
      rw [← owners] at inside
      exact (List.mem_filter.mp inside).imp_right of_decide_eq_true
    obtain ⟨inside, owns⟩ := kept first List.mem_cons_self
    rw [if_pos ⟨first, inside, owns⟩]
    rw [owners] at distinct
    cases rest with
    | nil => rfl
    | cons second rest =>
      obtain ⟨again, shares⟩ := kept second (by simp)
      have same := sole first inside second again owns shares
      simp [same] at distinct

theorem references_palette (conserved : Conserved held session) {object : Object}
    (member : object ∈ session.objects.objects) {palette : Palette}
    (shape : object.payload = .palette palette) :
    object.references = held palette.object +
      (session.objects.surfaces.filter fun owner =>
        owner.2.palette = some object.handle).length := by
  have linked := conserved.linked
  have content := ObjectTable.payload?_of_mem linked.wf.distinct member
  refine conserved.references_eq member (shape ▸ rfl : object.payload.block? = some palette.object)
    (fun owner => owner.palette = some object.handle) fun owner other live => ?_
  have child : other.backBuffer ≠ some object.handle := fun has => by
    obtain ⟨back, is, -⟩ := ((linked.surface live).backBuffer _ has).2 _ content
    rw [shape] at is
    cases is
  rw [Surface.count_release, if_neg child, Nat.add_zero]
  simp

theorem accounted (conserved : Conserved held session) : Accounted held session := by
  have linked := conserved.linked
  have alive : ∀ owner ∈ session.objects.surfaces, ∀ target,
      owner.2.palette = some target ∨ owner.2.backBuffer = some target →
        ∃ content, session.objects.payload? target = some content := by
    rintro ⟨handle, surface⟩ inside target has
    have live := (ObjectTable.mem_surfaces_iff linked.wf).mp inside
    have block := conserved.balanced.alive handle _ target (ObjectTable.surface?_eq_some_iff.mp live)
      (Payload.release_mem_teardown.mpr has)
    obtain ⟨pointer, some⟩ := Option.isSome_iff_exists.mp block
    obtain ⟨content, found, -⟩ := Option.bind_eq_some_iff.mp some
    exact ⟨content, found⟩
  refine ⟨fun object member surface shape => conserved.references_surface member shape,
    fun object member palette shape => conserved.references_palette member shape,
    fun owner inside palette has => ?_, fun owner inside child has => ?_, fun returned => ?_⟩
  · obtain ⟨content, found⟩ := alive owner inside palette (.inl has)
    have live := (ObjectTable.mem_surfaces_iff linked.wf).mp inside
    obtain ⟨colours, rfl⟩ := ((linked.surface live).palette palette has).2 content found
    rw [ObjectTable.palette?_eq_some_iff.mpr found]
    rfl
  · obtain ⟨content, found⟩ := alive owner inside child (.inr has)
    have live := (ObjectTable.mem_surfaces_iff linked.wf).mp inside
    obtain ⟨back, rfl, -⟩ := ((linked.surface live).backBuffer child has).2 content found
    rw [ObjectTable.surface?_eq_some_iff.mpr found]
    rfl
  · -- Without the guest only back buffers are referred to, and these refer to no surface themselves.
    have referenced : ∀ handle surface, session.objects.surface? handle = some surface →
        ∃ owner other, session.objects.surface? owner = some other ∧
          other.backBuffer = some handle := by
      intro handle surface live
      obtain ⟨object, member, rfl, shape⟩ :=
        ObjectTable.exists_of_payload? (ObjectTable.surface?_eq_some_iff.mp live)
      have count := conserved.references_surface member shape
      have positive := linked.wf.referenced object member
      rw [returned, Nat.zero_add] at count
      split at count
      · next owned =>
        obtain ⟨⟨owner, other⟩, inside, owns⟩ := owned
        exact ⟨owner, other, (ObjectTable.mem_surfaces_iff linked.wf).mp inside, owns⟩
      · omega
    have noSurface : ∀ handle surface,
      session.objects.payload? handle ≠ some (.surface surface) := by
      intro handle surface found
      obtain ⟨owner, other, live, owns⟩ := referenced handle surface
        (ObjectTable.surface?_eq_some_iff.mpr found)
      obtain ⟨last, holder, alive, holds⟩ := referenced owner other live
      obtain ⟨back, is, ends⟩ := ((linked.surface alive).backBuffer owner holds).2 _
        (ObjectTable.surface?_eq_some_iff.mp live)
      cases is
      rw [ends] at owns
      cases owns
    refine List.eq_nil_iff_forall_not_mem.mpr fun object member => ?_
    have found := ObjectTable.payload?_of_mem linked.wf.distinct member
    have fits := linked.fits object.handle _ found
    cases shape : object.payload with
    | surface surface => exact noSurface _ _ (shape ▸ found)
    | palette palette =>
      have count := conserved.references_palette member shape
      have positive := linked.wf.referenced object member
      have unattached : session.objects.surfaces = [] :=
        List.eq_nil_iff_forall_not_mem.mpr fun ⟨owner, other⟩ inside => noSurface owner other
          (ObjectTable.surface?_eq_some_iff.mp ((ObjectTable.mem_surfaces_iff linked.wf).mp inside))
      rw [returned, unattached] at count
      simp at count
      omega
    | deviceContext context =>
      rw [shape] at fits
      obtain ⟨owner, surface, -, live, -⟩ := fits
      exact noSurface owner surface live
    | cachedRaster cached =>
      rw [shape] at fits
      obtain ⟨surface, live, -⟩ := fits
      exact noSurface _ surface live
    | _ =>
      rw [shape] at fits
      exact fits.elim

end Conserved

/-! ### Runs -/

/-- The states, with the ledgers that the guest keeps, to which a fair guest can bring a session in
which no count is full. -/
inductive Reaches (start : Session) : Session → (Nat → Nat) → Prop
  | start : Reaches start start fun _ => 0
  | call {session : Session} {held : Nat → Nat} (before : Reaches start session held) (call : Call)
    (fair : call.Fair held session)
    (countable : ∀ object ∈ session.objects.objects, object.references < UInt32.size - 1) :
    Reaches start (session.after call) (call.ledger held session)
  | store {session : Session} {held : Nat → Nat} (before : Reaches start session held)
    (address : Nat) (data : List UInt8) : Reaches start (session.store address data) held

theorem conserved_start (memory : Memory) (heap : Heap) (video : Aperture) (stubs : StubTable)
    (firstHandle : Nat) (mode : DisplayMode) (chain : FlipChain) :
    Conserved (fun _ => 0)
      (Session.start memory heap video stubs firstHandle mode chain) :=
  ⟨.startingAt firstHandle,
    { counted := fun _ _ _ found => nomatch found
      alive := fun _ _ _ found => nomatch found
      plain := fun _ _ _ found => nomatch found
      known := fun _ positive => nomatch positive
      placed := fun _ _ has => nomatch has
      apart := fun _ _ _ has => nomatch has }⟩

theorem Reaches.conserved {start session : Session} {held : Nat → Nat}
    (reached : Reaches start session held) (first : Conserved (fun _ => 0) start) :
    Conserved held session := by
  induction reached with
  | start => exact first
  | call before call fair countable ih =>
    have ends := ends_conserved ih call fair countable
    unfold Ends at ends
    unfold Session.after Call.ledger
    split at ends <;> next ended => rw [ended]; exact ends
  | store before address data ih =>
    unfold Session.store
    split
    · exact ⟨ih.linked, ih.balanced⟩
    · exact ih

/-- **References are conserved.** -/
theorem references_conserved {memory : Memory} {heap : Heap} {video : Aperture} {stubs : StubTable}
    {firstHandle : Nat} {mode : DisplayMode} {chain : FlipChain} {session : Session}
    {held : Nat → Nat}
    (reached : Reaches (Session.start memory heap video stubs firstHandle mode chain) session held) :
    Accounted held session :=
  (reached.conserved (conserved_start memory heap video stubs firstHandle mode chain)).accounted

/-- The request is met, and the guest holds what there is. -/
theorem references_conserved_one_pixel :
    Reaches onePixel (onePixel.after (.createSurface 4 0x1AC))
        (Call.ledger (fun _ => 0) onePixel (.createSurface 4 0x1AC)) ∧
      Accounted (Call.ledger (fun _ => 0) onePixel (.createSurface 4 0x1AC))
        (onePixel.after (.createSurface 4 0x1AC)) := by
  have backed : onePixel.memory.holds 0x1AC 4 = true := by
    rw [onePixel, Session.start, Memory.holds_put, Memory.holds_iff, Memory.zeroed,
      Array.size_replicate]
    decide
  have reached : Reaches onePixel _ _ :=
    .call .start (.createSurface 4 0x1AC)
      ⟨fun out answers => by cases answers; exact backed, fun _ owes => nomatch owes⟩
      fun _ inside => nomatch inside
  exact ⟨reached, references_conserved reached⟩

end GuestDraw
