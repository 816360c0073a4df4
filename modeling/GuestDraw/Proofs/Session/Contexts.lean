/-
**The life of device contexts.**

A surface gets a device context when one is asked for, and has that one for the rest of its life.
The guest can give back more references than it took: the last one, which is that of the surface,
stays until the surface is closed and the device context with it. Nothing else is taken for the
device context of a surface.

* `Payload.Lasts`, `ObjectTable.Retains`: surfaces keep their device contexts, and handles that are
  used up lead to what they led to or to nothing;
* `Step.retains`: every step keeps it so, by one lemma for each way of changing a table;
* `ContextLasts`, `Retained.contextLasts`: a device context at a later time;
* `ContextsOwned`, `device_contexts_last`: device contexts in every run.
-/

import GuestDraw.Proofs.Session.Primaries
import GuestDraw.Proofs.Session.Refusals

namespace GuestDraw

/-! ### Tables that retain device contexts -/

/-- The changes of a content in place with which no surface loses its device context. -/
inductive Payload.Lasts : Payload → Payload → Prop
  | surface {old new : Surface}
    (context : ∀ handle, old.deviceContext = some handle → new.deviceContext = some handle) :
    Lasts (surface old) (surface new)
  | palette (old new : Palette) : Lasts (palette old) (palette new)
  | cachedRaster (old new : CachedRaster) : Lasts (cachedRaster old) (cachedRaster new)
  | same (content : Payload) : Lasts content content

theorem Payload.Lasts.trans {old middle new : Payload} (first : old.Lasts middle)
    (second : middle.Lasts new) : old.Lasts new := by
  cases first with
  | surface context =>
    cases second with
    | surface later => exact .surface fun handle has => later handle (context handle has)
    | same => exact .surface context
  | palette old =>
    cases second with
    | palette _ new => exact .palette old new
    | same => exact .palette old _
  | cachedRaster old =>
    cases second with
    | cachedRaster _ new => exact .cachedRaster old new
    | same => exact .cachedRaster old _
  | same => exact second

namespace ObjectTable

/-- A handle that `table` has given out leads to nothing in `after`, or to what it led to in
`table`; surfaces have kept their device contexts. -/
structure Retains (table after : ObjectTable) : Prop where
  next : table.next ≤ after.next
  lasts : ∀ handle new, after.payload? handle = some new → handle.number < table.next →
    ∃ old, table.payload? handle = some old ∧ old.Lasts new

namespace Retains

variable {table middle after : ObjectTable} {handle : Handle}

theorem refl (table : ObjectTable) : table.Retains table :=
  ⟨Nat.le_refl _, fun _ new there _ => ⟨new, there, .same new⟩⟩

theorem trans (first : table.Retains middle) (second : middle.Retains after) :
    table.Retains after := by
  refine ⟨first.next.trans second.next, fun handle new there below => ?_⟩
  obtain ⟨between, was, later⟩ :=
    second.lasts handle new there (Nat.lt_of_lt_of_le below first.next)
  obtain ⟨old, before, earlier⟩ := first.lasts handle between was below
  exact ⟨old, before, earlier.trans later⟩

/-- Counts have no part in what handles lead to. -/
theorem recount (count : Nat) :
    table.Retains (table.update handle fun object => { object with references := count }) := by
  refine ⟨Nat.le_refl _, fun other new there _ => ⟨new, ?_, .same new⟩⟩
  rwa [payload?_recount] at there

theorem addReference {count : Nat} (counted : table.addReference handle = .ok (count, after)) :
    table.Retains after := by
  obtain ⟨_, -, -, rfl⟩ := addReference_eq_ok_iff.mp counted
  exact .recount count

theorem setPayload {old new : Payload} (live : table.payload? handle = some old)
    (lasts : old.Lasts new) : table.Retains (table.setPayload handle new) := by
  refine ⟨Nat.le_refl _, fun other now there _ => ?_⟩
  rw [payload?_setPayload live, Function.update_apply] at there
  split at there
  · next same =>
    cases there
    exact ⟨old, same ▸ live, lasts⟩
  · exact ⟨now, there, .same now⟩

theorem setSurface {old new : Surface} (live : table.surface? handle = some old)
    (context : ∀ handle, old.deviceContext = some handle → new.deviceContext = some handle) :
    table.Retains (table.setPayload handle (.surface new)) :=
  .setPayload (surface?_eq_some_iff.mp live) (.surface context)

/-- The handle of a new object was not given out before. -/
theorem create (linked : Linked table) {payload : Payload}
    (made : table.create payload = .ok (handle, after)) : table.Retains after := by
  refine ⟨next_le_of_create made, fun other new there below => ⟨new, ?_, .same new⟩⟩
  have apart : other ≠ handle := by
    rintro rfl
    exact Nat.not_lt.mpr (next_le_number_of_create made) below
  rwa [payload?_create linked.numbered made, Function.update_of_ne apart] at there

/-- A surface changes for a new object. -/
theorem createFor (linked : Linked table) {payload : Payload} {owner : Handle} {old new : Surface}
    (made : table.create payload = .ok (handle, after)) (live : table.surface? owner = some old)
    (context : ∀ handle, old.deviceContext = some handle → new.deviceContext = some handle) :
    table.Retains (after.setPayload owner (.surface new)) :=
  (create linked made).trans (.setSurface (linked.surface?_create made live).2 context)

/-- What a teardown leaves was there before. -/
theorem drain (wf : table.WellFormed) (steps : List Teardown) :
    table.Retains (ObjectTable.drain steps table) := by
  obtain ⟨members, swept⟩ := swept_drain wf steps
  exact ⟨swept.next.symm.le, fun other new there _ => ⟨new, swept.was there, .same new⟩⟩

/-- A surface without its cache. -/
theorem dropCache (linked : Linked table) {surface : Surface} {cache : Handle}
    (live : table.surface? handle = some surface) :
    table.Retains (ObjectTable.drain [.close cache]
      (table.setPayload handle (.surface { surface with cache := none }))) := by
  refine trans ?_ (.drain (linked.wf.setPayload _ _) _)
  exact .setSurface live fun _ has => has

end Retains

end ObjectTable

/-! ### Steps -/

section Steps

variable {start final : Session}

theorem Tidying.retains (linked : Linked start.objects) (step : Tidying start final) :
    start.objects.Retains final.objects := by
  cases step with
  | settling step =>
    cases step with
    | written live has content =>
      exact .setPayload (ObjectTable.cachedRaster?_eq_some_iff.mp content) (.cachedRaster _ _)
    | dropped live => exact .dropCache linked live
  | caching step =>
    obtain ⟨live, bare, unlocked, decoded, made⟩ := step
    exact .createFor linked made live fun _ has => has
  | lockSet live => exact .setSurface live fun _ has => has
  | contextMade live bare made =>
    exact .createFor linked made live fun _ has => nomatch bare.symm.trans has
  | contextCounted count => exact .recount count
  | shown picture => exact .refl _

theorem Onward.retains (linked : Linked start.objects) (step : Onward start final) :
    start.objects.Retains final.objects := by
  cases step with
  | tidying step => exact step.retains linked
  | forgotten live => exact .dropCache linked live
  | drawing step =>
    cases step with
    | onCache live has content =>
      exact .setPayload (ObjectTable.cachedRaster?_eq_some_iff.mp content) (.cachedRaster _ _)
    | onMemory => exact .refl _
  | attaching step =>
    obtain ⟨live, bare, there, different, counted⟩ := step
    obtain ⟨-, still, attached⟩ := linked.attach live there counted
    refine ((ObjectTable.Retains.addReference counted).trans ?_).trans (.drain attached.wf _)
    exact .setSurface still fun _ has => has
  | recolouring step =>
    obtain ⟨there⟩ := step
    exact .setPayload (ObjectTable.palette?_eq_some_iff.mp there) (.palette _ _)
  | taking step =>
    obtain ⟨-, counted⟩ := step
    exact .addReference counted
  | returned => exact .drain linked.wf _
  | stored => exact .refl _

/-- Surfaces keep their device contexts in every step. -/
theorem Step.retains (linked : Linked start.objects) (step : Step start final) :
    start.objects.Retains final.objects := by
  cases step with
  | onward step => exact step.retains linked
  | unmapped step =>
    obtain ⟨-⟩ := step
    exact .refl _
  | prepared ground => exact ground.2.symm ▸ .refl _
  | created created =>
    obtain ⟨plan, -, built | ⟨first, second⟩⟩ := created
    · exact .create linked built.made
    · exact (ObjectTable.Retains.create linked first.made).trans
        (.create (linked.raised (.single first)) second.made)
  | abandoned abandoned =>
    cases abandoned with
    | early ground => exact ground.2.symm ▸ .refl _
    | late first ground =>
      exact (ObjectTable.Retains.create linked first.made).trans
        (.drain (linked.raised (.single first)).wf _)
  | mixed mixed => exact .create linked mixed.made

end Steps

/-- References are in order, and device contexts of `origin` were kept. -/
structure Retained (origin session : Session) : Prop where
  linked : Linked session.objects
  retains : origin.objects.Retains session.objects

theorem Retained.kept (origin : Session) : Kept Step (Retained origin) where
  linked := Retained.linked
  step retained step := ⟨retained.linked.step step,
    retained.retains.trans (step.retains retained.linked)⟩

theorem Linked.retained {session : Session} (linked : Linked session.objects) (acts : List Act) :
    Retained session (session.through acts) :=
  (Retained.kept session).through ⟨linked, .refl _⟩ acts

theorem Linked.retained_of_getDC {session final : Session} (linked : Linked session.objects)
    {this out : Nat} {context : Handle}
    (given : Engine.getDC this out session = .ok context final) :
    Retained session final := by
  have after : session.next (.call (.getDC this out)) = final := Session.next_of_ok rfl given
  exact after ▸ linked.retained [.call (.getDC this out)]

/-! ### The device context of a surface -/

namespace Session

/-- The surface at `this` does not take the value for its device context: the guest is told that a
parameter is wrong, and nothing changes. -/
def RefusesContext (session : Session) (this value : Nat) : Prop :=
  ∃ cause, Engine.releaseDC this value session = .error cause session ∧
    cause.disposition = .status .invalidParams

variable {session : Session} {this : Nat} {handle : Handle}

theorem refusesContext {surface : Surface} {value : Nat}
    (leads : session.surfaceFor? this = some handle)
    (live : session.objects.surface? handle = some surface)
    (other : surface.deviceContext ≠ some ⟨value⟩) : session.RefusesContext this value := by
  have ends : EndsWith (Engine.releaseDC this value) session (fun _ _ => False)
      fun cause final => cause = .invalidParams SurfaceMethod.releaseDC.name ∧ final = session := by
    unfold Engine.releaseDC
    refine (ends_resolveSurface_live leads _).whatever.bind ?_
    rintro _ _ ⟨rfl, rfl⟩
    refine (ends_surfaceAt_live live).whatever.bind ?_
    rintro _ _ ⟨rfl, rfl⟩
    exact .guarded ⟨rfl, rfl⟩ fun accepted => absurd (.inr other) accepted
  cases ended : Engine.releaseDC this value session with
  | ok _ final => exact (ends.of_ok ended).elim
  | error cause final =>
    obtain ⟨rfl, rfl⟩ := ends.of_error ended
    exact ⟨_, ended, rfl⟩

end Session

/-- What became of the device context of a surface. -/
structure ContextLasts (session : Session) (handle context : Handle) : Prop where
  /-- While the surface is there, it has the device context, and there is at least the one reference
  of its own. -/
  held : ∀ surface, session.objects.surface? handle = some surface →
    surface.deviceContext = some context ∧ ∃ object, session.objects.find? context = some object ∧
      object.payload = .deviceContext ⟨some handle⟩ ∧ 1 ≤ object.references
  /-- The two of them are closed together. -/
  closed : session.objects.surface? handle = none →
    session.objects.find? handle = none ∧ session.objects.find? context = none
  /-- There is no other device context of the surface. -/
  sole : ∀ other, session.objects.payload? other =
    some (.deviceContext ⟨some handle⟩) → other = context
  /-- It is the one that is handed out. -/
  given : ∀ this out other final, session.surfaceFor? this = some handle →
    Engine.getDC this out session = .ok other final → other = context
  /-- It is the only one that is taken back. -/
  refused : ∀ this value, session.surfaceFor? this = some handle → (⟨value⟩ : Handle) ≠ context →
    session.RefusesContext this value

section Life

variable {session late : Session} {handle context : Handle}

/-- A device context is recorded by its surface. -/
theorem Linked.records {table : ObjectTable} (linked : Linked table) {content : DeviceContext}
    (is : table.payload? context = some (.deviceContext content)) :
    ∃ handle surface, content.surface = some handle ∧ table.surface? handle = some surface ∧
      surface.deviceContext = some context := by
  obtain ⟨handle, surface, belongs, found, has⟩ := linked.fits context _ is
  exact ⟨handle, surface, belongs, ObjectTable.surface?_eq_some_iff.mpr found, has⟩

variable (linked : Linked session.objects) (retained : Retained session late)

include linked retained

/-- A handle of a surface leads to that surface or to nothing. -/
theorem Retained.surface?_or {old : Surface} {payload : Payload}
    (was : session.objects.surface? handle = some old)
    (there : late.objects.payload? handle = some payload) :
    ∃ new, payload = .surface new ∧
      ∀ context, old.deviceContext = some context → new.deviceContext = some context := by
  have was := ObjectTable.surface?_eq_some_iff.mp was
  obtain ⟨before, found, lasts⟩ :=
    retained.retains.lasts handle payload there (linked.number_lt was)
  cases was.symm.trans found
  cases lasts with
  | surface keeps => exact ⟨_, rfl, keeps⟩
  | same => exact ⟨_, rfl, fun _ has => has⟩

theorem Retained.deviceContext {old new : Surface}
    (was : session.objects.surface? handle = some old)
    (has : old.deviceContext = some context) (live : late.objects.surface? handle = some new) :
    new.deviceContext = some context := by
  obtain ⟨_, same, keeps⟩ :=
    retained.surface?_or linked was (ObjectTable.surface?_eq_some_iff.mp live)
  cases same
  exact keeps context has

variable (is : session.objects.payload? context = some (.deviceContext ⟨some handle⟩))

include is

/-- Neither a surface nor its device context is there without the other one. -/
theorem Retained.closed (gone : late.objects.surface? handle = none) :
    late.objects.payload? handle = none ∧ late.objects.payload? context = none := by
  obtain ⟨_, old, own, was, -⟩ := linked.records is
  cases own
  constructor
  · refine Option.eq_none_iff_forall_ne_some.mpr fun payload there => ?_
    obtain ⟨surface, rfl, -⟩ := retained.surface?_or linked was there
    cases gone.symm.trans (ObjectTable.surface?_eq_some_iff.mpr there)
  · refine Option.eq_none_iff_forall_ne_some.mpr fun payload there => ?_
    obtain ⟨before, found, lasts⟩ :=
      retained.retains.lasts context payload there (linked.number_lt is)
    cases is.symm.trans found
    cases lasts
    obtain ⟨_, surface, own, live, -⟩ := retained.linked.records there
    cases own
    cases gone.symm.trans live

theorem Retained.contextLasts : ContextLasts late handle context := by
  obtain ⟨_, old, own, was, has⟩ := linked.records is
  cases own
  have keeps : ∀ surface, late.objects.surface? handle = some surface →
      surface.deviceContext = some context := fun _ => retained.deviceContext linked was has
  constructor
  case held =>
    intro surface live
    have there := (retained.linked.surface live).context context (keeps surface live)
    obtain ⟨object, found, shape⟩ := Option.map_eq_some_iff.mp there
    have referenced := retained.linked.wf.referenced object (ObjectTable.mem_of_find? found)
    exact ⟨keeps surface live, object, found, shape, referenced⟩
  case closed =>
    intro gone
    obtain ⟨surface, context⟩ := retained.closed linked is gone
    exact ⟨Option.map_eq_none_iff.mp surface, Option.map_eq_none_iff.mp context⟩
  case sole =>
    intro other there
    obtain ⟨_, surface, own, live, records⟩ := retained.linked.records there
    cases own
    exact Option.some.inj (records.symm.trans (keeps surface live))
  case given =>
    intro this out other final leads given
    obtain ⟨surface, live, -⟩ := late.surface?_of_surfaceFor? leads
    obtain ⟨-, _, new, again, there, records⟩ :=
      (ends_getDC_refusing retained.linked this out).of_ok given
    cases leads.symm.trans again
    have after := retained.linked.retained_of_getDC given
    have kept := after.deviceContext retained.linked live (keeps surface live) there
    exact Option.some.inj (records.symm.trans kept)
  case refused =>
    intro this value leads different
    obtain ⟨surface, live, -⟩ := late.surface?_of_surfaceFor? leads
    refine Session.refusesContext leads live fun same => different ?_
    exact Option.some.inj (same.symm.trans (keeps surface live))

end Life

/-! ### Every run -/

/-- The device contexts of a session, and what becomes of them in a run. -/
structure ContextsOwned (session : Session) (acts : List Act) : Prop where
  /-- A device context is that of a surface, which records it. -/
  owned : ∀ context content, session.objects.payload? context = some (.deviceContext content) →
    ∃ handle surface, content.surface = some handle ∧
      session.objects.surface? handle = some surface ∧
      surface.deviceContext = some context
  /-- It lasts as long as its surface. -/
  lasts : ∀ handle context, session.objects.payload? context = some (.deviceContext ⟨some handle⟩) →
    ContextLasts (session.through acts) handle context
  /-- So does one that is handed out now. -/
  given : ∀ this out context final, Engine.getDC this out session = .ok context final →
    ∃ handle, session.surfaceFor? this = some handle ∧
      ContextLasts (final.through acts) handle context
  /-- Where there is none, none is taken back. -/
  bare : ∀ this value handle surface, session.surfaceFor? this = some handle →
    session.objects.surface? handle = some surface → surface.deviceContext = none →
      session.RefusesContext this value

theorem Linked.contextsOwned {session : Session} (linked : Linked session.objects)
    (acts : List Act) :
    ContextsOwned session acts where
  owned _ _ is := linked.records is
  lasts _ _ is := (linked.retained acts).contextLasts linked is
  given this out context final given := by
    obtain ⟨-, handle, surface, leads, live, has⟩ :=
      (ends_getDC_refusing linked this out).of_ok given
    have after := linked.retained_of_getDC given
    exact ⟨handle, leads, (after.linked.retained acts).contextLasts after.linked
      ((after.linked.surface live).context context has)⟩
  bare _ _ _ _ leads live none := Session.refusesContext leads live (none ▸ nofun)

/-- **Device contexts live as long as their surfaces.** However often they are asked for and given
back in a run, and whatever fails in it, a surface has at most one, from the time that it is made
until both of them are closed. -/
theorem device_contexts_last (memory : Memory) (heap : Heap) (video : Aperture) (stubs : StubTable)
    (firstHandle : Nat) (mode : DisplayMode) (chain : FlipChain) (acts rest : List Act) :
    ContextsOwned ((Session.start memory heap video stubs firstHandle mode chain).through acts) rest := by
  have start : Linked (Session.start memory heap video stubs firstHandle mode chain).objects :=
    .startingAt firstHandle
  exact (start.retained acts).linked.contextsOwned rest

end GuestDraw
