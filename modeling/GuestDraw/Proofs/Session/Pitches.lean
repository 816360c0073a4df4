/-
**No pitch is cut off.**

A pitch that does not fit a dword is cut off at the last multiple of four, and the pixels of a
surface take its height times that. Such a surface is never created, whatever heap, aperture and
mode there are: heap and aperture round the end of a block up, and that leaves the address space
when the block has all but four of its bytes. So a surface that has a scanline at all records the
pitch that it needs, and has the memory for it.

* `Countable.of_room`: with room behind its pixels the pitch of a surface is not cut off;
* `Housed`: where pixels are, with room behind them, and `Housed.step`: so it stays;
* `Tall`: while the mode has scanlines every surface has;
* `pitches_exact`: the pitches and the memory of all surfaces, in any state.
-/

import GuestDraw.Proofs.Session.Primaries

namespace GuestDraw

/-! ### Pitches -/

/-- The bytes of a scanline can be counted in a dword, and so can those of `height` scanlines. -/
structure Countable (width height depth : Nat) : Prop where
  line : exactPitch width depth < addressSpace
  whole : exactPitch width depth * height < addressSpace

/-- A pitch that leaves room for a dword behind it is not cut off. -/
theorem pitch_eq_exactPitch {width depth : Nat} (room : pitch width depth + 4 < addressSpace) :
    exactPitch width depth < addressSpace ∧ pitch width depth = exactPitch width depth := by
  unfold pitch at room ⊢
  split
  · next fits => exact ⟨fits, rfl⟩
  · next cut =>
    rw [if_neg cut] at room
    omega

theorem Countable.of_room {width height depth : Nat} (high : height ≠ 0)
    (room : pitch width depth * height + 4 < addressSpace) :
    Countable width height depth ∧ pitch width depth = exactPitch width depth := by
  have line : pitch width depth ≤ pitch width depth * height :=
    Nat.le_mul_of_pos_right _ (Nat.pos_of_ne_zero high)
  obtain ⟨narrow, same⟩ := pitch_eq_exactPitch (Nat.lt_of_le_of_lt (Nat.add_le_add_right line 4) room)
  rw [same] at room
  exact ⟨⟨narrow, by omega⟩, same⟩

/-! ### The frame buffer -/

variable {start final session : Session}

/-- The frame buffer has the memory for a picture, and a page of the address space behind it. -/
def Framed (session : Session) : Prop :=
  ∀ address, session.frameBuffer = some address → ∃ size, session.mode.frameSize? = some size ∧
    size + Aperture.page ≤ addressSpace ∧ session.memory.holds address size = true

theorem Framed.same (framed : Framed start) (places : SamePlaces start final) : Framed final := by
  intro address mapped
  obtain ⟨size, sized, narrow, backed⟩ := framed address (places.frameBuffer ▸ mapped)
  exact ⟨size, places.mode ▸ sized, narrow, places.holds _ _ ▸ backed⟩

theorem Framed.grow (framed : Framed start) (ground : Groundwork start final) : Framed final := by
  intro address mapped
  rw [ground.mode]
  rcases ground.frame with same | ⟨unmapped, place, size, taken, sized, -, -, -, backed⟩
  · obtain ⟨size, sized, narrow, backed⟩ := framed address (same ▸ mapped)
    exact ⟨size, sized, narrow, ground.holds _ _ ▸ backed⟩
  · cases taken.symm.trans mapped
    refine ⟨size, sized, ?_, ground.holds _ _ ▸ backed⟩
    rcases ground.paged with same | narrow
    · cases (same.symm.trans taken).symm.trans unmapped
    · exact narrow size sized

/-! ### Surfaces -/

/-- The pixels of a surface were cut off the heap, from `floor` on, and there is room behind
them. -/
structure Granted (floor : Nat) (session : Session) (surface : Surface) : Prop where
  above : floor ≤ surface.memory
  below : surface.memory + surface.pitch * surface.height ≤ session.heap.next
  room : surface.pitch * surface.height + 4 < addressSpace

/-- The pixels of a surface have their memory on the heap, or they are the picture. -/
structure Housing (floor : Nat) (session : Session) (surface : Surface) : Prop where
  backed : session.memory.holds surface.memory (surface.pitch * surface.height) = true
  placed : Granted floor session surface ∨ InFrame session surface.buffer

variable {floor : Nat} {surface : Surface}

namespace Housing

/-- Nothing of it depends on what changes while a surface is alive. -/
theorem congr {old new : Surface} (fixed : new.fixed = old.fixed)
    (housing : Housing floor session old) :
    Housing floor session new := by
  have same : Housing floor session old.fixed :=
    ⟨housing.backed, housing.placed.imp_left fun granted => ⟨granted.above, granted.below, granted.room⟩⟩
  rw [← fixed] at same
  exact ⟨same.backed, same.placed.imp_left fun granted => ⟨granted.above, granted.below, granted.room⟩⟩

theorem same (housing : Housing floor start surface) (places : SamePlaces start final) :
    Housing floor final surface where
  backed := places.holds _ _ ▸ housing.backed
  placed := housing.placed.imp (fun granted => ⟨granted.above, places.heap ▸ granted.below, granted.room⟩)
    (InFrame.same · places)

theorem grow (housing : Housing floor start surface) (ground : Groundwork start final) :
    Housing floor final surface where
  backed := ground.holds _ _ ▸ housing.backed
  placed := housing.placed.imp
    (fun granted => ⟨granted.above, granted.below.trans ground.heapNext, granted.room⟩)
    (InFrame.grow · ground)

/-- The pitch of a surface that has a scanline is not cut off. -/
theorem countable (housing : Housing floor session surface) (framed : Framed session)
    (pitched : surface.pitch = pitch surface.width surface.depth) (high : surface.height ≠ 0) :
    Countable surface.width surface.height surface.depth ∧
      surface.pitch = exactPitch surface.width surface.depth := by
  have room : surface.pitch * surface.height + 4 < addressSpace := by
    rcases housing.placed with granted | shown
    · exact granted.room
    · obtain ⟨size, sized, narrow, -⟩ := framed _ shown.address
      have taken : size = pitch surface.width surface.depth * surface.height := shown.size_eq sized
      rw [pitched, ← taken]
      unfold Aperture.page at narrow
      omega
  rw [pitched] at room ⊢
  exact Countable.of_room high room

end Housing

/-- All surfaces have their memory, on the heap from `floor` on or in the frame buffer, and those on
the heap do not overlap. -/
structure Housed (floor : Nat) (session : Session) : Prop where
  linked : Linked session.objects
  mapped : Mapped session
  framed : Framed session
  reached : floor ≤ session.heap.next
  surfaces : ∀ handle surface, session.objects.surface? handle = some surface →
    Housing floor session surface
  apart : ∀ one other first second, one ≠ other → session.objects.surface? one = some first →
    session.objects.surface? other = some second →
      first.pixels.Apart second.pixels ∨ InFrame session first.buffer ∨
        InFrame session second.buffer

namespace Housed

/-- While memory is only given up, what is left stays where it is. -/
theorem shrink (housed : Housed floor start) (linked : Linked final.objects)
    (places : SamePlaces start final) (inherits : start.objects.Inherits final.objects) :
    Housed floor final where
  linked := linked
  mapped := housed.mapped.same places
  framed := housed.framed.same places
  reached := places.heap ▸ housed.reached
  surfaces handle surface live := by
    obtain ⟨old, was, fixed⟩ := inherits.surface handle surface live
    exact ((housed.surfaces handle old was).same places).congr fixed
  apart one other first second different liveOne liveOther := by
    obtain ⟨old, was, fixed⟩ := inherits.surface one first liveOne
    obtain ⟨more, also, fixedOther⟩ := inherits.surface other second liveOther
    rw [Sited.pixels_of_fixed fixed, Sited.pixels_of_fixed fixedOther, Sited.buffer_of_fixed fixed,
      Sited.buffer_of_fixed fixedOther]
    exact (housed.apart one other old more different was also).imp_right
      (Or.imp (InFrame.same · places) (InFrame.same · places))

/-- Without a picture all pixels are on the heap. -/
theorem unmapped (housed : Housed floor start) (step : Unmapped start final) :
    Housed floor final := by
  have mapped := housed.mapped.step (.unmapped step)
  obtain @⟨video, mode, unused⟩ := step
  have hidden : ∀ handle surface, start.objects.surface? handle = some surface →
      ¬ InFrame start surface.buffer := by
    intro handle surface live shown
    rw [(Session.frameBufferInUse_iff housed.linked.wf).mpr ⟨handle, surface, live, shown.address⟩]
      at unused
    cases unused
  refine ⟨housed.linked, mapped, nofun, housed.reached, fun handle surface live => ?_, ?_⟩
  · obtain ⟨backed, placed⟩ := housed.surfaces handle surface live
    obtain ⟨above, below, room⟩ := placed.resolve_right (hidden handle surface live)
    exact ⟨backed, .inl ⟨above, below, room⟩⟩
  · intro one other first second different liveOne liveOther
    refine .inl ((housed.apart one other first second different liveOne liveOther).resolve_right ?_)
    exact fun shown => shown.elim (hidden one first liveOne) (hidden other second liveOther)

/-- At most one surface comes, and its pixels are cut off the heap or are the picture. -/
theorem grow (housed : Housed floor start) (linked : Linked final.objects)
    (ground : Groundwork start final) (fresh : Option Handle)
    (known : ∀ handle surface, final.objects.surface? handle = some surface →
      start.objects.surface? handle = some surface ∨ some handle = fresh ∧
        Housing floor final surface ∧
          (start.heap.next ≤ surface.memory ∨ InFrame final surface.buffer)) :
    Housed floor final where
  linked := linked
  mapped := housed.mapped.grow ground
  framed := housed.framed.grow ground
  reached := housed.reached.trans ground.heapNext
  surfaces handle surface live := by
    rcases known handle surface live with was | ⟨-, housing, -⟩
    · exact (housed.surfaces handle surface was).grow ground
    · exact housing
  apart one other first second different liveOne liveOther := by
    -- What was there ends where what comes begins.
    have before : ∀ {handle : Handle} {old new : Surface},
        start.objects.surface? handle = some old →
        start.heap.next ≤ new.memory ∨ InFrame final new.buffer →
          old.pixels.stop ≤ new.pixels.address ∨ InFrame final old.buffer ∨
            InFrame final new.buffer := by
      intro handle old new was place
      rcases place with above | shown
      · refine (housed.surfaces handle old was).placed.imp (fun granted => ?_)
          fun shown => .inl (shown.grow ground)
        exact granted.below.trans above
      · exact .inr (.inr shown)
    rcases known one first liveOne with was | ⟨isFresh, -, place⟩
    · rcases known other second liveOther with also | ⟨-, -, place⟩
      · exact (housed.apart one other first second different was also).imp_right
          (Or.imp (InFrame.grow · ground) (InFrame.grow · ground))
      · exact (before was place).imp_left .inl
    · rcases known other second liveOther with also | ⟨isOther, -⟩
      · exact (before also place).imp .inr Or.symm
      · exact absurd (Option.some.inj (isFresh.trans isOther.symm)) different

theorem prepared (housed : Housed floor start) (ground : Prepared start start.objects final) :
    Housed floor final := by
  obtain ⟨ground, same⟩ := ground
  refine housed.grow (same ▸ housed.linked) ground none fun handle surface live => .inl ?_
  rwa [same] at live

section Built

variable {plan : SurfacePlan} {backBuffer : Option Handle} {handle : Handle}

/-- A new surface has its pixels on the heap, before its block, or they are the picture. -/
theorem placed (housed : Housed floor start)
    (built : Built start plan backBuffer handle surface final) (shows : plan.Shows start.mode) :
    Housing floor final surface ∧
      (start.heap.next ≤ surface.memory ∨ InFrame final surface.buffer) := by
  have ground := built.groundwork
  obtain ⟨width, height, depth, pitched⟩ := built.sizes
  cases backing : plan.backing with
  | heap =>
    have carved := built.carved backing
    have pixels := built.pixels
    rw [SurfacePlan.PixelsAt, backing] at pixels
    rw [← pitched, ← height] at carved pixels
    have before := carved.before
    have narrow : surface.object + 132 < addressSpace := built.block.narrow
    refine ⟨⟨ground.holds _ _ ▸ carved.backed, .inl ⟨housed.reached.trans pixels.above, pixels.below, ?_⟩⟩,
      .inl pixels.above⟩
    omega
  | frameBuffer =>
    have shown := built.inFrame shows backing
    obtain ⟨size, sized, -, backed⟩ := housed.framed.grow ground _ shown.address
    have taken : size = pitch surface.width surface.depth * surface.height := shown.size_eq sized
    rw [taken, width, depth, ← pitched] at backed
    exact ⟨⟨backed, .inr shown⟩, .inr shown⟩

theorem built (housed : Housed floor start)
    (built : Built start plan backBuffer handle surface final) (shows : plan.Shows start.mode)
    (linked : Linked final.objects) : Housed floor final := by
  refine housed.grow linked built.groundwork (some handle) fun other found live => ?_
  refine (ObjectTable.surface?_of_create housed.linked.numbered built.made live).imp_right ?_
  rintro ⟨rfl, is⟩
  cases is
  exact ⟨rfl, housed.placed built shows⟩

end Built

/-- A back buffer alone. -/
theorem first (housed : Housed floor start) {plan : SurfacePlan} {child : Handle} {back : Surface}
    (built : Built start (plan.child start.chain) none child back final) : Housed floor final :=
  housed.built built (fun onScreen => nomatch onScreen) (housed.linked.raised (.single built))

theorem created (housed : Housed floor start) {handle : Handle}
    (created : Created start handle surface final) : Housed floor final := by
  obtain ⟨plan, shows, raised⟩ := created
  exact raised.keeps housed.linked housed shows fun housed built shows _ linked =>
    housed.built built shows linked

theorem abandoned (housed : Housed floor start) (abandoned : Abandoned start final) :
    Housed floor final :=
  abandoned.keeps housed.linked housed housed.first Housed.prepared Housed.shrink

theorem mixed (housed : Housed floor start) {handle : Handle} {palette : Palette}
    (mixed : Mixed start handle palette final) : Housed floor final := by
  refine housed.grow (housed.linked.mixed mixed) mixed.groundwork none fun other surface live => .inl ?_
  refine (ObjectTable.surface?_of_create housed.linked.numbered mixed.made live).resolve_right ?_
  exact fun is => nomatch is.2

/-- All surfaces keep their memory in every step, and those that come have theirs. -/
theorem step (housed : Housed floor start) (step : Step start final) : Housed floor final := by
  cases step with
  | onward step =>
    exact housed.shrink (housed.linked.onward step) step.places (step.inherits housed.linked)
  | unmapped step => exact housed.unmapped step
  | prepared ground => exact housed.prepared ground
  | created created => exact housed.created created
  | abandoned abandoned => exact housed.abandoned abandoned
  | mixed mixed => exact housed.mixed mixed

/-- What is created while a surface is built has a pitch that is not cut off. -/
theorem countable_of_buildSingle (housed : Housed floor session) {plan : SurfacePlan}
    {backBuffer : Option Handle} {handle : Handle} (shows : plan.Shows session.mode)
    (high : plan.height ≠ 0)
    (done : Engine.buildSingle plan backBuffer session = .ok handle final) :
    Countable plan.width plan.height plan.depth := by
  obtain ⟨surface, built⟩ := (ends_buildSingle session plan backBuffer).of_ok done
  have housing := (housed.placed built shows).1
  rw [built.shape] at housing
  exact (housing.countable (housed.framed.grow built.groundwork) rfl high).1

end Housed

/-! ### Scanlines -/

/-- The picture and all surfaces have a scanline. -/
structure Tall (session : Session) : Prop where
  linked : Linked session.objects
  mode : session.mode.height ≠ 0
  surfaces : ∀ handle surface, session.objects.surface? handle = some surface → surface.height ≠ 0

namespace Tall

/-- While no surface comes. -/
theorem noneNew (tall : Tall start) (linked : Linked final.objects)
    (mode : final.mode = start.mode ∨ final.mode.height ≠ 0) (same : NoneNew start final) :
    Tall final where
  linked := linked
  mode := by
    rcases mode with mode | high
    · exact mode ▸ tall.mode
    · exact high
  surfaces handle surface live := by
    obtain ⟨old, was, fixed⟩ := same handle surface live
    have height : surface.fixed.height = old.fixed.height := congrArg Surface.height fixed
    exact ne_of_eq_of_ne height (tall.surfaces handle old was)

theorem step (tall : Tall start) (quiet : Quiet start final) : Tall final := by
  refine tall.noneNew (tall.linked.step quiet.step) ?_ (.quiet tall.linked quiet)
  cases quiet with
  | onward step => exact .inl step.places.mode
  | unmapped step =>
    obtain @⟨video, mode, -, -, -, -, -, sized⟩ := step
    exact sized
  | prepared ground => exact .inl ground.1.mode
  | mixed mixed => exact .inl mixed.groundwork.mode

/-- A surface that could not be created is gone. -/
theorem abandoned (tall : Tall start) (abandoned : Abandoned start final) : Tall final := by
  refine tall.noneNew (tall.linked.abandoned abandoned) (.inl ?_) (.abandoned tall.linked abandoned)
  cases abandoned with
  | early ground => exact ground.1.mode
  | late first ground => exact (first.groundwork.trans ground.1).mode

theorem kept : Kept Quiet Tall := ⟨Tall.linked, Tall.step⟩

theorem built (tall : Tall start) {plan : SurfacePlan}
    {backBuffer : Option Handle} {handle : Handle}
    (built : Built start plan backBuffer handle surface final) (high : plan.height ≠ 0)
    (linked : Linked final.objects) : Tall final where
  linked := linked
  mode := built.groundwork.mode ▸ tall.mode
  surfaces other found live := by
    rcases ObjectTable.surface?_of_create tall.linked.numbered built.made live with was | ⟨-, is⟩
    · exact tall.surfaces other found was
    · cases is
      rw [built.shape]
      exact high

theorem raised (tall : Tall start) {plan : SurfacePlan} {handle : Handle}
    (raised : Raised start plan handle surface final) (shows : plan.Shows start.mode)
    (high : plan.height ≠ 0) : Tall final :=
  raised.keeps tall.linked tall shows fun tall built _ height linked =>
    tall.built built (height ▸ high) linked

theorem createSurface (tall : Tall session) (request out : Nat) :
    Ends (discard (Engine.createSurface request out)) session (fun _ => Tall) Tall := by
  refine ((ends_createSurface_ordered tall.linked.numbered request out).discard).imp ?_ ?_
  · rintro _ _ ⟨_, plan, handle, surface, middle, ⟨_, -, planned⟩, raised, -, rfl, -, rfl⟩
    have there := tall.raised raised (planSurface_shows planned) (planSurface_high planned tall.mode)
    exact ⟨there.linked, there.mode, there.surfaces⟩
  · rintro final (abandoned | ⟨-, plan, handle, surface, ⟨_, -, planned⟩, raised⟩)
    · exact tall.abandoned abandoned
    · exact tall.raised raised (planSurface_shows planned) (planSurface_high planned tall.mode)

theorem through (tall : Tall session) (acts : List Act) : Tall (session.through acts) := by
  induction acts generalizing session with
  | nil => exact tall
  | cons act rest ih =>
    exact ih (ends_act kept tall act fun request out _ => tall.createSurface request out).next

end Tall

/-! ### Every state -/

/-- What is known of the pitches and the pixels in a session that began in `mode`, with a heap that
had nothing but what is below `floor`. -/
structure PitchesExact (floor : Nat) (mode : DisplayMode) (session : Session) : Prop where
  /-- A surface that has a scanline records the pitch that it needs. -/
  recorded : ∀ handle surface, session.objects.surface? handle = some surface → surface.height ≠ 0 →
    Countable surface.width surface.height surface.depth ∧
      surface.pitch = exactPitch surface.width surface.depth
  /-- All surfaces have one, if the picture had one at the start. -/
  high : mode.height ≠ 0 → ∀ handle surface, session.objects.surface? handle = some surface →
    surface.height ≠ 0
  /-- There is memory for all scanlines, in a block of the heap or in the frame buffer that is
  mapped. -/
  stored : ∀ handle surface, session.objects.surface? handle = some surface →
    session.memory.holds surface.memory (surface.pitch * surface.height) = true ∧
      (floor ≤ surface.memory ∧ surface.memory + surface.pitch * surface.height ≤ session.heap.next ∨
        session.frameBuffer = some surface.memory ∧ ∃ length,
          session.video.length? surface.memory = some length ∧
            surface.pitch * surface.height ≤ length)
  /-- No two surfaces have the same memory but in the frame buffer. -/
  apart : ∀ one other first second, one ≠ other → session.objects.surface? one = some first →
    session.objects.surface? other = some second → first.pixels.Apart second.pixels ∨
      session.frameBuffer = some first.memory ∨ session.frameBuffer = some second.memory
  /-- No surface is created whose pixels cannot be counted, not even one that is closed again at
  once. -/
  created : ∀ (plan : SurfacePlan) backBuffer handle final,
    plan.Shows session.mode → plan.height ≠ 0 →
    Engine.buildSingle plan backBuffer session = .ok handle final →
      Countable plan.width plan.height plan.depth

theorem Housed.pitchesExact (housed : Housed floor session) (pitched : Pitched session.objects)
    {mode : DisplayMode} (high : mode.height ≠ 0 → Tall session) :
    PitchesExact floor mode session where
  recorded handle surface live :=
    (housed.surfaces handle surface live).countable housed.framed (pitched handle surface live)
  high began := (high began).surfaces
  stored handle surface live := by
    obtain ⟨backed, placed⟩ := housed.surfaces handle surface live
    refine ⟨backed, placed.imp (fun granted => ⟨granted.above, granted.below⟩) fun shown => ?_⟩
    obtain ⟨size, length, sized, known, enough⟩ := housed.mapped _ shown.address
    have taken : size = pitch surface.width surface.depth * surface.height := shown.size_eq sized
    rw [taken, ← pitched handle surface live] at enough
    exact ⟨shown.address, length, known, enough⟩
  apart one other first second different liveOne liveOther :=
    (housed.apart one other first second different liveOne liveOther).imp_right
      (Or.imp InFrame.address InFrame.address)
  created _ _ _ _ shows high done := housed.countable_of_buildSingle shows high done

/-- **No pitch is cut off**, and every surface has the memory for its scanlines, in every state that
a session can come to, whatever heap, aperture and mode it was given. -/
theorem pitches_exact (memory : Memory) (heap : Heap) (video : Aperture) (stubs : StubTable)
    (firstHandle : Nat) (mode : DisplayMode) (chain : FlipChain) (acts : List Act) :
    PitchesExact heap.next mode
      ((Session.start memory heap video stubs firstHandle mode chain).through acts) := by
  have linked : Linked (Session.start memory heap video stubs firstHandle mode chain).objects :=
    .startingAt firstHandle
  have kept : Kept Step fun session => Housed heap.next session ∧ Pitched session.objects :=
    ⟨fun held => held.1.linked, fun held step => ⟨held.1.step step, held.2.step held.1.linked step⟩⟩
  have begins : Housed heap.next (.start memory heap video stubs firstHandle mode chain) :=
    ⟨linked, nofun, nofun, Nat.le_refl heap.next, (fun _ _ live => nomatch live),
      fun _ _ _ _ _ live => nomatch live⟩
  obtain ⟨housed, pitched⟩ := kept.through ⟨begins, fun _ _ live => nomatch live⟩ acts
  refine housed.pitchesExact pitched fun high => ?_
  have begins : Tall (.start memory heap video stubs firstHandle mode chain) :=
    ⟨linked, high, fun _ _ live => nomatch live⟩
  exact begins.through acts

end GuestDraw
