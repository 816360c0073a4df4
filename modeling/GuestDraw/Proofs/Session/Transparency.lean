/-
**The cache is not seen.**

A guest that locks a surface before it writes to its pixels cannot tell when pixels are decoded into
a cache, and when the cache is written back or dropped. The picture of a surface changes only when
the guest draws on it, and then as if there were no caches: the picture of the source is copied onto
the one that the target had. Palettes change the colours of a picture, but no pixel.

* `Attains`: the states that such a guest can bring a session to;
* `ends_quiet`, `ends_tint`, `ends_draw`, `ends_coherent`: the calls keep a session coherent;
* `Coherent.transparent`: what they do to the pictures of surfaces;
* `cache_unobservable`: so it is in all states that are attained.
-/

import GuestDraw.Proofs.Session.Runs
import GuestDraw.Proofs.Session.Turnover

namespace GuestDraw

/-! ### The guest -/

/-- No pixel of a live surface lies in the bytes. -/
def Session.Clear (session : Session) (address length : Nat) : Prop :=
  ∀ handle surface, session.objects.surface? handle = some surface →
    ∀ point, address ≤ point → point < address + length → ¬ surface.buffer.Covers point

/-- No pixel of a live surface lies in the bytes unless the surface is locked. -/
def Session.Writable (session : Session) (address length : Nat) : Prop :=
  ∀ handle surface, session.objects.surface? handle = some surface → surface.locked = false →
    ∀ point, address ≤ point → point < address + length → ¬ surface.buffer.Covers point

namespace Call

/-- What a call answers is stored in a buffer without pixels. -/
def Clear (session : Session) : Call → Prop
  | createSurface _ out | createPalette _ _ out | getAttachedSurface _ _ out | getPalette _ out
  | getDC _ out => session.Clear out 4
  | lock this out _ => ∀ handle surface, session.surfaceFor? this = some handle →
    session.objects.surface? handle = some surface → session.Clear out surface.descriptorSize
  | _ => True

/-- Calls that are to change no picture. -/
def Quiet : Call → Prop
  | lock .. | unlock _ | getDC .. | releaseDC .. | flip .. | cacheOf .. | writeBack _ | picture _ =>
    True
  | _ => False

/-- Calls that are to change the colours of pictures. -/
def Tints : Call → Prop
  | setPalette .. | paletteSetEntries .. => True
  | _ => False

end Call

/-- The states to which a guest can bring a session that writes to the pixels of locked surfaces
only, keeps the palettes that it made, and has no two surfaces with the same pixels. -/
inductive Attains (start : Session) : Session → Prop
  | start : Attains start start
  | call {session : Session} (before : Attains start session) (call : Call)
    (keeps : ∀ this, call ≠ .paletteRelease this) (clear : call.Clear session)
    (apart : (session.after call).objects.Apart) : Attains start (session.after call)
  | store {session : Session} (before : Attains start session) (address : Nat) (data : List UInt8)
    (allowed : session.Writable address data.length) : Attains start (session.store address data)

/-! ### Properties that outlive keeping the books -/

section Outlive

variable {start : Session} {seen : Session → Prop}
  (closed : ∀ {middle final}, seen middle → Unseen middle final → seen final)

include closed

theorem Coherent.kept : Kept Tidying fun session => Coherent session ∧ seen session := by
  refine ⟨fun held => held.1.linked, fun held step => ?_⟩
  obtain ⟨coherent, unseen⟩ := held.1.tidying step
  exact ⟨coherent, closed held.2 unseen⟩

/-- Stores to bytes in which no surface had a pixel at the start. -/
theorem Coherent.spares (buffers : ∀ {session}, seen session → session.buffer? = start.buffer?)
    {address length : Nat}
    (clear : ∀ handle portrait, start.objects.portrait? handle = some portrait → ∀ point,
      address ≤ point → point < address + length → ¬ portrait.buffer.Covers point) :
    Spares (fun session => Coherent session ∧ seen session) address length := by
  rintro session place data ⟨coherent, held⟩ backed above below
  have same : ∀ handle portrait, session.objects.portrait? handle = some portrait →
      session.memory.SameOn (session.memory.put place data) portrait.buffer := by
    intro handle portrait there
    obtain ⟨before, was, buffer⟩ := ObjectTable.Stays.of_buffer? (buffers held) handle portrait there
    rw [buffer]
    refine Memory.sameOn_put backed fun point after ahead => ?_
    exact clear handle before was point (above.trans after) (by omega)
  exact ⟨coherent.remember fun handle portrait there => .inr (same handle portrait there),
    closed held (.of_sameOn rfl same)⟩

end Outlive

theorem Session.Clear.portraits {session : Session} {address length : Nat}
    (clear : session.Clear address length) (handle : Handle) (portrait : Portrait)
    (there : session.objects.portrait? handle = some portrait) (point : Nat)
    (above : address ≤ point) (below : point < address + length) : ¬ portrait.buffer.Covers point := by
  obtain ⟨surface, live, rfl⟩ := Option.map_eq_some_iff.mp there
  exact clear handle surface live point above below

/-! ### The calls -/

section Calls

variable {session : Session} (coherent : Coherent session)

include coherent

/-- Locks, device contexts, flips and all that is done to caches show nothing new. -/
theorem ends_quiet {call : Call} (quiet : call.Quiet) (clear : call.Clear session) :
    Ends call.run session (fun _ final => Coherent final ∧ Unseen session final)
      fun final => Coherent final ∧ Unseen session final := by
  have kept : Kept Tidying fun final => Coherent final ∧ Unseen session final :=
    Coherent.kept Unseen.trans
  have held : Coherent session ∧ Unseen session session := ⟨coherent, .refl session⟩
  have spares : ∀ {address length : Nat}, session.Clear address length →
      Spares (fun final => Coherent final ∧ Unseen session final) address length :=
    fun clear => Coherent.spares Unseen.trans Unseen.buffers clear.portraits
  cases call with
  | lock this out flags =>
    exact ends_lock kept held this out flags fun handle surface resolved live =>
      spares (clear handle surface resolved live)
  | unlock this => exact ends_unlock kept held this
  | getDC this out =>
    exact (ends_getDC kept held this out (spares clear)).forget
  | releaseDC this context => exact ends_releaseDC kept held this context
  | flip this target => exact ends_flip kept held this target
  | cacheOf handle make =>
    exact ((ends_cacheOf kept.caching held handle make).weaken fun _ _ ended => ended.1).forget
  | writeBack handle =>
    exact (ends_writeBack kept.settling held handle).weaken fun _ _ ended => ended.1
  | picture handle =>
    exact ((ends_picture kept.caching held handle).weaken fun _ _ ended => ended.1).forget
  | _ => exact quiet.elim

/-- Palettes change colours and no pixel. -/
theorem ends_tint {call : Call} (tints : call.Tints) :
    Ends call.run session (fun _ final => Coherent final ∧ Recoloured session final)
      fun final => Coherent final ∧ Recoloured session final := by
  have kept : Kept Tidying fun final => Coherent final ∧ Unseen session final :=
    Coherent.kept Unseen.trans
  have keptAfter : Kept Tidying fun final => Coherent final ∧ Recoloured session final :=
    Coherent.kept Recoloured.trans_unseen
  have held : Coherent session ∧ Unseen session session := ⟨coherent, .refl session⟩
  have either : ∀ final, (Coherent final ∧ Unseen session final) ∨
      (Coherent final ∧ Recoloured session final) → Coherent final ∧ Recoloured session final := by
    rintro final (⟨coherent, unseen⟩ | done)
    · exact ⟨coherent, .of_unseen unseen⟩
    · exact done
  cases call with
  | setPalette this palette =>
    refine (ends_setPalette held kept.settling this palette fun middle final held step => ?_).imp
      (fun _ => either) either
    exact (held.1.attaching step).imp_right (.after_unseen held.2)
  | paletteSetEntries this first count source =>
    refine (ends_paletteSetEntries kept held keptAfter this first count source
      (fun middle final held step => (held.1.recolouring step).imp_right (.after_unseen held.2))
      fun handle palette _ live => ?_).imp (fun _ _ done => done) either
    refine Coherent.spares Recoloured.trans_unseen Recoloured.buffers
      fun other portrait there point above below => ?_
    obtain ⟨-, -, size⟩ := coherent.laid.blocks handle palette live
    refine coherent.laid.not_covers_block live there ((Nat.le_add_right _ _).trans above) ?_
    have room : Palette.blockSize = Block.dataOffset + Palette.slots * 4 := rfl
    omega
  | _ => exact tints.elim

/-- A copy draws the picture of the source on that of the target. -/
def Drawn (session : Session) (this : Nat) (x y : Int32) (source region : Nat) (final : Session) :
    Prop :=
  ∃ target origin before image rect, session.surfaceFor? this = some target ∧
    session.surfaceFor? source = some origin ∧ session.contents target = some (.ok before) ∧
    session.contents origin = some (.ok image) ∧
    (if region = 0 then rect = image.bounds else Rect.read session.memory region = .ok rect) ∧
    final.contents =
      Function.update session.contents target (some (.ok (before.blit image rect x y)))

theorem ends_draw (this : Nat) (x y : Int32) (source region : Nat) (flags : BltFastFlags) :
    Ends (Engine.bltFast this x y source region flags) session
      (fun _ final => Coherent final ∧ Drawn session this x y source region final) Coherent := by
  have kept : Kept Tidying fun final => Coherent final ∧ Unseen session final :=
    Coherent.kept Unseen.trans
  have keptDrawn : Kept Tidying fun final =>
      Coherent final ∧ Drawn session this x y source region final := by
    refine Coherent.kept ?_
    rintro middle final ⟨target, origin, before, image, rect, resolved, given, had, shows, read, now⟩
      unseen
    exact ⟨target, origin, before, image, rect, resolved, given, had, shows, read,
      unseen.contents.trans now⟩
  refine (ends_bltFast ⟨coherent, .refl session⟩ kept.caching keptDrawn this x y source region flags ?_).imp
    (fun _ _ ended => ended) fun _ failed => failed.elim And.left And.left
  rintro target origin before image rect middle final resolved given ⟨suited, seen⟩ shows read
    ⟨coherent, unseen⟩ step
  obtain ⟨_, -, suits⟩ := suited.suits shows
  obtain ⟨coherent, raster, had, now⟩ :=
    coherent.drawing (fun _ _ fits => fits.blit suits rect x y) step
  rw [unseen.contents] at had now
  rw [seen.contents] at shows
  exact ⟨coherent, target, origin, raster, image, rect, resolved, given, had, shows, read, now⟩

/-- The guest is given a pointer with a reference. -/
theorem Coherent.handed {final : Session} {out pointer : Nat} (clear : session.Clear out 4)
    (ended : session.memory.holds out 4 = true ∧ ∃ middle, Taking session pointer middle ∧
      final = middle.answered out pointer) : Coherent final := by
  obtain ⟨backed, middle, taking, rfl⟩ := ended
  obtain ⟨taken, portraits⟩ := coherent.taking taking
  have same : middle.memory = session.memory := by cases taking; rfl
  refine taken.answered (same ▸ backed) fun handle portrait there => .inr ?_
  exact clear.portraits handle portrait (portraits ▸ there)

/-- Every call leaves the session coherent, if no two surfaces have the same pixels then. -/
theorem ends_coherent (call : Call) (keeps : ∀ this, call ≠ .paletteRelease this)
    (clear : call.Clear session) :
    Ends call.run session (fun _ final => final.objects.Apart → Coherent final)
      fun final => final.objects.Apart → Coherent final := by
  have unchanged : ∀ final, final = session → final.objects.Apart → Coherent final :=
    fun _ same _ => same ▸ coherent
  have handing : ∀ {out : Nat} {call : Engine Nat}, session.Clear out 4 →
      Ends call session (fun pointer final => session.memory.holds out 4 = true ∧
          ∃ middle, Taking session pointer middle ∧ final = middle.answered out pointer)
        (fun final => final = session ∨ session.memory.holds out 4 = false ∧
          ∃ pointer, Taking session pointer final) →
      Ends (discard call) session (fun _ final => final.objects.Apart → Coherent final)
        fun final => final.objects.Apart → Coherent final := by
    intro out call clear ends
    refine ends.discard.imp ?_ ?_
    · rintro _ final ⟨pointer, ended⟩ -
      exact coherent.handed clear ended
    · rintro final (same | ⟨-, pointer, taking⟩) apart
      · exact unchanged final same apart
      · exact (coherent.taking taking).1
  cases call with
  | createSurface request out =>
    refine ((ends_createSurface coherent.linked.numbered request out).discard).imp ?_ ?_
    · rintro _ _ ⟨_, handle, surface, middle, created, rfl, backed, rfl⟩ apart
      rw [Session.objects_answered] at apart
      rw [← created.holds] at backed
      obtain ⟨plan, shows, raised⟩ := created
      obtain ⟨grown, known⟩ := coherent.raised raised shows apart
      refine grown.answered backed fun other portrait there => ?_
      exact (known other portrait there).symm.imp_right (clear.portraits other portrait)
    · rintro final (abandoned | ⟨-, handle, surface, plan, shows, raised⟩) apart
      · exact coherent.abandoned abandoned
      · exact (coherent.raised raised shows apart).1
  | createPalette caps colours out =>
    refine ((ends_createPalette session caps colours out).discard).imp ?_ ?_
    · rintro _ _ ⟨_, handle, palette, middle, mixed, rfl, backed, rfl⟩ -
      rw [← mixed.groundwork.holds] at backed
      obtain ⟨grown, portraits⟩ := coherent.mixed mixed
      refine grown.answered backed fun other portrait there => .inr ?_
      exact clear.portraits other portrait (portraits ▸ there)
    · rintro final (ground | ⟨-, handle, palette, mixed⟩) -
      · exact coherent.prepared ground
      · exact (coherent.mixed mixed).1
  | setDisplayMode width height depth =>
    refine (ends_setDisplayMode session width height depth).imp
      (fun _ _ changed _ => coherent.unmapped changed) ?_
    rintro final (same | changed) apart
    · exact unchanged final same apart
    · exact coherent.unmapped changed
  | surfaceAddReference this =>
    refine ((ends_surfaceAddReference this).discard).imp ?_ unchanged
    rintro _ final ⟨_, taking⟩ -
    exact (coherent.taking taking).1
  | paletteAddReference this =>
    refine ((ends_paletteAddReference this).discard).imp ?_ unchanged
    rintro _ final ⟨_, taking⟩ -
    exact (coherent.taking taking).1
  | surfaceRelease this =>
    refine ((ends_surfaceRelease this).discard).imp ?_ unchanged
    rintro _ _ ⟨_, handle, surface, live, rfl, rfl⟩ -
    refine coherent.drain fun step listed payload found => ?_
    cases List.mem_singleton.mp listed
    exact ⟨surface, Option.some.inj (found.symm.trans (ObjectTable.surface?_eq_some_iff.mp live))⟩
  | paletteRelease this => exact absurd rfl (keeps this)
  | getAttachedSurface this caps out =>
    exact handing clear (ends_getAttachedSurface coherent.linked this caps out)
  | getPalette this out => exact handing clear (ends_getPalette this out)
  | bltFast this x y source region flags =>
    exact (ends_draw coherent this x y source region flags).imp (fun _ _ ended _ => ended.1)
      fun _ ended _ => ended
  | setPalette | paletteSetEntries =>
    refine (ends_tint coherent ?_).imp (fun _ _ ended _ => ended.1) fun _ ended _ => ended.1
    exact trivial
  | _ =>
    refine (ends_quiet coherent ?_ clear).imp (fun _ _ ended _ => ended.1) fun _ ended _ => ended.1
    exact trivial

/-- As long as no live surface is in the frame buffer, a request brings no two surfaces with the
same pixels. -/
theorem Coherent.apart_createSurface (hidden : ∀ other portrait,
    session.objects.portrait? other = some portrait → InHeap session portrait.buffer)
    (request out : Nat) : (session.after (.createSurface request out)).objects.Apart := by
  have ends : Ends (Call.createSurface request out).run session
      (fun _ final => final.objects.Apart) fun final => final.objects.Apart := by
    refine (ends_createSurface coherent.linked.numbered request out).discard.imp ?_ ?_
    · rintro _ _ ⟨_, handle, surface, middle, ⟨plan, shows, raised⟩, -, -, rfl⟩
      rw [Session.objects_answered]
      exact coherent.apart_raised raised shows hidden
    · rintro final (abandoned | ⟨-, handle, surface, plan, shows, raised⟩)
      · exact (coherent.abandoned abandoned).apart
      · exact coherent.apart_raised raised shows hidden
  exact ends.after

/-- The guest writes to pixels of locked surfaces only. -/
theorem Coherent.store {address : Nat} {data : List UInt8}
    (allowed : session.Writable address data.length) : Coherent (session.store address data) := by
  unfold Session.store
  split
  · next backed =>
    refine coherent.remember fun handle portrait there => ?_
    obtain ⟨surface, live, rfl⟩ := Option.map_eq_some_iff.mp there
    cases has : surface.cache with
    | none =>
      refine .inl ?_
      rw [Surface.portrait, has]
      rfl
    | some cache =>
      obtain ⟨-, unlocked, -⟩ := coherent.linked.cache live has
      exact .inr (Memory.sameOn_put backed (allowed handle surface live unlocked))
  · exact coherent

end Calls

/-! ### Runs -/

theorem Attains.coherent {start session : Session} (attained : Attains start session)
    (first : Coherent start) : Coherent session := by
  induction attained with
  | start => exact first
  | call before call keeps clear apart ih => exact (ends_coherent ih call keeps clear).after apart
  | store before address data allowed ih => exact ih.store allowed

/-- Calls that change no picture are no danger to it. -/
theorem Attains.quiet {start session : Session} (attained : Attains start session)
    (first : Coherent start) {call : Call} (quiet : call.Quiet) (clear : call.Clear session) :
    Attains start (session.after call) := by
  refine .call attained call (fun this same => ?_) clear
    (ends_quiet (attained.coherent first) quiet clear).after.1.apart
  subst same
  exact quiet

theorem coherent_start (memory : Memory) {heapBase heapSize videoBase videoSize : Nat}
    (inSpace : heapBase < addressSpace)
    (disjoint : heapBase + heapSize ≤ videoBase ∨ videoBase + videoSize ≤ heapBase)
    (stubs : StubTable) (firstHandle : Nat) (mode : DisplayMode) (chain : FlipChain) :
    Coherent (.start memory (.ofRange heapBase heapSize) (.ofRange videoBase videoSize) stubs
      firstHandle mode chain) := by
  refine ⟨.startingAt firstHandle, ObjectTable.attached_startingAt firstHandle,
    ⟨?_, ?_, ?_, ?_, ?_, ?_, ?_⟩, ?_, ?_⟩
  · exact Nat.le_refl heapBase
  · show heapBase ≤ min (heapBase + heapSize) (addressSpace - 1)
    omega
  · exact Nat.le_refl videoBase
  · show min (heapBase + heapSize) (addressSpace - 1) ≤ videoBase ∨
      min (videoBase + videoSize) (addressSpace - 1) ≤ heapBase
    omega
  · exact fun _ none => nomatch none
  · exact fun _ _ live => nomatch live
  · exact fun _ _ there => nomatch there
  · exact fun _ _ _ _ there => nomatch there
  · exact fun _ _ there => nomatch there

/-- No call of a session lets on what is in a cache and what is not. -/
structure Transparent (session : Session) : Prop where
  quiet : ∀ (call : Call) final, call.Quiet → call.Clear session → call.run session = .ok () final →
    ∀ handle, final.contents handle = session.contents handle
  tints : ∀ (call : Call) final, call.Tints → call.run session = .ok () final →
    Recoloured session final
  draws : ∀ this x y source region flags final,
    (Call.bltFast this x y source region flags).run session = .ok () final →
      Drawn session this x y source region final

theorem Coherent.transparent {session : Session} (coherent : Coherent session) :
    Transparent session where
  quiet _ _ quiet clear succeeds handle :=
    congrFun ((ends_quiet coherent quiet clear).of_ok succeeds).2.contents handle
  tints _ _ tints succeeds := ((ends_tint coherent tints).of_ok succeeds).2
  draws this x y source region flags _ succeeds :=
    ((ends_draw coherent this x y source region flags).of_ok succeeds).2

/-- **The raster cache is unobservable.** -/
theorem cache_unobservable {memory : Memory} {heapBase heapSize videoBase videoSize : Nat}
    {stubs : StubTable} {firstHandle : Nat} {mode : DisplayMode} {chain : FlipChain}
    {session : Session} (inSpace : heapBase < addressSpace)
    (disjoint : heapBase + heapSize ≤ videoBase ∨ videoBase + videoSize ≤ heapBase)
    (attained : Attains (.start memory (.ofRange heapBase heapSize) (.ofRange videoBase videoSize)
      stubs firstHandle mode chain) session) : Transparent session :=
  (attained.coherent
    (coherent_start memory inSpace disjoint stubs firstHandle mode chain)).transparent

/-- A surface is made and its pixel decoded. -/
theorem cache_unobservable_one_pixel :
    Attains onePixel ((onePixel.after (.createSurface 4 0x1AC)).after (.cacheOf ⟨1⟩ true)) ∧
      Transparent ((onePixel.after (.createSurface 4 0x1AC)).after (.cacheOf ⟨1⟩ true)) := by
  have coherent : Coherent onePixel := coherent_start _ (by decide) (by decide) _ _ _ _
  have made : Attains onePixel (onePixel.after (.createSurface 4 0x1AC)) :=
    .call .start _ (fun _ => nofun) (fun _ _ live => nomatch live)
      (coherent.apart_createSurface (fun _ _ there => nomatch there) 4 0x1AC)
  have seen : Attains onePixel ((onePixel.after (.createSurface 4 0x1AC)).after (.cacheOf ⟨1⟩ true)) :=
    made.quiet coherent trivial trivial
  exact ⟨seen, cache_unobservable (by decide) (by decide) seen⟩

end GuestDraw
