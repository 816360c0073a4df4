/-
**Everything that happens to a session.**

Besides the calls on surfaces and palettes there are questions of the guest, vtables that are built
ahead of need, caches that are thrown away, methods called through stubs, and what the guest stores
in its memory. All of it comes down to the same few steps (`Step`). So a property of every reachable
state is one that a new session has and that each step keeps.

* `Act`, `Session.through`: what can happen, and the state after a series of it;
* `Quiet`: the steps with which no surface comes, which are those of all acts but one;
* `Discreet`: those among them that store nothing where the guest is answered, and `ends_call`,
  `ends_query`, `ends_plain`: a call is made of these and of stores to the buffer that it is given;
* `Colourfast`: the discreet steps that give no palette other colours, with `ends_fastCall`,
  `ends_fastPlain`;
* `Kept.next`: an act, also one that fails, keeps what every step keeps;
* `Kept.through`: so does a whole run.
-/

import GuestDraw.Proofs.Session.Portraits
import GuestDraw.Proofs.Session.Runs

namespace GuestDraw

/-! ### Steps -/

/-- A step with which nothing comes that has memory of its own. -/
inductive Onward (start : Session) : Session → Prop
  | tidying {final : Session} (step : Tidying start final) : Onward start final
  /-- A cache is dropped with all that was drawn on it. -/
  | forgotten {handle cache : Handle} {surface : Surface}
    (live : start.objects.surface? handle = some surface) (has : surface.cache = some cache) :
    Onward start { start with
      objects := .drain [.close cache]
        (start.objects.setPayload handle (.surface { surface with cache := none })) }
  /-- What a surface shows is copied to one. -/
  | drawing {handle : Handle} {image : Raster} {rect : Rect} {x y : Int32} {final : Session}
    (step : Drawing handle (fun raster => raster.blit image rect x y) start final)
    (seen : ∃ origin, start.contents origin = some (.ok image)) : Onward start final
  | attaching {final : Session} (step : Attaching start final) : Onward start final
  | recolouring {final : Session} (step : Recolouring start final) : Onward start final
  | taking {pointer : Nat} {final : Session} (step : Taking start pointer final) :
    Onward start final
  /-- A reference to a surface or a palette is given back. -/
  | returned {handle : Handle} {pointer : Nat} (block : start.objects.block? handle = some pointer) :
    Onward start { start with objects := .drain [.release handle] start.objects }
  /-- Bytes are stored in guest memory. -/
  | stored {place : Nat} {data : List UInt8} (backed : start.memory.holds place data.length = true) :
    Onward start { start with memory := start.memory.put place data }

/-- A step of a session. -/
inductive Step (start : Session) : Session → Prop
  | onward {final : Session} (step : Onward start final) : Step start final
  | unmapped {final : Session} (step : Unmapped start final) : Step start final
  | prepared {final : Session} (ground : Prepared start start.objects final) : Step start final
  | created {handle : Handle} {surface : Surface} {final : Session}
    (created : Created start handle surface final) : Step start final
  | abandoned {final : Session} (abandoned : Abandoned start final) : Step start final
  | mixed {handle : Handle} {palette : Palette} {final : Session}
    (mixed : Mixed start handle palette final) : Step start final

/-- A step with which no surface comes. -/
inductive Quiet (start : Session) : Session → Prop
  | onward {final : Session} (step : Onward start final) : Quiet start final
  | unmapped {final : Session} (step : Unmapped start final) : Quiet start final
  | prepared {final : Session} (ground : Prepared start start.objects final) : Quiet start final
  | mixed {handle : Handle} {palette : Palette} {final : Session}
    (mixed : Mixed start handle palette final) : Quiet start final

/-- A step with which no surface comes and which stores nothing where the guest is answered. -/
inductive Discreet (start : Session) : Session → Prop
  | tidying {final : Session} (step : Tidying start final) : Discreet start final
  /-- A cache is dropped with all that was drawn on it. -/
  | forgotten {handle cache : Handle} {surface : Surface}
    (live : start.objects.surface? handle = some surface) (has : surface.cache = some cache) :
    Discreet start { start with
      objects := .drain [.close cache]
        (start.objects.setPayload handle (.surface { surface with cache := none })) }
  /-- What a surface shows is copied to one. -/
  | drawing {handle : Handle} {image : Raster} {rect : Rect} {x y : Int32} {final : Session}
    (step : Drawing handle (fun raster => raster.blit image rect x y) start final)
    (seen : ∃ origin, start.contents origin = some (.ok image)) : Discreet start final
  | attaching {final : Session} (step : Attaching start final) : Discreet start final
  /-- A palette gets other colours, and its block repeats them. -/
  | repainted {handle : Handle} {palette : Palette} {entries : Array UInt32}
    (repaints : Repaints start handle palette entries)
    (backed : start.memory.holds (palette.object + Block.dataOffset)
      (4 * palette.entries.size) = true) :
    Discreet start (start.repainted handle palette entries)
  /-- A palette gets other colours, for which there is no memory. -/
  | faded {handle : Handle} {palette : Palette} {entries : Array UInt32}
    (repaints : Repaints start handle palette entries)
    (unbacked : start.memory.holds (palette.object + Block.dataOffset)
      (4 * palette.entries.size) = false) :
    Discreet start (start.recoloured handle palette entries)
  | taking {pointer : Nat} {final : Session} (step : Taking start pointer final) :
    Discreet start final
  /-- A reference to a surface or a palette is given back. -/
  | returned {handle : Handle} {pointer : Nat} (block : start.objects.block? handle = some pointer) :
    Discreet start { start with objects := .drain [.release handle] start.objects }
  | unmapped {final : Session} (step : Unmapped start final) : Discreet start final
  | prepared {final : Session} (ground : Prepared start start.objects final) : Discreet start final
  | mixed {handle : Handle} {palette : Palette} {final : Session}
    (mixed : Mixed start handle palette final) : Discreet start final

/-- A discreet step with which no palette gets other colours. -/
inductive Colourfast (start : Session) : Session → Prop
  | tidying {final : Session} (step : Tidying start final) : Colourfast start final
  /-- A cache is dropped with all that was drawn on it. -/
  | forgotten {handle cache : Handle} {surface : Surface}
    (live : start.objects.surface? handle = some surface) (has : surface.cache = some cache) :
    Colourfast start { start with
      objects := .drain [.close cache]
        (start.objects.setPayload handle (.surface { surface with cache := none })) }
  /-- What a surface shows is copied to one. -/
  | drawing {handle : Handle} {image : Raster} {rect : Rect} {x y : Int32} {final : Session}
    (step : Drawing handle (fun raster => raster.blit image rect x y) start final)
    (seen : ∃ origin, start.contents origin = some (.ok image)) : Colourfast start final
  | attaching {final : Session} (step : Attaching start final) : Colourfast start final
  | taking {pointer : Nat} {final : Session} (step : Taking start pointer final) :
    Colourfast start final
  /-- A reference to a surface or a palette is given back. -/
  | returned {handle : Handle} {pointer : Nat} (block : start.objects.block? handle = some pointer) :
    Colourfast start { start with objects := .drain [.release handle] start.objects }
  | unmapped {final : Session} (step : Unmapped start final) : Colourfast start final
  | prepared {final : Session} (ground : Prepared start start.objects final) : Colourfast start final
  | mixed {handle : Handle} {palette : Palette} {final : Session}
    (mixed : Mixed start handle palette final) : Colourfast start final

theorem Colourfast.discreet {start final : Session} (fast : Colourfast start final) :
    Discreet start final := by
  cases fast with
  | tidying step => exact .tidying step
  | forgotten live has => exact .forgotten live has
  | drawing step seen => exact .drawing step seen
  | attaching step => exact .attaching step
  | taking step => exact .taking step
  | returned block => exact .returned block
  | unmapped step => exact .unmapped step
  | prepared ground => exact .prepared ground
  | mixed mixed => exact .mixed mixed

theorem Colourfast.step {start final : Session} (fast : Colourfast start final) : Step start final := by
  cases fast with
  | tidying step => exact .onward (.tidying step)
  | forgotten live has => exact .onward (.forgotten live has)
  | drawing step seen => exact .onward (.drawing step seen)
  | attaching step => exact .onward (.attaching step)
  | taking step => exact .onward (.taking step)
  | returned block => exact .onward (.returned block)
  | unmapped step => exact .unmapped step
  | prepared ground => exact .prepared ground
  | mixed mixed => exact .mixed mixed

theorem Quiet.step {start final : Session} (quiet : Quiet start final) : Step start final := by
  cases quiet with
  | onward step => exact .onward step
  | unmapped step => exact .unmapped step
  | prepared ground => exact .prepared ground
  | mixed mixed => exact .mixed mixed

namespace Linked

variable {start final : Session}

theorem onward (linked : Linked start.objects) (step : Onward start final) :
    Linked final.objects := by
  cases step with
  | tidying step => exact linked.tidying step
  | forgotten live has =>
    exact (linked.dropCache (ObjectTable.surface?_eq_some_iff.mp live) has rfl).2
  | drawing step => exact linked.drawing step
  | attaching step => exact linked.attaching step
  | recolouring step => exact linked.recolouring step
  | taking step =>
    obtain ⟨-, counted⟩ := step
    exact linked.addReference counted
  | returned block =>
    refine linked.drain _ fun step listed payload found => ?_
    cases List.mem_singleton.mp listed
    obtain ⟨content, there, has⟩ := Option.bind_eq_some_iff.mp block
    cases there.symm.trans found
    exact Payload.of_block? has
  | stored => exact linked

/-- References stay in order in every step. -/
theorem step (linked : Linked start.objects) (step : Step start final) : Linked final.objects := by
  cases step with
  | onward step => exact linked.onward step
  | unmapped step =>
    obtain ⟨-⟩ := step
    exact linked
  | prepared ground => exact ground.2.symm ▸ linked
  | created created =>
    obtain ⟨plan, -, raised⟩ := created
    exact linked.raised raised
  | abandoned abandoned => exact linked.abandoned abandoned
  | mixed mixed => exact linked.mixed mixed

end Linked

/-! ### Acts -/

/-- A question of the guest, which changes nothing but the bytes that hold the answer. -/
inductive Query where
  | getSurfaceDesc (this out : Nat)
  | getCaps (this out : Nat)
  | getPixelFormat (this out : Nat)
  | restore (this : Nat)
  | isLost (this : Nat)
  | getBltStatus (this : Nat)
  | getFlipStatus (this : Nat)
  | surfaceSetUp (this : Nat)
  | paletteGetEntries (this first count out : Nat)
  | paletteGetCaps (this out : Nat)
  | paletteSetUp (this : Nat)

/-- What a question does. -/
def Query.run : Query → Engine Unit
  | getSurfaceDesc this out => Engine.getSurfaceDesc this out
  | getCaps this out => Engine.getCaps this out
  | getPixelFormat this out => Engine.getPixelFormat this out
  | restore this => Engine.restore this
  | isLost this => Engine.isLost this
  | getBltStatus this => Engine.getBltStatus this
  | getFlipStatus this => Engine.getFlipStatus this
  | surfaceSetUp this => Engine.surfaceSetUp this
  | paletteGetEntries this first count out => Engine.paletteGetEntries this first count out
  | paletteGetCaps this out => Engine.paletteGetCaps this out
  | paletteSetUp this => Engine.paletteSetUp this

/-- What can happen to a session: what the guest or the engine asks for, and what the guest
stores. -/
inductive Act where
  | call (call : Call)
  | query (query : Query)
  | surfaceVtable
  | paletteVtable
  | dropCache (handle : Handle)
  | dispatch (method : Method) (words : List UInt32)
  | callStub (stub : Nat) (words : List UInt32)
  | store (address : Nat) (data : List UInt8)

/-- What an act does, whatever it answers. -/
def Act.run : Act → Engine Unit
  | call asked => asked.run
  | query asked => asked.run
  | surfaceVtable => discard Engine.surfaceVtable
  | paletteVtable => discard Engine.paletteVtable
  | dropCache handle => Engine.dropCache handle
  | dispatch method words => discard (Engine.dispatch method words)
  | callStub stub words => discard (Engine.callStub stub words)
  | store address data => Engine.write address data

/-- An act that is asked for directly, not through a method of an interface. -/
def Act.Plain : Act → Prop
  | dispatch _ _ | callStub _ _ => False
  | _ => True

namespace Session

/-- The state after an act, whether it succeeds or fails. -/
def next (session : Session) (act : Act) : Session :=
  match act.run session with
  | .ok _ final => final
  | .error _ final => final

/-- The state after one act after the other. -/
def through (session : Session) (acts : List Act) : Session := acts.foldl next session

/-- The state after an act that is a call whose answer nobody asks for. -/
theorem next_of_ok {α : Type} {session final : Session} {act : Act} {call : Engine α} {value : α}
    (same : act.run = discard call) (succeeds : call session = .ok value final) :
    session.next act = final := by
  have ended : act.run session = .ok () final := by
    rw [same]
    show EStateM.bind call _ session = _
    unfold EStateM.bind
    rw [succeeds]
  rw [next, ended]

end Session

namespace Ends

variable {α : Type} {start : Session} {holds failed : Session → Prop}

theorem next {act : Act} (ends : Ends act.run start (fun _ => holds) holds) :
    holds (start.next act) := by
  unfold Ends at ends
  unfold Session.next
  cases ended : act.run start with
  | ok value final =>
    rw [ended] at ends
    exact ends
  | error cause final =>
    rw [ended] at ends
    exact ends

/-- A call ends as it does if nobody asks for its answer. -/
theorem of_discard {call : Engine α} (ends : Ends (Functor.discard call) start (fun _ => holds) failed) :
    Ends call start (fun _ => holds) failed := by
  change Ends (call >>= fun _ => Pure.pure ()) start _ _ at ends
  unfold Ends at ends ⊢
  cases ended : call start with
  | ok value final =>
    have finished : (call >>= fun _ => Pure.pure ()) start = .ok () final := by
      show EStateM.bind call _ start = _
      simp only [EStateM.bind, ended]
      rfl
    rw [finished] at ends
    exact ends
  | error cause final =>
    have stopped : (call >>= fun _ => Pure.pure ()) start = .error cause final := by
      show EStateM.bind call _ start = _
      simp only [EStateM.bind, ended]
    rw [stopped] at ends
    exact ends

end Ends

/-! ### Buffers -/

/-- The size of the capabilities that the guest is told. -/
def Surface.capsSize (surface : Surface) : Nat :=
  if surface.flags.contains SurfaceFlags.wideCaps then Descriptor.wideCapsSize else 4

namespace Session

/-- The surface that an interface pointer leads to, with all that is known of it. -/
def surfaceOf? (session : Session) (this : Nat) : Option Surface :=
  (session.surfaceFor? this).bind session.objects.surface?

/-- The buffer that a call is given for its answer. -/
def callBuffer? (session : Session) : Call → Option Extent
  | .createSurface _ out | .createPalette _ _ out | .getAttachedSurface _ _ out | .getPalette _ out
  | .getDC _ out => some ⟨out, 4⟩
  | .lock this out _ =>
    (session.surfaceOf? this).map fun surface => ⟨out, surface.descriptorSize⟩
  | _ => none

/-- The buffer that a question is given for its answer. -/
def queryBuffer? (session : Session) : Query → Option Extent
  | .getSurfaceDesc this out =>
    (session.surfaceOf? this).map fun surface => ⟨out, surface.descriptorSize⟩
  | .getCaps this out => (session.surfaceOf? this).map fun surface => ⟨out, surface.capsSize⟩
  | .getPixelFormat _ out => some ⟨out, FormatRecord.size⟩
  | .paletteGetEntries _ _ count out => some ⟨out, Palette.entrySize * count⟩
  | .paletteGetCaps _ out => some ⟨out, 4⟩
  | _ => none

/-- The memory that an act is given for what it stores. -/
def target? (session : Session) : Act → Option Extent
  | .call call => session.callBuffer? call
  | .query query => session.queryBuffer? query
  | .store address data => some ⟨address, data.length⟩
  | _ => none

theorem surfaceOf?_eq_some {session : Session} {this : Nat} {handle : Handle} {surface : Surface}
    (resolved : session.surfaceFor? this = some handle)
    (live : session.objects.surface? handle = some surface) :
    session.surfaceOf? this = some surface := by
  rw [surfaceOf?, resolved, Option.bind_some, live]

end Session

/-! ### What acts keep -/

section Colourfast

variable {holds : Session → Prop} (kept : Kept Colourfast holds) {session : Session}
  (held : holds session)

include kept

theorem Kept.tidying : Kept Tidying holds :=
  ⟨kept.linked, fun held step => kept.step held (.tidying step)⟩

include held

/-- What a call hands out with a reference is stored, or the reference is lost. -/
theorem ends_handing {call : Engine Nat} {out : Nat} (answers : Spares holds out 4)
    (ends : Ends call session
      (fun pointer final => session.memory.holds out 4 = true ∧
        ∃ middle, Taking session pointer middle ∧ final = middle.answered out pointer)
      (fun final => final = session ∨ session.memory.holds out 4 = false ∧
        ∃ pointer, Taking session pointer final)) :
    Ends (discard call) session (fun _ => holds) holds := by
  refine ends.discard.imp ?_ ?_
  · rintro _ _ ⟨pointer, backed, middle, taking, rfl⟩
    have taken := kept.step held (.taking taking)
    refine answers.answered taken ?_
    cases taking
    exact backed
  · rintro final (rfl | ⟨-, pointer, taking⟩)
    · exact held
    · exact kept.step held (.taking taking)

/-- A call other than one that creates a surface or gives colours to a palette keeps what colourfast
steps keep. -/
theorem ends_fastCall (call : Call)
    (creates : ∀ request out, call = .createSurface request out →
      Ends (discard (Engine.createSurface request out)) session (fun _ => holds) holds)
    (repaints : ∀ this first count source, call = .paletteSetEntries this first count source →
      Ends (Engine.paletteSetEntries this first count source) session (fun _ => holds) holds)
    (answers : ∀ buffer, session.callBuffer? call = some buffer →
      Spares holds buffer.address buffer.length) :
    Ends call.run session (fun _ => holds) holds := by
  have tidy := kept.tidying
  have linked := kept.linked held
  have unchanged : ∀ final, final = session → holds final := fun _ same => same ▸ held
  cases call with
  | createSurface request out => exact creates request out rfl
  | createPalette caps colours out =>
    refine ((ends_createPalette session caps colours out).discard).imp ?_ ?_
    · rintro _ _ ⟨_, handle, palette, middle, mixed, rfl, backed, rfl⟩
      refine (answers _ rfl).answered (kept.step held (.mixed mixed)) ?_
      rw [mixed.groundwork.holds]
      exact backed
    · rintro final (ground | ⟨-, handle, palette, mixed⟩)
      · exact kept.step held (.prepared ground)
      · exact kept.step held (.mixed mixed)
  | setDisplayMode width height depth =>
    refine (ends_setDisplayMode session width height depth).imp
      (fun _ _ changed => kept.step held (.unmapped changed)) ?_
    rintro final (same | changed)
    · exact unchanged final same
    · exact kept.step held (.unmapped changed)
  | surfaceAddReference this =>
    refine ((ends_surfaceAddReference this).discard).imp ?_ unchanged
    rintro _ final ⟨_, taking⟩
    exact kept.step held (.taking taking)
  | paletteAddReference this =>
    refine ((ends_paletteAddReference this).discard).imp ?_ unchanged
    rintro _ final ⟨_, taking⟩
    exact kept.step held (.taking taking)
  | surfaceRelease this =>
    refine ((ends_surfaceRelease this).discard).imp ?_ unchanged
    rintro _ _ ⟨_, handle, surface, live, -, rfl⟩
    exact kept.step held (.returned (ObjectTable.block?_of_surface? live))
  | paletteRelease this =>
    refine ((ends_paletteRelease this).discard).imp ?_ unchanged
    rintro _ _ ⟨_, handle, palette, live, -, rfl⟩
    exact kept.step held (.returned (ObjectTable.block?_of_palette? live))
  | getAttachedSurface this caps out =>
    exact ends_handing kept held (answers _ rfl) (ends_getAttachedSurface linked this caps out)
  | getPalette this out => exact ends_handing kept held (answers _ rfl) (ends_getPalette this out)
  | setPalette this palette =>
    exact (ends_setPalette held tidy.settling this palette
      fun _ _ held step => kept.step held (.attaching step)).imp
      (fun _ _ ended => ended.elim id id) fun _ failed => failed.elim id id
  | lock this out flags =>
    refine ends_lock tidy held this out flags fun handle surface resolved live => ?_
    refine answers ⟨out, surface.descriptorSize⟩ ?_
    rw [Session.callBuffer?, Session.surfaceOf?_eq_some resolved live, Option.map_some]
  | unlock this => exact ends_unlock tidy held this
  | getDC this out =>
    exact (ends_getDC tidy held this out (answers _ rfl)).forget
  | releaseDC this context => exact ends_releaseDC tidy held this context
  | bltFast this x y source region flags =>
    have viewing : Kept Caching fun middle => holds middle ∧ middle.contents = session.contents :=
      ⟨fun held => kept.linked held.1, fun held step => ⟨kept.step held.1 (.tidying (.caching step)),
        (step.contents_eq (kept.linked held.1)).trans held.2⟩⟩
    refine (ends_bltFast ⟨held, rfl⟩ viewing tidy this x y source region flags ?_).imp
      (fun _ _ ended => ended) fun _ failed => failed.elim And.left id
    rintro target origin before image rect middle final - - ⟨-, same⟩ shows - ⟨held, still⟩ step
    rw [same, ← still] at shows
    exact kept.step held (.drawing step ⟨origin, shows⟩)
  | flip this target => exact ends_flip tidy held this target
  | paletteSetEntries this first count source => exact repaints this first count source rfl
  | cacheOf handle make =>
    exact ((ends_cacheOf tidy.caching held handle make).weaken fun _ _ ended => ended.1).forget
  | writeBack handle =>
    exact (ends_writeBack tidy.settling held handle).weaken fun _ _ ended => ended.1
  | picture handle =>
    exact ((ends_picture tidy.caching held handle).weaken fun _ _ ended => ended.1).forget

omit kept in
theorem ends_copying {source target length : Nat} (answers : Spares holds target length) :
    Ends (Engine.move source target length) session (fun _ => holds) holds := by
  refine (ends_move held source target length).weaken ?_
  rintro _ _ ⟨data, copied, backed, rfl⟩
  exact answers _ _ _ held backed (Nat.le_refl _) (by rw [Memory.length_of_read copied])

omit kept in
theorem ends_writeColours {base length : Nat} (answers : Spares holds base length) (address : Nat)
    (colours : List UInt32)
    (inside : session.memory.holds address Palette.entrySize = true →
      base ≤ address ∧ address + Palette.entrySize * colours.length ≤ base + length) :
    Ends (Engine.writeColours address colours) session (fun _ => holds) holds := by
  induction colours generalizing address session with
  | nil => exact held
  | cons colour rest ih =>
    rw [List.length_cons, Nat.mul_succ] at inside
    have length : (Palette.toEntry colour).length = Palette.entrySize := rfl
    refine (ends_write held address _).bind ?_
    rintro _ _ ⟨backed, rfl⟩
    rw [length] at backed
    obtain ⟨above, below⟩ := inside backed
    have stored := answers _ _ _ held backed above (by rw [length]; omega)
    refine ih stored _ fun more => ?_
    rw [Memory.holds_put] at more
    rw [wrapped_of_lt (Memory.lt_of_holds_wrapped backed (Nat.le_refl _) more)]
    omega

omit kept in
theorem ends_query (query : Query)
    (answers : ∀ buffer, session.queryBuffer? query = some buffer →
      Spares holds buffer.address buffer.length) :
    Ends query.run session (fun _ => holds) holds := by
  -- What is only looked up leaves the session alone.
  have looked : ∀ entry this, Ends (discard (Engine.resolveSurface entry this)) session
      (fun _ => holds) holds := by
    intro entry this
    refine (ends_resolveSurface held entry this).discard.weaken ?_
    rintro _ _ ⟨handle, rfl, -⟩
    exact held
  cases query with
  | restore this => exact looked _ this
  | isLost this => exact looked _ this
  | getBltStatus this => exact looked _ this
  | getFlipStatus this => exact looked _ this
  | surfaceSetUp this => exact (looked _ this).bind fun _ _ held => .throw held
  | paletteSetUp this =>
    refine (ends_resolvePalette held _ this).discard.bind ?_
    rintro _ _ ⟨handle, rfl, -⟩
    exact .throw held
  | getSurfaceDesc this out =>
    refine (ends_resolveSurface held _ this).bind ?_
    rintro handle _ ⟨rfl, resolved⟩
    refine (ends_surfaceAt held handle).bind ?_
    rintro surface session ⟨rfl, live⟩
    refine .guarded held fun notNull => (ends_readDword held out).bind ?_
    rintro size _ ⟨rfl, -⟩
    refine .guarded held fun sized => ends_copying held (answers ⟨out, surface.descriptorSize⟩ ?_)
    rw [Session.queryBuffer?, Session.surfaceOf?_eq_some resolved live, Option.map_some]
  | getCaps this out =>
    refine (ends_resolveSurface held _ this).bind ?_
    rintro handle _ ⟨rfl, resolved⟩
    refine (ends_surfaceAt held handle).bind ?_
    rintro surface session ⟨rfl, live⟩
    refine .guarded held fun notNull => ends_copying held (answers ⟨out, surface.capsSize⟩ ?_)
    rw [Session.queryBuffer?, Session.surfaceOf?_eq_some resolved live, Option.map_some]
  | getPixelFormat this out =>
    refine (ends_resolveSurface held _ this).bind ?_
    rintro handle _ ⟨rfl, -⟩
    refine (ends_surfaceAt held handle).bind ?_
    rintro surface _ ⟨rfl, -⟩
    refine .guarded held fun notNull => (ends_readDword held out).bind ?_
    rintro size _ ⟨rfl, -⟩
    exact .guarded held fun sized => ends_copying held (answers _ rfl)
  | paletteGetEntries this first count out =>
    refine (ends_resolvePalette held _ this).bind ?_
    rintro handle _ ⟨rfl, -⟩
    refine Ends.bind (show Ends (Engine.checkEntries _ _ _ _ _) _ (fun _ => holds) holds from ?_) ?_
    · refine (ends_paletteAt held handle).bind ?_
      rintro palette _ ⟨rfl, -⟩
      split <;> exact held
    · intro _ middle held
      refine (ends_paletteAt held handle).bind ?_
      rintro palette _ ⟨rfl, -⟩
      refine ends_writeColours held (answers _ rfl) out _ fun _ => ⟨Nat.le_refl _, ?_⟩
      exact Nat.add_le_add_left (Nat.mul_le_mul_left _ (List.length_take_le _ _)) _
  | paletteGetCaps this out =>
    refine (ends_resolvePalette held _ this).bind ?_
    rintro handle _ ⟨rfl, -⟩
    refine .guarded held fun notNull => (ends_paletteAt held handle).bind ?_
    rintro palette _ ⟨rfl, -⟩
    refine (ends_write held out _).weaken ?_
    rintro _ _ ⟨backed, rfl⟩
    exact answers _ rfl _ _ _ held backed (Nat.le_refl _) (Nat.le_refl _)

theorem ends_fastPlain {act : Act} (plain : act.Plain)
    (creates : ∀ request out, act = .call (.createSurface request out) →
      Ends (discard (Engine.createSurface request out)) session (fun _ => holds) holds)
    (repaints : ∀ this first count source, act = .call (.paletteSetEntries this first count source) →
      Ends (Engine.paletteSetEntries this first count source) session (fun _ => holds) holds)
    (answers : ∀ buffer, session.target? act = some buffer →
      Spares holds buffer.address buffer.length) :
    Ends act.run session (fun _ => holds) holds := by
  have ground : Prepared session session.objects session := ⟨.refl session, rfl⟩
  cases act with
  | call call =>
    exact ends_fastCall kept held call (fun request out same => creates request out (same ▸ rfl))
      (fun this first count source same => repaints this first count source (same ▸ rfl)) answers
  | query query => exact ends_query held query answers
  | surfaceVtable =>
    exact ((ends_surfaceVtable ground).imp (fun _ _ ended => kept.step held (.prepared ended.1))
      fun _ failed => kept.step held (.prepared failed)).forget
  | paletteVtable =>
    exact ((ends_paletteVtable ground).imp (fun _ _ ended => kept.step held (.prepared ended.1))
      fun _ failed => kept.step held (.prepared failed)).forget
  | dropCache handle =>
    exact (ends_dropCache_of held (kept.linked held) handle fun _ _ live has =>
      kept.step held (.forgotten live has)).weaken fun _ _ ended => ended.1
  | dispatch => exact absurd plain id
  | callStub => exact absurd plain id
  | store address data =>
    refine (ends_write held address data).weaken ?_
    rintro _ _ ⟨backed, rfl⟩
    exact answers _ rfl _ _ _ held backed (Nat.le_refl _) (Nat.le_refl _)

end Colourfast

section Discreet

variable {holds : Session → Prop} (kept : Kept Discreet holds) {session : Session}
  (held : holds session)

include kept

theorem Kept.colourfast : Kept Colourfast holds :=
  ⟨kept.linked, fun held fast => kept.step held fast.discreet⟩

include held

theorem ends_discreetRepaint (this first count source : Nat) :
    Ends (Engine.paletteSetEntries this first count source) session (fun _ => holds) holds := by
  have tidy := kept.colourfast.tidying
  exact (ends_repaint tidy held tidy this first count source
    (fun _ _ _ _ _ _ held repaints backed => kept.step held (.repainted repaints backed))
    fun _ _ _ _ held repaints unbacked => kept.step held (.faded repaints unbacked)).imp
    (fun _ _ ended => ended) fun _ failed => failed.elim id id

theorem ends_call (call : Call)
    (creates : ∀ request out, call = .createSurface request out →
      Ends (discard (Engine.createSurface request out)) session (fun _ => holds) holds)
    (answers : ∀ buffer, session.callBuffer? call = some buffer →
      Spares holds buffer.address buffer.length) :
    Ends call.run session (fun _ => holds) holds :=
  ends_fastCall kept.colourfast held call creates
    (fun this first count source _ => ends_discreetRepaint kept held this first count source) answers

theorem ends_plain {act : Act} (plain : act.Plain)
    (creates : ∀ request out, act = .call (.createSurface request out) →
      Ends (discard (Engine.createSurface request out)) session (fun _ => holds) holds)
    (answers : ∀ buffer, session.target? act = some buffer →
      Spares holds buffer.address buffer.length) :
    Ends act.run session (fun _ => holds) holds :=
  ends_fastPlain kept.colourfast held plain creates
    (fun this first count source _ => ends_discreetRepaint kept held this first count source) answers

end Discreet

section Acts

variable {holds : Session → Prop} (kept : Kept Quiet holds) {session : Session}
  (held : holds session)

include kept

theorem Kept.spares (address length : Nat) : Spares holds address length :=
  fun _ _ _ held backed _ _ => kept.step held (.onward (.stored backed))

/-- A discreet step is a quiet one, or new colours and then a store to the block of the palette. -/
theorem Kept.discreet : Kept Discreet holds := by
  refine ⟨kept.linked, fun {start final} held step => ?_⟩
  cases step with
  | tidying step => exact kept.step held (.onward (.tidying step))
  | forgotten live has => exact kept.step held (.onward (.forgotten live has))
  | drawing step seen => exact kept.step held (.onward (.drawing step seen))
  | attaching step => exact kept.step held (.onward (.attaching step))
  | repainted repaints backed =>
    refine kept.spares _ _ _ _ _ (kept.step held (.onward (.recolouring repaints.recolouring))) ?_
      (Nat.le_refl _) (Nat.le_refl _)
    rw [Palette.length_blockBytes, repaints.sized]
    exact backed
  | faded repaints _ => exact kept.step held (.onward (.recolouring repaints.recolouring))
  | taking step => exact kept.step held (.onward (.taking step))
  | returned block => exact kept.step held (.onward (.returned block))
  | unmapped step => exact kept.step held (.unmapped step)
  | prepared ground => exact kept.step held (.prepared ground)
  | mixed mixed => exact kept.step held (.mixed mixed)

include held

theorem ends_quietCall (call : Call)
    (creates : ∀ request out, call = .createSurface request out →
      Ends (discard (Engine.createSurface request out)) session (fun _ => holds) holds) :
    Ends call.run session (fun _ => holds) holds :=
  ends_call kept.discreet held call creates fun _ _ => kept.spares _ _

theorem ends_quietQuery (query : Query) : Ends query.run session (fun _ => holds) holds :=
  ends_query held query fun _ _ => kept.spares _ _

/-! ### Methods -/

omit kept held in
theorem ends_counting {call : Engine Nat} (ends : Ends (discard call) session (fun _ => holds) holds) :
    Ends (Engine.counting call) session (fun _ => holds) holds :=
  ends.of_discard.bind fun _ _ held => held

omit kept held in
theorem ends_succeed {call : Engine Unit} (ends : Ends call session (fun _ => holds) holds) :
    Ends (Engine.succeed call) session (fun _ => holds) holds :=
  ends.bind fun _ _ held => held

theorem ends_runSurface (method : SurfaceMethod) (words : List UInt32) :
    Ends (Engine.runSurface method words) session (fun _ => holds) holds := by
  cases method with
  | addRef => exact ends_counting (ends_quietCall kept held (.surfaceAddReference _) nofun)
  | release => exact ends_counting (ends_quietCall kept held (.surfaceRelease _) nofun)
  | bltFast => exact ends_succeed (ends_quietCall kept held (.bltFast _ _ _ _ _ _) nofun)
  | flip => exact ends_succeed (ends_quietCall kept held (.flip _ _) nofun)
  | getAttachedSurface => exact ends_succeed (ends_quietCall kept held (.getAttachedSurface _ _ _) nofun)
  | getBltStatus => exact ends_succeed (ends_quietQuery kept held (.getBltStatus _))
  | getCaps => exact ends_succeed (ends_quietQuery kept held (.getCaps _ _))
  | getDC => exact ends_succeed (ends_quietCall kept held (.getDC _ _) nofun)
  | getFlipStatus => exact ends_succeed (ends_quietQuery kept held (.getFlipStatus _))
  | getPalette => exact ends_succeed (ends_quietCall kept held (.getPalette _ _) nofun)
  | getPixelFormat => exact ends_succeed (ends_quietQuery kept held (.getPixelFormat _ _))
  | getSurfaceDesc => exact ends_succeed (ends_quietQuery kept held (.getSurfaceDesc _ _))
  | setUp => exact ends_succeed (ends_quietQuery kept held (.surfaceSetUp _))
  | isLost => exact ends_succeed (ends_quietQuery kept held (.isLost _))
  | lock => exact ends_succeed (ends_quietCall kept held (.lock _ _ _) nofun)
  | releaseDC => exact ends_succeed (ends_quietCall kept held (.releaseDC _ _) nofun)
  | restore => exact ends_succeed (ends_quietQuery kept held (.restore _))
  | setPalette => exact ends_succeed (ends_quietCall kept held (.setPalette _ _) nofun)
  | unlock => exact ends_succeed (ends_quietCall kept held (.unlock _) nofun)
  | _ => exact .throw held

theorem ends_runPalette (method : PaletteMethod) (words : List UInt32) :
    Ends (Engine.runPalette method words) session (fun _ => holds) holds := by
  cases method with
  | addRef => exact ends_counting (ends_quietCall kept held (.paletteAddReference _) nofun)
  | release => exact ends_counting (ends_quietCall kept held (.paletteRelease _) nofun)
  | getCaps => exact ends_succeed (ends_quietQuery kept held (.paletteGetCaps _ _))
  | getEntries => exact ends_succeed (ends_quietQuery kept held (.paletteGetEntries _ _ _ _))
  | setUp => exact ends_succeed (ends_quietQuery kept held (.paletteSetUp _))
  | setEntries => exact ends_succeed (ends_quietCall kept held (.paletteSetEntries _ _ _ _) nofun)
  | queryInterface => exact .throw held

theorem ends_dispatch (method : Method) (words : List UInt32) :
    Ends (Engine.dispatch method words) session (fun _ => holds) holds := by
  have run : Ends (Engine.runMethod method words) session (fun _ => holds) holds := by
    unfold Engine.runMethod
    refine .guarded held fun sized => ?_
    cases method with
    | surface method => exact ends_runSurface kept held method words
    | palette method => exact ends_runPalette kept held method words
  unfold Engine.dispatch
  -- The answer of the method and the status that stands for a failure are told apart once more.
  refine Ends.bind (show Ends _ session (fun _ => holds) holds from Ends.rescue
    (show Ends _ session _ holds from run.bind fun _ _ held => held) fun cause final held => ?_) ?_
  · cases cause.disposition with
    | status status => exact held
    | fatal => exact .throw held
  · rintro (answer | answer) final held <;> exact held

theorem ends_callStub (stub : Nat) (words : List UInt32) :
    Ends (Engine.callStub stub words) session (fun _ => holds) holds := by
  refine .read ?_
  cases session.methodAt? stub with
  | some method => exact ends_dispatch kept held method words
  | none => exact .throw held

/-! ### Runs -/

/-- An act keeps what every step keeps with which no surface comes, unless it creates one. -/
theorem ends_act (act : Act)
    (creates : ∀ request out, act = .call (.createSurface request out) →
      Ends (discard (Engine.createSurface request out)) session (fun _ => holds) holds) :
    Ends act.run session (fun _ => holds) holds := by
  cases act with
  | dispatch method words => exact (ends_dispatch kept held method words).forget
  | callStub stub words => exact (ends_callStub kept held stub words).forget
  | _ => exact ends_plain kept.discreet held trivial creates fun _ _ => kept.spares _ _

end Acts

section Runs

variable {holds : Session → Prop} (kept : Kept Step holds) {session : Session}
  (held : holds session)

include kept

theorem Kept.quiet : Kept Quiet holds :=
  ⟨kept.linked, fun held quiet => kept.step held quiet.step⟩

include held

theorem Kept.createSurface (request out : Nat) :
    Ends (discard (Engine.createSurface request out)) session (fun _ => holds) holds := by
  refine ((ends_createSurface (kept.linked held).numbered request out).discard).imp ?_ ?_
  · rintro _ _ ⟨_, handle, surface, middle, created, rfl, backed, rfl⟩
    refine kept.step (kept.step held (.created created)) (.onward (.stored ?_))
    rw [LittleEndian.length_ofDword, created.holds]
    exact backed
  · rintro final (abandoned | ⟨-, handle, surface, created⟩)
    · exact kept.step held (.abandoned abandoned)
    · exact kept.step held (.created created)

/-- An act keeps what every step keeps, whether it succeeds or fails. -/
theorem Kept.next (act : Act) : holds (session.next act) :=
  (ends_act kept.quiet held act fun request out _ => kept.createSurface held request out).next

/-- A run keeps what every step keeps. -/
theorem Kept.through (acts : List Act) : holds (session.through acts) := by
  induction acts generalizing session with
  | nil => exact held
  | cons act rest ih => exact ih (kept.next held act)

end Runs

end GuestDraw
