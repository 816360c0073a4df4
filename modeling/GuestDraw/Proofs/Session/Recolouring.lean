/-
**Setting the entries of a palette, and getting them.**

A palette gets other entries as a whole: first everything that can be refused is looked at, then
what was drawn in the old colours is stored, then the entries and the block of the palette change
together, and at last the visible surfaces with the palette are shown, each of them once. Getting
entries gives back what was set last.

* `EntriesStored`, `EntriesChanged`: what a call does that sets entries, before anything is shown
  and in all;
* `EntriesReturned`: what is given to the guest that gets entries later;
* `PaletteEntries`, `palette_entries`: both calls in every state.
-/

import GuestDraw.Proofs.Session.Fastness
import GuestDraw.Proofs.Session.Pointers

namespace GuestDraw

variable {start middle final session : Session} {handle : Handle} {palette old new : Palette}
  {this first count source : Nat} {colours : List UInt32}

/-! ### Setting entries -/

/-- A surface was shown in the colours that it has now. -/
structure Session.ShownAnew (session : Session) (entries : Array UInt32) (user : Handle)
    (frame : Raster) : Prop where
  shows : session.Shows user frame
  decoded : ∃ surface, session.objects.surface? user = some surface ∧
    session.decodeSurface surface = .ok frame ∧ (surface.depth = 8 → frame.palette = entries)

/-- From `start` to `final` `count` entries of a palette from `first` on were set to the colours at
`source`. In `middle` all surfaces with the palette are settled, and nothing else has happened. -/
structure EntriesStored (start : Session) (this first count source : Nat) (final : Session)
    (handle : Handle) (old new : Palette) (middle : Session) : Prop
    extends start.Accepts this first count source handle old where
  settled : SettledAll start (start.users handle) middle
  palettes : final.objects.palette? = Function.update start.objects.palette? handle (some new)
  shape : new = { old with entries := new.entries }
  size : new.entries.size = old.entries.size
  set : ∀ index, index < count → ∃ colour, new.entries[first + index]? = some colour ∧
    middle.memory.HasColour (source + 4 * index) colour
  others : ∀ index, ¬ (first ≤ index ∧ index < first + count) →
    new.entries[index]? = old.entries[index]?
  /-- The block of the palette repeats the entries. -/
  mirror : ∀ (index : Nat) colour, new.entries[index]? = some colour →
    final.memory.readDword (new.object + Block.dataOffset + 4 * index) = .ok colour

/-- The visible surfaces with a palette, in the order of their handles. -/
structure Session.Onlookers (session : Session) (handle : Handle) (users : List Handle) : Prop where
  ascending : (users.map (·.number)).Pairwise (· < ·)
  mem_iff : ∀ user, user ∈ users ↔ ∃ surface, session.objects.surface? user = some surface ∧
    surface.palette = some handle ∧ surface.caps.contains SurfaceCaps.visible = true

/-- What a call does that sets entries: besides, each visible surface with the palette is shown
once. -/
structure EntriesChanged (start : Session) (this first count source : Nat) (final : Session)
    (handle : Handle) (old new : Palette) (middle : Session) : Prop
    extends EntriesStored start this first count source final handle old new middle where
  shown : ∃ users frames, start.Onlookers handle users ∧
    final.presented.toList = start.presented.toList ++ frames ∧
    List.Forall₂ (final.ShownAnew new.entries) users frames

/-- The dwords of a block, byte by byte. -/
theorem Palette.getElem?_blockBytes (palette : Palette) {index offset : Nat} {colour : UInt32}
    (found : palette.entries[index]? = some colour) (small : offset < 4) :
    palette.blockBytes[4 * index + offset]? = (LittleEndian.ofDword colour)[offset]? := by
  rw [blockBytes, getElem?_flatMap_of_length LittleEndian.length_ofDword _ index small,
    Array.getElem?_toList, found]
  rfl

theorem Taken.getElem?_entries
    (taken : Taken start this first count source middle handle palette colours) (index : Nat) :
    (overwrite palette.entries first colours)[index]? =
      if first ≤ index ∧ index < first + count then colours[index - first]?
      else palette.entries[index]? := by
  have length := taken.listed.length
  rw [getElem?_overwrite (length.symm ▸ taken.allowed.2), length]

/-- The block of a palette repeats its entries. -/
theorem Session.readDword_repainted (handle : Handle)
    (backed : middle.memory.holds (palette.object + Block.dataOffset)
      (4 * palette.entries.size) = true) {index : Nat} {colour : UInt32}
    (found : (overwrite palette.entries first colours)[index]? = some colour) :
    (middle.repainted handle palette (overwrite palette.entries first colours)).memory.readDword
      (palette.object + Block.dataOffset + 4 * index) = .ok colour := by
  have length := palette.length_recoloured first colours
  obtain ⟨inside, -⟩ := Array.getElem?_eq_some_iff.mp found
  rw [size_overwrite] at inside
  refine Memory.readDword_of_bytes fun offset small => ?_
  show (middle.memory.put _ (Palette.blockBytes { palette with entries := _ })).byte? _ = _
  rw [Memory.byte?_put (length.symm ▸ backed), length, if_pos (by omega),
    ← Palette.getElem?_blockBytes { palette with entries := _ } found small]
  congr 1
  omega

/-! ### Showing in other colours -/

theorem SettledAll.visible_eq {handles : List Handle} (settled : SettledAll start handles final)
    (user : Handle) : final.visible user = start.visible user := by
  rw [Session.visible, settled.surfaces, Option.any_map]
  congr 1
  funext surface
  split <;> rfl

theorem Looked.decodeSurface_eq (looked : Looked start final) (surface : Surface) :
    final.decodeSurface surface = start.decodeSurface surface := by
  rw [Session.decodeSurface, looked.palettes, looked.only]
  rfl

/-- What was shown of a surface without a cache is what its pixels are in the colours of its
palette. -/
theorem Looked.shownAnew (looked : Looked start final) {user : Handle} {surface : Surface}
    {frame : Raster} (live : start.objects.surface? user = some surface)
    (bare : surface.cache = none)
    (uses : surface.palette = some handle) (there : start.objects.palette? handle = some palette)
    (shows : start.Shows user frame) : final.ShownAnew palette.entries user frame := by
  rw [Session.Shows, Session.contents_of_bare live bare] at shows
  have decoded := Option.some.inj shows
  have same := congrFun looked.surfaces user
  rw [ObjectTable.uncached?, ObjectTable.uncached?, live, Option.map_some] at same
  obtain ⟨now, lives, shape⟩ := Option.map_eq_some_iff.mp same
  have sameBuffer := congrArg Surface.buffer shape
  have samePalette := congrArg Surface.palette shape
  change now.buffer = surface.buffer at sameBuffer
  change now.palette = surface.palette at samePalette
  refine ⟨?_, now, lives, ?_, fun depth => ?_⟩
  · rw [Session.Shows, looked.contents, Session.contents_of_bare live bare, decoded]
  · rw [looked.decodeSurface_eq, Session.decodeSurface, sameBuffer, samePalette, ← decoded]
    rfl
  · rw [Session.decodeSurface, uses, Option.bind_some, there] at decoded
    exact Conversion.palette_of_decode decoded ((congrArg PixelBuffer.depth sameBuffer).symm.trans depth)

theorem Ranked.onlookers (ranked : Ranked start) (handle : Handle) :
    start.Onlookers handle ((start.users handle).filter start.visible) := by
  have linked := ranked.linked
  refine ⟨(ranked.ascending.users handle).sublist (List.filter_sublist.map _), fun user => ?_⟩
  rw [List.mem_filter, Session.mem_users_iff linked]
  constructor
  · rintro ⟨⟨surface, live, uses⟩, seen⟩
    rw [Session.visible, live] at seen
    exact ⟨surface, live, uses, seen⟩
  · rintro ⟨surface, live, uses, seen⟩
    refine ⟨⟨surface, live, uses⟩, ?_⟩
    rw [Session.visible, live]
    exact seen

namespace Taken

variable {handles : List Handle}
  (taken : Taken start this first count source middle handle palette colours)

include taken

/-- Other colours make no surface visible. -/
theorem visible_eq :
    (middle.repainted handle palette (overwrite palette.entries first colours)).visible =
      start.visible := by
  funext user
  rw [← taken.settled.visible_eq]
  show Option.any _ ((middle.objects.setPayload handle _).surface? user) = _
  rw [ObjectTable.surface?_setPalette taken.found]
  rfl

variable (shown : ShownAll (middle.repainted handle palette (overwrite palette.entries first colours))
  handles final)

include shown

/-- However many surfaces were shown, the entries are set. -/
theorem stored (backed : middle.memory.holds (palette.object + Block.dataOffset)
      (4 * palette.entries.size) = true) :
    EntriesStored start this first count source final handle palette
      { palette with entries := overwrite palette.entries first colours } middle := by
  refine ⟨taken.toAccepts, taken.settled, ?_, rfl, size_overwrite _ _ _,
    fun index small => ?_, fun index outside => ?_, fun index colour found => ?_⟩
  · rw [shown.palettes, ← taken.settled.palettes]
    exact ObjectTable.palette?_setPalette taken.found _
  · have inside : index < colours.length := taken.listed.length.symm ▸ small
    refine ⟨colours[index], ?_, taken.listed.colour index _ (List.getElem?_eq_getElem inside)⟩
    rw [taken.getElem?_entries, if_pos (by omega), Nat.add_sub_cancel_left,
      List.getElem?_eq_getElem]
  · rw [taken.getElem?_entries, if_neg outside]
  · rw [shown.only]
    exact Session.readDword_repainted handle backed found

variable (linked : Linked start.objects)

include linked

/-- What is shown of a surface with the palette has the entries that were set. -/
theorem shownAnew {user : Handle} (member : user ∈ start.users handle) {frame : Raster}
    (shows : (middle.repainted handle palette (overwrite palette.entries first colours)).Shows user frame) :
    final.ShownAnew (overwrite palette.entries first colours) user frame := by
  obtain ⟨surface, live, uses⟩ := (Session.mem_users_iff linked).mp member
  have settled := taken.settled.surfaces user
  rw [live, Option.map_some, if_pos member,
    ← ObjectTable.surface?_setPalette taken.found] at settled
  exact shown.shownAnew settled rfl uses
    ((congrFun (ObjectTable.palette?_setPalette taken.found _) handle).trans (Function.update_self _ _ _)) shows

/-- Of surfaces with the palette the visible ones were shown, and nothing else. -/
theorem presented (users : ∀ user ∈ handles, user ∈ start.users handle) :
    ∃ frames, final.presented.toList = start.presented.toList ++ frames ∧
      List.Forall₂ (final.ShownAnew (overwrite palette.entries first colours))
        (handles.filter start.visible) frames := by
  obtain ⟨frames, presented, each⟩ := shown.presented
  rw [taken.visible_eq] at each
  refine ⟨frames, ?_, ?_⟩
  · rw [presented, taken.settled.only]
    rfl
  · have both := (List.forall₂_and_left _ _).mpr
      ⟨fun user member => users user (List.mem_of_mem_filter member), each⟩
    exact both.imp fun user frame shows => taken.shownAnew shown linked shows.1 shows.2

end Taken

/-- Setting entries changes what it should. -/
theorem EntriesSet.changed (ranked : Ranked start)
    (set : EntriesSet start this first count source final middle handle palette colours) :
    EntriesChanged start this first count source final handle palette
      { palette with entries := overwrite palette.entries first colours } middle := by
  have taken := set.toTaken
  obtain ⟨frames, presented, each⟩ :=
    taken.presented set.shown ranked.linked fun user member => member
  exact ⟨taken.stored set.shown set.backed, _, frames, ranked.onlookers handle, presented, each⟩

/-! ### Getting entries -/

/-- The bytes in a buffer for `number` entries from `low` on, after `count` from `first` on were set
to the colours that were at `source`: each colour as it was set last, and a zero behind it. -/
structure EntriesReturned (old : Palette) (first count source : Nat) (told : Memory)
    (low number out : Nat) (memory : Memory) : Prop where
  set : ∀ index offset, index < number → first ≤ low + index → low + index < first + count →
    offset < 3 → memory.byte? (out + 4 * index + offset) =
      told.byte? (source + 4 * (low + index - first) + offset)
  others : ∀ index, index < number → ¬ (first ≤ low + index ∧ low + index < first + count) →
    ∃ colour, old.entries[low + index]? = some colour ∧ memory.HasColour (out + 4 * index) colour
  fourth : ∀ index, index < number → memory.byte? (out + 4 * index + 3) = some 0

section Got

variable {late last : Session} {low number out : Nat}

/-- Entries that were set are what the guest gets. -/
theorem EntriesStored.returned
    (stored : EntriesStored start this first count source final handle old new middle)
    (got : EntriesGot late this low number out last handle new) :
    EntriesReturned old first count source middle.memory low number out last.memory := by
  have found (index : Nat) (small : index < number) :
    ∃ colour, new.entries[low + index]? = some colour := by
    have inside : low + index < new.entries.size := by
      have allowed := got.allowed.2
      omega
    exact ⟨_, Array.getElem?_eq_getElem inside⟩
  refine ⟨fun index offset small above below byte => ?_, fun index small outside => ?_,
    fun index small => ?_⟩
  · obtain ⟨colour, entry, taken⟩ := stored.set (low + index - first) (by omega)
    rw [show first + (low + index - first) = low + index by omega] at entry
    exact (got.given index colour small entry).1.byte?_eq taken byte
  · obtain ⟨colour, entry⟩ := found index small
    exact ⟨colour, (stored.others _ outside).symm.trans entry,
      (got.given index colour small entry).1⟩
  · obtain ⟨colour, entry⟩ := found index small
    exact (got.given index colour small entry).2

end Got

/-! ### In every state -/

/-- What is known of a state in which entries are set and got. -/
structure Tinctured (session : Session) : Prop where
  ranked : Ranked session
  addressed : Addressed session
  toned : session.objects.Toned

theorem Tinctured.next (tinctured : Tinctured session) (act : Act) :
    Tinctured (session.next act) := by
  have seated : Seated session session :=
    ⟨tinctured.ranked.linked, tinctured.addressed, .refl session⟩
  exact ⟨Ranked.kept.next tinctured.ranked act, (Seated.kept.next seated act).addressed,
    session.toned_next tinctured.ranked tinctured.toned act⟩

/-- A run that leaves the entries of a palette alone leads to no other palette at its address. -/
theorem Tinctured.palette_eq (tinctured : Tinctured session)
    {palette new : Palette} {other : Handle}
    (there : session.objects.palette? handle = some palette) {acts : List Act}
    (leaves : session.LeavesColours handle acts)
    (resolved : (session.through acts).paletteFor? palette.object = some other)
    (found : (session.through acts).objects.palette? other = some new) :
    other = handle ∧ new = palette := by
  have linked := tinctured.ranked.linked
  have seated : Seated session (session.through acts) :=
    Seated.kept.through ⟨linked, tinctured.addressed, .refl session⟩ acts
  obtain ⟨rfl, -, -⟩ := tinctured.addressed.stayed (.refl session) seated.later
    (ObjectTable.seat?_of_palette? there) (Session.seat?_of_paletteFor? resolved)
  have old := linked.number_lt (ObjectTable.palette?_eq_some_iff.mp there)
  have was := palette_through tinctured.ranked leaves old found
  exact ⟨rfl, Option.some.inj (was.symm.trans there)⟩

/-- Setting entries through an interface pointer, and getting them. -/
structure PaletteEntries (session : Session) (this : Nat) : Prop where
  /-- A null buffer and entries that the palette does not have are refused, and nothing changes. -/
  refused : ∀ handle palette first count buffer, session.paletteFor? this = some handle →
    session.objects.palette? handle = some palette →
      (buffer = 0 ∨ palette.entries.size < first + count) →
        Engine.paletteGetEntries this first count buffer session =
            .error (.invalidParams PaletteMethod.getEntries.name) session ∧
          Engine.paletteSetEntries this first count buffer session =
            .error (.invalidParams PaletteMethod.setEntries.name) session
  /-- There is no reason not to give entries but those that are listed. -/
  denied : ∀ first count out cause final,
    Engine.paletteGetEntries this first count out session = .error cause final →
      session.Denies this first count out cause final
  /-- There is no reason not to set entries but those that are listed. -/
  halted : ∀ first count source cause final,
    Engine.paletteSetEntries this first count source session = .error cause final →
      session.Halts this first count source cause final
  got : ∀ first count out final,
    Engine.paletteGetEntries this first count out session = .ok () final →
      ∃ handle palette, EntriesGot session this first count out final handle palette
  set : ∀ first count source final,
    Engine.paletteSetEntries this first count source session = .ok () final →
      ∃ handle old new middle,
        EntriesChanged session this first count source final handle old new middle ∧
          ∀ later, final.LeavesColours handle later → ∀ low number out last,
            Engine.paletteGetEntries this low number out (final.through later) = .ok () last →
              EntriesReturned old first count source middle.memory low number out last.memory

section Refused

variable {buffer : Nat} (resolved : start.paletteFor? this = some handle)
  (there : start.objects.palette? handle = some palette)
  (refused : ¬ palette.Allows first count buffer)

include resolved there refused

/-- A pointer leads to one palette, which accepts the call or does not. -/
theorem Session.Accepts.false_of_refused {other : Handle} {same : Palette}
    (accepts : start.Accepts this first count buffer other same) : False := by
  cases resolved.symm.trans accepts.resolved
  cases there.symm.trans accepts.there
  exact refused accepts.allowed

theorem Session.Denies.of_refused {cause : Failure}
    (denies : start.Denies this first count buffer cause final) :
    cause = .invalidParams PaletteMethod.getEntries.name ∧ final = start := by
  cases denies with
  | unknown none => cases none.symm.trans resolved
  | refused => exact ⟨rfl, rfl⟩
  | unwritten accepts => exact (accepts.false_of_refused resolved there refused).elim
  | outside accepts => exact (accepts.false_of_refused resolved there refused).elim

theorem Session.Halts.of_refused {cause : Failure}
    (halts : start.Halts this first count buffer cause final) :
    cause = .invalidParams PaletteMethod.setEntries.name ∧ final = start := by
  cases halts with
  | unknown none => cases none.symm.trans resolved
  | refused => exact ⟨rfl, rfl⟩
  | unsettled accepts => exact (accepts.false_of_refused resolved there refused).elim
  | unread accepts => exact (accepts.false_of_refused resolved there refused).elim
  | outside accepts => exact (accepts.false_of_refused resolved there refused).elim
  | faded taken => exact (taken.false_of_refused resolved there refused).elim
  | unshown taken => exact (taken.false_of_refused resolved there refused).elim

end Refused

theorem Tinctured.paletteEntries (tinctured : Tinctured session) (this : Nat) :
    PaletteEntries session this := by
  have ranked := tinctured.ranked
  have gets := endsWith_paletteGetEntries tinctured.toned this
  have sets := endsWith_paletteSetEntries ranked this
  refine ⟨?_, fun first count out cause final ended => (gets first count out).of_error ended,
    fun first count source cause final ended => (sets first count source).of_error ended,
    fun first count out final ended => (gets first count out).of_ok ended,
    fun first count source final ended => ?_⟩
  · intro handle palette first count buffer resolved there either
    have refused : ¬ palette.Allows first count buffer := fun allowed => by
      have := allowed.1
      have := allowed.2
      omega
    constructor
    · cases ended : Engine.paletteGetEntries this first count buffer session with
      | ok value final =>
        obtain ⟨other, same, got⟩ := (gets first count buffer).of_ok ended
        exact (got.false_of_refused resolved there refused).elim
      | error cause final =>
        obtain ⟨rfl, rfl⟩ := ((gets first count buffer).of_error ended).of_refused resolved there refused
        rfl
    · cases ended : Engine.paletteSetEntries this first count buffer session with
      | ok value final =>
        obtain ⟨middle, other, same, colours, set⟩ := (sets first count buffer).of_ok ended
        exact (set.false_of_refused resolved there refused).elim
      | error cause final =>
        obtain ⟨rfl, rfl⟩ := ((sets first count buffer).of_error ended).of_refused resolved there refused
        rfl
  · obtain ⟨middle, handle, old, colours, set⟩ := (sets first count source).of_ok ended
    have changed := set.changed ranked
    refine ⟨handle, old, _, middle, changed, fun later leaves low number out last given => ?_⟩
    have after : Tinctured final := by
      have next := tinctured.next (.call (.paletteSetEntries this first count source))
      have same : session.next (.call (.paletteSetEntries this first count source)) = final := by
        rw [Session.next, Act.run, Call.run, ended]
      exact same ▸ next
    obtain ⟨other, new, got⟩ := (endsWith_paletteGetEntries
      (toned_through after.ranked after.toned later) this low number out).of_ok given
    have own : old.object = this := by
      obtain ⟨same, found, own⟩ := session.palette?_of_paletteFor? changed.resolved
      cases found.symm.trans changed.there
      exact own
    have now := (congrFun changed.palettes handle).trans (Function.update_self _ _ _)
    obtain ⟨rfl, rfl⟩ := after.palette_eq now leaves (own.symm ▸ got.resolved) got.there
    exact changed.returned got

/-- **Entries are set as a whole and got as they were set**, in every state that a session can come
to. Setting and getting is refused without a buffer and beyond the entries that there are, and fails
otherwise only where memory is missing or addresses end, or a surface with the palette cannot be
settled or shown.
Setting them gives exactly these entries the colours that the guest has in its buffer, repeats them
in the block, and shows each visible surface with the palette once. Getting them, later and through
the same pointer, gives back what was set last. -/
theorem palette_entries (memory : Memory) (heap : Heap) (video : Aperture) (stubs : StubTable)
    (firstHandle : Nat) (mode : DisplayMode) (chain : FlipChain) (acts : List Act) (this : Nat) :
    PaletteEntries ((Session.start memory heap video stubs firstHandle mode chain).through acts) this := by
  have seated : Seated _ _ :=
    Seated.kept.through (seated_start memory heap video stubs firstHandle mode chain) acts
  have ranked : Ranked (.start memory heap video stubs firstHandle mode chain) :=
    ranked_through memory heap video stubs firstHandle mode chain []
  have toned : (Session.start memory heap video stubs firstHandle mode chain).objects.Toned :=
    fun _ _ there => nomatch there
  exact Tinctured.paletteEntries
    ⟨Ranked.kept.through ranked acts, seated.addressed, toned_through ranked toned acts⟩ this

end GuestDraw
