/-
**Colours are fast.**

The entries of a palette are words `0x00RRGGBB` from the time that it comes, and they stay as they
are in everything that happens, be it a success or a failure, save for calls that set entries of
this palette.

* `Steadfast`, `ends_steadfast`: palettes have the entries that they had, or they came since; so it
  is after all acts but those that set entries;
* `Recast`, `ends_recast`: what such an act does to palettes, whether it succeeds or fails;
* `Session.Recolours`, `Session.LeavesColours`: an act that sets entries of a palette, and runs
  without one;
* `Session.next_palette`: how a palette can come to be what it is after an act;
* `toned_through`, `palette_through`: entries in all states, and along a run that leaves them alone.
-/

import GuestDraw.Proofs.Session.Coherence
import GuestDraw.Proofs.Session.Colours
import GuestDraw.Proofs.Session.Entries
import GuestDraw.Proofs.Session.Heeding
import GuestDraw.Proofs.Session.Primaries

namespace GuestDraw

variable {origin start final session : Session} {handle : Handle}

/-! ### Palettes that stay as they are -/

/-- The palettes of `final` are as they were in `start`, or they came since. -/
structure Steadfast (start final : Session) : Prop where
  linked : Linked final.objects
  next : start.objects.next ≤ final.objects.next
  palettes : ∀ handle palette, final.objects.palette? handle = some palette →
    start.objects.palette? handle = some palette ∨
      start.objects.next ≤ handle.number ∧ palette.Toned

namespace Steadfast

theorem refl (linked : Linked session.objects) : Steadfast session session :=
  ⟨linked, Nat.le_refl _, fun _ _ there => .inl there⟩

/-- Nothing happens to palettes but that some go. -/
theorem shrink (steadfast : Steadfast origin start) (linked : Linked final.objects)
    (next : start.objects.next ≤ final.objects.next)
    (palettes : ∀ handle palette, final.objects.palette? handle = some palette →
      start.objects.palette? handle = some palette) : Steadfast origin final :=
  ⟨linked, steadfast.next.trans next, fun handle palette there =>
    steadfast.palettes handle palette (palettes handle palette there)⟩

/-- A palette comes. -/
theorem mixed (steadfast : Steadfast origin start) {made : Handle} {palette : Palette}
    (mixed : Mixed start made palette final) : Steadfast origin final := by
  refine ⟨steadfast.linked.mixed mixed, steadfast.next.trans (next_le_of_create mixed.made),
    fun handle new there => ?_⟩
  rcases ObjectTable.palette?_of_create steadfast.linked.numbered mixed.made there with was | ⟨rfl, own⟩
  · exact steadfast.palettes handle new was
  · cases own
    exact .inr ⟨steadfast.next.trans (next_le_number_of_create mixed.made), mixed.toned⟩

theorem colourfast (steadfast : Steadfast origin start) (fast : Colourfast start final) :
    Steadfast origin final := by
  have linked := steadfast.linked
  have step := fast.step
  have linkedToo := linked.step step
  have next := step.aged.next
  have pale (pales : start.objects.Pales final.objects) : Steadfast origin final :=
    steadfast.shrink linkedToo next pales.palette
  cases fast with
  | tidying step =>
    exact steadfast.shrink linkedToo next fun _ _ there => step.palette?_eq linked ▸ there
  | forgotten live has => exact pale (.dropCache linked live has)
  | drawing step => exact pale step.pales
  | attaching step => exact pale (step.pales linked)
  | taking step =>
    obtain ⟨-, counted⟩ := step
    exact pale (.of_payload? (ObjectTable.payload?_addReference counted))
  | returned => exact pale (.drain linked.wf _)
  | unmapped step =>
    obtain ⟨-⟩ := step
    exact pale (.refl _)
  | prepared ground => exact pale (ground.2.symm ▸ .refl _)
  | mixed mixed => exact steadfast.mixed mixed

theorem built (steadfast : Steadfast origin start) {plan : SurfacePlan} {backBuffer : Option Handle}
    {made : Handle} {surface : Surface} (built : Built start plan backBuffer made surface final)
    (linked : Linked final.objects) : Steadfast origin final :=
  steadfast.shrink linked (next_le_of_create built.made) fun _ _ there =>
    (ObjectTable.palette?_of_create steadfast.linked.numbered built.made there).resolve_right
      fun ⟨_, own⟩ => nomatch own

theorem created (steadfast : Steadfast origin start) {made : Handle} {surface : Surface}
    (created : Created start made surface final) : Steadfast origin final := by
  obtain ⟨plan, shows, raised⟩ := created
  exact raised.keeps steadfast.linked steadfast shows fun steadfast built _ _ linked =>
    steadfast.built built linked

theorem abandoned (steadfast : Steadfast origin start) (abandoned : Abandoned start final) :
    Steadfast origin final := by
  have linked := steadfast.linked
  have linkedToo := linked.abandoned abandoned
  cases abandoned with
  | early ground =>
    exact steadfast.shrink linkedToo (Nat.le_of_eq (congrArg _ ground.2.symm))
      fun _ _ there => ground.2 ▸ there
  | late first ground =>
    have middle := linked.raised (.single first)
    exact (steadfast.built first middle).shrink linkedToo (ObjectTable.le_next_drain (Nat.le_refl _))
      (ObjectTable.Pales.drain middle.wf _).palette

theorem kept : Kept Colourfast (Steadfast origin) := ⟨Steadfast.linked, Steadfast.colourfast⟩

theorem spares (address length : Nat) : Spares (Steadfast origin) address length :=
  fun _ _ _ steadfast _ _ _ => ⟨steadfast.linked, steadfast.next, steadfast.palettes⟩

end Steadfast

/-- Nothing that is asked for but setting entries changes a palette. -/
theorem ends_steadfast (linked : Linked session.objects) {act : Act} (plain : act.Plain)
    (other : ∀ this first count source, act ≠ .call (.paletteSetEntries this first count source)) :
    Ends act.run session (fun _ final => Steadfast session final) (Steadfast session) := by
  refine ends_fastPlain Steadfast.kept (.refl linked) plain (fun request out same => ?_)
    (fun this first count source same => absurd same (other this first count source))
    fun _ _ => Steadfast.spares _ _
  refine (ends_createSurface linked.numbered request out).discard.imp ?_ ?_
  · rintro _ _ ⟨_, handle, surface, middle, created, rfl, backed, rfl⟩
    refine (Steadfast.spares out 4).answered ((Steadfast.refl linked).created created) ?_
    rw [created.holds]
    exact backed
  · rintro final (abandoned | ⟨-, handle, surface, created⟩)
    · exact (Steadfast.refl linked).abandoned abandoned
    · exact (Steadfast.refl linked).created created

namespace Session

/-- An act that sets entries of a palette. -/
def Recolours (session : Session) (handle : Handle) (act : Act) : Prop :=
  ∃ this first count source, session.meant? act =
    some (.call (.paletteSetEntries this first count source)) ∧
    session.paletteFor? this = some handle

/-- Along the run no act sets entries of the palette. -/
def LeavesColours (session : Session) (handle : Handle) : List Act → Prop
  | [] => True
  | act :: rest => ¬ session.Recolours handle act ∧ (session.next act).LeavesColours handle rest

end Session

/-- At most the entries of one palette change, and to words `0x00RRGGBB`. -/
def Recast (start : Session) (this : Nat) (final : Session) : Prop :=
  final.objects.palette? = start.objects.palette? ∨
    ∃ handle palette entries, start.paletteFor? this = some handle ∧
      start.objects.palette? handle = some palette ∧
      (palette.Toned → Palette.Toned { palette with entries := entries }) ∧
      final.objects.palette? =
        Function.update start.objects.palette? handle (some { palette with entries := entries })

/-- What setting entries does to palettes, however far it gets. -/
theorem ends_recast (ranked : Ranked start) (this first count source : Nat) :
    Ends (Engine.paletteSetEntries this first count source) start
      (fun _ final => Recast start this final) (Recast start this) := by
  have painted {middle final : Session} {handle : Handle} {palette : Palette} {colours : List UInt32}
      (taken : Taken start this first count source middle handle palette colours)
      (same : final.objects.palette? =
        (middle.recoloured handle palette (overwrite palette.entries first colours)).objects.palette?) :
      Recast start this final := by
    have repaints := taken.repaints ranked.linked
    refine .inr ⟨handle, palette, _, taken.resolved, taken.there, fun toned index colour found =>
      (repaints.toned index colour found).elim (toned index colour) id, same.trans ?_⟩
    exact (ObjectTable.palette?_setPalette taken.found _).trans (by rw [taken.settled.palettes])
  refine EndsWith.imp (endsWith_paletteSetEntries ranked this first count source) ?_ ?_
  · rintro _ final ⟨middle, handle, palette, colours, set⟩
    exact painted set.toTaken set.shown.palettes
  · intro cause final halts
    cases halts with
    | unknown => exact .inl rfl
    | refused => exact .inl rfl
    | unsettled resolved users settled => exact .inl settled.palettes
    | unread resolved settled => exact .inl settled.palettes
    | outside resolved settled => exact .inl settled.palettes
    | faded taken => exact painted taken rfl
    | unshown taken backed users shown => exact painted taken shown.palettes

/-! ### Acts and runs -/

theorem Session.next_le_next (linked : Linked session.objects) (act : Act) :
    session.objects.next ≤ (session.next act).objects.next := by
  have kept : Kept Step fun final => Linked final.objects ∧
      session.objects.next ≤ final.objects.next :=
    ⟨And.left, fun held step => ⟨held.1.step step, held.2.trans step.aged.next⟩⟩
  exact (kept.next ⟨linked, Nat.le_refl _⟩ act).2

/-- After an act a palette is as it was, or it came with the act, or the act set its entries. -/
theorem Session.next_palette (ranked : Ranked session) (act : Act) {palette : Palette}
    (there : (session.next act).objects.palette? handle = some palette) :
    session.objects.palette? handle = some palette ∨
      session.objects.next ≤ handle.number ∧ palette.Toned ∨
      session.Recolours handle act ∧ (session.objects.Toned → palette.Toned) := by
  rw [session.next_meant act] at there
  cases meant : session.meant? act with
  | none =>
    rw [meant] at there
    exact .inl there
  | some asked =>
    rw [meant, Option.map_some, Option.getD_some] at there
    by_cases sets : ∃ this first count source, asked =
      .call (.paletteSetEntries this first count source)
    · obtain ⟨this, first, count, source, rfl⟩ := sets
      have recast : Recast session this (session.next (.call (.paletteSetEntries this first count source))) :=
        Ends.next (ends_recast ranked this first count source)
      rcases recast with same | ⟨changed, old, entries, resolved, was, toned, now⟩
      · exact .inl (same ▸ there)
      · rw [now, Function.update_apply] at there
        split at there
        · next own =>
          subst own
          cases there
          exact .inr (.inr ⟨⟨this, first, count, source, meant, resolved⟩,
            fun each => toned (each handle old was)⟩)
        · exact .inl there
    · have steadfast := (ends_steadfast ranked.linked (Session.plain_of_meant? meant)
        fun this first count source same => sets ⟨this, first, count, source, same⟩).next
      exact (steadfast.palettes handle palette there).imp_right .inl

theorem Session.toned_next (ranked : Ranked session) (toned : session.objects.Toned) (act : Act) :
    (session.next act).objects.Toned := by
  intro handle palette there
  rcases session.next_palette ranked act there with was | ⟨-, new⟩ | ⟨-, set⟩
  · exact toned handle palette was
  · exact new
  · exact set toned

/-- Entries are words `0x00RRGGBB` in every state that a session can come to. -/
theorem toned_through (ranked : Ranked session) (toned : session.objects.Toned) (acts : List Act) :
    (session.through acts).objects.Toned := by
  induction acts generalizing session with
  | nil => exact toned
  | cons act rest ih => exact ih (Ranked.kept.next ranked act) (session.toned_next ranked toned act)

/-- A palette is as it was after a run that leaves its entries alone. -/
theorem palette_through (ranked : Ranked session) {acts : List Act}
    (leaves : session.LeavesColours handle acts) (old : handle.number < session.objects.next)
    {palette : Palette} (there : (session.through acts).objects.palette? handle = some palette) :
    session.objects.palette? handle = some palette := by
  induction acts generalizing session with
  | nil => exact there
  | cons act rest ih =>
    have grown := Nat.lt_of_lt_of_le old (session.next_le_next ranked.linked act)
    have after := ih (Ranked.kept.next ranked act) leaves.2 grown there
    rcases session.next_palette ranked act after with was | ⟨fresh, -⟩ | ⟨sets, -⟩
    · exact was
    · exact absurd old (Nat.not_lt.mpr fresh)
    · exact absurd sets leaves.1

end GuestDraw
