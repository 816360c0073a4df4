/-
**Questions that fail.**

A question is answered with one store, and that is made when nothing can fail any more. So a
question that fails has stored nothing. The entries of a palette are the exception: they are stored
one by one, and memory may end between two of them, or the addresses.

* `Palette.place`, `ColoursCut`: the colours that are given out before that;
* `EntriesCut`: so it is with the entries that the guest asks for;
* `query_unchanged_or_cut`: a question that fails has changed nothing, or it was one for entries
  that were cut;
* `query_unchanged`, `getEntries_cut`: which of the two it is depends on the memory for the answer.
-/

import GuestDraw.Proofs.Session.Heeding
import GuestDraw.Proofs.Session.Recolouring

namespace GuestDraw

variable {start final : Session} {cause : Failure}

/-! ### Colours that are cut -/

/-- The place of an entry that comes `index` entries behind the one at `address`. Beyond the last
address places begin at zero again. -/
def Palette.place (address : Nat) : (index : Nat) → Nat
  | 0 => address
  | index + 1 => place (wrapped (address + entrySize)) index

/-- Up to the last address an entry lies where it is expected. -/
theorem Palette.place_eq {address index : Nat}
    (inSpace : ∀ place, place ≤ index → address + 4 * place < addressSpace) :
    place address index = address + 4 * index := by
  induction index generalizing address with
  | zero => rfl
  | succ index ih =>
    have onward : ∀ more, address + entrySize + 4 * more = address + 4 * (more + 1) := by
      intro more
      show address + 4 + 4 * more = _
      omega
    have second : address + entrySize < addressSpace := inSpace 1 (Nat.le_add_left _ _)
    rw [place, wrapped_of_lt second, ih, onward]
    intro more below
    rw [onward]
    exact inSpace _ (Nat.succ_le_succ below)

/-- Memory ends behind `given` of the colours, or the addresses do. Those are stored, and no other
byte. -/
structure ColoursCut (start : Session) (address : Nat) (colours : List UInt32) (cause : Failure)
    (final : Session) (given : Nat) : Prop where
  fewer : given < colours.length
  backed : given = 0 ∨ start.memory.holds address (4 * given) = true
  unbacked : start.memory.holds (Palette.place address given) 4 = false
  because : cause = .memory (.outOfRange (Palette.place address given) 4)
  left : final = { start with
    memory := start.memory.put address (Palette.entryBytes (colours.take given)) }

/-- There is memory for one more colour in front of those for which there is some. -/
theorem Memory.holds_front {memory : Memory} {address count : Nat}
    (backed : memory.holds address Palette.entrySize = true)
    (more : count = 0 ∨ memory.holds (wrapped (address + Palette.entrySize)) (4 * count) = true) :
    memory.holds address (4 * (count + 1)) = true := by
  rcases more with rfl | more
  · exact backed
  · rw [wrapped_of_lt (lt_of_holds_wrapped backed (Nat.le_refl _) more)] at more
    exact holds_entries.mpr ⟨backed, more⟩

/-- One more colour in front, for which there is memory. -/
theorem ColoursCut.cons {address given : Nat} {colour : UInt32} {rest : List UInt32}
    (backed : start.memory.holds address Palette.entrySize = true)
    (cut : ColoursCut { start with memory := start.memory.put address (Palette.toEntry colour) }
      (wrapped (address + Palette.entrySize)) rest cause final given) :
    ColoursCut start address (colour :: rest) cause final (given + 1) := by
  have more := cut.backed
  have unbacked := cut.unbacked
  rw [Memory.holds_put] at more unbacked
  refine ⟨Nat.succ_lt_succ cut.fewer, .inr (Memory.holds_front backed more), unbacked, cut.because,
    cut.left.trans ?_⟩
  have joined := Memory.put_append (Memory.holds_iff.mp backed).1 (Palette.toEntry colour)
    (Palette.entryBytes (rest.take given))
  show { start with memory := _ } = { start with memory := _ }
  rcases more with rfl | more
  · rw [List.take_zero] at joined ⊢
    exact congrArg (fun memory => { start with memory := memory }) joined
  · rw [wrapped_of_lt (Memory.lt_of_holds_wrapped backed (Nat.le_refl _) more)]
    exact congrArg (fun memory => { start with memory := memory }) joined

/-- Colours are stored up to the first one for which there is no memory. -/
theorem endsWith_writeColours_cut (start : Session) (address : Nat) (colours : List UInt32) :
    EndsWith (Engine.writeColours address colours) start
      (fun _ _ => colours = [] ∨ start.memory.holds address (4 * colours.length) = true)
      (fun cause final => ∃ given, ColoursCut start address colours cause final given) := by
  induction colours generalizing start address with
  | nil => exact .inl rfl
  | cons colour rest ih =>
    refine (endsWith_write_exact address (Palette.toEntry colour)).andThen ?_ ?_
    · rintro cause _ ⟨unbacked, rfl, rfl⟩
      exact ⟨0, Nat.succ_pos _, .inl rfl, unbacked, rfl, rfl⟩
    · rintro _ _ ⟨backed, rfl⟩
      refine (ih _ _).imp (fun _ _ more => .inr (Memory.holds_front backed ?_)) ?_
      · rwa [Memory.holds_put, ← List.length_eq_zero_iff] at more
      · rintro cause final ⟨given, cut⟩
        exact ⟨given + 1, cut.cons backed⟩

/-! ### Questions -/

/-- The guest asks for `count` entries of a palette from `first` on, and gets `given` of them. -/
structure EntriesCut (start : Session) (this first count out : Nat) (cause : Failure) (final : Session)
    (handle : Handle) (palette : Palette) (given : Nat) : Prop
    extends start.Accepts this first count out handle palette,
      ColoursCut start out (palette.range first count) cause final given

namespace EntriesCut

variable {this first count out given : Nat} {handle : Handle} {palette : Palette}
  (cut : EntriesCut start this first count out cause final handle palette given)

include cut

theorem given_lt : given < count := by
  have fewer := cut.fewer
  rwa [Palette.length_range cut.allowed.2] at fewer

theorem length_take : ((palette.range first count).take given).length = given := by
  rw [List.length_take, Nat.min_eq_left (Nat.le_of_lt cut.fewer)]

/-- The entries in front of the cut are in the buffer. -/
theorem stored {index : Nat} {colour : UInt32} (before : index < given)
    (found : palette.entries[first + index]? = some colour) {offset : Nat} (small : offset < 4) :
    final.memory.byte? (out + 4 * index + offset) = (Palette.toEntry colour)[offset]? := by
  have backed := cut.backed.resolve_left (Nat.ne_zero_of_lt before)
  rw [cut.left]
  refine Memory.byte?_put_entryBytes (cut.length_take.symm ▸ backed) ?_ small
  rw [List.getElem?_take_of_lt before, Palette.getElem?_range (before.trans cut.given_lt), found]

/-- All other bytes are as they were. -/
theorem spared {point : Nat} (outside : ¬ (out ≤ point ∧ point < out + 4 * given)) :
    final.memory.byte? point = start.memory.byte? point := by
  rw [cut.left]
  rcases cut.backed with rfl | backed
  · rfl
  · have size := Palette.length_entryBytes ((palette.range first count).take given)
    rw [cut.length_take] at size
    show (start.memory.put _ _).byte? point = _
    rw [Memory.byte?_put (size.symm ▸ backed), size, if_neg outside]

/-- There is no room for the whole answer. -/
theorem not_room : ¬ start.memory.Room out count := by
  intro room
  have fewer := cut.given_lt
  have unbacked := cut.unbacked
  rw [Palette.place_eq fun place below => room.inSpace place (Nat.lt_of_le_of_lt below fewer),
    ← Bool.not_eq_true, Memory.holds_iff] at unbacked
  have whole := Memory.holds_iff.mp room.backed
  omega

end EntriesCut

/-- Entries are given to the guest, or they are refused, or cut behind some of them. -/
theorem endsWith_paletteGetEntries_cut (start : Session) (this first count out : Nat) :
    EndsWith (Engine.paletteGetEntries this first count out) start
      (fun _ _ => count = 0 ∨ start.memory.holds out (4 * count) = true)
      (fun cause final =>
        (final = start ∧ ∀ handle palette, ¬ start.Accepts this first count out handle palette) ∨
        ∃ handle palette given,
          EntriesCut start this first count out cause final handle palette given) := by
  unfold Engine.paletteGetEntries
  refine .accepting ?_ ?_ fun handle palette accepts => ?_
  · exact fun none => .inl ⟨rfl, fun _ _ accepts => nomatch none.symm.trans accepts.resolved⟩
  · exact fun _ _ resolved there refused =>
      .inl ⟨rfl, fun _ _ accepts => accepts.false_of_refused resolved there refused⟩
  refine (ends_paletteAt_live accepts.there).whatever.bind ?_
  rintro palette start ⟨rfl, rfl⟩
  refine (endsWith_writeColours_cut _ out (palette.range first count)).imp (fun _ _ whole => ?_) ?_
  · rwa [← List.length_eq_zero_iff, Palette.length_range accepts.allowed.2] at whole
  · rintro cause final ⟨given, cut⟩
    exact .inr ⟨handle, palette, given, accepts, cut⟩

/-- **A question that fails has changed nothing**, unless it asks for entries of a palette and
memory ends in the buffer for them, or the addresses do. Then the entries in front of that are
stored, nothing else has changed, and the failure names the place that was to come next. -/
theorem query_unchanged_or_cut {query : Query} (failed : query.run start = .error cause final) :
    final = start ∨ ∃ this first count out handle palette given,
      query = .paletteGetEntries this first count out ∧
        EntriesCut start this first count out cause final handle palette given := by
  by_cases steady : (Act.query query).hasty = false
  · have unchanged := (ends_refusedQuery (Eq.refl start) query steady).of_error failed
    exact .inl unchanged.symm
  cases query with
  | paletteGetEntries this first count out =>
    rcases (endsWith_paletteGetEntries_cut start this first count out).of_error failed with
      ⟨same, -⟩ | ⟨handle, palette, given, cut⟩
    · exact .inl same
    · exact .inr ⟨this, first, count, out, handle, palette, given, rfl, cut⟩
  | _ => exact absurd rfl steady

/-- A question that fails has changed nothing if there is memory for the whole answer, and an
address for each byte of it. -/
theorem query_unchanged {query : Query}
    (backed : ∀ buffer, start.queryBuffer? query = some buffer →
      start.memory.holds buffer.address buffer.length = true ∧ buffer.stop ≤ addressSpace)
    (failed : query.run start = .error cause final) : final = start := by
  rcases query_unchanged_or_cut failed with
    same | ⟨this, first, count, out, handle, palette, given, rfl, cut⟩
  · exact same
  · obtain ⟨held, below⟩ := backed _ rfl
    refine (cut.not_room ⟨held, fun index small => ?_⟩).elim
    have below : out + 4 * count ≤ addressSpace := below
    omega

/-- Entries that the guest may have are cut whenever there is no memory for all of them. -/
theorem getEntries_cut {this first count out : Nat} {handle : Handle} {palette : Palette}
    (accepts : start.Accepts this first count out handle palette) (several : count ≠ 0)
    (unheld : start.memory.holds out (4 * count) = false) :
    ∃ cause final given, Engine.paletteGetEntries this first count out start = .error cause final ∧
      EntriesCut start this first count out cause final handle palette given := by
  have ends := endsWith_paletteGetEntries_cut start this first count out
  cases ended : Engine.paletteGetEntries this first count out start with
  | ok _ final =>
    cases unheld.symm.trans ((ends.of_ok ended).resolve_left several)
  | error cause final =>
    rcases ends.of_error ended with ⟨-, refused⟩ | ⟨other, same, given, cut⟩
    · exact (refused handle palette accepts).elim
    · cases accepts.resolved.symm.trans cut.resolved
      cases accepts.there.symm.trans cut.there
      exact ⟨cause, final, given, rfl, cut⟩

end GuestDraw
