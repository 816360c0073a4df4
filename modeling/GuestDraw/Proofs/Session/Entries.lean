/-
**The entries of palettes, as the guest gives and gets them.**

The guest passes a colour as four bytes: red, green, blue, and one that does not count. A palette
has it as a word `0x00RRGGBB`, and such a word is given back as its three bytes and a zero.

* `Memory.HasColour`: the bytes of a colour, and `HasColour.byte?_eq`: they are known from the word;
* `ends_readColours_exact`, `ends_writeColours_exact`: colours taken from the guest and given to it;
* `EntriesGot`, `Session.Denies`, `endsWith_paletteGetEntries`: a call that gives entries to the
  guest;
* `EntriesSet`, `Session.Halts`, `endsWith_paletteSetEntries`: a call that takes entries from the
  guest, and all the places where it can stop.
-/

import GuestDraw.Proofs.Session.Descriptions
import GuestDraw.Proofs.Session.Order
import GuestDraw.Proofs.Session.Users

namespace GuestDraw

variable {start middle final : Session} {handle : Handle} {palette : Palette}

/-! ### The bytes of a colour -/

/-- Memory has red, green and blue of a colour `0x00RRGGBB`. -/
def Memory.HasColour (memory : Memory) (address : Nat) (colour : UInt32) : Prop :=
  ∃ red green blue : UInt8, memory.byte? address = some red ∧
    memory.byte? (address + 1) = some green ∧ memory.byte? (address + 2) = some blue ∧
    colour.toNat = red.toNat * 0x10000 + green.toNat * 0x100 + blue.toNat

namespace Memory

variable {memory other : Memory} {address place : Nat} {colour : UInt32}

/-- A colour is where its bytes are. -/
theorem HasColour.byte?_eq (first : memory.HasColour address colour)
    (second : other.HasColour place colour) {index : Nat} (small : index < 3) :
    memory.byte? (address + index) = other.byte? (place + index) := by
  obtain ⟨red, green, blue, isRed, isGreen, isBlue, sum⟩ := first
  obtain ⟨redToo, greenToo, blueToo, hasRed, hasGreen, hasBlue, sumToo⟩ := second
  have := green.toNat_lt
  have := blue.toNat_lt
  have := greenToo.toNat_lt
  have := blueToo.toNat_lt
  have sameRed : red = redToo := UInt8.toNat_inj.mp (by omega)
  have sameGreen : green = greenToo := UInt8.toNat_inj.mp (by omega)
  have sameBlue : blue = blueToo := UInt8.toNat_inj.mp (by omega)
  match index with
  | 0 => exact isRed.trans (sameRed ▸ hasRed.symm)
  | 1 => exact isGreen.trans (sameGreen ▸ hasGreen.symm)
  | 2 => exact isBlue.trans (sameBlue ▸ hasBlue.symm)

theorem HasColour.toNat_lt (has : memory.HasColour address colour) : colour.toNat < 0x1000000 := by
  obtain ⟨red, green, blue, -, -, -, sum⟩ := has
  have := red.toNat_lt
  have := green.toNat_lt
  have := blue.toNat_lt
  omega

/-- What the guest passes for a colour. -/
theorem hasColour_ofEntry {bytes : List UInt8} (taken : memory.read address 4 = .ok bytes) :
    memory.HasColour address (Palette.ofEntry bytes) := by
  obtain ⟨backed, rfl⟩ := read_eq_ok_iff.mp taken
  have byte (index : Nat) (small : index < 4) :
      memory.byte? (address + index) = some ((memory.slice address 4).getD index 0) := by
    have length : (memory.slice address 4).length = 4 := length_slice backed
    rw [← getElem?_slice backed small, List.getD_eq_getElem?_getD,
      List.getElem?_eq_getElem (length.symm ▸ small), Option.getD_some]
  refine ⟨_, _, _, byte 0 (by decide), byte 1 (by decide), byte 2 (by decide), ?_⟩
  show (Colour.rgb _).toNat = _
  have red := ((memory.slice address 4).getD 0 0).toNat_lt
  have green := ((memory.slice address 4).getD 1 0).toNat_lt
  have blue := ((memory.slice address 4).getD 2 0).toNat_lt
  have none : (0 : UInt8).toNat = 0 := rfl
  simp only [Colour.rgb, Colour.argb, UInt32.toNat_ofNat', none]
  omega

/-- What the guest is given for a colour. -/
theorem hasColour_of_toEntry (toned : colour.toNat < 0x1000000)
    (bytes : ∀ index, index < 4 →
      memory.byte? (address + index) = (Palette.toEntry colour)[index]?) :
    memory.HasColour address colour ∧ memory.byte? (address + 3) = some 0 := by
  refine ⟨⟨_, _, _, bytes 0 (by decide), bytes 1 (by decide), bytes 2 (by decide), ?_⟩,
    bytes 3 (by decide)⟩
  simp only [Colour.ofArgb, UInt8.toNat_ofNat']
  omega

end Memory

/-! ### Taking colours and giving them -/

/-- Memory has these colours one after the other. -/
structure Memory.Lists (memory : Memory) (address : Nat) (colours : List UInt32) (count : Nat) :
    Prop where
  length : colours.length = count
  colour : ∀ (index : Nat) colour, colours[index]? = some colour →
    memory.HasColour (address + 4 * index) colour

/-- A colour in front of others. -/
theorem Memory.Lists.cons {memory : Memory} {address count : Nat} {data : List UInt8}
    {colours : List UInt32} (taken : memory.read address Palette.entrySize = .ok data)
    (listed : memory.Lists (address + Palette.entrySize) colours count) :
    memory.Lists address (Palette.ofEntry data :: colours) (count + 1) := by
  refine ⟨congrArg (· + 1) listed.length, fun index colour found => ?_⟩
  cases index with
  | zero =>
    cases found
    exact Memory.hasColour_ofEntry taken
  | succ index =>
    have found := listed.colour index colour found
    rwa [show address + Palette.entrySize + 4 * index = address + 4 * (index + 1) by
      show address + 4 + 4 * index = _
      omega] at found

/-- There is memory for `count` entries from `address` on, and an address for each of them. -/
structure Memory.Room (memory : Memory) (address count : Nat) : Prop where
  backed : memory.holds address (4 * count) = true
  inSpace : ∀ index, index < count → address + 4 * index < addressSpace

/-- Several entries are the first one and those behind it. -/
theorem Memory.holds_entries {memory : Memory} {address count : Nat} :
    memory.holds address (4 * (count + 1)) = true ↔ memory.holds address Palette.entrySize = true ∧
      memory.holds (address + Palette.entrySize) (4 * count) = true := by
  have four : Palette.entrySize = 4 := rfl
  rw [holds_iff, holds_iff, holds_iff, four]
  omega

namespace Memory.Room

variable {memory : Memory} {address count : Nat} (room : memory.Room address (count + 1))

include room

theorem head : memory.holds address Palette.entrySize = true := (holds_entries.mp room.backed).1

theorem tail : memory.Room (address + Palette.entrySize) count where
  backed := (holds_entries.mp room.backed).2
  inSpace index small := by
    have inSpace := room.inSpace (index + 1) (Nat.succ_lt_succ small)
    show address + 4 + 4 * index < addressSpace
    omega

/-- The second of several entries has an address. -/
theorem lt_addressSpace (several : count ≠ 0) : address + Palette.entrySize < addressSpace :=
  room.inSpace 1 (Nat.succ_lt_succ (Nat.pos_of_ne_zero several))

end Memory.Room

/-- Where there is no room for entries memory is missing, or the addresses end. -/
theorem Memory.not_room {memory : Memory} {address count : Nat}
    (full : ¬ memory.Room address count) :
    memory.holds address (4 * count) = false ∨
      ∃ index, index < count ∧ addressSpace ≤ address + 4 * index := by
  by_contra neither
  rw [not_or, Bool.not_eq_false] at neither
  obtain ⟨backed, inSpace⟩ := neither
  exact full ⟨backed, fun index small => Nat.lt_of_not_le fun beyond =>
    inSpace ⟨index, small, beyond⟩⟩

theorem Memory.room_put {memory : Memory} {place : Nat} {data : List UInt8} {address count : Nat} :
    (memory.put place data).Room address count ↔ memory.Room address count := by
  constructor
  · exact fun room => ⟨(holds_put ..).symm.trans room.backed, room.inSpace⟩
  · exact fun room => ⟨(holds_put ..).trans room.backed, room.inSpace⟩

/-- Memory that is not there is the only reason not to read. -/
theorem ends_read_refusing {failed : Session → Prop} {address length : Nat}
    (held : start.memory.holds address length = false → failed start) :
    Ends (Engine.read address length) start
      (fun data final => final = start ∧ start.memory.read address length = .ok data) failed := by
  refine .read ?_
  cases taken : start.memory.read address length with
  | ok data => exact ⟨rfl, rfl⟩
  | error cause =>
    refine held (Bool.eq_false_iff.mpr fun backed => ?_)
    cases taken.symm.trans (Memory.read_eq_ok_iff.mpr ⟨backed, rfl⟩)

/-- Behind an entry that is there colours are taken from where the next one is. If that has no
address, the entry that is taken instead is in front of all memory. -/
theorem ends_readColours_onward {done : List UInt32 → Session → Prop} {failed : Session → Prop}
    {address count : Nat} (backed : start.memory.holds address Palette.entrySize = true)
    (beyond : count ≠ 0 → addressSpace ≤ address + Palette.entrySize → failed start)
    (within : Ends (Engine.readColours (address + Palette.entrySize) count) start done failed) :
    Ends (Engine.readColours (wrapped (address + Palette.entrySize)) count) start done failed := by
  rcases Nat.lt_or_ge (address + Palette.entrySize) addressSpace with inSpace | past
  · rwa [wrapped_of_lt inSpace]
  cases count with
  | zero => exact within
  | succ count =>
    refine (ends_read_refusing fun _ => beyond (Nat.succ_ne_zero _) past).bind ?_
    rintro data start ⟨rfl, taken⟩
    have held := (Memory.read_eq_ok_iff.mp taken).1
    have inSpace := Memory.lt_of_holds_wrapped backed (Nat.le_refl _) held
    exact absurd inSpace (Nat.not_lt.mpr past)

/-- Having no room is the only reason not to take colours from the guest. -/
theorem ends_readColours_exact {failed : Session → Prop} {address count : Nat}
    (held : ¬ start.memory.Room address count → failed start) :
    Ends (Engine.readColours address count) start
      (fun colours final => final = start ∧ start.memory.Lists address colours count) failed := by
  induction count generalizing address with
  | zero => exact ⟨rfl, rfl, nofun⟩
  | succ count ih =>
    refine (ends_read_refusing fun unbacked => held fun room => ?_).bind ?_
    · cases unbacked.symm.trans room.head
    rintro data start ⟨rfl, taken⟩
    have backed := (Memory.read_eq_ok_iff.mp taken).1
    refine (ends_readColours_onward backed (fun several past => held fun room => ?_)
      (ih fun full => held fun room => full room.tail)).bind ?_
    · exact Nat.not_lt.mpr past (room.lt_addressSpace several)
    rintro colours start ⟨rfl, listed⟩
    exact ⟨rfl, listed.cons taken⟩

/-- The bytes that the guest is given for colours. -/
def Palette.entryBytes (colours : List UInt32) : List UInt8 := colours.flatMap Palette.toEntry

theorem Palette.length_toEntry (colour : UInt32) : (toEntry colour).length = 4 := rfl

theorem Palette.length_entryBytes (colours : List UInt32) :
    (entryBytes colours).length = 4 * colours.length := by
  induction colours with
  | nil => rfl
  | cons colour rest ih =>
    rw [entryBytes, List.flatMap_cons, List.length_append, length_toEntry, ← entryBytes, ih,
      List.length_cons]
    omega

/-- Behind an entry that is there colours are given to where the next one is. If that has no
address, the entry that is stored instead is in front of all memory. -/
theorem ends_writeColours_onward {done : Unit → Session → Prop} {failed : Session → Prop}
    {address : Nat} {colours : List UInt32}
    (backed : start.memory.holds address Palette.entrySize = true)
    (beyond : colours.length ≠ 0 → addressSpace ≤ address + Palette.entrySize → failed start)
    (within : Ends (Engine.writeColours (address + Palette.entrySize) colours) start done failed) :
    Ends (Engine.writeColours (wrapped (address + Palette.entrySize)) colours) start done
      failed := by
  rcases Nat.lt_or_ge (address + Palette.entrySize) addressSpace with inSpace | past
  · rwa [wrapped_of_lt inSpace]
  cases colours with
  | nil => exact within
  | cons colour rest =>
    refine Ends.bind (ends_write_refusing fun _ => beyond (Nat.succ_ne_zero _) past) ?_
    rintro _ _ ⟨held, -⟩
    have inSpace := Memory.lt_of_holds_wrapped backed (Nat.le_refl _) held
    exact absurd inSpace (Nat.not_lt.mpr past)

/-- Having no room is the only reason not to give colours to the guest. -/
theorem ends_writeColours_exact {failed : Session → Prop} {colours : List UInt32} {address : Nat}
    (held : ¬ start.memory.Room address colours.length →
      ∀ memory, failed { start with memory := memory }) :
    Ends (Engine.writeColours address colours) start
      (fun _ final => final = { start with
          memory := start.memory.put address (Palette.entryBytes colours) } ∧
        (colours = [] ∨ start.memory.holds address (4 * colours.length) = true)) failed := by
  induction colours generalizing start address with
  | nil => exact ⟨rfl, .inl rfl⟩
  | cons colour rest ih =>
    have length : (Palette.toEntry colour).length = Palette.entrySize :=
      Palette.length_toEntry colour
    refine Ends.bind (ends_write_refusing fun unbacked => held (fun room => ?_) start.memory) ?_
    · cases (length ▸ unbacked).symm.trans room.head
    rintro _ _ ⟨backed, rfl⟩
    have above := (Memory.holds_iff.mp backed).1
    rw [length] at backed
    refine Ends.weaken (ends_writeColours_onward ((Memory.holds_put ..).trans backed)
      (fun several past => held (fun room => ?_) _)
      (@ih { start with memory := start.memory.put address (Palette.toEntry colour) }
        (address + Palette.entrySize) fun full => held fun room => ?_)) ?_
    · exact Nat.not_lt.mpr past (room.lt_addressSpace several)
    · exact full (Memory.room_put.mpr room.tail)
    rintro _ _ ⟨rfl, either⟩
    refine ⟨?_, .inr ?_⟩
    · rw [← length, Memory.put_append above]
      rfl
    · rcases either with rfl | more
      · exact backed
      · rw [Memory.holds_put] at more
        exact Memory.holds_entries.mpr ⟨backed, more⟩

/-- Each colour that the guest was given is four bytes in its place. -/
theorem Memory.byte?_put_entryBytes {memory : Memory} {address : Nat} {colours : List UInt32}
    (backed : memory.holds address (4 * colours.length) = true) {index : Nat} {colour : UInt32}
    (found : colours[index]? = some colour) {offset : Nat} (small : offset < 4) :
    (memory.put address (Palette.entryBytes colours)).byte? (address + 4 * index + offset) =
      (Palette.toEntry colour)[offset]? := by
  have length := Palette.length_entryBytes colours
  obtain ⟨inside, -⟩ := List.getElem?_eq_some_iff.mp found
  have slot : (Palette.entryBytes colours)[4 * index + offset]? =
    (Palette.toEntry colour)[offset]? := by
    rw [Palette.entryBytes, getElem?_flatMap_of_length Palette.length_toEntry colours index small,
      found]
    rfl
  rw [byte?_put (length.symm ▸ backed), length, if_pos (by omega), ← slot]
  congr 1
  omega

/-- Colours that the guest was given are where they belong, and nothing else was stored. -/
theorem Memory.hasColour_put {memory : Memory} {address : Nat} {colours : List UInt32}
    (toned : ∀ colour ∈ colours, colour.toNat < 0x1000000)
    (backed : memory.holds address (4 * colours.length) = true) {index : Nat} {colour : UInt32}
    (found : colours[index]? = some colour) :
    (memory.put address (Palette.entryBytes colours)).HasColour (address + 4 * index) colour ∧
      (memory.put address (Palette.entryBytes colours)).byte? (address + 4 * index + 3) = some 0 :=
  hasColour_of_toEntry (toned colour (List.mem_of_getElem? found))
    fun _ small => byte?_put_entryBytes backed found small

/-! ### Getting entries -/

/-- A call on a palette may be about these entries, and there is a buffer for them. -/
def Palette.Allows (palette : Palette) (first count buffer : Nat) : Prop :=
  buffer ≠ 0 ∧ first + count ≤ palette.entries.size

/-- A pointer that leads to no palette is the only reason not to resolve it. -/
theorem endsWith_resolvePalette (start : Session) (entry : String) (this : Nat) :
    EndsWith (Engine.resolvePalette entry this) start
      (fun handle final => final = start ∧ start.paletteFor? this = some handle)
      (fun cause final => final = start ∧ start.paletteFor? this = none ∧
        cause = .unknownHandle entry (start.blockHandle this)) := by
  refine .read ?_
  cases found : start.paletteFor? this with
  | none => exact ⟨rfl, rfl, rfl⟩
  | some handle => exact ⟨rfl, rfl⟩

/-- Entries that a palette does not have, and a null buffer, are refused. -/
theorem endsWith_checkEntries (there : start.objects.palette? handle = some palette)
    (entry : String)
    (first count buffer : Nat) :
    EndsWith (Engine.checkEntries entry handle first count buffer) start
      (fun _ final => final = start ∧ palette.Allows first count buffer)
      (fun cause final => final = start ∧ ¬ palette.Allows first count buffer ∧
        cause = .invalidParams entry) := by
  unfold Engine.checkEntries Palette.Allows
  refine (ends_paletteAt_live there).whatever.bind ?_
  rintro palette start ⟨rfl, rfl⟩
  split
  · next refused => exact ⟨rfl, fun allowed => by omega, rfl⟩
  · next accepted => exact ⟨rfl, by omega⟩

/-- The pointer leads to a palette, and a call on that may be about these entries. -/
structure Session.Accepts (session : Session) (this first count buffer : Nat) (handle : Handle)
    (palette : Palette) : Prop where
  resolved : session.paletteFor? this = some handle
  there : session.objects.palette? handle = some palette
  allowed : palette.Allows first count buffer

/-- What both calls on entries do first: they look for the palette, and at the entries and the
buffer. -/
theorem EndsWith.accepting {this first count buffer : Nat} {entry : String}
    {rest : Handle → Engine Unit}
    {done : Unit → Session → Prop} {failed : Failure → Session → Prop}
    (unknown : start.paletteFor? this = none →
      failed (.unknownHandle entry (start.blockHandle this)) start)
    (refused : ∀ handle palette, start.paletteFor? this = some handle →
      start.objects.palette? handle = some palette → ¬ palette.Allows first count buffer →
        failed (.invalidParams entry) start)
    (next : ∀ handle palette, start.Accepts this first count buffer handle palette →
      EndsWith (rest handle) start done failed) :
    EndsWith (Engine.resolvePalette entry this >>= fun handle =>
      Engine.checkEntries entry handle first count buffer >>= fun _ =>
        rest handle) start done failed := by
  refine (endsWith_resolvePalette start entry this).andThen ?_ ?_
  · rintro cause _ ⟨rfl, none, rfl⟩
    exact unknown none
  rintro handle start ⟨rfl, resolved⟩
  obtain ⟨palette, there, -⟩ := start.palette?_of_paletteFor? resolved
  refine (endsWith_checkEntries there entry first count buffer).andThen ?_ ?_
  · rintro cause _ ⟨rfl, disallowed, rfl⟩
    exact refused handle palette resolved there disallowed
  rintro _ start ⟨rfl, allowed⟩
  exact next handle palette ⟨resolved, there, allowed⟩

/-- What a call does that gives `count` entries of a palette from `first` on to the guest. -/
structure EntriesGot (start : Session) (this first count out : Nat)
    (final : Session) (handle : Handle)
    (palette : Palette) : Prop extends start.Accepts this first count out handle palette where
  only : final = { start with memory := final.memory }
  given : ∀ index colour, index < count → palette.entries[first + index]? = some colour →
    final.memory.HasColour (out + 4 * index) colour ∧
      final.memory.byte? (out + 4 * index + 3) = some 0
  spared : ∀ point, ¬ (out ≤ point ∧ point < out + 4 * count) →
    final.memory.byte? point = start.memory.byte? point

/-- All entries are words `0x00RRGGBB`. -/
def Palette.Toned (palette : Palette) : Prop :=
  ∀ (index : Nat) colour, palette.entries[index]? = some colour → colour.toNat < 0x1000000

/-- All entries of palettes are words `0x00RRGGBB`. -/
def ObjectTable.Toned (table : ObjectTable) : Prop :=
  ∀ handle palette, table.palette? handle = some palette → palette.Toned

/-- Why entries cannot be given to the guest, and what was done until then. -/
inductive Session.Denies (start : Session) (this first count out : Nat) : Failure → Session → Prop
  /-- The pointer leads to no palette. -/
  | unknown (none : start.paletteFor? this = none) : Denies start this first count out
    (.unknownHandle PaletteMethod.getEntries.name (start.blockHandle this)) start
  /-- The palette does not have the entries, or there is no buffer. -/
  | refused {handle : Handle} {palette : Palette} (resolved : start.paletteFor? this = some handle)
    (there : start.objects.palette? handle = some palette)
    (refused : ¬ palette.Allows first count out) :
    Denies start this first count out (.invalidParams PaletteMethod.getEntries.name) start
  /-- There is no memory for all of them. -/
  | unwritten {handle : Handle} {palette : Palette} {cause : Failure} {memory : Memory}
    (accepts : start.Accepts this first count out handle palette)
    (unbacked : start.memory.holds out (4 * count) = false) :
    Denies start this first count out cause { start with memory := memory }
  /-- One of them would have its place beyond the last address. -/
  | outside {handle : Handle} {palette : Palette} {cause : Failure} {memory : Memory} {index : Nat}
    (accepts : start.Accepts this first count out handle palette) (inside : index < count)
    (beyond : addressSpace ≤ out + 4 * index) :
    Denies start this first count out cause { start with memory := memory }

/-- Entries of a palette. -/
def Palette.range (palette : Palette) (first count : Nat) : List UInt32 :=
  (palette.entries.toList.drop first).take count

namespace Palette

variable {first count : Nat}

theorem length_range (inside : first + count ≤ palette.entries.size) :
    (palette.range first count).length = count := by
  rw [range, List.length_take, List.length_drop, Array.length_toList]
  omega

theorem getElem?_range {index : Nat} (small : index < count) :
    (palette.range first count)[index]? = palette.entries[first + index]? := by
  rw [range, List.getElem?_take_of_lt small, List.getElem?_drop, Array.getElem?_toList]

theorem Toned.range (toned : palette.Toned) :
    ∀ colour ∈ palette.range first count, colour.toNat < 0x1000000 := by
  intro colour member
  obtain ⟨index, found⟩ :=
    List.mem_iff_getElem?.mp (List.mem_of_mem_drop (List.mem_of_mem_take member))
  exact toned index colour (Array.getElem?_toList ▸ found)

end Palette

/-- Entries that were stored for the guest are what it wants. -/
theorem Session.Accepts.got {this first count out : Nat}
    (accepts : start.Accepts this first count out handle palette) (toned : palette.Toned)
    (backed : palette.range first count = [] ∨
      start.memory.holds out (4 * (palette.range first count).length) = true) :
    EntriesGot start this first count out { start with
      memory := start.memory.put out (Palette.entryBytes (palette.range first count)) } handle palette := by
  have length := Palette.length_range accepts.allowed.2
  refine ⟨accepts, rfl, fun index colour small found => ?_, fun point outside => ?_⟩
  · have found := (Palette.getElem?_range small).trans found
    rcases backed with none | backed
    · rw [none] at found
      cases found
    · exact Memory.hasColour_put toned.range backed found
  · rcases backed with none | backed
    · rw [none]
      rfl
    · have size := Palette.length_entryBytes (palette.range first count)
      show (start.memory.put _ _).byte? point = _
      rw [Memory.byte?_put (size.symm ▸ backed), size, length, if_neg outside]

/-- Entries are given to the guest, or they are denied for one of these reasons. -/
theorem endsWith_paletteGetEntries (toned : start.objects.Toned) (this first count out : Nat) :
    EndsWith (Engine.paletteGetEntries this first count out) start
      (fun _ final => ∃ handle palette, EntriesGot start this first count out final handle palette)
      (fun cause final => start.Denies this first count out cause final) := by
  unfold Engine.paletteGetEntries
  refine .accepting .unknown (fun _ _ resolved there refused => .refused resolved there refused) ?_
  intro handle palette accepts
  refine (ends_paletteAt_live accepts.there).whatever.bind ?_
  rintro palette start ⟨rfl, rfl⟩
  show EndsWith (Engine.writeColours out (palette.range first count)) _ _ _
  refine Ends.whatever ((ends_writeColours_exact fun full memory cause => ?_).weaken ?_)
  · rw [Palette.length_range accepts.allowed.2] at full
    rcases Memory.not_room full with unbacked | ⟨index, inside, beyond⟩
    · exact .unwritten accepts unbacked
    · exact .outside accepts inside beyond
  · rintro _ _ ⟨rfl, backed⟩
    exact ⟨handle, palette, accepts.got (toned handle palette accepts.there) backed⟩

/-! ### Setting entries -/

/-- The live surfaces that a palette is attached to, in the order in which they are listed. -/
def Session.users (session : Session) (handle : Handle) : List Handle :=
  (session.objects.surfaces.filter fun entry => entry.2.palette = some handle).map Prod.fst

section Users

variable {session : Session} (linked : Linked session.objects)

include linked

theorem Session.mem_users_iff {user : Handle} : user ∈ session.users handle ↔
    ∃ surface, session.objects.surface? user = some surface ∧ surface.palette = some handle := by
  rw [users, List.mem_map]
  constructor
  · rintro ⟨⟨_, surface⟩, member, rfl⟩
    obtain ⟨listed, uses⟩ := List.mem_filter.mp member
    exact ⟨surface, (ObjectTable.mem_surfaces_iff linked.wf).mp listed, of_decide_eq_true uses⟩
  · rintro ⟨surface, live, uses⟩
    exact ⟨(user, surface), List.mem_filter.mpr
      ⟨(ObjectTable.mem_surfaces_iff linked.wf).mpr live, decide_eq_true uses⟩, rfl⟩

theorem Session.isSome_of_mem_users {user : Handle} (member : user ∈ session.users handle) :
    (session.objects.surface? user).isSome := by
  obtain ⟨surface, live, -⟩ := (mem_users_iff linked).mp member
  rw [live]
  rfl

end Users

theorem ObjectTable.Ascending.users {session : Session} (ascending : session.objects.Ascending)
    (handle : Handle) : ((session.users handle).map (·.number)).Pairwise (· < ·) := by
  refine List.Pairwise.sublist ?_ ascending.surfaces
  rw [Session.users, List.map_map]
  exact List.filter_sublist.map _

theorem Handle.nodup_of_ascending {handles : List Handle}
    (ascending : (handles.map (·.number)).Pairwise (· < ·)) : handles.Nodup := by
  rw [List.pairwise_map] at ascending
  exact ascending.imp fun before same => absurd (same ▸ before) (Nat.lt_irrefl _)

/-- From `start` to `left` the first half of setting entries was done: the palette may get these
entries, all surfaces with it were settled, and the colours were taken from the guest. -/
structure Taken (start : Session) (this first count source : Nat) (left : Session) (handle : Handle)
    (palette : Palette) (colours : List UInt32) : Prop
    extends start.Accepts this first count source handle palette where
  settled : SettledAll start (start.users handle) left
  listed : left.memory.Lists source colours count

namespace Taken

variable {this first count source : Nat} {colours : List UInt32}
  (taken : Taken start this first count source middle handle palette colours)

include taken

theorem found : middle.objects.palette? handle = some palette :=
  (congrFun taken.settled.palettes handle).trans taken.there

theorem repaints (linked : Linked start.objects) :
    Repaints middle handle palette (overwrite palette.entries first colours) where
  there := taken.found
  sized := size_overwrite _ _ _
  toned index colour found := by
    refine (getElem?_overwrite_or found).imp_right fun member => ?_
    obtain ⟨place, given⟩ := List.mem_iff_getElem?.mp member
    exact (taken.listed.colour place colour given).toNat_lt
  bare user surface live uses := by
    rw [taken.settled.surfaces user] at live
    obtain ⟨old, was, rfl⟩ := Option.map_eq_some_iff.mp live
    have uses : old.palette = some handle := by
      split at uses <;> exact uses
    exact congrArg Surface.cache (if_pos ((Session.mem_users_iff linked).mpr ⟨old, was, uses⟩))

end Taken

theorem Palette.length_recoloured (palette : Palette) (first : Nat) (colours : List UInt32) :
    (blockBytes { palette with entries := overwrite palette.entries first colours }).length =
      4 * palette.entries.size := by
  rw [length_blockBytes, size_overwrite]

/-- What a call does that takes `count` entries of a palette from `first` on from the guest: the
entries and the block are changed after all surfaces with the palette are settled, and then these
are shown if they are visible. -/
structure EntriesSet (start : Session) (this first count source : Nat) (final middle : Session)
    (handle : Handle) (palette : Palette) (colours : List UInt32) : Prop
    extends Taken start this first count source middle handle palette colours where
  backed : middle.memory.holds (palette.object + Block.dataOffset) (4 * palette.entries.size) = true
  shown : ShownAll (middle.repainted handle palette (overwrite palette.entries first colours))
    (start.users handle) final

/-- Where setting entries can stop, why, and what was done until then. -/
inductive Session.Halts (start : Session) (this first count source : Nat) : Failure → Session → Prop
  /-- The pointer leads to no palette. -/
  | unknown (none : start.paletteFor? this = none) : Halts start this first count source
    (.unknownHandle PaletteMethod.setEntries.name (start.blockHandle this)) start
  /-- The palette does not have the entries, or there is no buffer. -/
  | refused {handle : Handle} {palette : Palette} (resolved : start.paletteFor? this = some handle)
    (there : start.objects.palette? handle = some palette)
    (refused : ¬ palette.Allows first count source) :
    Halts start this first count source (.invalidParams PaletteMethod.setEntries.name) start
  /-- What was drawn on a surface with the palette cannot be stored. -/
  | unsettled {handle user : Handle} {palette : Palette}
    {before rest : List Handle} {cause : Failure}
    {middle : Session} (accepts : start.Accepts this first count source handle palette)
    (users : start.users handle = before ++ user :: rest) (settled : SettledAll start before middle)
    (balks : middle.Balks user cause) : Halts start this first count source cause middle
  /-- The colours cannot be read. -/
  | unread {handle : Handle} {palette : Palette} {cause : Failure} {middle : Session}
    (accepts : start.Accepts this first count source handle palette)
    (settled : SettledAll start (start.users handle) middle)
    (unbacked : start.memory.holds source (4 * count) = false) :
    Halts start this first count source cause middle
  /-- One of the colours would have its place beyond the last address. -/
  | outside {handle : Handle} {palette : Palette} {cause : Failure} {middle : Session} {index : Nat}
    (accepts : start.Accepts this first count source handle palette)
    (settled : SettledAll start (start.users handle) middle) (inside : index < count)
    (beyond : addressSpace ≤ source + 4 * index) : Halts start this first count source cause middle
  /-- There is no memory for the block. -/
  | faded {handle : Handle} {palette : Palette} {colours : List UInt32} {cause : Failure}
    {middle : Session} (taken : Taken start this first count source middle handle palette colours)
    (unbacked : middle.memory.holds (palette.object + Block.dataOffset)
      (4 * palette.entries.size) = false) :
    Halts start this first count source cause
      (middle.recoloured handle palette (overwrite palette.entries first colours))
  /-- The palette has its colours, and a visible surface with it cannot be shown in them. -/
  | unshown {handle user : Handle} {palette : Palette} {colours : List UInt32}
    {before rest : List Handle} {cause : Failure} {middle final : Session}
    (taken : Taken start this first count source middle handle palette colours)
    (backed : middle.memory.holds (palette.object + Block.dataOffset)
      (4 * palette.entries.size) = true)
    (users : start.users handle = before ++ user :: rest)
    (shown : ShownAll (middle.repainted handle palette (overwrite palette.entries first colours))
      before final)
    (visible : final.visible user = true) (hides : final.Hides user cause) :
    Halts start this first count source cause final

/-- Entries are set, or setting them stops at one of these places. -/
theorem endsWith_paletteSetEntries (ranked : Ranked start) (this first count source : Nat) :
    EndsWith (Engine.paletteSetEntries this first count source) start
      (fun _ final => ∃ middle handle palette colours,
        EntriesSet start this first count source final middle handle palette colours)
      (fun cause final => start.Halts this first count source cause final) := by
  have linked := ranked.linked
  unfold Engine.paletteSetEntries
  refine .accepting .unknown (fun _ _ resolved there refused => .refused resolved there refused) ?_
  intro handle palette accepts
  refine .read ?_
  have once := Handle.nodup_of_ascending (ranked.ascending.users handle)
  refine (endsWith_settleAll linked once fun _ member =>
    Session.isSome_of_mem_users linked member).andThen ?_ ?_
  · rintro cause middle ⟨before, user, rest, users, settled, balks⟩
    exact .unsettled accepts users settled balks
  intro _ middle (settled : SettledAll start (start.users handle) middle)
  refine EndsWith.bind (Ends.whatever (ends_readColours_exact fun full _ => ?_)) ?_
  · rcases Memory.not_room full with unbacked | ⟨index, inside, beyond⟩
    · rw [settled.holds] at unbacked
      exact .unread accepts settled unbacked
    · exact .outside accepts settled inside beyond
  rintro colours middle ⟨rfl, listed⟩
  have taken : Taken start this first count source middle handle palette colours :=
    ⟨accepts, settled, listed⟩
  refine (ends_paletteAt_live taken.found).whatever.bind ?_
  rintro palette middle ⟨rfl, rfl⟩
  refine (ends_setPayload _ _).whatever.bind ?_
  rintro _ _ rfl
  have length := palette.length_recoloured first colours
  cases backed : middle.memory.holds (palette.object + Block.dataOffset) (4 * palette.entries.size) with
  | false =>
    refine EndsWith.bind (Ends.whatever (ends_write (fun _ => .faded taken backed) _ _)) ?_
    rintro _ _ ⟨inside, -⟩
    rw [length, backed] at inside
    cases inside
  | true =>
    refine EndsWith.bind (Ends.whatever (ends_write_backed (length.symm ▸ backed))) ?_
    rintro _ _ rfl
    have recoloured := settled.linked.recolouring (taken.repaints linked).recolouring
    refine EndsWith.imp (@endsWith_presentAll (middle.repainted handle palette _) _ recoloured
      fun user member => ?_) ?_ ?_
    · show ((middle.objects.setPayload handle _).surface? user).isSome = true
      rw [ObjectTable.surface?_setPalette taken.found, settled.surfaces, Option.isSome_map]
      exact Session.isSome_of_mem_users linked member
    · exact fun _ final shown => ⟨middle, handle, palette, colours, taken, backed, shown⟩
    · rintro cause final ⟨before, user, rest, users, shown, visible, hides⟩
      exact .unshown taken backed users shown visible hides

end GuestDraw
