/-
**What is seen of a surface.**

All that drawing has to do with a surface is in its portrait: where its pixels lie, the colours that
they are shown in, and its cache. The picture of the surface is in the cache if there is one, and in
memory otherwise. A portrait is faithful if both tell the same: a clean cache is what memory is
decoded to, and one that was drawn on can be written back.

* `portrait?_of_update`: a step that changes one surface changes one portrait;
* `Retouched`: such a step, and the memory that it may change;
* `Retouched.contents_eq`, `Retouched.cells_eq`, `Retouched.faithful`: nothing happens to other
  surfaces.
-/

import GuestDraw.Proofs.Pixel.Codec
import GuestDraw.Proofs.Session.Housekeeping

namespace GuestDraw

/-! ### Portraits -/

/-- What drawing has to do with a surface. -/
structure Portrait where
  buffer : PixelBuffer
  colours : Option (Array UInt32)
  cached : Option CachedRaster

/-- The bytes of a buffer are the same in both memories. -/
structure Memory.SameOn (first second : Memory) (buffer : PixelBuffer) : Prop where
  base : second.base = first.base
  size : second.size = first.size
  bytes : ∀ point, buffer.Covers point → second.byte? point = first.byte? point

namespace Portrait

variable {portrait : Portrait} {memory other : Memory}

/-- The picture of a surface. -/
def shown (portrait : Portrait) (memory : Memory) : Except PixelError Raster :=
  match portrait.cached with
  | some cached => .ok cached.raster
  | none => Conversion.decode memory portrait.buffer portrait.colours

/-- The raw values of the pixels of a surface, whatever colours they stand for. -/
def cells (portrait : Portrait) (memory : Memory) : Except PixelError (Array UInt32) :=
  match portrait.cached with
  | some cached => .ok cached.raster.cells
  | none => (Conversion.decode memory portrait.buffer (some #[])).map (·.cells)

/-- The cache suits the pixels, and is what they are decoded to unless it was drawn on. -/
def Faithful (portrait : Portrait) (memory : Memory) : Prop :=
  ∀ cached, portrait.cached = some cached → cached.raster.Suits portrait.buffer ∧
    (cached.dirty = false →
      Conversion.decode memory portrait.buffer portrait.colours = .ok cached.raster)

/-- A picture suits the pixels that it is of. -/
theorem Faithful.suits (faithful : portrait.Faithful memory) {raster : Raster}
    (shows : portrait.shown memory = .ok raster) : raster.Suits portrait.buffer := by
  unfold shown at shows
  split at shows
  · next cached has =>
    cases shows
    exact (faithful cached has).1
  · exact Conversion.suits_of_decode shows

/-- A cache that is what memory is decoded to makes no difference. -/
theorem same_of_decode {bare : Portrait} {cached : CachedRaster} (has : portrait.cached = some cached)
    (uncached : bare.cached = none)
    (decoded : Conversion.decode memory bare.buffer bare.colours = .ok cached.raster) :
    bare.shown memory = portrait.shown memory ∧ bare.cells memory = portrait.cells memory := by
  constructor
  · rw [shown, shown, uncached, has, decoded]
  · rw [cells, cells, uncached, has, Conversion.cells_of_decode decoded]

section Same

variable (same : memory.SameOn other portrait.buffer)

include same

theorem decode_eq (palette : Option (Array UInt32)) :
    Conversion.decode other portrait.buffer palette = Conversion.decode memory portrait.buffer palette :=
  Conversion.decode_congr same.base same.size same.bytes

theorem shown_eq : portrait.shown other = portrait.shown memory := by
  rw [shown, shown, decode_eq same]

theorem cells_eq : portrait.cells other = portrait.cells memory := by
  rw [cells, cells, decode_eq same]

theorem Faithful.congr (faithful : portrait.Faithful memory) : portrait.Faithful other := by
  intro cached has
  rw [decode_eq same]
  exact faithful cached has

end Same

end Portrait

/-! ### The portraits of a table -/

/-- The portrait of a surface, with the palette and the cache that the table has for it. -/
def Surface.portrait (surface : Surface) (table : ObjectTable) : Portrait where
  buffer := surface.buffer
  colours := (surface.palette.bind table.palette?).map (·.entries)
  cached := surface.cache.bind table.cachedRaster?

namespace ObjectTable

variable {table after : ObjectTable} {handle : Handle}

/-- The portrait of a live surface. -/
def portrait? (table : ObjectTable) (handle : Handle) : Option Portrait :=
  (table.surface? handle).map fun surface => surface.portrait table

theorem portrait?_of_surface? {surface : Surface} (live : table.surface? handle = some surface) :
    table.portrait? handle = some (surface.portrait table) := by
  rw [portrait?, live, Option.map_some]

/-- Portraits are made of contents. -/
theorem portrait?_of_payload?_eq (same : after.payload? = table.payload?) :
    after.portrait? = table.portrait? := by
  have surfaces : after.surface? = table.surface? := funext fun other => by
    rw [surface?_eq_bind, same, surface?_eq_bind]
  have palettes : after.palette? = table.palette? := funext fun other => by
    rw [palette?_eq_bind, same, palette?_eq_bind]
  have caches : after.cachedRaster? = table.cachedRaster? := funext fun other => by
    rw [cachedRaster?_eq_bind, same, cachedRaster?_eq_bind]
  funext other
  simp only [portrait?, Surface.portrait, surfaces, palettes, caches]

/-- A step that changes one surface, and no palette and no cache of another one, changes one
portrait. -/
theorem portrait?_of_update {new : Surface}
    (surfaces : after.surface? = Function.update table.surface? handle (some new))
    (palettes : after.palette? = table.palette?)
    (others : ∀ other surface cache, other ≠ handle → table.surface? other = some surface →
      surface.cache = some cache → after.cachedRaster? cache = table.cachedRaster? cache) :
    after.portrait? = Function.update table.portrait? handle (some (new.portrait after)) := by
  funext other
  rw [portrait?, surfaces, Function.update_apply, Function.update_apply]
  split
  · rfl
  · next different =>
    rw [portrait?]
    cases live : table.surface? other with
    | none => rfl
    | some surface =>
      have cached : surface.cache.bind after.cachedRaster? =
          surface.cache.bind table.cachedRaster? := by
        cases has : surface.cache with
        | none => rfl
        | some cache => exact others other surface cache different live has
      rw [Option.map_some, Option.map_some, Surface.portrait, Surface.portrait, cached, palettes]

end ObjectTable

/-- The cache of a surface belongs to no other one. -/
theorem Linked.cache_ne {table : ObjectTable} (linked : Linked table) {first second cache : Handle}
    {one two : Surface} (live : table.surface? first = some one) (has : one.cache = some cache)
    (different : second ≠ first) (other : table.surface? second = some two) :
    two.cache ≠ some cache := by
  intro shared
  obtain ⟨-, -, cached, content, own⟩ := linked.cache live has
  obtain ⟨-, -, again, found, belongs⟩ := linked.cache other shared
  cases content.symm.trans found
  exact different (belongs.symm.trans own)

/-- A cached raster that is replaced changes the portrait of the surface that it is for. -/
theorem Linked.portrait?_setCached {table : ObjectTable} (linked : Linked table)
    {handle cache : Handle} {surface : Surface} {old : CachedRaster}
    (live : table.surface? handle = some surface) (has : surface.cache = some cache)
    (content : table.cachedRaster? cache = some old) (new : CachedRaster) :
    (table.setPayload cache (.cachedRaster new)).portrait? =
      Function.update table.portrait? handle
        (some { surface.portrait table with cached := some new }) := by
  have surfaces : (table.setPayload cache (.cachedRaster new)).surface? =
      Function.update table.surface? handle (some surface) := by
    rw [ObjectTable.surface?_setCached content, eq_comm, Function.update_eq_self_iff, live]
  have palettes := ObjectTable.palette?_setCached content new
  have caches := ObjectTable.cachedRaster?_setCached content new
  have portrait : surface.portrait (table.setPayload cache (.cachedRaster new)) =
      { surface.portrait table with cached := some new } := by
    rw [Surface.portrait, Surface.portrait, palettes, caches, has, Option.bind_some,
      Function.update_self]
  rw [← portrait]
  refine ObjectTable.portrait?_of_update surfaces palettes fun other two kept different there owns => ?_
  rw [caches, Function.update_of_ne]
  rintro rfl
  exact linked.cache_ne live has different there owns

namespace Session

variable {session : Session} {handle : Handle}

/-- The raw values of the pixels of a surface, whatever colours they stand for. -/
def cells (session : Session) (handle : Handle) : Option (Except PixelError (Array UInt32)) :=
  (session.objects.portrait? handle).map fun portrait => portrait.cells session.memory

/-- Where the pixels of a surface lie. -/
def buffer? (session : Session) (handle : Handle) : Option PixelBuffer :=
  (session.objects.portrait? handle).map (·.buffer)

theorem contents_eq (session : Session) (handle : Handle) :
    session.contents handle =
      (session.objects.portrait? handle).map fun portrait => portrait.shown session.memory := by
  rw [contents, ObjectTable.portrait?, Option.map_map]
  rfl

end Session

/-! ### Changes to one portrait -/

/-- From `start` to `final` one portrait was changed, and at most the pixels of its surface. -/
structure Retouched (start final : Session) (handle : Handle) (old new : Portrait) : Prop where
  before : start.objects.portrait? handle = some old
  after : final.objects.portrait? = Function.update start.objects.portrait? handle (some new)
  buffer : new.buffer = old.buffer
  base : final.memory.base = start.memory.base
  size : final.memory.size = start.memory.size
  bytes : ∀ point, ¬ old.buffer.Covers point →
    final.memory.byte? point = start.memory.byte? point

/-- No two live surfaces have a byte in common. -/
def ObjectTable.Apart (table : ObjectTable) : Prop :=
  ∀ first second one two, table.portrait? first = some one → table.portrait? second = some two →
    first ≠ second → ∀ point, one.buffer.Covers point → ¬ two.buffer.Covers point

/-- Every surface has its pixels where it had them before. -/
def ObjectTable.Stays (table after : ObjectTable) : Prop :=
  ∀ handle portrait, after.portrait? handle = some portrait →
    ∃ before, table.portrait? handle = some before ∧ portrait.buffer = before.buffer

theorem ObjectTable.Apart.of_stays {table after : ObjectTable} (apart : table.Apart)
    (stays : table.Stays after) : after.Apart := by
  intro first second one two there again different point inside
  obtain ⟨_, was, buffer⟩ := stays first one there
  obtain ⟨_, wasToo, bufferToo⟩ := stays second two again
  rw [buffer] at inside
  rw [bufferToo]
  exact apart first second _ _ was wasToo different point inside

theorem ObjectTable.Stays.of_buffer? {start final : Session} (same : final.buffer? = start.buffer?) :
    start.objects.Stays final.objects := by
  intro handle portrait there
  have found : start.buffer? handle = some portrait.buffer := by
    rw [← same, Session.buffer?, there, Option.map_some]
  obtain ⟨before, was, buffer⟩ := Option.map_eq_some_iff.mp found
  exact ⟨before, was, buffer.symm⟩

namespace Retouched

variable {start final : Session} {handle : Handle} {old new : Portrait}
  (retouched : Retouched start final handle old new) (apart : start.objects.Apart)

include retouched

theorem buffer?_eq : final.buffer? = start.buffer? := by
  funext other
  rw [Session.buffer?, Session.buffer?, retouched.after, Function.update_apply]
  split
  · next same => rw [same, retouched.before, Option.map_some, Option.map_some, retouched.buffer]
  · rfl

include apart

theorem sameOn {other : Handle} {portrait : Portrait} (different : other ≠ handle)
    (there : start.objects.portrait? other = some portrait) :
    start.memory.SameOn final.memory portrait.buffer :=
  ⟨retouched.base, retouched.size, fun point inside => retouched.bytes point fun covered =>
    apart handle other old portrait retouched.before there different.symm point covered inside⟩

theorem contents_eq :
    final.contents = Function.update start.contents handle (some (new.shown final.memory)) := by
  funext other
  rw [Session.contents_eq, retouched.after, Function.update_apply, Function.update_apply]
  split
  · rfl
  · next different =>
    rw [Session.contents_eq]
    cases there : start.objects.portrait? other with
    | none => rw [Option.map_none, Option.map_none]
    | some portrait =>
      rw [Option.map_some, Option.map_some,
        Portrait.shown_eq (retouched.sameOn apart different there)]

theorem cells_eq :
    final.cells = Function.update start.cells handle (some (new.cells final.memory)) := by
  funext other
  rw [Session.cells, retouched.after, Function.update_apply, Function.update_apply]
  split
  · rfl
  · next different =>
    rw [Session.cells]
    cases there : start.objects.portrait? other with
    | none => rw [Option.map_none, Option.map_none]
    | some portrait =>
      rw [Option.map_some, Option.map_some,
        Portrait.cells_eq (retouched.sameOn apart different there)]

theorem faithful
    (before : ∀ other portrait, start.objects.portrait? other = some portrait →
      portrait.Faithful start.memory) (now : new.Faithful final.memory) :
    ∀ other portrait, final.objects.portrait? other = some portrait →
      portrait.Faithful final.memory := by
  intro other portrait there
  rw [retouched.after, Function.update_apply] at there
  split at there
  · cases there
    exact now
  · next different =>
    exact (before other portrait there).congr (retouched.sameOn apart different there)

end Retouched

/-! ### Steps that nobody sees -/

/-- Every surface shows what it showed, in the same place. -/
structure Unseen (start final : Session) : Prop where
  contents : final.contents = start.contents
  cells : final.cells = start.cells
  buffers : final.buffer? = start.buffer?

namespace Unseen

variable {start middle final : Session}

theorem refl (session : Session) : Unseen session session := ⟨rfl, rfl, rfl⟩

theorem trans (first : Unseen start middle) (second : Unseen middle final) : Unseen start final :=
  ⟨second.contents.trans first.contents, second.cells.trans first.cells,
    second.buffers.trans first.buffers⟩

/-- A step that changes neither contents of objects nor memory. -/
theorem of_payload? (same : final.objects.payload? = start.objects.payload?)
    (memory : final.memory = start.memory) : Unseen start final := by
  have portraits := ObjectTable.portrait?_of_payload?_eq same
  refine ⟨?_, ?_, ?_⟩ <;> funext other
  · rw [Session.contents_eq, Session.contents_eq, portraits, memory]
  · rw [Session.cells, Session.cells, portraits, memory]
  · rw [Session.buffer?, Session.buffer?, portraits]

end Unseen

/-- A change to one portrait with which it goes on to show the same, if it was faithful. -/
def Concealed (start final : Session) : Prop :=
  ∃ handle old new, Retouched start final handle old new ∧
    (old.Faithful start.memory → new.Faithful final.memory ∧
      new.shown final.memory = old.shown start.memory ∧
      new.cells final.memory = old.cells start.memory)

theorem Concealed.unseen {start final : Session} (concealed : Concealed start final)
    (apart : start.objects.Apart)
    (faithful : ∀ other portrait, start.objects.portrait? other = some portrait →
      portrait.Faithful start.memory) :
    Unseen start final ∧ ∀ other portrait, final.objects.portrait? other = some portrait →
      portrait.Faithful final.memory := by
  obtain ⟨handle, old, new, retouched, same⟩ := concealed
  obtain ⟨now, shown, cells⟩ := same (faithful handle old retouched.before)
  refine ⟨⟨?_, ?_, retouched.buffer?_eq⟩, retouched.faithful apart faithful now⟩
  · rw [retouched.contents_eq apart, shown, Function.update_eq_self_iff, Session.contents_eq,
      retouched.before]
    rfl
  · rw [retouched.cells_eq apart, cells, Function.update_eq_self_iff, Session.cells,
      retouched.before]
    rfl

/-- A change of one surface with the same pixels, palette and cache. -/
theorem Concealed.of_surface {start final : Session} {handle : Handle} {surface new : Surface}
    (live : start.objects.surface? handle = some surface) (memory : final.memory = start.memory)
    (surfaces : final.objects.surface? = Function.update start.objects.surface? handle (some new))
    (palettes : final.objects.palette? = start.objects.palette?)
    (caches : final.objects.cachedRaster? = start.objects.cachedRaster?)
    (same : new.portrait start.objects = surface.portrait start.objects) : Concealed start final := by
  have portraits := ObjectTable.portrait?_of_update surfaces palettes
    fun _ _ cache _ _ _ => congrFun caches cache
  have kept : new.portrait final.objects = surface.portrait start.objects := by
    rw [← same, Surface.portrait, Surface.portrait, palettes, caches]
  rw [kept] at portraits
  refine ⟨handle, _, _, ⟨ObjectTable.portrait?_of_surface? live, portraits, rfl, ?_, ?_, ?_⟩, ?_⟩
  all_goals rw [memory]
  · exact fun _ _ => rfl
  · exact fun faithful => ⟨faithful, rfl, rfl⟩

theorem Settling.concealed {start final : Session} (linked : Linked start.objects)
    (step : Settling start final) : Concealed start final := by
  cases step with
  | @written handle cache surface cached data live has content dirty encoded backed =>
    have old : (surface.portrait start.objects).cached = some cached := by
      rw [Surface.portrait, has]
      exact content
    refine ⟨handle, _, _, ⟨ObjectTable.portrait?_of_surface? live,
      linked.portrait?_setCached live has content _, rfl, rfl, Memory.size_put _ _ _,
      fun point outside => Conversion.byte?_of_encoded encoded backed outside⟩,
      fun faithful => ⟨?_, ?_, ?_⟩⟩
    · rintro again found
      cases found
      obtain ⟨suits, -⟩ := faithful cached old
      exact ⟨suits, fun _ => Conversion.decode_of_encoded suits encoded _⟩
    · rw [Portrait.shown, Portrait.shown, old]
    · rw [Portrait.cells, Portrait.cells, old]
  | @dropped handle cache surface live has clean =>
    obtain ⟨-, -, cached, content, -⟩ := linked.cache live has
    obtain ⟨surfaces, palettes, caches⟩ := linked.views_dropCache live has rfl
    have old : (surface.portrait start.objects).cached = some cached := by
      rw [Surface.portrait, has]
      exact content
    refine ⟨handle, _, _, ⟨ObjectTable.portrait?_of_surface? live,
      ObjectTable.portrait?_of_update surfaces palettes fun other two kept different there owns => ?_,
      rfl, rfl, rfl, fun _ _ => rfl⟩, fun faithful => ?_⟩
    · rw [caches, Function.update_of_ne]
      rintro rfl
      exact linked.cache_ne live has different there owns
    · have decoded := (faithful cached old).2 (clean cached content)
      rw [Surface.portrait, ← palettes] at decoded
      exact ⟨(fun _ none => nomatch none), Portrait.same_of_decode old rfl decoded⟩

/-- Pixels that are decoded into a cache change one portrait, which goes on to show the same. -/
theorem Caching.retouched {start final : Session} (linked : Linked start.objects)
    (step : Caching start final) :
    ∃ handle old new, Retouched start final handle old new ∧ final.memory = start.memory ∧
      new.Faithful final.memory ∧ new.shown final.memory = old.shown start.memory ∧
      new.cells final.memory = old.cells start.memory := by
  obtain @⟨handle, cache, surface, raster, objects, live, bare, unlocked, decoded, made⟩ := step
  obtain ⟨surfaces, palettes, caches⟩ := linked.views_createFor made live
    { surface with cache := some cache } rfl rfl
  have old : (surface.portrait start.objects).cached = none := by
    rw [Surface.portrait, bare]
    rfl
  have new : (Surface.portrait { surface with cache := some cache } (objects.setPayload handle
      (.surface { surface with cache := some cache }))).cached = some ⟨handle, raster, false⟩ := by
    rw [Surface.portrait, caches]
    exact Function.update_self _ _ _
  refine ⟨handle, _, _, ⟨ObjectTable.portrait?_of_surface? live,
    ObjectTable.portrait?_of_update surfaces palettes fun other two kept different there owns => ?_,
    rfl, rfl, rfl, fun _ _ => rfl⟩, rfl, ?_, ?_⟩
  · obtain ⟨-, -, cached, content, -⟩ := linked.cache there owns
    rw [caches, Function.update_of_ne]
    rintro rfl
    rw [ObjectTable.cachedRaster?_eq_bind, linked.fresh made] at content
    cases content
  · rintro cached has
    cases new.symm.trans has
    refine ⟨Conversion.suits_of_decode decoded, fun _ => ?_⟩
    rw [Surface.portrait, palettes]
    exact decoded
  · have same := Portrait.same_of_decode new old decoded
    exact ⟨same.1.symm, same.2.symm⟩

theorem Caching.concealed {start final : Session} (linked : Linked start.objects)
    (step : Caching start final) : Concealed start final := by
  obtain ⟨handle, old, new, retouched, -, same⟩ := step.retouched linked
  exact ⟨handle, old, new, retouched, fun _ => same⟩

/-- Pixels that are decoded into a cache show what they showed. -/
theorem Caching.contents_eq {start final : Session} (linked : Linked start.objects)
    (step : Caching start final) : final.contents = start.contents := by
  obtain ⟨handle, old, new, retouched, memory, -, shown, -⟩ := step.retouched linked
  funext other
  rw [Session.contents_eq, Session.contents_eq, retouched.after, Function.update_apply]
  split
  · next same =>
    subst same
    rw [retouched.before, Option.map_some, Option.map_some, shown]
  · rw [memory]

/-- Keeping the books shows nothing, and leaves what the guest relies on as it was. -/
theorem Tidying.unseen {start final : Session} (linked : Linked start.objects)
    (apart : start.objects.Apart)
    (faithful : ∀ other portrait, start.objects.portrait? other = some portrait →
      portrait.Faithful start.memory) (step : Tidying start final) :
    Unseen start final ∧ ∀ other portrait, final.objects.portrait? other = some portrait →
      portrait.Faithful final.memory := by
  cases step with
  | settling step => exact (step.concealed linked).unseen apart faithful
  | caching step => exact (step.concealed linked).unseen apart faithful
  | lockSet live =>
    refine Concealed.unseen ?_ apart faithful
    exact .of_surface live rfl (ObjectTable.surface?_setSurface live _)
      (ObjectTable.palette?_setSurface live _) (ObjectTable.cachedRaster?_setSurface live _) rfl
  | @contextMade handle context surface objects live bare made =>
    obtain ⟨surfaces, palettes, caches⟩ := linked.views_createFor made live
      { surface with deviceContext := some context } rfl rfl
    refine Concealed.unseen ?_ apart faithful
    refine .of_surface live rfl surfaces palettes (caches.trans ?_) rfl
    rw [Function.update_eq_self_iff, ObjectTable.cachedRaster?_eq_bind, linked.fresh made]
    rfl
  | @contextCounted context content count live positive =>
    have same : (start.objects.update context fun object =>
        { object with references := count }).payload? = start.objects.payload? :=
      ObjectTable.payload?_recount count
    refine ⟨.of_payload? same rfl, fun other portrait there => faithful other portrait ?_⟩
    rw [← there, ObjectTable.portrait?_of_payload?_eq same]
  | shown picture => exact ⟨.of_payload? rfl rfl, faithful⟩

end GuestDraw
