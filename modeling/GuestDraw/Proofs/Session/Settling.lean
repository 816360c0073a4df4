/-
**Settling a surface.**

Before the guest may look at the pixels of a surface, what was drawn on its cache is stored there
and the cache goes. One thing can go wrong, that it cannot be stored, and it goes wrong before
anything changes.

* `Session.drawn?`, `Session.Settles`: what was drawn, and that it can be stored;
* `Stored`, `WrittenBack`, `Settled`: the memory afterwards, and the objects on the way and at the
  end;
* `Session.Balks`, `endsWith_settle`: a surface is settled, or what was drawn on it cannot be
  stored.
-/

import GuestDraw.Proofs.Pixel.Codec
import GuestDraw.Proofs.Session.Housekeeping

namespace GuestDraw

variable {start final session : Session} {handle : Handle} {surface : Surface}

/-! ### What was drawn -/

/-- What was drawn on the cache of a surface, and where it has to be stored. -/
def Session.drawn? (session : Session) (handle : Handle) : Option (Raster × PixelBuffer) :=
  (session.objects.surface? handle).bind fun surface =>
    ((surface.cache.bind session.objects.cachedRaster?).filter (·.dirty)).map fun cached =>
      (cached.raster, surface.buffer)

section Drawn

variable (live : session.objects.surface? handle = some surface)

include live

theorem Session.drawn?_of_bare (bare : surface.cache = none) : session.drawn? handle = none := by
  rw [drawn?, live, Option.bind_some, bare]
  rfl

theorem Session.drawn?_of_cache {cache : Handle} {cached : CachedRaster} (has : surface.cache = some cache)
    (content : session.objects.cachedRaster? cache = some cached) :
    session.drawn? handle = if cached.dirty then some (cached.raster, surface.buffer) else none := by
  rw [drawn?, live, Option.bind_some, has, Option.bind_some, content]
  cases dirty : cached.dirty with
  | true =>
    rw [Option.filter_some_pos dirty]
    rfl
  | false =>
    rw [Option.filter_some_neg dirty]
    rfl

end Drawn

/-- What was drawn on the cache of a surface can be stored. -/
def Session.Settles (session : Session) (handle : Handle) : Prop :=
  ∀ raster buffer, session.drawn? handle = some (raster, buffer) →
    ∃ data, Conversion.encoded session.memory raster buffer = .ok data

/-- What was drawn on the cache of a surface cannot be stored, and this is the cause. -/
def Session.Balks (session : Session) (handle : Handle) (cause : Failure) : Prop :=
  ∃ raster buffer error, session.drawn? handle = some (raster, buffer) ∧
    Conversion.encoded session.memory raster buffer = .error error ∧ cause = .pixel error

theorem Session.Balks.not_settles {cause : Failure} (balks : session.Balks handle cause) :
    ¬ session.Settles handle := by
  intro settles
  obtain ⟨raster, buffer, error, drawn, refused, -⟩ := balks
  obtain ⟨data, encoded⟩ := settles raster buffer drawn
  cases refused.symm.trans encoded

theorem Conversion.encoded_of_holds {memory after : Memory} {raster : Raster} {buffer : PixelBuffer}
    {data : List UInt8}
    (holds : ∀ address length, after.holds address length = memory.holds address length)
    (encoded : Conversion.encoded memory raster buffer = .ok data) :
    ∃ data, Conversion.encoded after raster buffer = .ok data := by
  obtain ⟨format, length, depth, direct, width, height, fits, backed, -⟩ :=
    Conversion.encoded_eq_ok_iff.mp encoded
  exact ⟨_, Conversion.encoded_eq_ok_iff.mpr
    ⟨format, length, depth, direct, width, height, fits, holds .. ▸ backed, rfl⟩⟩

/-- Settling depends on what is drawn and on which memory there is. -/
theorem Session.settles_congr (drawn : final.drawn? handle = start.drawn? handle)
    (holds : ∀ address length, final.memory.holds address length = start.memory.holds address length) :
    final.Settles handle ↔ start.Settles handle := by
  unfold Session.Settles
  rw [drawn]
  refine forall₃_congr fun raster buffer _ => ⟨fun ⟨_, encoded⟩ => ?_, fun ⟨_, encoded⟩ => ?_⟩
  · exact Conversion.encoded_of_holds (fun _ _ => (holds ..).symm) encoded
  · exact Conversion.encoded_of_holds holds encoded

/-! ### What is left -/

/-- The memory once what was drawn on the cache of a surface is stored. -/
inductive Stored (start : Session) (handle : Handle) (surface : Surface) : Memory → Prop
  | nothing (clean : start.drawn? handle = none) : Stored start handle surface start.memory
  | pixels {raster : Raster} {data : List UInt8}
    (drawn : start.drawn? handle = some (raster, surface.buffer))
    (encoded : Conversion.encoded start.memory raster surface.buffer = .ok data)
    (backed : start.memory.holds surface.buffer.address data.length = true) :
    Stored start handle surface (start.memory.put surface.buffer.address data)

namespace Stored

variable {memory : Memory} (stored : Stored start handle surface memory)

include stored

/-- Only pixels are stored, and only if something was drawn. -/
theorem byte? {point : Nat} (spared : start.drawn? handle = none ∨ ¬ surface.buffer.Covers point) :
    memory.byte? point = start.memory.byte? point := by
  cases stored with
  | nothing => rfl
  | pixels drawn encoded backed =>
    rcases spared with clean | outside
    · cases drawn.symm.trans clean
    · exact Conversion.byte?_of_encoded encoded backed outside

/-- What was drawn is read back if it suits the pixels. -/
theorem decode {raster : Raster} {buffer : PixelBuffer}
    (drawn : start.drawn? handle = some (raster, buffer)) (suits : raster.Suits buffer)
    (palette : Option (Array UInt32)) :
    Conversion.decode memory surface.buffer palette = .ok raster := by
  cases stored with
  | nothing clean => cases clean.symm.trans drawn
  | pixels same encoded =>
    cases same.symm.trans drawn
    exact Conversion.decode_of_encoded suits encoded palette

/-- What was drawn can be stored. -/
theorem settles : start.Settles handle := by
  intro raster buffer drawn
  cases stored with
  | nothing clean => cases clean.symm.trans drawn
  | pixels same encoded =>
    cases same.symm.trans drawn
    exact ⟨_, encoded⟩

end Stored

/-- From `start` to `final` what was drawn on the cache of a surface was stored, and the cache is
there yet. -/
structure WrittenBack (start : Session) (handle : Handle) (surface : Surface) (final : Session) :
    Prop where
  only : final = { start with memory := final.memory, objects := final.objects }
  stored : Stored start handle surface final.memory
  linked : Linked final.objects
  live : final.objects.surface? handle = some surface
  others : ∀ other, surface.cache ≠ some other →
    final.objects.find? other = start.objects.find? other

/-- From `start` to `final` what was drawn on the cache of a surface was stored, and the cache is
gone. -/
structure Settled (start : Session) (handle : Handle) (surface : Surface) (final : Session) : Prop where
  only : final = { start with memory := final.memory, objects := final.objects }
  stored : Stored start handle surface final.memory
  found : ∀ other, final.objects.find? other =
    if surface.cache = some other then none
    else if other = handle then (start.objects.find? other).map fun object =>
      { object with payload := .surface { surface with cache := none } }
    else start.objects.find? other

/-! ### How it ends -/

/-- Storing pixels fails only where they cannot be encoded. -/
theorem endsWith_storePixels (start : Session) (surface : Surface) (raster : Raster) :
    EndsWith (Engine.storePixels surface raster) start
      (fun _ final => ∃ data, Conversion.encoded start.memory raster surface.buffer = .ok data ∧
        start.memory.holds surface.memory data.length = true ∧
        final = { start with memory := start.memory.put surface.memory data })
      (fun cause final => final = start ∧ ∃ error,
        Conversion.encoded start.memory raster surface.buffer = .error error ∧
          cause = .pixel error) := by
  refine .read ?_
  cases encoded : Conversion.encoded start.memory raster surface.buffer with
  | error error => exact ⟨rfl, error, rfl, rfl⟩
  | ok data =>
    obtain ⟨format, length, -, -, -, -, -, backed, is⟩ := Conversion.encoded_eq_ok_iff.mp encoded
    have sized : data.length = length := by rw [is, List.length_map, List.length_range]
    show EndsWith (Engine.write surface.memory data) start _ _
    exact (ends_write_backed (sized ▸ backed)).whatever.weaken
      fun _ _ same => ⟨data, rfl, sized ▸ backed, same⟩

section Settling

variable (linked : Linked start.objects) (live : start.objects.surface? handle = some surface)

include linked live

/-- Writing a cache back fails only where it cannot be stored, and then it changes nothing. -/
theorem endsWith_writeBack : EndsWith (Engine.writeBack handle) start
    (fun _ middle => WrittenBack start handle surface middle)
    (fun cause final => final = start ∧ start.Balks handle cause) := by
  unfold Engine.writeBack
  refine (ends_surfaceAt_live live).whatever.bind ?_
  rintro surface start ⟨rfl, rfl⟩
  cases has : surface.cache with
  | none =>
    exact ⟨rfl, .nothing (Session.drawn?_of_bare live has), linked, live, fun _ _ => rfl⟩
  | some cache =>
    obtain ⟨-, -, cached, content, -⟩ := linked.cache live has
    have drawn := Session.drawn?_of_cache live has content
    refine (ends_cachedAt_live content).whatever.bind ?_
    rintro cached start ⟨rfl, rfl⟩
    by_cases dirty : cached.dirty = true
    · rw [if_pos dirty] at drawn ⊢
      refine (endsWith_storePixels start surface cached.raster).andThen ?_ ?_
      · rintro cause _ ⟨rfl, error, refused, rfl⟩
        exact ⟨rfl, _, _, error, drawn, refused, rfl⟩
      · rintro _ _ ⟨data, encoded, backed, rfl⟩
        refine ⟨rfl, .pixels drawn encoded backed,
          linked.settling (.written live has content dirty encoded backed), ?_, ?_⟩
        · exact (congrFun (ObjectTable.surface?_setCached content _) handle).trans live
        · intro other apart
          exact ObjectTable.find?_setPayload_of_ne fun same => apart (same ▸ has)
    · rw [if_neg dirty] at drawn ⊢
      exact ⟨rfl, .nothing drawn, linked, live, fun _ _ => rfl⟩

/-- Settling a surface fails only where its cache cannot be stored, and then it changes nothing. -/
theorem endsWith_settle : EndsWith (Engine.settle handle) start
    (fun _ final => Settled start handle surface final)
    (fun cause final => final = start ∧ start.Balks handle cause) := by
  refine (endsWith_writeBack linked live).bind ?_
  rintro _ middle ⟨only, stored, linked, still, others⟩
  refine (ends_dropCache_live linked still).whatever.weaken ?_
  rintro _ final (⟨bare, rfl⟩ | ⟨cache, has, rfl⟩)
  · refine ⟨only, stored, fun other => ?_⟩
    have apart : surface.cache ≠ some other := fun has => nomatch bare.symm.trans has
    rw [if_neg apart, others other apart]
    split
    · next own =>
      obtain ⟨object, found, shape⟩ :=
        Option.map_eq_some_iff.mp (ObjectTable.surface?_eq_some_iff.mp live)
      have same : ({ surface with cache := none } : Surface) = surface := by rw [← bare]
      rw [own, found, Option.map_some, same, ← shape]
    · rfl
  · obtain ⟨object, -, gone, -, dropped⟩ :=
      linked.eq_remove_of_dropCache (ObjectTable.surface?_eq_some_iff.mp still) has rfl
    obtain ⟨memory, objects, rfl⟩ : ∃ memory objects,
        middle = { start with memory := memory, objects := objects } := ⟨_, _, only⟩
    refine ⟨rfl, stored, fun other => ?_⟩
    rw [dropped, ObjectTable.find?_remove, gone, ObjectTable.find?_setPayload, has]
    by_cases own : other = cache
    · rw [if_pos own, if_pos (own ▸ rfl)]
    · have apart : some cache ≠ some other := fun same => own (Option.some.inj same).symm
      rw [if_neg own, if_neg apart, others other (has ▸ apart)]

/-- A surface that is settled is there without its cache. -/
theorem Settled.surface? (settled : Settled start handle surface final) :
    final.objects.surface? handle = some { surface with cache := none } := by
  have apart : surface.cache ≠ some handle := fun has => (linked.cache live has).1 rfl
  obtain ⟨object, found, -⟩ := Option.map_eq_some_iff.mp (ObjectTable.surface?_eq_some_iff.mp live)
  rw [ObjectTable.surface?_eq_some_iff, ObjectTable.payload?, settled.found, if_neg apart, if_pos rfl,
    found]
  rfl

end Settling

end GuestDraw
