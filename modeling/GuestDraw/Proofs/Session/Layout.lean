/-
**Where pixels lie.**

The pixels of a surface are a block of the heap, or they are the picture in the frame buffer. The
blocks of the heap do not overlap, and the aperture with the frame buffer is another range of the
address space. So what is written to the block of a palette, or while a new object is made, changes
no pixel.

* `Laid`: the layout of a session;
* `Laid.not_covers_block`, `Laid.sameOn`: blocks of palettes and new blocks have no pixel of a live
  surface;
* `Laid.congr`, `Laid.grow`: the layout while surfaces stay or go, and while new ones come.
-/

import GuestDraw.Proofs.Session.Portraits
import GuestDraw.Proofs.Session.Creating

namespace GuestDraw

/-- The end of the scanlines of a buffer. -/
def PixelBuffer.stop (buffer : PixelBuffer) : Nat := buffer.address + buffer.stride * buffer.height

/-- The pixels are a block of the heap, apart from the blocks of all palettes. -/
structure InHeap (session : Session) (buffer : PixelBuffer) : Prop where
  above : session.heap.base ≤ buffer.address
  below : buffer.stop ≤ session.heap.next
  apart : ∀ handle palette, session.objects.palette? handle = some palette →
    palette.object + Palette.blockSize ≤ buffer.address ∨ buffer.stop ≤ palette.object

/-- The pixels are the picture in the frame buffer. -/
structure InFrame (session : Session) (buffer : PixelBuffer) : Prop where
  address : session.frameBuffer = some buffer.address
  width : buffer.width = session.mode.width
  height : buffer.height = session.mode.height
  depth : buffer.depth = session.mode.depth

theorem InFrame.grow {start final : Session} {buffer : PixelBuffer} (shown : InFrame start buffer)
    (groundwork : Groundwork start final) : InFrame final buffer where
  address := groundwork.frameBuffer shown.address
  width := groundwork.mode ▸ shown.width
  height := groundwork.mode ▸ shown.height
  depth := groundwork.mode ▸ shown.depth

/-- The pixels that are the picture have its size. -/
theorem InFrame.size_eq {session : Session} {buffer : PixelBuffer} (shown : InFrame session buffer)
    {size : Nat} (sized : session.mode.frameSize? = some size) : size = buffer.stride * buffer.height := by
  unfold DisplayMode.frameSize? at sized
  split at sized
  · cases sized
    rw [PixelBuffer.stride, shown.width, shown.height, shown.depth, DisplayMode.pitch]
  · cases sized

/-- A surface that is planned for the frame buffer has its pixels there. -/
theorem Built.inFrame {start final : Session} {plan : SurfacePlan} {backBuffer : Option Handle}
    {handle : Handle} {surface : Surface} (built : Built start plan backBuffer handle surface final)
    (shows : plan.Shows start.mode) (backing : plan.backing = .frameBuffer) :
    InFrame final surface.buffer := by
  have pixels := built.pixels
  rw [SurfacePlan.PixelsAt, backing] at pixels
  obtain ⟨width, height, depth, -⟩ := built.sizes
  obtain ⟨sameWidth, sameHeight, sameDepth⟩ := shows backing
  rw [← built.groundwork.mode] at sameWidth sameHeight sameDepth
  exact ⟨pixels, width.trans sameWidth, height.trans sameHeight, depth.trans sameDepth⟩

/-- Heap and aperture are apart, and palettes and pixels lie in what was handed out of them. -/
structure Laid (session : Session) : Prop where
  heapAbove : session.heap.base ≤ session.heap.next
  heapBelow : session.heap.next ≤ session.heap.limit
  videoAbove : session.video.base ≤ session.video.next
  ranges : session.heap.limit ≤ session.video.base ∨ session.video.limit ≤ session.heap.base
  frame : ∀ address, session.frameBuffer = some address → ∃ size, session.mode.frameSize? = some size ∧
    session.video.base ≤ address ∧ address + size ≤ session.video.limit
  blocks : ∀ handle palette, session.objects.palette? handle = some palette →
    session.heap.base ≤ palette.object ∧
      palette.object + Palette.blockSize ≤ session.heap.next ∧ palette.entries.size ≤ Palette.slots
  pixels : ∀ handle portrait, session.objects.portrait? handle = some portrait →
    InHeap session portrait.buffer ∨ InFrame session portrait.buffer

namespace Laid

variable {start final session : Session}

/-- The picture lies in the aperture. -/
theorem frame_covers (laid : Laid session) {buffer : PixelBuffer} (shown : InFrame session buffer)
    {point : Nat} (inside : buffer.Covers point) :
    session.video.base ≤ point ∧ point < session.video.limit := by
  obtain ⟨size, sized, above, below⟩ := laid.frame _ shown.address
  rw [shown.size_eq sized] at below
  exact ⟨above.trans inside.1, by
    unfold PixelBuffer.Covers at inside
    omega⟩

/-- No pixel lies in the block of a palette. -/
theorem not_covers_block (laid : Laid session) {handle other : Handle} {palette : Palette}
    {portrait : Portrait} (live : session.objects.palette? handle = some palette)
    (there : session.objects.portrait? other = some portrait) {point : Nat}
    (above : palette.object ≤ point) (below : point < palette.object + Palette.blockSize) :
    ¬ portrait.buffer.Covers point := by
  intro inside
  obtain ⟨low, high, -⟩ := laid.blocks handle palette live
  have within := laid.heapBelow
  rcases laid.pixels other portrait there with heap | frame
  · have apart := heap.apart handle palette live
    unfold PixelBuffer.stop at apart
    unfold PixelBuffer.Covers at inside
    omega
  · have video := laid.frame_covers frame inside
    have ranges := laid.ranges
    omega

/-- No pixel lies where the heap is still free. -/
theorem not_covers_free (laid : Laid session) {handle : Handle} {portrait : Portrait}
    (there : session.objects.portrait? handle = some portrait) {point : Nat}
    (above : session.heap.next ≤ point) (below : point < session.heap.limit) :
    ¬ portrait.buffer.Covers point := by
  intro inside
  have low := laid.heapAbove
  rcases laid.pixels handle portrait there with heap | frame
  · have stop := heap.below
    unfold PixelBuffer.stop at stop
    unfold PixelBuffer.Covers at inside
    omega
  · have video := laid.frame_covers frame inside
    have ranges := laid.ranges
    omega

/-- No pixel of a live surface is written before a new object is there. -/
theorem sameOn (laid : Laid start) (groundwork : Groundwork start final) {handle : Handle}
    {portrait : Portrait} (there : start.objects.portrait? handle = some portrait) :
    start.memory.SameOn final.memory portrait.buffer := by
  refine ⟨groundwork.memoryBase, groundwork.memorySize, fun point inside => ?_⟩
  rcases groundwork.bytes point with same | ⟨above, below⟩ | ⟨unmapped, above, below⟩
  · exact same
  · have within := groundwork.heapWithin laid.heapBelow
    exact absurd inside (laid.not_covers_free there above (by omega))
  · have low := laid.videoAbove
    rcases laid.pixels handle portrait there with heap | frame
    · have starts := heap.above
      have stop := heap.below
      have ranges := laid.ranges
      have within := laid.heapBelow
      unfold PixelBuffer.stop at stop
      unfold PixelBuffer.Covers at inside
      omega
    · rw [frame.address] at unmapped
      cases unmapped

/-! ### While objects stay or go -/

/-- Nothing is mapped or cut off, and the palettes and pixels that there are were there before. -/
theorem congr (laid : Laid start) (heap : final.heap = start.heap) (video : final.video = start.video)
    (mode : final.mode = start.mode) (frame : final.frameBuffer = start.frameBuffer)
    (palettes : ∀ handle palette, final.objects.palette? handle = some palette →
      ∃ before, start.objects.palette? handle = some before ∧ palette.object = before.object ∧
        palette.entries.size = before.entries.size)
    (stays : start.objects.Stays final.objects) : Laid final := by
  refine ⟨?_, ?_, ?_, ?_, ?_, fun handle palette live => ?_, fun handle portrait there => ?_⟩
  · rw [heap]
    exact laid.heapAbove
  · rw [heap]
    exact laid.heapBelow
  · rw [video]
    exact laid.videoAbove
  · rw [heap, video]
    exact laid.ranges
  · rw [frame, mode, video]
    exact laid.frame
  · obtain ⟨before, was, object, size⟩ := palettes handle palette live
    rw [heap, object, size]
    exact laid.blocks handle before was
  · obtain ⟨before, was, buffer⟩ := stays handle portrait there
    rw [buffer]
    refine (laid.pixels handle before was).imp (fun inHeap => ⟨?_, ?_, fun own palette live => ?_⟩)
      fun inFrame => ⟨?_, ?_, ?_, ?_⟩
    · rw [heap]
      exact inHeap.above
    · rw [heap]
      exact inHeap.below
    · obtain ⟨old, lives, object, -⟩ := palettes own palette live
      rw [object]
      exact inHeap.apart own old lives
    · rw [frame]
      exact inFrame.address
    · rw [mode]
      exact inFrame.width
    · rw [mode]
      exact inFrame.height
    · rw [mode]
      exact inFrame.depth

/-! ### While objects come -/

/-- Pixels on the heap stay where they are. -/
theorem inHeap_grow (groundwork : Groundwork start final) {buffer : PixelBuffer}
    (inHeap : InHeap start buffer)
    (palettes : ∀ handle palette, final.objects.palette? handle = some palette →
      start.objects.palette? handle = some palette ∨ start.heap.next ≤ palette.object) :
    InHeap final buffer := by
  refine ⟨?_, inHeap.below.trans groundwork.heapNext, fun handle palette live => ?_⟩
  · rw [groundwork.heapBase]
    exact inHeap.above
  · rcases palettes handle palette live with old | above
    · exact inHeap.apart handle palette old
    · exact .inr (inHeap.below.trans above)

/-- New pixels on the heap. -/
theorem inHeap_cutOff (laid : Laid start) (groundwork : Groundwork start final) {buffer : PixelBuffer}
    (block : CutOff start final buffer.address (buffer.stride * buffer.height))
    (same : final.objects.palette? = start.objects.palette?) : InHeap final buffer := by
  have heapBase := groundwork.heapBase
  have heapAbove := laid.heapAbove
  have above := block.above
  refine ⟨by omega, block.below, fun handle palette live => .inl ?_⟩
  rw [same] at live
  obtain ⟨-, high, -⟩ := laid.blocks handle palette live
  omega

/-- New palettes are new blocks, new pixels are new blocks or the picture. -/
theorem grow (laid : Laid start) (groundwork : Groundwork start final)
    (palettes : ∀ handle palette, final.objects.palette? handle = some palette →
      start.objects.palette? handle = some palette ∨
        CutOff start final palette.object Palette.blockSize ∧ palette.entries.size ≤ Palette.slots)
    (portraits : ∀ handle portrait, final.objects.portrait? handle = some portrait →
      (∃ before, start.objects.portrait? handle = some before ∧ portrait.buffer = before.buffer) ∨
        InHeap final portrait.buffer ∨ InFrame final portrait.buffer) :
    Laid final := by
  have heapNext := groundwork.heapNext
  have heapBase := groundwork.heapBase
  have heapAbove := laid.heapAbove
  refine ⟨?_, ?_, ?_, ?_, fun address mapped => ?_, fun handle palette live => ?_,
    fun handle portrait there => ?_⟩
  · omega
  · rw [groundwork.heapLimit]
    exact groundwork.heapWithin laid.heapBelow
  · rw [groundwork.videoBase]
    exact laid.videoAbove.trans groundwork.videoNext
  · rw [groundwork.heapLimit, groundwork.heapBase, groundwork.videoLimit, groundwork.videoBase]
    exact laid.ranges
  · rw [groundwork.mode, groundwork.videoBase, groundwork.videoLimit]
    rcases groundwork.frame with same | ⟨-, other, size, taken, sized, above, below, -⟩
    · exact laid.frame address (same ▸ mapped)
    · cases taken.symm.trans mapped
      exact ⟨size, sized, laid.videoAbove.trans above, below⟩
  · rcases palettes handle palette live with old | ⟨block, size⟩
    · obtain ⟨low, high, size⟩ := laid.blocks handle palette old
      exact ⟨by omega, by omega, size⟩
    · have above := block.above
      exact ⟨by omega, block.below, size⟩
  · rcases portraits handle portrait there with ⟨before, was, buffer⟩ | new
    · rw [buffer]
      refine (laid.pixels handle before was).imp (fun inHeap => ?_) (InFrame.grow · groundwork)
      exact inHeap_grow groundwork inHeap fun own palette live =>
        (palettes own palette live).imp_right fun new => new.1.above
    · exact new

end Laid

end GuestDraw
