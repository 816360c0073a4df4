/-
**Rectangles.**

A rectangle has signed edges; the right and the bottom one are exclusive. Sizes and shifts stop at
the ends of the signed range instead of wrapping (`saturate`). In guest memory a rectangle is four
dwords: left, top, right, bottom.

* `covers` is the view: the points of a rectangle, over all integers;
* `toInt_saturate`: saturation is the nearest number of the range.
-/

import GuestDraw.Memory

namespace GuestDraw

/-- The signed number of 32 bits that is nearest to `value`. -/
def saturate (value : Int) : Int32 := Int32.ofInt (max (-0x80000000) (min value 0x7FFFFFFF))

theorem toInt_saturate (value : Int) :
    (saturate value).toInt = max (-0x80000000) (min value 0x7FFFFFFF) :=
  Int32.toInt_ofInt_of_le (by omega) (by omega)

/-- The points from `left` and `top` on, up to but without `right` and `bottom`. -/
structure Rect where
  left : Int32
  top : Int32
  right : Int32
  bottom : Int32
  deriving DecidableEq

namespace Rect

/-- The bytes that a rectangle takes in guest memory. -/
def size : Nat := 16

/-- The rectangle of an image of this size. -/
def ofSize (width height : Nat) : Rect := ⟨0, 0, saturate width, saturate height⟩

def width (rect : Rect) : Int32 := saturate (rect.right.toInt - rect.left.toInt)

def height (rect : Rect) : Int32 := saturate (rect.bottom.toInt - rect.top.toInt)

/-- No point lies in the rectangle. -/
def isEmpty (rect : Rect) : Bool := rect.width ≤ 0 || rect.height ≤ 0

/-- The point lies in the rectangle. -/
def covers (rect : Rect) (x y : Int) : Bool :=
  rect.left.toInt ≤ x && x < rect.right.toInt && rect.top.toInt ≤ y && y < rect.bottom.toInt

/-- The rectangle moved by `dx` and `dy`. -/
def offset (rect : Rect) (dx dy : Int32) : Rect where
  left := saturate (rect.left.toInt + dx.toInt)
  top := saturate (rect.top.toInt + dy.toInt)
  right := saturate (rect.right.toInt + dx.toInt)
  bottom := saturate (rect.bottom.toInt + dy.toInt)

/-- The points that lie in both rectangles, unless there are none. -/
def intersect (first second : Rect) : Option Rect :=
  let overlap : Rect :=
    ⟨max first.left second.left, max first.top second.top,
      min first.right second.right, min first.bottom second.bottom⟩
  if overlap.isEmpty then none else some overlap

/-! ### In guest memory -/

/-- The stored form of a rectangle. -/
def bytes (rect : Rect) : List UInt8 :=
  [rect.left, rect.top, rect.right, rect.bottom].flatMap fun edge =>
    LittleEndian.ofDword edge.toUInt32

/-- The edge stored as dword number `index` of a record. -/
def edge (record : List UInt8) (index : Nat) : Int32 :=
  (LittleEndian.dword ((record.drop (4 * index)).take 4)).toInt32

/-- The rectangle stored at `address`. -/
def read (memory : Memory) (address : Nat) : Except MemoryError Rect := do
  let record ← memory.read address size
  return ⟨edge record 0, edge record 1, edge record 2, edge record 3⟩

/-- Stores the rectangle at `address`. -/
def write (rect : Rect) (memory : Memory) (address : Nat) : Except MemoryError Memory :=
  memory.write address rect.bytes

end Rect

end GuestDraw
