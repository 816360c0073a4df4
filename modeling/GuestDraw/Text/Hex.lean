/-
**Hexadecimal numbers in messages.**

Messages write numbers in three forms: bare digits after `0x` (`Hex.short`), at least eight
lower-case digits (`Hex.address`), and at least eight upper-case digits (`Hex.status`).
-/

namespace GuestDraw.Hex

/-- The digits of `value` in base sixteen, lower-case, without leading zeros. -/
def digits (value : Nat) : List Char := Nat.toDigits 16 value

/-- The digits with zeros in front up to eight of them. -/
def eight (value : Nat) : List Char :=
  List.replicate (8 - (digits value).length) '0' ++ digits value

/-- A number as `0x2f`. -/
def short (value : Nat) : String := "0x" ++ String.ofList (digits value)

/-- A guest address as `0x0000002f`. -/
def address (value : Nat) : String := "0x" ++ String.ofList (eight value)

/-- A status word as `0x0000002F`. -/
def status (value : Nat) : String := "0x" ++ String.ofList ((eight value).map Char.toUpper)

end GuestDraw.Hex
