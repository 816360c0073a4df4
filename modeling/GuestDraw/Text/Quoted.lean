/-
**Quoted names.**

An object's name stands in messages between double quotes, on one line: the quote, the backslash
and the common control characters take a backslash, every other character without a printed form is
written as its number.
-/

import GuestDraw.Text.Hex
import GuestDraw.Text.Unprintable

namespace GuestDraw.Quoted

/-- The written form of one character between double quotes. -/
def encode (char : Char) : List Char :=
  if char = '"' then ['\\', '"']
  else if char = '\\' then ['\\', '\\']
  else if char = '\n' then ['\\', 'n']
  else if char = '\r' then ['\\', 'r']
  else if char = '\t' then ['\\', 't']
  else if char.toNat = 0 then ['\\', '0']
  else if Unprintable.isUnprintable char then
    ['\\', 'u', '\x7b'] ++ Hex.digits char.toNat ++ ['\x7d']
  else [char]

/-- `text` between double quotes. -/
def quote (text : String) : String :=
  String.ofList (['"'] ++ text.toList.flatMap encode ++ ['"'])

end GuestDraw.Quoted
