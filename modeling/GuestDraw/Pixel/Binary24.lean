/-
**Binary numbers of 24 digits.**

Numbers with a mantissa of 24 binary digits, as the sampling of images computes with them. Every
result is rounded to the nearest such number, halves to the even one.
-/

namespace GuestDraw

/-- The number `mantissa * 2 ^ exponent`. -/
structure Binary24 where
  mantissa : Nat
  exponent : Int

namespace Binary24

/-- The natural number nearest to a quotient, a half to the even one. -/
def nearest (numerator denominator : Nat) : Nat :=
  let quotient := numerator / denominator
  let rest := numerator % denominator
  if 2 * rest > denominator ∨ (2 * rest = denominator ∧ quotient % 2 = 1) then quotient + 1
  else quotient

/-- `number * 2 ^ power`, as far as `power` is positive. -/
def scale (number : Nat) (power : Int) : Nat := number <<< power.toNat

/-- The exponent that gives a positive quotient a mantissa of 24 digits. -/
def exponentFor (numerator denominator : Nat) : Int :=
  let digits : Int := (numerator.log2 : Int) - denominator.log2
  if scale denominator digits ≤ scale numerator (-digits) then digits - 23 else digits - 24

/-- The number nearest to a positive quotient. -/
def ofQuotient (numerator denominator : Nat) : Binary24 :=
  let exponent := exponentFor numerator denominator
  ⟨nearest (scale numerator (-exponent)) (scale denominator exponent), exponent⟩

/-- The number nearest to a natural number. -/
def ofNat (number : Nat) : Binary24 := ofQuotient number 1

/-- The number nearest to a quotient of two numbers. -/
def div (first second : Binary24) : Binary24 :=
  let quotient := ofQuotient first.mantissa second.mantissa
  ⟨quotient.mantissa, quotient.exponent + first.exponent - second.exponent⟩

/-- The number nearest to a product. -/
def mul (first second : Binary24) : Binary24 :=
  let product := ofQuotient (first.mantissa * second.mantissa) 1
  ⟨product.mantissa, product.exponent + first.exponent + second.exponent⟩

/-- The greatest natural number that is not above. -/
def floor (number : Binary24) : Nat :=
  scale number.mantissa number.exponent / scale 1 (-number.exponent)

end Binary24

end GuestDraw
