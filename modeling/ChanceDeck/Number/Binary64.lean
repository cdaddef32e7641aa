import ChanceDeck.Text.Basic

/-!
# Binary numbers of 64 bits

A finite number is a sign and a mantissa times a power of two. The mantissa has at most 53 bits,
and all 53 unless the exponent is the lowest, so that each number but zero has one form.
`Binary64.ofDecimal?` gives the number nearest to a decimal; of two equally near it takes the one
with the even mantissa.
-/

set_option autoImplicit false
set_option relaxedAutoImplicit false

namespace ChanceDeck

/-- A finite number: `mantissa * 2 ^ exponent`, negative or not. -/
structure Binary64 where
  negative : Bool
  mantissa : Nat
  exponent : Int
  deriving DecidableEq, Repr

namespace Binary64

/-- The least natural number of more than 53 bits. -/
def limit : Nat := 0x20000000000000

/-- The lowest exponent. -/
def minExponent : Int := -1074

/-- The highest exponent. -/
def maxExponent : Int := 971

/-- Zero, which keeps its sign. -/
def zero (negative : Bool) : Binary64 :=
  ⟨negative, 0, minExponent⟩

/-- The natural number nearest to a quotient, a half going to the even neighbour. -/
def roundedQuotient (numerator denominator : Nat) : Nat :=
  let quotient := numerator / denominator
  let remainder := numerator % denominator
  if 2 * remainder < denominator then quotient
  else if denominator < 2 * remainder then quotient + 1
  else quotient + quotient % 2

/-- A quotient divided by a power of two and rounded. -/
def scaledQuotient (numerator denominator : Nat) (exponent : Int) : Nat :=
  roundedQuotient (numerator * Nat.pow 2 (-exponent).toNat)
    (denominator * Nat.pow 2 exponent.toNat)

/-- The number nearest to a quotient that is not zero; none if it is too large. -/
def ofQuotient? (negative : Bool) (numerator denominator : Nat) : Option Binary64 :=
  let low : Int := (numerator.log2 : Int) - denominator.log2 - 53
  let exponent := max minExponent
    (if numerator * Nat.pow 2 (-low).toNat < limit * denominator * Nat.pow 2 low.toNat then low
    else low + 1)
  let mantissa := scaledQuotient numerator denominator exponent
  let number : Binary64 :=
    if mantissa = limit then ⟨negative, limit / 2, exponent + 1⟩
    else ⟨negative, mantissa, exponent⟩
  if maxExponent < number.exponent then none else some number

/-- The number nearest to `digits * 10 ^ scale`; none if it is too large. -/
def ofDecimal? (negative : Bool) (digits : Nat) (scale : Int) : Option Binary64 :=
  let magnitude : Int := (Nat.toDigits 10 digits).length + scale
  if digits = 0 ∨ magnitude < -330 then some (zero negative)
  else if 310 < magnitude then none
  else ofQuotient? negative (digits * Nat.pow 10 scale.toNat) (Nat.pow 10 (-scale).toNat)

/-- Equality of values: the two zeros are equal. -/
def sameValue (a b : Binary64) : Bool :=
  a = b || (a.mantissa = 0 && b.mantissa = 0)

end Binary64

end ChanceDeck
