import ChanceDeck.Number.Binary64
import ChanceDeck.Text.Decimal

/-!
# Shortest decimals

The text of a binary number is the decimal with the fewest digits that is nearer to it than to any
other number; of several with so few digits it is the nearest. The decimal is written with a
point and at least one digit on each side of it if its exponent is small, and otherwise with one
digit before the point and a signed exponent after an `e`.
-/

set_option autoImplicit false
set_option relaxedAutoImplicit false

namespace ChanceDeck

/-- The number `digits * 10 ^ exponent`. -/
structure ShortDecimal where
  digits : Nat
  exponent : Int
  deriving DecidableEq, Repr

namespace Binary64

/-- Whether `a * 2 ^ exponent` is below `b * 10 ^ scale`. -/
def isBelow (a : Nat) (exponent : Int) (b : Nat) (scale : Int) : Bool :=
  a * Nat.pow 2 exponent.toNat * Nat.pow 10 (-scale).toNat <
    b * Nat.pow 10 scale.toNat * Nat.pow 2 (-exponent).toNat

/-- Whether `b * 10 ^ scale` is below `a * 2 ^ exponent`. -/
def isAbove (a : Nat) (exponent : Int) (b : Nat) (scale : Int) : Bool :=
  b * Nat.pow 10 scale.toNat * Nat.pow 2 (-exponent).toNat <
    a * Nat.pow 2 exponent.toNat * Nat.pow 10 (-scale).toNat

/-- Whether `digits * 10 ^ scale` rounds to the absolute value of a number. The gap below a power
of two is half as wide as the gap above it, and a bound counts if the mantissa is even. -/
def roundsTo (number : Binary64) (digits : Nat) (scale : Int) : Bool :=
  let low :=
    if number.mantissa = limit / 2 ∧ minExponent < number.exponent then 4 * number.mantissa - 1
    else 4 * number.mantissa - 2
  let high := 4 * number.mantissa + 2
  let exponent := number.exponent - 2
  if number.mantissa % 2 = 0 then
    !isAbove low exponent digits scale && !isBelow high exponent digits scale
  else isBelow low exponent digits scale && isAbove high exponent digits scale

/-- The least exponent of ten above the absolute value of a number that is not zero. -/
def magnitude (number : Binary64) : Int :=
  let low := ((number.mantissa.log2 : Int) + number.exponent) * 30103 / 100000
  if isBelow number.mantissa number.exponent 1 low then low
  else if isBelow number.mantissa number.exponent 1 (low + 1) then low + 1
  else low + 2

/-- The absolute value of a number in units of a power of ten, rounded down. -/
def floorAt (number : Binary64) (scale : Int) : Nat :=
  number.mantissa * Nat.pow 2 number.exponent.toNat * Nat.pow 10 (-scale).toNat /
    (Nat.pow 10 scale.toNat * Nat.pow 2 (-number.exponent).toNat)

/-- The multiple of a power of ten that is nearest to a number and rounds to it. -/
def nearestAt? (number : Binary64) (scale : Int) : Option ShortDecimal :=
  let down := floorAt number scale
  match roundsTo number down scale, roundsTo number (down + 1) scale with
  | false, false => none
  | true, false => some ⟨down, scale⟩
  | false, true => some ⟨down + 1, scale⟩
  | true, true =>
    if isBelow (2 * number.mantissa) number.exponent (2 * down + 1) scale then some ⟨down, scale⟩
    else if isAbove (2 * number.mantissa) number.exponent (2 * down + 1) scale then
      some ⟨down + 1, scale⟩
    else some ⟨down + down % 2, scale⟩

/-- The shortest decimal with at most `fuel` digits more than those already tried. -/
def shortestFrom (number : Binary64) (scale : Int) : Nat → ShortDecimal
  | 0 => ⟨floorAt number scale, scale⟩
  | fuel + 1 => (nearestAt? number scale).getD (shortestFrom number (scale - 1) fuel)

/-- The digits of a number without the zeros at their end. -/
def significant (digits : Nat) : Text :=
  ((Decimal.natural digits).reverse.dropWhile (· = '0')).reverse

/-- A decimal with significant digits whose point stands after the `point`-th of them. -/
def layout (digits : Text) (point : Int) : Text :=
  let count : Int := digits.length
  if count ≤ point ∧ point ≤ 16 then
    digits ++ List.replicate (point - count).toNat '0' ++ ".0".toList
  else if 0 < point ∧ point ≤ 16 then
    digits.take point.toNat ++ '.' :: digits.drop point.toNat
  else if -5 < point ∧ point ≤ 0 then
    "0.".toList ++ List.replicate (-point).toNat '0' ++ digits
  else
    let exponent := point - 1
    let sign : Text := if exponent < 0 then [] else ['+']
    let fraction : Text := if digits.length = 1 then [] else '.' :: digits.drop 1
    digits.take 1 ++ fraction ++ 'e' :: sign ++ Decimal.integer exponent

/-- The text of a number. -/
def text (number : Binary64) : Text :=
  let sign : Text := if number.negative then ['-'] else []
  if number.mantissa = 0 then sign ++ "0.0".toList
  else
    let short := shortestFrom number (magnitude number - 1) 17
    let digits := Decimal.natural short.digits
    sign ++ layout (significant short.digits) (digits.length + short.exponent)

end Binary64

end ChanceDeck
