import ChanceDeck.Text.Decimal
import ChanceDeck.Yaml.Value.Basic

/-!
# The meaning of plain scalars

A plain scalar is null, a truth value, an integer, a number with a fraction or an exponent, or
else a text. Integers may be written in base 16, 8 or 2 after `0x`, `0o` or `0b`. Digits after a
leading zero are a text. An integer of more than 64 bits is refused up to 128 bits, and beyond
them is read as a number with an exponent would be.
-/

set_option autoImplicit false
set_option relaxedAutoImplicit false

namespace ChanceDeck.Yaml.Plain

/-- Whether a text spells null. -/
def isNull (text : Text) : Bool :=
  ["null".toList, "Null".toList, "NULL".toList, "~".toList].contains text

/-- The truth value that a text spells. -/
def boolean? (text : Text) : Option Bool :=
  if ["true".toList, "True".toList, "TRUE".toList].contains text then some true
  else if ["false".toList, "False".toList, "FALSE".toList].contains text then some false
  else none

/-- A text without a plus sign at its start. -/
def unsign (text : Text) : Text :=
  (Text.strip? ['+'] text).getD text

/-- Whether a text begins with a sign. -/
def isSigned (text : Text) : Bool :=
  text.head? = some '+' || text.head? = some '-'

/-- Whether a text, a sign apart, is a zero followed by digits. -/
def isPaddedNumber (text : Text) : Bool :=
  let digits := if isSigned text then text.drop 1 else text
  digits.head? = some '0' && 1 < digits.length && digits.all Char.isDigit

/-- The bases that are written with a mark, by the letter of the mark. -/
def bases : List (Char × Nat) :=
  [('x', 16), ('o', 8), ('b', 2)]

/-- The base and the digits of a number with a mark. -/
def marked? : Text → Option (Nat × Text)
  | '0' :: letter :: digits =>
    (bases.find? (·.1 = letter)).map fun entry ↦ (entry.2, digits)
  | _ => none

/-- The natural number of at most a given size that a text spells. -/
def natural? (limit : Nat) (text : Text) : Option Nat :=
  let number := unsign text
  let inBase := (marked? number).bind fun (base, digits) ↦ Decimal.magnitude? base limit digits
  inBase.or
    (if isPaddedNumber text then none else Decimal.magnitude? 10 limit number)

/-- The integer not above zero, of at most a given size, that a text with a minus sign spells. -/
def negative? (limit : Nat) (text : Text) : Option Int :=
  match text with
  | '-' :: number =>
    let inBase := (marked? number).bind fun (base, digits) ↦ Decimal.magnitude? base limit digits
    (inBase.or (if isPaddedNumber text then none else Decimal.magnitude? 10 limit number)).map
      fun n ↦ -(n : Int)
  | _ => none

/-- The integer that a text spells with so many bits: one less for what is below zero. -/
def integerOf? (bits : Nat) (text : Text) : Option Int :=
  ((natural? (Nat.pow 2 bits - 1) text).map fun n ↦ (n : Int)).or
    (negative? (Nat.pow 2 (bits - 1)) text)

/-- A number with digits, a point and an exponent, taken apart: the digits without the point, and
the exponent of the last. -/
def decimal? (text : Text) : Option (Nat × Int) := do
  let whole := text.takeWhile Char.isDigit
  let rest := text.dropWhile Char.isDigit
  let (fraction, rest) :=
    match rest with
    | '.' :: rest => (rest.takeWhile Char.isDigit, rest.dropWhile Char.isDigit)
    | rest => ([], rest)
  let digits := whole ++ fraction
  if digits = [] then none
  let exponent : Int ←
    match rest with
    | [] => some 0
    | e :: rest =>
      if e ≠ 'e' ∧ e ≠ 'E' then none
      else
        let digits := if isSigned rest then rest.drop 1 else rest
        if digits ≠ [] ∧ digits.all Char.isDigit then
          let size : Int := Nat.ofDigitChars 10 digits 0
          some (if rest.head? = some '-' then -size else size)
        else none
  return (Nat.ofDigitChars 10 digits 0, exponent - fraction.length)

/-- Whether a text, its sign apart, spells infinity. -/
def isInfinity (text : Text) : Bool :=
  [".inf".toList, ".Inf".toList, ".INF".toList].contains text

/-- The number that a text spells with a fraction or an exponent; none if it is too large. -/
def float? (text : Text) : Option FloatValue :=
  let number := unsign text
  if text.head? = some '+' && isSigned number then none
  else if isInfinity number then some (.infinity false)
  else if text.head? = some '-' && isInfinity (text.drop 1) then some (.infinity true)
  else if [".nan".toList, ".NaN".toList, ".NAN".toList].contains text then some .notANumber
  else
    let negative := number.head? = some '-'
    (decimal? (if negative then number.drop 1 else number)).bind fun (digits, scale) ↦
      (Binary64.ofDecimal? negative digits scale).map .finite

/-- The meaning of a plain scalar; none if it is refused. -/
def value? (text : Text) : Option Value :=
  if text = [] ∨ isNull text then some .null
  else
    match boolean? text with
    | some value => some (.boolean value)
    | none =>
      match integerOf? 64 text, integerOf? 128 text with
      | some value, _ => some (.integer value)
      | none, some _ => none
      | none, none =>
        match if isPaddedNumber text then none else float? text with
        | some value => some (.float value)
        | none => some (.text text)

end ChanceDeck.Yaml.Plain
