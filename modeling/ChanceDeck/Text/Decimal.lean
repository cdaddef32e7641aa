import ChanceDeck.Text.Basic

/-!
# Whole numbers as text

Writing is plain: a minus sign for negative numbers, then the digits without leading zeros.
Reading takes an optional sign, at least one digit, any number of leading zeros and nothing else,
and refuses a value outside its range. `Decimal.naturalIn` tells the three ways in which reading
fails apart: nothing to read, a character that is no digit, and a value that is too large. The
first of these met from left to right counts.
-/

set_option autoImplicit false
set_option relaxedAutoImplicit false

namespace ChanceDeck

namespace Decimal

/-- Why a text is no number of a range. -/
inductive Fault where
  | empty
  | invalidDigit
  | tooLarge
  deriving DecidableEq, Repr

/-- The wording of a fault. -/
def Fault.message : Fault → Text
  | .empty => "cannot parse integer from empty string".toList
  | .invalidDigit => "invalid digit found in string".toList
  | .tooLarge => "number too large to fit in target type".toList

/-- The digits of a natural number. -/
def natural (n : Nat) : Text :=
  Nat.toDigits 10 n

/-- An integer with a minus sign if it is negative. -/
def integer (n : Int) : Text :=
  if n < 0 then '-' :: natural n.natAbs else natural n.natAbs

/-- The value of a digit in a base of at most sixteen. -/
def digit? (base : Nat) (c : Char) : Option Nat :=
  let value :=
    if '0' ≤ c ∧ c ≤ '9' then some (c.toNat - '0'.toNat)
    else if 'a' ≤ c ∧ c ≤ 'f' then some (c.toNat - 'a'.toNat + 10)
    else if 'A' ≤ c ∧ c ≤ 'F' then some (c.toNat - 'A'.toNat + 10)
    else none
  value.filter (· < base)

/-- Reads digits onto a value already read, as long as the limit is kept. -/
def readDigits (base limit value : Nat) : Text → Except Fault Nat
  | [] => .ok value
  | c :: rest =>
    match digit? base c with
    | none => .error .invalidDigit
    | some d =>
      if limit < value * base + d then .error .tooLarge
      else readDigits base limit (value * base + d) rest

/-- Reads an unsigned number; a plus sign may stand before its digits. -/
def naturalIn (base limit : Nat) : Text → Except Fault Nat
  | [] => .error .empty
  | ['+'] => .error .invalidDigit
  | '+' :: digits => readDigits base limit 0 digits
  | digits => readDigits base limit 0 digits

/-- The decimal number of at most a given size that a text spells. -/
def natural? (limit : Nat) (text : Text) : Option Nat :=
  (naturalIn 10 limit text).toOption

/-- Reads one or more digits and no sign. -/
def magnitude? (base limit : Nat) (digits : Text) : Option Nat :=
  if digits = [] then none else (readDigits base limit 0 digits).toOption

/-- The integer of 64 bits that a text spells, with an optional sign. -/
def integer? : Text → Option Int64
  | '-' :: digits => (magnitude? 10 0x8000000000000000 digits).map fun n ↦ Int64.ofInt (-(n : Int))
  | '+' :: digits => (magnitude? 10 0x7FFFFFFFFFFFFFFF digits).map fun n ↦ Int64.ofInt n
  | digits => (magnitude? 10 0x7FFFFFFFFFFFFFFF digits).map fun n ↦ Int64.ofInt n

end Decimal

end ChanceDeck
