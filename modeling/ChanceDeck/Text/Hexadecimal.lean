import ChanceDeck.Text.Utf8

/-!
# Hexadecimal text

Bytes as pairs of lower-case digits, and natural numbers in either case.
-/

set_option autoImplicit false
set_option relaxedAutoImplicit false

namespace ChanceDeck.Hexadecimal

/-- The digits of a natural number, letters in lower case. -/
def lower (n : Nat) : Text :=
  Nat.toDigits 16 n

/-- The digits of a natural number, letters in upper case. -/
def upper (n : Nat) : Text :=
  (Nat.toDigits 16 n).map Char.toUpper

/-- Digits with zeros before them up to a given width. -/
def padded (width : Nat) (digits : Text) : Text :=
  List.replicate (width - digits.length) '0' ++ digits

/-- Two lower-case digits for each byte. -/
def ofBytes (bytes : Bytes) : Text :=
  bytes.flatMap fun b ↦ padded 2 (lower b.toNat)

end ChanceDeck.Hexadecimal
