import ChanceDeck.Text.Blank
import ChanceDeck.Text.Decimal

/-!
# Addresses

A load address is a number of sixteen bits, in decimal or, after `0x`, in hexadecimal digits.
-/

set_option autoImplicit false
set_option relaxedAutoImplicit false

namespace ChanceDeck

/-- A text that is no address, without the blanks around it. -/
structure AddressError where
  text : Text
  fault : Decimal.Fault
  deriving DecidableEq, Repr

/-- The wording of an address error. -/
def AddressError.message (error : AddressError) : Text :=
  "invalid address '".toList ++ error.text ++ "': ".toList ++ error.fault.message

namespace Address

/-- The address that a text spells, whatever blanks surround it. -/
def ofText (raw : Text) : Except AddressError UInt16 :=
  let text := Text.trim raw
  let number :=
    match (Text.strip? "0x".toList text).or (Text.strip? "0X".toList text) with
    | some digits => Decimal.naturalIn 16 65535 digits
    | none => Decimal.naturalIn 10 65535 text
  match number with
  | .error fault => .error ⟨text, fault⟩
  | .ok n => .ok (UInt16.ofNat n)

end Address

end ChanceDeck
