import ChanceDeck.Catalog

/-!
# Card records

A record is eight integers: up to four pairs of an instrument's index and a price change, in
order, and zeros after them. The first pair whose index is 0 ends the record; a record of four
pairs is ended by its width. `Record.ofEffects` packs effects and drops those for which there is
no room, `Record.ofValues` takes eight integers that keep the rules of a catalog, and
`Record.decode` names the instruments of a record.
-/

set_option autoImplicit false
set_option relaxedAutoImplicit false

namespace ChanceDeck

/-- A price change of one instrument. -/
structure Effect where
  index : UInt8
  delta : Int64
  deriving DecidableEq, Repr

/-- The integers of one record. -/
def Record.width : Nat := 8

/-- The effects for which a record has room. -/
def Record.capacity : Nat := 4

/-- Eight integers that describe the effects of a card. -/
structure Record where
  values : List Int64
  length_values : values.length = Record.width
  deriving DecidableEq, Repr

/-- A card had more effects than its record can hold. -/
structure Overflow where
  effectCount : Nat
  deriving DecidableEq, Repr

/-- The effects that were left out. -/
def Overflow.dropped (overflow : Overflow) : Nat :=
  overflow.effectCount - Record.capacity

/-- Why integers are no record of a catalog; positions count from zero. -/
inductive RecordError where
  | wrongWidth (length : Nat)
  | unknownIndex (position : Nat) (index : Int64)
  | zeroDelta (position : Nat)
  | trailingValue (position : Nat) (value : Int64)
  deriving DecidableEq, Repr

/-- The wording of a record error. -/
def RecordError.message : RecordError → Text
  | .wrongWidth length =>
    "record has ".toList ++ Decimal.natural length ++ " values, expected 8".toList
  | .unknownIndex position index =>
    "record position ".toList ++ Decimal.natural position ++ ": unknown instrument index ".toList ++
      Decimal.integer index.toInt
  | .zeroDelta position =>
    "record position ".toList ++ Decimal.natural position ++ ": delta must be non-zero".toList
  | .trailingValue position value =>
    "record position ".toList ++ Decimal.natural position ++ ": value ".toList ++
      Decimal.integer value.toInt ++ " follows the terminator".toList

namespace Record

/-- An index as a value of a record. -/
def indexValue (index : UInt8) : Int64 :=
  Int64.ofInt index.toNat

/-- The index that a value of a record stands for, if it fits in a byte. -/
def byte? (value : Int64) : Option UInt8 :=
  if 0 ≤ value.toInt ∧ value.toInt < 256 then some (UInt8.ofNat value.toInt.toNat) else none

/-- The two values of an effect. -/
def pair (effect : Effect) : List Int64 :=
  [indexValue effect.index, effect.delta]

/-- The values of a list two by two; a last one alone is left out. -/
def pairs : List Int64 → List (Int64 × Int64)
  | index :: delta :: rest => (index, delta) :: pairs rest
  | _ => []

/-- Packs effects in order, followed by zeros; effects past the fourth are left out. -/
def ofEffects (effects : List Effect) : Record where
  values := (effects.flatMap pair ++ List.replicate width 0).take width
  length_values := by simp

/-- What packing leaves out. -/
def overflow? (effects : List Effect) : Option Overflow :=
  if capacity < effects.length then some ⟨effects.length⟩ else none

/-- The effect of a pair of values whose index fits in a byte. -/
def effect? (values : Int64 × Int64) : Option Effect :=
  (byte? values.1).map fun index ↦ ⟨index, values.2⟩

/-- The effects of a record, up to the first pair whose index is zero. -/
def effects (record : Record) : List Effect :=
  ((pairs record.values).takeWhile (·.1 ≠ 0)).filterMap effect?

/-- Whether a record describes no effect. -/
def isEmpty (record : Record) : Bool :=
  record.values.head? = some 0

/-- The ticker of an index value. -/
def ticker? (catalog : Catalog) (value : Int64) : Option Text :=
  (byte? value).bind catalog.tickerOf?

/-- The first value other than zero, from a position on. -/
def checkZeros (position : Nat) : List Int64 → Except RecordError Unit
  | [] => .ok ()
  | value :: rest =>
    if value = 0 then checkZeros (position + 1) rest else .error (.trailingValue position value)

/-- The first violation of the record rules, from a position on. -/
def check (catalog : Catalog) (position : Nat) : List Int64 → Except RecordError Unit
  | index :: delta :: rest =>
    if index = 0 then checkZeros (position + 1) (delta :: rest)
    else if (ticker? catalog index).isNone then .error (.unknownIndex position index)
    else if delta = 0 then .error (.zeroDelta (position + 1))
    else check catalog (position + 2) rest
  | _ => .ok ()

/-- The record of eight integers that keep the record rules. -/
def ofValues (catalog : Catalog) (values : List Int64) : Except RecordError Record :=
  if h : values.length = width then
    match check catalog 0 values with
    | .error e => .error e
    | .ok () => .ok ⟨values, h⟩
  else .error (.wrongWidth values.length)

/-- Names the instruments of effects; `position` is that of the first effect's index. -/
def nameEffects (catalog : Catalog) (position : Nat) :
    List Effect → Except RecordError (List (Text × Int64))
  | [] => .ok []
  | effect :: rest =>
    match catalog.tickerOf? effect.index with
    | none => .error (.unknownIndex position (indexValue effect.index))
    | some ticker =>
      match nameEffects catalog (position + 2) rest with
      | .error e => .error e
      | .ok named => .ok ((ticker, effect.delta) :: named)

/-- The tickers and price changes of a record, in order. -/
def decode (catalog : Catalog) (record : Record) : Except RecordError (List (Text × Int64)) :=
  nameEffects catalog 0 record.effects

/-- The values of a record as they stand in a listing, separated by commas. -/
def spelling (values : List Int64) : Text :=
  Text.join [','] (values.map fun value ↦ Decimal.integer value.toInt)

end Record

end ChanceDeck
