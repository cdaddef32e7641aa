import ChanceDeck.Text.Decimal
import ChanceDeck.Text.Hexadecimal

/-!
# Log entries

What a run reports besides its results: how severe it is, which part of the program reports it, a
message, and named values that belong to it.
-/

set_option autoImplicit false
set_option relaxedAutoImplicit false

namespace ChanceDeck

/-- How severe an entry is. -/
inductive LogLevel where
  | error
  | warn
  | info
  | debug
  | trace
  deriving DecidableEq, Repr

namespace LogLevel

/-- The place of a level, the most severe first. -/
def rank : LogLevel → Nat
  | .error => 1
  | .warn => 2
  | .info => 3
  | .debug => 4
  | .trace => 5

/-- The name of a level. -/
def name : LogLevel → Text
  | .error => "ERROR".toList
  | .warn => "WARN".toList
  | .info => "INFO".toList
  | .debug => "DEBUG".toList
  | .trace => "TRACE".toList

/-- All levels, the most severe first. -/
def all : List LogLevel :=
  [.error, .warn, .info, .debug, .trace]

/-- The least severe level that is shown; none if nothing is. -/
abbrev Threshold := Option LogLevel

/-- The threshold that a text spells: the name of a level or `off` in any letter case, or the
place of a level, 0 standing for `off`. -/
def threshold? (text : Text) : Option Threshold :=
  let name := text.map Char.toUpper
  match Decimal.natural? 0xFFFFFFFFFFFFFFFF text with
  | some 0 => some none
  | some n => (all.find? (·.rank = n)).map some
  | none =>
    if name = "OFF".toList then some none else (all.find? (·.name = name)).map some

end LogLevel

/-- A reported event: its level, the part of the program that reports it, its message, and named
values that belong to it. -/
structure LogEntry where
  level : LogLevel
  origin : Text
  message : Text
  fields : List (Text × Text)
  deriving DecidableEq, Repr

namespace LogEntry

/-- A character of a message. Controls on which terminals act are spelled. -/
def spelling (c : Char) : Text :=
  if c = '\x1B' ∨ c = '\x07' ∨ c = '\x08' ∨ c = '\x0C' ∨ c = '\x7F' then
    "\\x".toList ++ Hexadecimal.padded 2 (Hexadecimal.lower c.toNat)
  else if 0x80 ≤ c.toNat ∧ c.toNat ≤ 0x9F then
    "\\u\x7b".toList ++ Hexadecimal.lower c.toNat ++ ['\x7d']
  else [c]

/-- The line of an entry. -/
def line (entry : LogEntry) : Text :=
  entry.level.name ++ ' ' :: entry.message.flatMap spelling ++
    entry.fields.flatMap fun field ↦ ' ' :: field.1 ++ '=' :: field.2

end LogEntry

end ChanceDeck
