import ChanceDeck.Basic.Address
import ChanceDeck.Text.Decimal
import ChanceDeck.Text.Raw

/-!
# Arguments

What a run is asked to do. Options of the program may stand before the command or after it, and
options of a command after it. A value stands in the argument after its option, or in the same
argument after an equals sign. Options that take one value may be given once, and so may flags;
settings files may be given several times, and those after the command then take the place of
those before it. Arguments are raw texts; only paths need not be texts.
-/

set_option autoImplicit false
set_option relaxedAutoImplicit false

namespace ChanceDeck

/-- Values given to a conversion, each in place of a setting. -/
structure ConvertFlags (P : Type := RawText) where
  input : Option P
  output : Option P
  startLine : Option Nat
  lineStep : Option Nat
  report : Option P
  deriving DecidableEq, Repr

/-- Values given to a tokenization, each in place of a setting. -/
structure TokenizeFlags where
  input : Option RawText
  output : Option RawText
  baseAddress : Option UInt16
  deriving DecidableEq, Repr

/-- What to do. -/
inductive Command where
  | convert (flags : ConvertFlags)
  | decode (input : Option RawText)
  | tokenize (flags : TokenizeFlags)
  deriving DecidableEq, Repr

/-- What a run is asked to do: the settings files in their order, whether unused keys are refused,
and the command. -/
structure Invocation where
  settings : List RawText
  strict : Bool
  command : Command
  deriving DecidableEq, Repr

namespace Arguments

/-- Whether an option takes a value. -/
inductive Kind where
  | flag
  | value
  deriving DecidableEq, Repr

/-- Options by name. -/
abbrev Options := List (Text × Kind)

/-- Options with their values as they are given; a flag has none. -/
abbrev Given := List (Text × RawText)

/-- The option of settings files. -/
def settingsOption : Text :=
  "config".toList

/-- The flag that refuses unused keys. -/
def strictFlag : Text :=
  "strict-config".toList

/-- The options of the program. -/
def programOptions : Options :=
  [(settingsOption, .value), (strictFlag, .flag)]

/-- The options of each command. -/
def commandOptions : List (Text × Options) :=
  [("convert".toList,
      [("input".toList, .value), ("output".toList, .value), ("start-line".toList, .value),
        ("line-step".toList, .value), ("report".toList, .value)]),
    ("decode".toList, [("input".toList, .value)]),
    ("tokenize".toList,
      [("input".toList, .value), ("output".toList, .value), ("base-address".toList, .value)])]

/-- The byte of a hyphen. -/
def hyphen : UInt8 :=
  0x2D

/-- The byte of an equals sign. -/
def equals : UInt8 :=
  0x3D

/-- Whether an argument can be the value of the option before it. -/
def isValue (argument : RawText) : Bool :=
  argument.bytes.head? ≠ some hyphen || argument.bytes = [hyphen]

/-- The bytes of an option after its two hyphens, if an argument is one. -/
def option? (argument : RawText) : Option Bytes :=
  match argument.bytes with
  | first :: second :: body => if first = hyphen ∧ second = hyphen then some body else none
  | _ => none

/-- An option as it is written: its name, and its value if that is in the same argument. -/
def written (body : Bytes) : Bytes × Option RawText :=
  match body.dropWhile (· ≠ equals) with
  | [] => (body, none)
  | _ :: value => (body.takeWhile (· ≠ equals), some ⟨value⟩)

/-- Reads options up to the first argument that is none, and gives back the arguments from there
on. Two hyphens alone may only stand at the end. -/
def readOptions (options : Options) : List RawText → Option (Given × List RawText)
  | [] => some ([], [])
  | argument :: rest =>
    match option? argument with
    | none => if isValue argument then some ([], argument :: rest) else none
    | some [] => if rest = [] then some ([], []) else none
    | some body =>
      let (spelling, value) := written body
      match (Utf8.decode? spelling).bind fun name ↦ options.find? (·.1 = name), value with
      | none, _ => none
      | some (_, .flag), some _ => none
      | some (name, .flag), none => do
        let (given, left) ← readOptions options rest
        return ((name, ⟨[]⟩) :: given, left)
      | some (name, .value), some value => do
        let (given, left) ← readOptions options rest
        return ((name, value) :: given, left)
      | some (name, .value), none =>
        match rest with
        | [] => none
        | value :: rest =>
          if isValue value then do
            let (given, left) ← readOptions options rest
            return ((name, value) :: given, left)
          else none

/-- The values of an option in their order. -/
def values (name : Text) (given : Given) : List RawText :=
  (given.filter (·.1 = name)).map Prod.snd

/-- The value of an option that may be given once; what is given must have a meaning. -/
def single? {α : Type} (read : RawText → Option α) (name : String) (given : Given) :
    Option (Option α) :=
  match values name.toList given with
  | [] => some none
  | [value] => (read value).map some
  | _ => none

/-- A path, which may not be empty. -/
def path? (value : RawText) : Option RawText :=
  if value.bytes = [] then none else some value

/-- A number of 32 bits; a sign may stand before it. -/
def number? (value : RawText) : Option Nat :=
  (value.text?.bind Decimal.integer?).bind fun n ↦
    if 0 ≤ n.toInt ∧ n.toInt ≤ 0xFFFFFFFF then some n.toInt.toNat else none

/-- An address. -/
def address? (value : RawText) : Option UInt16 :=
  value.text?.bind fun text ↦ (Address.ofText text).toOption

/-- A command with its options. -/
def command? (name : Text) (given : Given) : Option Command :=
  if name = "convert".toList then do
    let input ← single? path? "input" given
    let output ← single? path? "output" given
    let startLine ← single? number? "start-line" given
    let lineStep ← single? number? "line-step" given
    let report ← single? path? "report" given
    return .convert ⟨input, output, startLine, lineStep, report⟩
  else if name = "decode".toList then (single? path? "input" given).map .decode
  else if name = "tokenize".toList then do
    let input ← single? path? "input" given
    let output ← single? path? "output" given
    let baseAddress ← single? address? "base-address" given
    return .tokenize ⟨input, output, baseAddress⟩
  else none

/-- The settings files among options, none of which may be empty, and whether the strict flag,
which may be given once, is there. -/
def program? (given : Given) : Option (List RawText × Bool) := do
  let settings ← (values settingsOption given).mapM path?
  match values strictFlag given with
  | [] => some (settings, false)
  | [_] => some (settings, true)
  | _ => none

end Arguments

namespace Invocation

open Arguments in
/-- What arguments ask for, if they can be understood. -/
def ofArguments? (arguments : List RawText) : Option Invocation := do
  let (before, rest) ← readOptions programOptions arguments
  let name ← rest.head?.bind RawText.text?
  let options ← (commandOptions.find? (·.1 = name)).map Prod.snd
  let (after, left) ← readOptions (programOptions ++ options) (rest.drop 1)
  if left ≠ [] then none
  let (outerSettings, outerStrict) ← program? before
  let (innerSettings, innerStrict) ← program? after
  let command ← command? name after
  return ⟨if innerSettings = [] then outerSettings else innerSettings,
    outerStrict || innerStrict, command⟩

/-- What is shown when arguments cannot be understood. -/
def usage : Text :=
  "usage: ccd [--config PATH]... [--strict-config] convert|decode|tokenize [OPTIONS]".toList

end Invocation

end ChanceDeck
