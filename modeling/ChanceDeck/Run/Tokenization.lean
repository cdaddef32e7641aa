import ChanceDeck.Run.Arguments
import ChanceDeck.Run.Step

/-!
# Tokenization

A run that makes the image of a listing. What is given with the command takes the place of what
the settings say.
-/

set_option autoImplicit false
set_option relaxedAutoImplicit false

namespace ChanceDeck

namespace TokenizeFlags

/-- Settings with the given values in their place. -/
def applyTo (flags : TokenizeFlags) (settings : TokenizeSettings RawText) :
    TokenizeSettings RawText where
  input := flags.input.getD settings.input
  output := flags.output.getD settings.output
  baseAddress := flags.baseAddress.getD settings.baseAddress

/-- The settings of a tokenization. -/
def resolve (flags : TokenizeFlags) (settings : Settings) :
    Except SettingsError (TokenizeSettings RawText) :=
  settings.tokenize.map fun found ↦ flags.applyTo (found.map .ofText)

end TokenizeFlags

namespace Tokenization

/-- The number of numbered lines in a listing. -/
def lineCount (text : Text) : Nat :=
  match SourceLine.ofLines 1 (Text.lines text) with
  | .error _ => 0
  | .ok sources => sources.length

/-- The entry on an image that was made. -/
def madeEntry (text : Text) (image : Bytes) : LogEntry where
  level := .debug
  origin := "ccd_tokenize".toList
  message := "program tokenized".toList
  fields := [("lines".toList, Decimal.natural (lineCount text)),
    ("bytes".toList, Decimal.natural image.length)]

/-- What is told about an image that was saved. -/
def savedLine (settings : TokenizeSettings RawText) (image : Bytes) : Text :=
  "Tokenized ".toList ++ settings.input.shown ++ " -> ".toList ++ settings.output.shown ++
    " (".toList ++ Decimal.natural image.length ++ " bytes at 0x".toList ++
    Hexadecimal.padded 4 (Hexadecimal.upper settings.baseAddress.toNat) ++ ")".toList

/-- The entry at the end. -/
def lastEntry (image : Bytes) : LogEntry :=
  ⟨.info, "ccd::commands::tokenize".toList, "tokenize complete".toList,
    [("bytes".toList, Decimal.natural image.length)]⟩

variable {m : Type → Type} [Monad m] [Host m]

/-- Makes the image of a listing. -/
def run (filter : LogFilter) (settings : Settings) (flags : TokenizeFlags) :
    Step m Unit := do
  let chosen ← Step.require .badSettings (flags.resolve settings)
  let text ← Step.readText .program chosen.input
  let image ← Step.require (.untokenized chosen.input) (Image.ofText text chosen.baseAddress)
  Step.log filter [madeEntry text image]
  Step.save .image chosen.output image
  Step.print [savedLine chosen image]
  Step.log filter [lastEntry image]

end Tokenization

end ChanceDeck
