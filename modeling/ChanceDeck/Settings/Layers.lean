import ChanceDeck.Digest.Sha256
import ChanceDeck.Settings.Canonical
import ChanceDeck.Settings.Merge
import ChanceDeck.Settings.OfYaml
import ChanceDeck.Settings.Section
import ChanceDeck.Settings.Unused
import ChanceDeck.Text.Hexadecimal
import ChanceDeck.Yaml.Value.OfNode

/-!
# Layers

Settings are loaded from texts, each a layer over those before it. The digest of the canonical
form of what they give together tells which settings were in force.
-/

set_option autoImplicit false
set_option relaxedAutoImplicit false

namespace ChanceDeck

/-- Why layers cannot be loaded. -/
inductive LayerError where
  | invalidText
  | badKey (error : Document.KeyError)
  deriving DecidableEq, Repr

/-- The wording of a layer error. -/
def LayerError.explanation : LayerError → Explanation
  | .invalidText => .plain "invalid yaml".toList
  | .badKey error => ⟨"yaml->json conversion failed".toList, some error.message⟩

/-- What layers give together. -/
structure Settings where
  document : Document
  deriving Repr, Inhabited

namespace Settings

/-- The document of one layer. -/
def layer (text : Text) : Except LayerError Document :=
  match Yaml.Value.ofText? text with
  | none => .error .invalidText
  | some value => (Document.ofValue value).mapError .badKey

/-- The documents of layers, up to the first that cannot be loaded. -/
def layers : List Text → Except LayerError (List Document)
  | [] => .ok []
  | text :: rest =>
    match layer text with
    | .error e => .error e
    | .ok document =>
      match layers rest with
      | .error e => .error e
      | .ok documents => .ok (document :: documents)

/-- The settings of layers in order. -/
def ofLayers (texts : List Text) : Except LayerError Settings :=
  (layers texts).map fun documents ↦ ⟨Document.mergeAll documents⟩

/-- The settings where nothing is set. -/
def empty : Settings :=
  ⟨Document.empty⟩

/-- The canonical form of settings. -/
def canonical (settings : Settings) : Text :=
  settings.document.canonical

/-- The digest of settings. -/
def digest (settings : Settings) : Text :=
  Hexadecimal.ofBytes (Sha256.digest (Utf8.encode settings.canonical))

/-- How sheets are converted. -/
def convert (settings : Settings) : Except SettingsError ConvertSettings :=
  ConvertSettings.ofDocument settings.document

/-- How listings are tokenized. -/
def tokenize (settings : Settings) : Except SettingsError TokenizeSettings :=
  TokenizeSettings.ofDocument settings.document

end Settings

end ChanceDeck
