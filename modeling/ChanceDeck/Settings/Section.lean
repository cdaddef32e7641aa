import ChanceDeck.Basic.Image
import ChanceDeck.Listing.Basic
import ChanceDeck.Number.Shortest
import ChanceDeck.Settings.Document
import ChanceDeck.Text.Explanation
import ChanceDeck.Text.Quoted

/-!
# Sections

A section of the settings gives values to named fields; fields that it does not mention keep their
defaults. It is an object, whose unknown keys are passed over, or a list of values in the order
of the fields. A section that is missing or null gives the defaults. The first value of a wrong
type or out of its range is an error.
-/

set_option autoImplicit false
set_option relaxedAutoImplicit false

namespace ChanceDeck

/-- What a value was expected to be. -/
inductive Expected where
  | path
  | natural (bits : Nat)
  | convertSection
  | tokenizeSection
  deriving DecidableEq, Repr

/-- The wording of an expectation. -/
def Expected.wording : Expected → Text
  | .path => "path string".toList
  | .natural bits => 'u' :: Decimal.natural bits
  | .convertSection => "struct ConvertConfig".toList
  | .tokenizeSection => "struct TokenizeConfig".toList

/-- Why a section cannot be read. -/
inductive SectionError where
  | wrongType (found : Document) (expected : Expected)
  | outOfRange (found : Int) (expected : Expected)
  | tooLong (length : Nat)
  deriving Repr

/-- What a document is, in words. -/
def Document.kind : Document → Text
  | .null => "null".toList
  | .boolean true => "boolean `true`".toList
  | .boolean false => "boolean `false`".toList
  | .integer value => "integer `".toList ++ Decimal.integer value ++ "`".toList
  | .float value => "floating point `".toList ++ value.text ++ "`".toList
  | .text value => "string ".toList ++ Quoted.text value
  | .list _ => "sequence".toList
  | .object _ => "map".toList

/-- The wording of a section error. -/
def SectionError.message : SectionError → Text
  | .wrongType found expected =>
    "invalid type: ".toList ++ found.kind ++ ", expected ".toList ++ expected.wording
  | .outOfRange found expected =>
    "invalid value: ".toList ++ (Document.integer found).kind ++ ", expected ".toList ++
      expected.wording
  | .tooLong length =>
    "invalid length ".toList ++ Decimal.natural length ++
      ", expected fewer elements in array".toList

namespace Section

/-- The path that a value gives. -/
def path : Document → Except SectionError Text
  | .text value => .ok value
  | found => .error (.wrongType found .path)

/-- The path that a value gives, if it is not null. -/
def path? : Document → Except SectionError (Option Text)
  | .null => .ok none
  | found => (path found).map some

/-- The natural number of so many bits that a value gives. -/
def natural (bits : Nat) : Document → Except SectionError Nat
  | .integer value =>
    if 0 ≤ value ∧ value < Nat.pow 2 bits then .ok value.toNat
    else .error (.outOfRange value (.natural bits))
  | found => .error (.wrongType found (.natural bits))

variable {σ : Type}

/-- A field of a section: its key, and how its value changes the settings. -/
structure Field (σ : Type) where
  key : Text
  set : σ → Document → Except SectionError σ

/-- Sets the fields that entries name, one after another. -/
def setEntries (fields : List (Field σ)) (settings : σ) :
    List (Text × Document) → Except SectionError σ
  | [] => .ok settings
  | (key, value) :: rest =>
    match fields.find? (·.key = key) with
    | none => setEntries fields settings rest
    | some field =>
      match field.set settings value with
      | .error e => .error e
      | .ok next => setEntries fields next rest

/-- Sets fields from values in order. -/
def setItems (settings : σ) : List (Field σ) → List Document → Except SectionError σ
  | field :: fields, value :: rest =>
    match field.set settings value with
    | .error e => .error e
    | .ok next => setItems next fields rest
  | _, _ => .ok settings

/-- The settings that a section gives, starting from defaults. -/
def read (fields : List (Field σ)) (expected : Expected) (defaults : σ) :
    Document → Except SectionError σ
  | .object entries => setEntries fields defaults entries
  | .list items =>
    match setItems defaults fields items with
    | .error e => .error e
    | .ok settings =>
      if fields.length < items.length then .error (.tooLong items.length) else .ok settings
  | found => .error (.wrongType found expected)

/-- The settings that a section of a document gives; a section that is missing or null gives the
defaults. -/
def readAt (key : Text) (fields : List (Field σ)) (expected : Expected) (defaults : σ)
    (root : Document) : Except SectionError σ :=
  match root.field? key with
  | none => .ok defaults
  | some .null => .ok defaults
  | some found => read fields expected defaults found

end Section

/-- How a sheet is converted to a listing; paths in a section are texts. -/
structure ConvertSettings (P : Type := Text) where
  input : P
  output : P
  startLine : Nat
  lineStep : Nat
  report : Option P
  deriving DecidableEq, Repr

/-- How a listing is tokenized; paths in a section are texts. -/
structure TokenizeSettings (P : Type := Text) where
  input : P
  output : P
  baseAddress : UInt16
  deriving DecidableEq, Repr

/-- Why a document gives no settings. -/
inductive SettingsError where
  | badConvert (error : SectionError)
  | badTokenize (error : SectionError)
  | badNumbering (error : ListingError)
  deriving Repr

/-- The wording of a settings error. -/
def SettingsError.explanation : SettingsError → Explanation
  | .badConvert error => ⟨"invalid config section /convert".toList, some error.message⟩
  | .badTokenize error => ⟨"invalid config section /tokenize".toList, some error.message⟩
  | .badNumbering error => ⟨"invalid /convert line numbering".toList, some error.message⟩

namespace ConvertSettings

/-- What holds where nothing is set. -/
def defaults : ConvertSettings where
  input := "data/sheet_Chance_Cards.csv".toList
  output := "data/chance_cards_data.txt".toList
  startLine := Listing.defaultOptions.startLine
  lineStep := Listing.defaultOptions.lineStep
  report := none

/-- The fields of the section, in the order of a list. -/
def fields : List (Section.Field ConvertSettings) :=
  [⟨"input".toList, fun s d ↦ (Section.path d).map fun v ↦ { s with input := v }⟩,
    ⟨"output".toList, fun s d ↦ (Section.path d).map fun v ↦ { s with output := v }⟩,
    ⟨"start_line".toList, fun s d ↦ (Section.natural 32 d).map fun v ↦ { s with startLine := v }⟩,
    ⟨"line_step".toList, fun s d ↦ (Section.natural 32 d).map fun v ↦ { s with lineStep := v }⟩,
    ⟨"report".toList, fun s d ↦ (Section.path? d).map fun v ↦ { s with report := v }⟩]

/-- The same settings with other paths. -/
def map {P Q : Type} (f : P → Q) (settings : ConvertSettings P) :
    ConvertSettings Q where
  input := f settings.input
  output := f settings.output
  startLine := settings.startLine
  lineStep := settings.lineStep
  report := settings.report.map f

/-- Refuses line numbers outside their range. -/
def validate {P : Type} (settings : ConvertSettings P) :
    Except SettingsError (ConvertSettings P) :=
  match Listing.checkNumbering settings.startLine settings.lineStep with
  | .error e => .error (.badNumbering e)
  | .ok () => .ok settings

/-- The settings of a document. -/
def ofDocument (root : Document) : Except SettingsError ConvertSettings :=
  match Section.readAt "convert".toList fields .convertSection defaults root with
  | .error e => .error (.badConvert e)
  | .ok settings => settings.validate

end ConvertSettings

namespace TokenizeSettings

/-- What holds where nothing is set. -/
def defaults : TokenizeSettings where
  input := "SBONDS.DO".toList
  output := "SBONDS.BA".toList
  baseAddress := Image.defaultBase

/-- The fields of the section, in the order of a list. -/
def fields : List (Section.Field TokenizeSettings) :=
  [⟨"input".toList, fun s d ↦ (Section.path d).map fun v ↦ { s with input := v }⟩,
    ⟨"output".toList, fun s d ↦ (Section.path d).map fun v ↦ { s with output := v }⟩,
    ⟨"base_address".toList, fun s d ↦
      (Section.natural 16 d).map fun v ↦ { s with baseAddress := UInt16.ofNat v }⟩]

/-- The same settings with other paths. -/
def map {P Q : Type} (f : P → Q) (settings : TokenizeSettings P) :
    TokenizeSettings Q where
  input := f settings.input
  output := f settings.output
  baseAddress := settings.baseAddress

/-- The settings of a document. -/
def ofDocument (root : Document) : Except SettingsError TokenizeSettings :=
  (Section.readAt "tokenize".toList fields .tokenizeSection defaults root).mapError .badTokenize

end TokenizeSettings

end ChanceDeck
