import ChanceDeck.Text.Decimal
import ChanceDeck.Text.Utf8

/-!
# Sheets of comma-separated values

A sheet is read as a list of rows, each a list of fields. Commas part fields; a line feed, a
carriage return or both end a row, and blank lines are no rows. A field that starts with a
quotation mark runs to the next lone quotation mark, and two of them stand for one; what follows
up to the comma is taken as it is. The reader is one pass over symbols of any type that can be told
apart as commas, quotation marks and line ends, so texts and bytes are read by the same rules.

Each row keeps the place where it starts: the symbols and the line feeds taken before it.
-/

set_option autoImplicit false
set_option relaxedAutoImplicit false

namespace ChanceDeck

namespace Sheet

/-- What a symbol of a sheet means outside quotation marks. -/
inductive Mark where
  | comma
  | quote
  | carriageReturn
  | lineFeed
  | other
  deriving DecidableEq, Repr

/-- The meaning of a character. -/
def Mark.ofChar (c : Char) : Mark :=
  if c = ',' then .comma
  else if c = '\x22' then .quote
  else if c = '\r' then .carriageReturn
  else if c = '\n' then .lineFeed
  else .other

/-- The meaning of a byte. -/
def Mark.ofByte (b : UInt8) : Mark :=
  if b = 0x2C then .comma
  else if b = 0x22 then .quote
  else if b = 0x0D then .carriageReturn
  else if b = 0x0A then .lineFeed
  else .other

/-- A place in a sheet: the symbols before it, and its line counted from one. -/
structure Place where
  offset : Nat
  line : Nat
  deriving DecidableEq, Repr

/-- The place after a symbol. -/
def Place.next (place : Place) (mark : Mark) : Place :=
  ⟨place.offset + 1, if mark = .lineFeed then place.line + 1 else place.line⟩

/-- Where the reader stands in a row. -/
inductive Stage where
  | rowStart
  | fieldStart
  | bare
  | quoted
  | quoteSeen
  deriving DecidableEq, Repr

variable {σ : Type}

/-- The fields of a row and the place where it starts. -/
structure Row (σ : Type) where
  fields : List (List σ)
  start : Place
  deriving DecidableEq, Repr

/-- A row that is being read: the place where it starts, and its whole fields and the symbols of
the field at hand, both last first. -/
structure Draft (σ : Type) where
  start : Place
  fields : List (List σ)
  field : List σ

namespace Draft

/-- A row of which nothing is read. -/
def begin (start : Place) : Draft σ :=
  ⟨start, [], []⟩

/-- Adds a symbol to the field at hand. -/
def push (draft : Draft σ) (symbol : σ) : Draft σ :=
  { draft with field := symbol :: draft.field }

/-- Ends the field at hand. -/
def endField (draft : Draft σ) : Draft σ :=
  ⟨draft.start, draft.field.reverse :: draft.fields, []⟩

/-- The row, once its last field is read. -/
def row (draft : Draft σ) : Row σ :=
  ⟨draft.endField.fields.reverse, draft.start⟩

end Draft

/-- The rows of a sheet from a place on, when the reader stands in a given stage of a row. -/
def rowsFrom (mark : σ → Mark) (place : Place) (stage : Stage) (draft : Draft σ) :
    List σ → List (Row σ)
  | [] =>
    match stage with
    | .rowStart => []
    | _ => [draft.row]
  | symbol :: rest =>
    let place := place.next (mark symbol)
    match stage, mark symbol with
    | .quoted, .quote => rowsFrom mark place .quoteSeen draft rest
    | .quoted, _ => rowsFrom mark place .quoted (draft.push symbol) rest
    | .quoteSeen, .quote => rowsFrom mark place .quoted (draft.push symbol) rest
    | .rowStart, .carriageReturn => rowsFrom mark place .rowStart draft rest
    | .rowStart, .lineFeed => rowsFrom mark place .rowStart draft rest
    | .rowStart, .quote => rowsFrom mark place .quoted draft rest
    | .fieldStart, .quote => rowsFrom mark place .quoted draft rest
    | _, .comma => rowsFrom mark place .fieldStart draft.endField rest
    | _, .carriageReturn => draft.row :: rowsFrom mark place .rowStart (.begin place) rest
    | _, .lineFeed => draft.row :: rowsFrom mark place .rowStart (.begin place) rest
    | _, _ => rowsFrom mark place .bare (draft.push symbol) rest

/-- The rows of a sheet that is read from a place on; its first row counts as starting at the
beginning of the sheet. -/
def rows (mark : σ → Mark) (place : Place) (symbols : List σ) : List (Row σ) :=
  rowsFrom mark place .rowStart (.begin ⟨0, 1⟩) symbols

end Sheet

/-- Why a sheet cannot be read. -/
inductive SheetError where
  | empty
  | notFound (path : Text)
  | unreadable (reason : Text)
  | invalidText (record : Nat) (start : Sheet.Place) (field : Nat) (valid : Nat)
  deriving DecidableEq, Repr

/-- The wording of a sheet error. -/
def SheetError.message : SheetError → Text
  | .empty => "CSV file is empty".toList
  | .notFound path => path ++ " not found".toList
  | .unreadable reason => "csv parse error: ".toList ++ reason
  | .invalidText record start field valid =>
    "csv parse error: CSV parse error: record ".toList ++ Decimal.natural record ++
      " (line ".toList ++ Decimal.natural start.line ++ ", field: ".toList ++
      Decimal.natural field ++ ", byte: ".toList ++ Decimal.natural start.offset ++
      "): invalid utf-8: invalid UTF-8 in field ".toList ++ Decimal.natural field ++
      " near byte index ".toList ++ Decimal.natural valid

namespace Sheet

/-- Refuses a sheet without rows. -/
def nonempty (rows : List (List Text)) : Except SheetError (List (List Text)) :=
  if rows = [] then .error .empty else .ok rows

/-- The rows of a text; a byte order mark at its start is passed over. -/
def ofText (text : Text) : Except SheetError (List (List Text)) :=
  let rows :=
    match text with
    | '\uFEFF' :: rest => rows .ofChar ⟨1, 1⟩ rest
    | _ => rows .ofChar ⟨0, 1⟩ text
  nonempty (rows.map Row.fields)

/-- The texts of fields, or the number of the first that is not well formed and the length of its
well-formed beginning. -/
def decodeFields (field : Nat) : List Bytes → Except (Nat × Nat) (List Text)
  | [] => .ok []
  | bytes :: rest =>
    match Utf8.decode? bytes with
    | none => .error (field, Utf8.validLength bytes)
    | some text =>
      match decodeFields (field + 1) rest with
      | .error e => .error e
      | .ok texts => .ok (text :: texts)

/-- The texts of rows, up to the first row that is not well formed. -/
def decodeRows (record : Nat) : List (Row UInt8) → Except SheetError (List (List Text))
  | [] => .ok []
  | row :: rest =>
    match decodeFields 0 row.fields with
    | .error (field, valid) => .error (.invalidText record row.start field valid)
    | .ok texts =>
      match decodeRows (record + 1) rest with
      | .error e => .error e
      | .ok rows => .ok (texts :: rows)

/-- The rows of a file; a byte order mark at its start is passed over. -/
def ofBytes (bytes : Bytes) : Except SheetError (List (List Text)) :=
  let rows :=
    match bytes with
    | 0xEF :: 0xBB :: 0xBF :: rest => rows .ofByte ⟨3, 1⟩ rest
    | _ => rows .ofByte ⟨0, 1⟩ bytes
  match decodeRows 0 rows with
  | .error e => .error e
  | .ok rows => nonempty rows

end Sheet

end ChanceDeck
