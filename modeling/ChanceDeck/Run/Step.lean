import ChanceDeck.Run.Error
import ChanceDeck.Run.Host
import ChanceDeck.Run.LogFilter

/-!
# Steps

A step of a run acts on a host, and gives a value or fails. What was done before a failure stays
done.
-/

set_option autoImplicit false
set_option relaxedAutoImplicit false

namespace ChanceDeck

/-- A step of a run on a host. -/
abbrev Step (m : Type → Type) := ExceptT RunError m

namespace Step

variable {m : Type → Type} [Monad m] {ε α : Type}

/-- A step that fails if a computation did. -/
def require (error : ε → RunError) (result : Except ε α) : Step m α :=
  ExceptT.mk (pure (result.mapError error))

variable [Host m]

/-- Reads a file. -/
def readFile (path : RawText) : Step m (Except FileError Bytes) :=
  ExceptT.lift (Host.readFile path)

/-- The text of the contents of a file. -/
def decode (contents : Except FileError Bytes) : Except FileError Text :=
  contents.bind fun bytes ↦
    match Utf8.decode? bytes with
    | none => .error .invalidText
    | some text => .ok text

/-- Reads a file that must be there and be a text. -/
def readText (source : Source) (path : RawText) : Step m Text := do
  let contents ← readFile path
  require (.unread source path) (decode contents)

/-- Makes the folder of a file, unless it is there. -/
def makeFolder (product : Product) (path : RawText) : Step m Unit :=
  match Folder.ofFile? path with
  | none => pure ()
  | some folder => do
    let made ← ExceptT.lift (Host.makeFolders folder)
    require (.noFolder product folder) made

/-- Writes a file in a folder that is there. -/
def write (product : Product) (path : RawText) (bytes : Bytes) : Step m Unit := do
  let written ← ExceptT.lift (Host.writeFile path bytes)
  require (.unsaved product path) written

/-- Writes a file, in a folder that is made if it is not there. -/
def save (product : Product) (path : RawText) (bytes : Bytes) : Step m Unit := do
  makeFolder product path
  write product path bytes

/-- Adds lines to the results. -/
def print (lines : List Text) : Step m Unit :=
  ExceptT.lift (Host.print (Text.unlines lines))

/-- Reports the entries that a filter shows. -/
def log (filter : LogFilter) : List LogEntry → Step m Unit
  | [] => pure ()
  | entry :: rest => do
    if filter.shows entry then ExceptT.lift (Host.report entry.line)
    log filter rest

end Step

end ChanceDeck
