import ChanceDeck.Run.Files
import ChanceDeck.Settings.Layers
import ChanceDeck.Sheet.Basic
import ChanceDeck.Sheet.Header

/-!
# Run errors

Why a run fails, with the explanation that is reported. Each kind of error is the end of one step:
reading the settings, reading what is worked on, the work itself, and saving what it gave. A report
on a conversion names files, and cannot be written if a path is no text.
-/

set_option autoImplicit false
set_option relaxedAutoImplicit false

namespace ChanceDeck

/-- What a run reads as text. -/
inductive Source where
  | settings
  | listing
  | program
  deriving DecidableEq, Repr

/-- What a run saves. -/
inductive Product where
  | listing
  | report
  | image
  deriving DecidableEq, Repr

/-- Why a run fails. -/
inductive RunError where
  | unread (source : Source) (path : RawText) (error : FileError)
  | badLayer (error : LayerError)
  | unusedKeys (error : UnusedError)
  | badSettings (error : SettingsError)
  | badSheet (error : SheetError)
  | badHeader (path : RawText) (error : HeaderError)
  | unlisted (error : ListingError)
  | failedAudit (path : RawText) (issues : Nat)
  | untokenized (path : RawText) (error : ImageError)
  | noFolder (product : Product) (folder : RawText) (error : FileError)
  | unserialized
  | unsaved (product : Product) (path : RawText) (error : FileError)
  deriving Repr

/-- What is told about a text that cannot be read. -/
def Source.explanation (source : Source) (path : RawText) (error : FileError) : Explanation :=
  let lead :=
    match source with
    | .settings => "failed to read yaml path: "
    | .listing => "read DATA file failed: "
    | .program => "read listing failed: "
  ⟨lead.toList ++ path.shown, some error.message⟩

/-- What is told about a folder that cannot be made. -/
def Product.folderExplanation (product : Product) (folder : RawText) (error : FileError) :
    Explanation :=
  match product with
  | .listing =>
    .plain ("emit io error: create dir '".toList ++ folder.shown ++ "': ".toList ++ error.message)
  | .report => ⟨"create report dir failed: ".toList ++ folder.shown, some error.message⟩
  | .image => ⟨"create output dir failed: ".toList ++ folder.shown, some error.message⟩

/-- What is told about a file that cannot be written. -/
def Product.fileExplanation (product : Product) (path : RawText) (error : FileError) : Explanation :=
  match product with
  | .listing => .plain
      ("emit io error: create '".toList ++ path.shown ++ "': ".toList ++ error.message)
  | .report => ⟨"write report failed: ".toList ++ path.shown, some error.message⟩
  | .image => ⟨"write image failed: ".toList ++ path.shown, some error.message⟩

/-- What is told about an error. -/
def RunError.explanation : RunError → Explanation
  | .unread source path error => source.explanation path error
  | .badLayer error => error.explanation
  | .unusedKeys error => .plain error.message
  | .badSettings error => error.explanation
  | .badSheet error => .plain error.message
  | .badHeader path error => ⟨"bad header in ".toList ++ path.shown, some error.message⟩
  | .unlisted error => .plain error.message
  | .failedAudit path issues =>
    .plain
      (path.shown ++ " failed audit with ".toList ++ Decimal.natural issues ++ " issue(s)".toList)
  | .untokenized path error => ⟨"tokenize failed for ".toList ++ path.shown, some error.message⟩
  | .noFolder product folder error => product.folderExplanation folder error
  | .unserialized =>
    ⟨"serialize report json failed".toList, some "path contains invalid UTF-8 characters".toList⟩
  | .unsaved product path error => product.fileExplanation path error

end ChanceDeck
