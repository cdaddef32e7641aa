import ChanceDeck.Settings.Pointer
import ChanceDeck.Text.Quoted

/-!
# Unused keys

A leaf of the settings is unused if no section reads it and it sets something. The report lists
the pointers of the unused leaves in order, each once. A strict check refuses a document that
has any.
-/

set_option autoImplicit false
set_option relaxedAutoImplicit false

namespace ChanceDeck

/-- What to do about unused keys. -/
inductive UnusedPolicy where
  | warn
  | fail
  deriving DecidableEq, Repr

/-- The places that are read and the leaves that are not, as pointers in order. -/
structure UnusedReport where
  consumed : List Text
  unused : List Text
  deriving DecidableEq, Repr

/-- A strict check found unused keys. -/
structure UnusedError where
  unused : List Text
  deriving DecidableEq, Repr

namespace Unused

/-- The places that the sections read. -/
def consumed : List Text :=
  ["/convert/input".toList, "/convert/line_step".toList, "/convert/output".toList,
    "/convert/report".toList, "/convert/start_line".toList, "/tokenize/base_address".toList,
    "/tokenize/input".toList, "/tokenize/output".toList]

/-- Whether a pointer lies at or below a place that is read. -/
def isRead (pointer : Text) : Bool :=
  consumed.any (Pointer.covers · pointer)

/-- The value that a pointer names; a lone slash names the whole document. -/
def named? (root : Document) (pointer : Text) : Option Document :=
  if pointer = ['/'] then some root else (Path.ofPointer? pointer).bind (Document.follow? · root)

/-- Whether a pointer names a value that sets something. -/
def counts (root : Document) (pointer : Text) : Bool :=
  match named? root pointer with
  | none => false
  | some found => !found.setsNothing

/-- Puts a text into its place among texts in order, unless it is there. -/
def insertOnce (text : Text) : List Text → List Text
  | [] => [text]
  | other :: rest =>
    if text < other then text :: other :: rest
    else if text = other then other :: rest
    else other :: insertOnce text rest

/-- The pointers of the unused leaves of a document. -/
def pointers (root : Document) : List Text :=
  let leaves := (root.leaves []).map fun leaf ↦ leaf.1.pointer
  let unused := leaves.filter fun pointer ↦ !isRead pointer && counts root pointer
  unused.foldl (fun found pointer ↦ insertOnce pointer found) []

/-- The report on a document; under the strict policy unused keys are refused. -/
def report (policy : UnusedPolicy) (root : Document) : Except UnusedError UnusedReport :=
  let unused := pointers root
  if policy = .fail ∧ unused ≠ [] then .error ⟨unused⟩ else .ok ⟨consumed, unused⟩

end Unused

/-- Whether no key is unused. -/
def UnusedReport.isClean (report : UnusedReport) : Bool :=
  report.unused.isEmpty

/-- The keys that an error shows. -/
def UnusedError.shown : Nat := 12

/-- The wording of a failed check. -/
def UnusedError.message (error : UnusedError) : Text :=
  "CONFIG_UNUSED_KEYS: ".toList ++ Decimal.natural error.unused.length ++
    " unused config key(s). Remove them or fix the spelling. First few: ".toList ++
    Quoted.list (error.unused.take shown)

end ChanceDeck
