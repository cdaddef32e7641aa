import ChanceDeck.Settings.Document

/-!
# Merging documents

A later document overrides an earlier one leaf by leaf: two objects merge entry by entry, and in
every other case the later value takes the place of the earlier. Lists count as one value.
-/

set_option autoImplicit false
set_option relaxedAutoImplicit false

namespace ChanceDeck.Document

mutual

/-- An earlier document overridden by a later one. -/
def merge (earlier : Document) : Document → Document
  | .object later =>
    match earlier with
    | .object entries => .object (mergeEntries entries later)
    | _ => .object later
  | later => later

/-- The entries of an object overridden by later entries, one after another. -/
def mergeEntries (entries : List (Text × Document)) : List (Text × Document) →
    List (Text × Document)
  | [] => entries
  | (key, later) :: rest =>
    mergeEntries (put key (merge ((get? key entries).getD .null) later) entries) rest

end

/-- Documents merged in order over the document that sets nothing; a null document sets
nothing. -/
def mergeAll (documents : List Document) : Document :=
  documents.foldl (fun merged later ↦ if later.isNull then merged else merge merged later) empty

end ChanceDeck.Document
