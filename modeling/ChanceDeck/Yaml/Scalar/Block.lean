import ChanceDeck.Yaml.Scalar.Gap

/-!
# Block scalars

A block scalar consists of the lines below its header that are indented more than what it
belongs to. A literal block keeps its line ends; a folded block turns a line end between two lines
that do not begin with a blank into a space. The header says how line ends at the end are kept
and may give the indentation, which otherwise is that of the first line that is not blank.
-/

set_option autoImplicit false
set_option relaxedAutoImplicit false

namespace ChanceDeck.Yaml

/-- How the line ends at the end of a block are treated. -/
inductive Chomping where
  | strip
  | clip
  | keep
  deriving DecidableEq, Repr

/-- A block of which some lines are read: its text, the line end after it, and the line ends of the
blank lines that follow, texts last character first; and whether its last line begins with a
blank. -/
structure BlockDraft where
  out : Text
  lineEnd : Option Char
  later : Text
  startsBlank : Bool
  deriving DecidableEq, Repr

namespace BlockDraft

/-- A block without lines. -/
def empty : BlockDraft :=
  ⟨[], none, [], false⟩

/-- Begins a line with its first character. -/
def beginLine (folded : Bool) (draft : BlockDraft) (c : Char) : BlockDraft :=
  let join : Text :=
    if folded && draft.lineEnd = some '\n' && !draft.startsBlank && !isBlank c then
      if draft.later = [] then [' '] else []
    else draft.lineEnd.toList
  ⟨c :: draft.later ++ join ++ draft.out, none, [], isBlank c⟩

/-- The text of a block that is read as a whole. -/
def finish (chomping : Chomping) (draft : BlockDraft) : Text :=
  match chomping with
  | .strip => draft.out.reverse
  | .clip => draft.out.reverse ++ draft.lineEnd.toList
  | .keep => draft.out.reverse ++ draft.lineEnd.toList ++ draft.later.reverse

end BlockDraft

namespace BlockScalar

/-- The chomping that an indicator asks for. -/
def chomping? (c : Char) : Option Chomping :=
  if c = '+' then some .keep else if c = '-' then some .strip else none

/-- The indentation that a digit asks for. -/
def increment? (c : Char) : Option Nat :=
  if '0' ≤ c ∧ c ≤ '9' then some (c.toNat - '0'.toNat) else none

/-- The indicators after the mark of a block, in either order, and the characters they take. -/
def indicators (text : Text) : Option Chomping × Option Nat × Nat :=
  match text with
  | [] => (none, none, 0)
  | a :: rest =>
    match chomping? a, increment? a with
    | some chomping, _ =>
      match rest.head?.bind increment? with
      | some increment => (some chomping, some increment, 2)
      | none => (some chomping, none, 1)
    | none, some increment =>
      match rest.head?.bind chomping? with
      | some chomping => (some chomping, some increment, 2)
      | none => (none, some increment, 1)
    | none, none => (none, none, 0)

/-- Reads on inside a block. `indent` is its indentation once that is known, `least` what it must
be at least, `widest` the widest blank line so far, and `inLine` tells whether a line has begun. -/
def scan (folded : Bool) (least : Nat) (indent : Option Nat) (widest : Nat) (inLine : Bool)
    (place : Place) (draft : BlockDraft) : Text → Option (BlockDraft × Cursor)
  | [] => some (draft, ⟨place, []⟩)
  | '\r' :: '\n' :: rest =>
    if inLine then
      scan folded least indent 0 false (place.newLine 2) { draft with lineEnd := some '\n' } rest
    else
      scan folded least indent (max widest place.column) false (place.newLine 2)
        { draft with later := '\n' :: draft.later } rest
  | c :: rest =>
    if inLine then
      if isBreak c then
        scan folded least indent 0 false (place.newLine c.utf8Size)
          { draft with lineEnd := some (breakText c) } rest
      else
        scan folded least indent 0 true (place.after c) { draft with out := c :: draft.out } rest
    else
      let mayIndent := indent.all (place.column < ·)
      if mayIndent && c = ' ' then
        scan folded least indent widest false (place.after c) draft rest
      else if mayIndent && c = '\t' then none
      else if isBreak c then
        scan folded least indent (max widest place.column) false (place.newLine c.utf8Size)
          { draft with later := breakText c :: draft.later } rest
      else
        let found := indent.getD (max (max widest place.column) least)
        if place.column = found then
          scan folded least (some found) 0 true (place.after c) (draft.beginLine folded c) rest
        else some (draft, ⟨place, c :: rest⟩)

/-- The text of the block scalar at a cursor, and the cursor after it; `parent` is the indentation
of what it belongs to, none at the outermost level. -/
def read (parent : Option Nat) (cursor : Cursor) : Option (Text × Cursor) := do
  let mark ← cursor.rest.head?
  let (chomping, increment, length) := indicators (cursor.rest.drop 1)
  if increment = some 0 then none
  let body ← (cursor.drop (1 + length)).endLine?
  let indent := increment.map (parent.getD 0 + ·)
  let least := parent.elim 1 (· + 1)
  let (draft, after) ← scan (mark = '>') least indent 0 false body.place .empty body.rest
  return (draft.finish (chomping.getD .clip), after)

end BlockScalar

end ChanceDeck.Yaml
