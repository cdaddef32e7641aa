import ChanceDeck.Yaml.Scalar.Gap

/-!
# Plain scalars

A scalar without quotation marks runs up to a colon with a gap after it, a comment, a line that is
not indented enough, or a document mark; inside brackets also up to the indicators there.
-/

set_option autoImplicit false
set_option relaxedAutoImplicit false

namespace ChanceDeck.Yaml

/-- A plain scalar, the cursor after it, and whether a line ended after its last word. -/
structure PlainScalar where
  text : Text
  broken : Bool
  cursor : Cursor
  deriving DecidableEq, Repr

namespace PlainScalar

/-- An indicator that ends a plain scalar inside brackets. -/
def isFlowIndicator (c : Char) : Bool :=
  c = ',' || c = '[' || c = ']' || c = '\x7b' || c = '\x7d'

/-- A colon that may not stand inside brackets, judged by the text that begins with it. -/
def isBadColon : Text → Bool
  | ':' :: c :: _ => isFlowIndicator c || c = '?'
  | _ => false

/-- Whether a scalar ends where a text begins. -/
def endsAt (inFlow : Bool) : Text → Bool
  | [] => true
  | c :: rest => (c = ':' && atGap rest) || (inFlow && isFlowIndicator c)

/-- Whether a scalar ends at a word after a gap. -/
def endsAfterGap (inFlow : Bool) (indent : Nat) (place : Place) (text : Text) : Bool :=
  (!inFlow && place.column < indent) || (place.column = 0 && atDocumentMark text) ||
    text.head? = some '#'

/-- Reads on from a place; `out` is what has been read, last character first. Lines after the
first must be indented by `indent` unless the scalar stands inside brackets. -/
def scan (inFlow : Bool) (indent : Nat) (place : Place) (out : Text) (gap : Gap) :
    Text → Option PlainScalar
  | [] => some ⟨out.reverse, gap.isBroken, ⟨place, []⟩⟩
  | '\r' :: '\n' :: rest => scan inFlow indent (place.newLine 2) out (gap.lineEnd '\n') rest
  | c :: rest =>
    if isBreak c then scan inFlow indent (place.newLine c.utf8Size) out (gap.lineEnd c) rest
    else if isBlank c then
      if gap.isBroken && place.column < indent && c = '\t' then none
      else scan inFlow indent (place.after c) out (gap.blank c) rest
    else if !gap.isClosed && endsAfterGap inFlow indent place (c :: rest) then
      some ⟨out.reverse, gap.isBroken, ⟨place, c :: rest⟩⟩
    else if inFlow && isBadColon (c :: rest) then none
    else if endsAt inFlow (c :: rest) then
      some ⟨out.reverse, gap.isBroken, ⟨place, c :: rest⟩⟩
    else scan inFlow indent (place.after c) (c :: gap.text.reverse ++ out) .closed rest

/-- The plain scalar at a cursor. -/
def read (inFlow : Bool) (indent : Nat) (cursor : Cursor) : Option PlainScalar :=
  scan inFlow indent cursor.place [] .closed cursor.rest

end PlainScalar

end ChanceDeck.Yaml
