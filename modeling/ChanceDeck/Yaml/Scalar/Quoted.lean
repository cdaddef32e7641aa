import ChanceDeck.Text.Decimal
import ChanceDeck.Yaml.Scalar.Gap

/-!
# Quoted scalars

Between single quotation marks two of them stand for one. Between double quotation marks a
backslash begins an escape: a letter for a control or a blank, `x`, `u` or `U` with two, four or
eight hexadecimal digits, or a line end that stands for nothing. Gaps are folded in both.
-/

set_option autoImplicit false
set_option relaxedAutoImplicit false

namespace ChanceDeck.Yaml.QuotedScalar

/-- The character that a letter after a backslash stands for. -/
def escape? (c : Char) : Option Char :=
  match c with
  | '0' => some '\x00'
  | 'a' => some '\x07'
  | 'b' => some '\x08'
  | 't' => some '\t'
  | '\t' => some '\t'
  | 'n' => some '\n'
  | 'v' => some '\x0B'
  | 'f' => some '\x0C'
  | 'r' => some '\r'
  | 'e' => some '\x1B'
  | ' ' => some ' '
  | '\x22' => some '\x22'
  | '/' => some '/'
  | '\\' => some '\\'
  | 'N' => some '\u0085'
  | '_' => some '\u00A0'
  | 'L' => some '\u2028'
  | 'P' => some '\u2029'
  | _ => none

/-- The character with a number given in hexadecimal digits. -/
def character? (digits : Text) : Option Char := do
  let n ← Decimal.magnitude? 16 0x10FFFF digits
  if 0xD800 ≤ n ∧ n ≤ 0xDFFF then none else some (Char.ofNat n)

/-- Adds a character after a gap to what has been read, last character first. -/
def push (out : Text) (gap : Gap) (c : Char) : Text :=
  c :: gap.text.reverse ++ out

/-- Reads on from a place between single quotation marks. -/
def scanSingle (place : Place) (out : Text) (gap : Gap) : Text → Option (Text × Cursor)
  | [] => none
  | '\x27' :: '\x27' :: rest => scanSingle (place.skip 2) (push out gap '\x27') .closed rest
  | '\x27' :: rest => some ((gap.text.reverse ++ out).reverse, ⟨place.skip 1, rest⟩)
  | '\r' :: '\n' :: rest => scanSingle (place.newLine 2) out (gap.lineEnd '\n') rest
  | c :: rest =>
    if isBreak c then scanSingle (place.newLine c.utf8Size) out (gap.lineEnd c) rest
    else if isBlank c then scanSingle (place.after c) out (gap.blank c) rest
    else if place.column = 0 && atDocumentMark (c :: rest) then none
    else scanSingle (place.after c) (push out gap c) .closed rest

/-- Reads on from a place between double quotation marks. -/
def scanDouble (place : Place) (out : Text) (gap : Gap) : Text → Option (Text × Cursor)
  | [] => none
  | '\x22' :: rest => some ((gap.text.reverse ++ out).reverse, ⟨place.skip 1, rest⟩)
  | '\\' :: '\r' :: '\n' :: rest =>
    scanDouble ((place.skip 1).newLine 2) (gap.text.reverse ++ out) (.broken none []) rest
  | '\\' :: 'x' :: a :: b :: rest => do
    let c ← character? [a, b]
    scanDouble (place.skip 4) (push out gap c) .closed rest
  | '\\' :: 'u' :: a :: b :: c :: d :: rest => do
    let c ← character? [a, b, c, d]
    scanDouble (place.skip 6) (push out gap c) .closed rest
  | '\\' :: 'U' :: a :: b :: c :: d :: e :: f :: g :: h :: rest => do
    let c ← character? [a, b, c, d, e, f, g, h]
    scanDouble (place.skip 10) (push out gap c) .closed rest
  | '\\' :: c :: rest =>
    if isBreak c then
      scanDouble ((place.skip 1).newLine c.utf8Size) (gap.text.reverse ++ out)
        (.broken none []) rest
    else
      match escape? c with
      | none => none
      | some c => scanDouble (place.skip 2) (push out gap c) .closed rest
  | '\r' :: '\n' :: rest => scanDouble (place.newLine 2) out (gap.lineEnd '\n') rest
  | c :: rest =>
    if isBreak c then scanDouble (place.newLine c.utf8Size) out (gap.lineEnd c) rest
    else if isBlank c then scanDouble (place.after c) out (gap.blank c) rest
    else if place.column = 0 && atDocumentMark (c :: rest) then none
    else scanDouble (place.after c) (push out gap c) .closed rest

/-- The text of the quoted scalar at a cursor, and the cursor after it. -/
def read (cursor : Cursor) : Option (Text × Cursor) :=
  match cursor.rest with
  | '\x27' :: rest => scanSingle (cursor.place.skip 1) [] .closed rest
  | '\x22' :: rest => scanDouble (cursor.place.skip 1) [] .closed rest
  | _ => none

end ChanceDeck.Yaml.QuotedScalar
