import ChanceDeck.Text.Hexadecimal
import ChanceDeck.Text.Printable

/-!
# Quoted texts

A text between quotation marks, as messages show it. Every character that is not printable alone
is spelled: the tabulator, the line feed, the carriage return and the zero character by a letter
or digit after a backslash, the others by their number in braces.
-/

set_option autoImplicit false
set_option relaxedAutoImplicit false

namespace ChanceDeck.Quoted

/-- A character as it stands between quotation marks. -/
def spelling (c : Char) : Text :=
  match c with
  | '\x00' => ['\\', '0']
  | '\t' => ['\\', 't']
  | '\n' => ['\\', 'n']
  | '\r' => ['\\', 'r']
  | '\x22' => ['\\', '\x22']
  | '\\' => ['\\', '\\']
  | c =>
    if Text.isPrintable c then [c]
    else "\\u\x7b".toList ++ Hexadecimal.lower c.toNat ++ ['\x7d']

/-- A text between quotation marks. -/
def text (text : Text) : Text :=
  '\x22' :: text.flatMap spelling ++ ['\x22']

/-- Quoted texts in brackets, separated by commas. -/
def list (texts : List Text) : Text :=
  '[' :: Text.join ", ".toList (texts.map text) ++ [']']

end ChanceDeck.Quoted
