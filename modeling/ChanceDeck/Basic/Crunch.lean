import ChanceDeck.Basic.Keyword
import ChanceDeck.Text.Utf8

/-!
# Crunched lines

The interpreter stores the code of a line with its keywords replaced by single bytes. A line is
first cut into lexemes: characters of string literals, keywords, single characters, and the tail
that a remark or a `DATA` statement leaves as it is. Then each lexeme gives its bytes.
-/

set_option autoImplicit false
set_option relaxedAutoImplicit false

namespace ChanceDeck

/-- A piece of a line of code. -/
inductive Lexeme where
  /-- A quotation mark that opens or closes a string literal. -/
  | quote
  /-- A character inside a string literal. -/
  | literal (c : Char)
  /-- A keyword as it is spelled in the line. -/
  | keyword (token : UInt8) (spelling : Text)
  /-- A character that begins no keyword. -/
  | plain (c : Char)
  /-- What follows `REM` or `DATA`. -/
  | tail (text : Text)
  /-- An apostrophe outside string literals, and what follows it. -/
  | apostrophe (text : Text)
  deriving DecidableEq, Repr

namespace Lexeme

/-- The lexemes of a line from a place on. The first `pending` characters belong to the keyword
before; `previous` is the last character before the place. A quotation mark after a backslash opens
or closes nothing. -/
def scan (pending : Nat) (previous : Option Char) (inString : Bool) : Text → List Lexeme
  | [] => []
  | c :: rest =>
    if 0 < pending then scan (pending - 1) (some c) inString rest
    else if c = '\x22' ∧ previous ≠ some '\\' then quote :: scan 0 (some c) (!inString) rest
    else if inString then literal c :: scan 0 (some c) true rest
    else if c = '\x27' then [apostrophe rest]
    else
      match Keyword.longest? (c :: rest) with
      | none => plain c :: scan 0 (some c) false rest
      | some (token, length) =>
        let spelling := (c :: rest).take length
        if token = Keyword.remToken ∨ token = Keyword.dataToken then
          [keyword token spelling, tail ((c :: rest).drop length)]
        else keyword token spelling :: scan (length - 1) (some c) false rest

/-- The lexemes of a line. -/
def ofText (code : Text) : List Lexeme :=
  scan 0 none false code

/-- The byte of a character: its number up to U+00FF, a question mark above. -/
def charByte (c : Char) : UInt8 :=
  if c.toNat ≤ 0xFF then UInt8.ofNat c.toNat else 0x3F

/-- The byte of a colon. -/
def colon : UInt8 := 0x3A

/-- The bytes of a lexeme after a byte: `ELSE` gets a colon before it unless it stands first or
has one, and an apostrophe stands for a colon and `REM`. -/
def bytes (previous : Option UInt8) : Lexeme → Bytes
  | quote => [0x22]
  | literal c => [charByte c]
  | plain c => [charByte c]
  | keyword token _ =>
    if token = Keyword.elseToken ∧ previous ≠ none ∧ previous ≠ some colon then [colon, token]
    else [token]
  | tail text => text.map charByte
  | apostrophe _ => [colon, Keyword.remToken, Keyword.apostropheToken]

/-- The bytes of lexemes after a byte. -/
def encode (previous : Option UInt8) : List Lexeme → Bytes
  | [] => []
  | lexeme :: rest =>
    let here := lexeme.bytes previous
    here ++ encode (here.getLast?.or previous) rest

end Lexeme

/-- The bytes that stand for a line of code. -/
def crunch (code : Text) : Bytes :=
  Lexeme.encode none (Lexeme.ofText code)

end ChanceDeck
