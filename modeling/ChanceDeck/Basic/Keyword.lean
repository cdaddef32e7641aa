import ChanceDeck.Text.Basic

/-!
# Keywords

The words that the interpreter stores as single bytes, in the order of their bytes from 0x80 on,
and the longest of them with which a text begins. Letter case does not matter. The comparison goes
through the upper-case mapping of all characters; of those outside ASCII only the few listed in
`upperChar` have ASCII images, so no other can be part of a keyword.
-/

set_option autoImplicit false
set_option relaxedAutoImplicit false

namespace ChanceDeck.Keyword

/-- The keywords in the order of their bytes. -/
def words : List Text :=
  ["END", "FOR", "NEXT", "DATA", "INPUT", "DIM", "READ", "LET", "GOTO", "RUN", "IF", "RESTORE",
    "GOSUB", "RETURN", "REM", "STOP", "WIDTH", "ELSE", "LINE", "EDIT", "ERROR", "RESUME", "OUT",
    "ON", "DSKO$", "OPEN", "CLOSE", "LOAD", "MERGE", "FILES", "SAVE", "LFILES", "LPRINT", "DEF",
    "POKE", "PRINT", "CONT", "LIST", "LLIST", "CLEAR", "CLOAD", "CSAVE", "TIME$", "DATE$", "DAY$",
    "COM", "MDM", "KEY", "CLS", "BEEP", "SOUND", "LCOPY", "PSET", "PRESET", "MOTOR", "MAX",
    "POWER", "CALL", "MENU", "IPL", "NAME", "KILL", "SCREEN", "NEW", "TAB(", "TO", "USING",
    "VARPTR", "ERL", "ERR", "STRING$", "INSTR", "DSKI$", "INKEY$", "CSRLIN", "OFF", "HIMEM",
    "THEN", "NOT", "STEP", "+", "-", "*", "/", "^", "AND", "OR", "XOR", "EQV", "IMP", "MOD", "\\",
    ">", "=", "<", "SGN", "INT", "ABS", "FRE", "INP", "LPOS", "POS", "SQR", "RND", "LOG", "EXP",
    "COS", "SIN", "TAN", "ATN", "PEEK", "EOF", "LOC", "LOF", "CINT", "CSNG", "CDBL", "FIX", "LEN",
    "STR$", "VAL", "ASC", "CHR$", "SPACE$", "LEFT$", "RIGHT$", "MID$", "'"].map String.toList

/-- The keywords with their bytes. -/
def table : List (Text × UInt8) :=
  words.zipIdx.map fun entry ↦ (entry.1, UInt8.ofNat (0x80 + entry.2))

/-- The length of the longest search. -/
def maxLength : Nat := 10

/-- The byte of `DATA`. -/
def dataToken : UInt8 := 0x83

/-- The byte of `REM`. -/
def remToken : UInt8 := 0x8E

/-- The byte of `ELSE`. -/
def elseToken : UInt8 := 0x91

/-- The byte of the apostrophe that begins a remark. -/
def apostropheToken : UInt8 := 0xFF

/-- The byte of a keyword in upper case. -/
def token? (word : Text) : Option UInt8 :=
  (table.find? (·.1 = word)).map Prod.snd

/-- The upper-case image of a character that is ASCII or has an ASCII image; any other character
stands for itself. -/
def upperChar (c : Char) : Text :=
  if 'a' ≤ c ∧ c ≤ 'z' then [c.toUpper]
  else
    match c with
    | '\u0131' => ['I']
    | '\u017F' => ['S']
    | '\u00DF' => ['S', 'S']
    | '\uFB00' => ['F', 'F']
    | '\uFB01' => ['F', 'I']
    | '\uFB02' => ['F', 'L']
    | '\uFB03' => ['F', 'F', 'I']
    | '\uFB04' => ['F', 'F', 'L']
    | '\uFB05' => ['S', 'T']
    | '\uFB06' => ['S', 'T']
    | c => [c]

/-- The upper-case image of a text. -/
def upper (text : Text) : Text :=
  text.flatMap upperChar

/-- The byte and the length of the longest keyword of at most a given length with which a text
begins. -/
def longestUpTo (text : Text) : Nat → Option (UInt8 × Nat)
  | 0 => none
  | length + 1 =>
    if text.length ≤ length then longestUpTo text length
    else
      match token? (upper (text.take (length + 1))) with
      | some token => some (token, length + 1)
      | none => longestUpTo text length

/-- The byte and the length of the longest keyword with which a text begins. -/
def longest? (text : Text) : Option (UInt8 × Nat) :=
  longestUpTo (text.take maxLength) maxLength

end ChanceDeck.Keyword
