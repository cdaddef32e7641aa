import ChanceDeck.Basic.Crunch
import ChanceDeck.Text.Blank
import ChanceDeck.Text.Decimal
import ChanceDeck.Text.Hexadecimal
import ChanceDeck.Text.Lines

/-!
# Program images

The image of a program is what the interpreter keeps in memory: for each numbered line the address
of the next line, the line number, the crunched code and a zero byte, addresses and numbers low
byte first. Lines without a number are left out.

An image is linked in two passes. The first finds the address of each line, and the one after the
last, which must still fit in sixteen bits; it counts in words of 32 bits, which begin again at zero
past the highest. The second writes the lines, each with the address of the line after it.
-/

set_option autoImplicit false
set_option relaxedAutoImplicit false

namespace ChanceDeck

/-- A numbered line of a listing. -/
structure SourceLine where
  number : UInt16
  code : Text
  deriving DecidableEq, Repr

/-- A numbered line with its code crunched. -/
structure ImageLine where
  number : UInt16
  code : Bytes
  deriving DecidableEq, Repr

/-- Why a listing has no image. -/
inductive ImageError where
  | lineNumberOutOfRange (textLine : Nat) (digits : Text)
  | programTooLarge (endAddress : UInt32)
  deriving DecidableEq, Repr

/-- The wording of an image error. -/
def ImageError.message : ImageError → Text
  | .lineNumberOutOfRange textLine digits =>
    "text line ".toList ++ Decimal.natural textLine ++ ": line number ".toList ++ digits ++
      " does not fit in 16 bits".toList
  | .programTooLarge endAddress =>
    "tokenized program ends at 0x".toList ++ Hexadecimal.upper endAddress.toNat ++
      ", past the 64K address space".toList

namespace SourceLine

/-- The number and the code of a line of text; a line that does not begin with a digit has
neither. -/
def ofText (textLine : Nat) (line : Text) : Except ImageError (Option SourceLine) :=
  let trimmed := Text.trim line
  let digits := trimmed.takeWhile Char.isDigit
  if digits = [] then .ok none
  else
    match Decimal.natural? 65535 digits with
    | none => .error (.lineNumberOutOfRange textLine digits)
    | some number =>
      .ok (some ⟨UInt16.ofNat number, Text.trimStart (trimmed.dropWhile Char.isDigit)⟩)

/-- The numbered lines among lines of text; `textLine` counts the first of them. -/
def ofLines (textLine : Nat) : List Text → Except ImageError (List SourceLine)
  | [] => .ok []
  | line :: rest =>
    match ofText textLine line with
    | .error e => .error e
    | .ok source =>
      match ofLines (textLine + 1) rest with
      | .error e => .error e
      | .ok sources => .ok (source.toList ++ sources)

end SourceLine

namespace Image

/-- The address at which programs are usually loaded. -/
def defaultBase : UInt16 := 0x8001

/-- A line with its code crunched. -/
def crunchLine (line : SourceLine) : ImageLine :=
  ⟨line.number, crunch line.code⟩

/-- The bytes that a line takes, in a word: its head of four, its code and the zero at its end. -/
def lineSize (line : ImageLine) : UInt32 :=
  2 + 2 + UInt32.ofNat line.code.length + 1

/-- The addresses of lines from an address on, and the address after the last line. -/
def addresses (address : UInt32) : List ImageLine → List UInt32 × UInt32
  | [] => ([], address)
  | line :: rest =>
    let (later, last) := addresses (address + lineSize line) rest
    (address :: later, last)

/-- The two bytes of a number of sixteen bits, low byte first. -/
def littleEndian (n : UInt16) : Bytes :=
  [n.toUInt8, (n >>> 8).toUInt8]

/-- The bytes of a line whose head holds a given address. -/
def stored (next : UInt16) (line : ImageLine) : Bytes :=
  littleEndian next ++ littleEndian line.number ++ line.code ++ [0]

/-- The bytes of lines at given addresses, `last` being the address after them. -/
def link (addresses : List UInt32) (last : UInt32) (lines : List ImageLine) : Bytes :=
  lines.zipIdx.flatMap fun entry ↦
    stored (addresses[entry.2 + 1]?.getD last).toUInt16 entry.1

/-- The image of a listing at an address. -/
def ofText (text : Text) (base : UInt16) : Except ImageError Bytes :=
  match SourceLine.ofLines 1 (Text.lines text) with
  | .error e => .error e
  | .ok sources =>
    let lines := sources.map crunchLine
    let (addresses, endAddress) := addresses base.toUInt32 lines
    if 65535 < endAddress then .error (.programTooLarge endAddress)
    else .ok (link addresses endAddress lines)

end Image

end ChanceDeck
