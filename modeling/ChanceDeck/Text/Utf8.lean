import ChanceDeck.Text.Basic

/-!
# UTF-8

The bytes of a text, and the text of bytes. `Utf8.decodeValid` reads the longest beginning that
is well formed and gives back the bytes that it could not read; over-long forms, surrogates and
values above U+10FFFF are not well formed. `Utf8.lossy` reads on and writes U+FFFD for what it could
not read.
-/

set_option autoImplicit false
set_option relaxedAutoImplicit false

namespace ChanceDeck

/-- The contents of a file. -/
abbrev Bytes := List UInt8

namespace Utf8

/-- The bytes of a text. -/
def encode (text : Text) : Bytes :=
  text.flatMap String.utf8EncodeChar

/-- A byte that may follow the first byte of a character. -/
def isTail (b : UInt8) : Bool :=
  0x80 ≤ b && b ≤ 0xBF

/-- The six bits that a following byte carries. -/
def tailBits (b : UInt8) : Nat :=
  b.toNat % 64

/-- Whether two bytes may begin a character of three bytes. -/
def beginsThree (a b : UInt8) : Bool :=
  0xE0 ≤ a && a ≤ 0xEF && isTail b && (a != 0xE0 || 0xA0 ≤ b) && (a != 0xED || b ≤ 0x9F)

/-- Whether two bytes may begin a character of four bytes. -/
def beginsFour (a b : UInt8) : Bool :=
  0xF0 ≤ a && a ≤ 0xF4 && isTail b && (a != 0xF0 || 0x90 ≤ b) && (a != 0xF4 || b ≤ 0x8F)

/-- The text of the longest well-formed beginning, and the bytes after it. -/
def decodeValid : Bytes → Text × Bytes
  | [] => ([], [])
  | a :: rest =>
    if a < 0x80 then
      let (text, left) := decodeValid rest
      (Char.ofNat a.toNat :: text, left)
    else
      match rest with
      | [] => ([], [a])
      | b :: rest =>
        if 0xC2 ≤ a && a ≤ 0xDF && isTail b then
          let (text, left) := decodeValid rest
          (Char.ofNat (a.toNat % 32 * 64 + tailBits b) :: text, left)
        else
          match rest with
          | [] => ([], [a, b])
          | c :: rest =>
            if beginsThree a b && isTail c then
              let (text, left) := decodeValid rest
              (Char.ofNat ((a.toNat % 16 * 64 + tailBits b) * 64 + tailBits c) :: text, left)
            else
              match rest with
              | [] => ([], [a, b, c])
              | d :: rest =>
                if beginsFour a b && isTail c && isTail d then
                  let (text, left) := decodeValid rest
                  (Char.ofNat
                    (((a.toNat % 8 * 64 + tailBits b) * 64 + tailBits c) * 64 + tailBits d) ::
                      text, left)
                else ([], a :: b :: c :: d :: rest)

/-- The text of well-formed bytes. -/
def decode? (bytes : Bytes) : Option Text :=
  match decodeValid bytes with
  | (text, []) => some text
  | _ => none

/-- The character that a byte and those after it begin with, and how many of those after it belong to
it. Bytes that begin a character without ending it stand for one U+FFFD, and so does a byte that
begins none. -/
def first (a : UInt8) (rest : Bytes) : Char × Nat :=
  if a < 0x80 then (Char.ofNat a.toNat, 0)
  else
    match rest with
    | [] => ('\uFFFD', 0)
    | b :: rest =>
      if 0xC2 ≤ a && a ≤ 0xDF && isTail b then
        (Char.ofNat (a.toNat % 32 * 64 + tailBits b), 1)
      else if !beginsThree a b && !beginsFour a b then ('\uFFFD', 0)
      else
        match rest with
        | [] => ('\uFFFD', 1)
        | c :: rest =>
          if beginsThree a b && isTail c then
            (Char.ofNat ((a.toNat % 16 * 64 + tailBits b) * 64 + tailBits c), 2)
          else if !beginsFour a b || !isTail c then ('\uFFFD', 1)
          else
            match rest with
            | [] => ('\uFFFD', 2)
            | d :: _ =>
              if isTail d then
                (Char.ofNat
                  (((a.toNat % 8 * 64 + tailBits b) * 64 + tailBits c) * 64 + tailBits d), 3)
              else ('\uFFFD', 2)

/-- The characters of bytes after the first few, which belong to a character before them. -/
def lossyAfter : Nat → Bytes → Text
  | _, [] => []
  | 0, a :: rest =>
    let (c, more) := first a rest
    c :: lossyAfter more rest
  | more + 1, _ :: rest => lossyAfter more rest

/-- The text of bytes, with U+FFFD for those that are not well formed. -/
def lossy (bytes : Bytes) : Text :=
  lossyAfter 0 bytes

/-- The number of bytes in the longest well-formed beginning. -/
def validLength (bytes : Bytes) : Nat :=
  bytes.length - (decodeValid bytes).2.length

end Utf8

end ChanceDeck
