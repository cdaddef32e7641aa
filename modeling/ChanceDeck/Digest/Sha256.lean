import ChanceDeck.Text.Utf8

/-!
# SHA-256

The digest of bytes. The bytes are padded to blocks of 64; each block is spread over 64 words and
mixed into a state of eight words in 64 rounds.
-/

set_option autoImplicit false
set_option relaxedAutoImplicit false

namespace ChanceDeck.Sha256

/-- The constants of the rounds. -/
def roundConstants : List UInt32 :=
  [0x428a2f98, 0x71374491, 0xb5c0fbcf, 0xe9b5dba5, 0x3956c25b, 0x59f111f1, 0x923f82a4, 0xab1c5ed5,
    0xd807aa98, 0x12835b01, 0x243185be, 0x550c7dc3, 0x72be5d74, 0x80deb1fe, 0x9bdc06a7, 0xc19bf174,
    0xe49b69c1, 0xefbe4786, 0x0fc19dc6, 0x240ca1cc, 0x2de92c6f, 0x4a7484aa, 0x5cb0a9dc, 0x76f988da,
    0x983e5152, 0xa831c66d, 0xb00327c8, 0xbf597fc7, 0xc6e00bf3, 0xd5a79147, 0x06ca6351, 0x14292967,
    0x27b70a85, 0x2e1b2138, 0x4d2c6dfc, 0x53380d13, 0x650a7354, 0x766a0abb, 0x81c2c92e, 0x92722c85,
    0xa2bfe8a1, 0xa81a664b, 0xc24b8b70, 0xc76c51a3, 0xd192e819, 0xd6990624, 0xf40e3585, 0x106aa070,
    0x19a4c116, 0x1e376c08, 0x2748774c, 0x34b0bcb5, 0x391c0cb3, 0x4ed8aa4a, 0x5b9cca4f, 0x682e6ff3,
    0x748f82ee, 0x78a5636f, 0x84c87814, 0x8cc70208, 0x90befffa, 0xa4506ceb, 0xbef9a3f7, 0xc67178f2]

/-- The eight words that are mixed. -/
structure State where
  a : UInt32
  b : UInt32
  c : UInt32
  d : UInt32
  e : UInt32
  f : UInt32
  g : UInt32
  h : UInt32
  deriving DecidableEq, Repr

/-- The state before the first block. -/
def State.initial : State :=
  ⟨0x6a09e667, 0xbb67ae85, 0x3c6ef372, 0xa54ff53a, 0x510e527f, 0x9b05688c, 0x1f83d9ab,
    0x5be0cd19⟩

/-- The words of a state in order. -/
def State.words (s : State) : List UInt32 :=
  [s.a, s.b, s.c, s.d, s.e, s.f, s.g, s.h]

/-- The sum of two states, word by word. -/
def State.add (s t : State) : State :=
  ⟨s.a + t.a, s.b + t.b, s.c + t.c, s.d + t.d, s.e + t.e, s.f + t.f, s.g + t.g, s.h + t.h⟩

/-- A word turned right by some of its bits. -/
def turn (n : UInt32) (x : UInt32) : UInt32 :=
  (x >>> n) ||| (x <<< (32 - n))

/-- One round with a word of the block and the constant of the round. -/
def State.step (s : State) (input : UInt32 × UInt32) : State :=
  let sum1 := turn 6 s.e ^^^ turn 11 s.e ^^^ turn 25 s.e
  let choice := (s.e &&& s.f) ^^^ (~~~s.e &&& s.g)
  let mixed := s.h + sum1 + choice + input.2 + input.1
  let sum0 := turn 2 s.a ^^^ turn 13 s.a ^^^ turn 22 s.a
  let majority := (s.a &&& s.b) ^^^ (s.a &&& s.c) ^^^ (s.b &&& s.c)
  ⟨mixed + (sum0 + majority), s.a, s.b, s.c, s.d + mixed, s.e, s.f, s.g⟩

/-- The bytes of a word, highest first. -/
def bytesOfWord (w : UInt32) : Bytes :=
  [(w >>> 24).toUInt8, (w >>> 16).toUInt8, (w >>> 8).toUInt8, w.toUInt8]

/-- Words from bytes, four by four. -/
def wordsOfBytes : Bytes → List UInt32
  | a :: b :: c :: d :: rest =>
    ((a.toUInt32 <<< 24) ||| (b.toUInt32 <<< 16) ||| (c.toUInt32 <<< 8) ||| d.toUInt32) ::
      wordsOfBytes rest
  | _ => []

/-- The next word of a schedule whose words so far stand last first. -/
def nextWord (words : List UInt32) : UInt32 :=
  let early := words.getD 14 0
  let late := words.getD 1 0
  let sum0 := turn 7 early ^^^ turn 18 early ^^^ (early >>> 3)
  let sum1 := turn 17 late ^^^ turn 19 late ^^^ (late >>> 10)
  words.getD 15 0 + sum0 + words.getD 6 0 + sum1

/-- A schedule, last word first, with so many more words. -/
def extend (words : List UInt32) : Nat → List UInt32
  | 0 => words
  | count + 1 => extend (nextWord words :: words) count

/-- The state after a block of sixteen words. -/
def compress (state : State) (block : List UInt32) : State :=
  let schedule := (extend block.reverse 48).reverse
  state.add ((schedule.zip roundConstants).foldl State.step state)

/-- Bytes followed by a one bit, zeros and their length in bits, so that blocks come out even. -/
def pad (bytes : Bytes) : Bytes :=
  let zeros := (119 - bytes.length % 64) % 64
  let bits := bytes.length * 8
  bytes ++ 0x80 :: List.replicate zeros 0 ++
    bytesOfWord (UInt32.ofNat (bits / 0x100000000)) ++ bytesOfWord (UInt32.ofNat bits)

/-- The state after a number of blocks of sixteen words. -/
def absorb (state : State) (words : List UInt32) : Nat → State
  | 0 => state
  | blocks + 1 => absorb (compress state (words.take 16)) (words.drop 16) blocks

/-- The digest of bytes. -/
def digest (bytes : Bytes) : Bytes :=
  let words := wordsOfBytes (pad bytes)
  (absorb .initial words (words.length / 16)).words.flatMap bytesOfWord

end ChanceDeck.Sha256
