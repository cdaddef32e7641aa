import ChanceDeck.Text.Utf8

/-!
# Raw texts

An operating system takes bytes for the texts of arguments and paths, and they may spell no text.
`RawText.text?` is the text that they spell, and `RawText.shown` what is written where they are
shown.
-/

set_option autoImplicit false
set_option relaxedAutoImplicit false

namespace ChanceDeck

/-- Bytes that an operating system takes for a text. -/
structure RawText where
  bytes : Bytes
  deriving DecidableEq, Repr

namespace RawText

/-- A text as it is handed to an operating system. -/
def ofText (text : Text) : RawText :=
  ⟨Utf8.encode text⟩

instance : Coe Text RawText :=
  ⟨ofText⟩

instance : Coe (List Text) (List RawText) :=
  ⟨List.map ofText⟩

/-- The text that the bytes spell, if they spell one. -/
def text? (raw : RawText) : Option Text :=
  Utf8.decode? raw.bytes

/-- The text that is shown for the bytes. -/
def shown (raw : RawText) : Text :=
  Utf8.lossy raw.bytes

end RawText

end ChanceDeck
