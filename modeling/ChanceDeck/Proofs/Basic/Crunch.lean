import ChanceDeck.Proofs.Basic.Lexeme

/-!
# Lines that are kept as they are

A keyword with a space after it is the longest with which a text begins, whatever follows the space
(`Keyword.longest?_append_space`). After `REM` and `DATA` nothing else in the line is looked at: each
character that follows becomes one byte (`crunch_append_space`).
-/

set_option autoImplicit false
set_option relaxedAutoImplicit false

namespace ChanceDeck

variable {word : Text} {token : UInt8}

/-- What follows `REM` or `DATA` and a space is the tail of the line. -/
theorem Lexeme.ofText_append_space
    (htoken : Keyword.token? (Keyword.upper word) = some token)
    (hlength : word.length ≤ Keyword.maxLength)
    (hkind : token = Keyword.remToken ∨ token = Keyword.dataToken)
    (hapostrophe : word.head? ≠ some '\x27') (rest : Text) :
    ofText (word ++ ' ' :: rest) = [keyword token word, tail (' ' :: rest)] := by
  have hheads : Keyword.Heads token word (' ' :: rest) :=
    ⟨Keyword.longest?_append_space htoken hlength rest, hapostrophe⟩
  have hscanned : Scanned none false _ _ := .keeping hheads hkind
  exact hscanned.scan_eq

/-- After `REM` or `DATA` and a space, every character becomes one byte. -/
theorem crunch_append_space
    (htoken : Keyword.token? (Keyword.upper word) = some token)
    (hlength : word.length ≤ Keyword.maxLength)
    (hkind : token = Keyword.remToken ∨ token = Keyword.dataToken)
    (hapostrophe : word.head? ≠ some '\x27') (rest : Text) :
    crunch (word ++ ' ' :: rest) = token :: (' ' :: rest).map Lexeme.charByte := by
  have helse : token ≠ Keyword.elseToken := by
    rcases hkind with rfl | rfl <;> decide
  rw [crunch, Lexeme.ofText_append_space htoken hlength hkind hapostrophe]
  simp [Lexeme.encode, Lexeme.bytes, helse]

theorem crunch_rem (rest : Text) :
    crunch ("REM".toList ++ ' ' :: rest) = 0x8E :: (' ' :: rest).map Lexeme.charByte :=
  crunch_append_space (by decide +kernel) (by decide) (Or.inl rfl) (by decide) rest

theorem crunch_data (rest : Text) :
    crunch ("DATA".toList ++ ' ' :: rest) = 0x83 :: (' ' :: rest).map Lexeme.charByte :=
  crunch_append_space (by decide +kernel) (by decide) (Or.inr rfl) (by decide) rest

end ChanceDeck
