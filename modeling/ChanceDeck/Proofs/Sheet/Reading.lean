import ChanceDeck.Proofs.Text.Utf8
import ChanceDeck.Sheet.Basic
import Mathlib.Data.List.Basic

/-!
# Reading a sheet symbol by symbol

What the reader does with a symbol depends on its stage and on what the symbol means
(`Stage.action`), and this is all that is said of it here (`rowsFrom_cons`). `Leads` says where
symbols take the reader in the middle of a row, whatever follows them, so that pieces of a row can be
read one after another.

A text can be read as it is or byte by byte. Only single bytes mean what commas, quotation marks and
line ends mean, and they are the bytes of these characters (`marks_encodeChar`); so both readings go
through the same stages (`map_fields_encode`) and give the same table (`ofBytes_encode`).
-/

set_option autoImplicit false
set_option relaxedAutoImplicit false

namespace ChanceDeck.Sheet

/-! ### One symbol -/

/-- What is done with a symbol: it is dropped or added to the field at hand, or it ends the field or
the row. -/
inductive Action where
  | drop (next : Stage)
  | push (next : Stage)
  | endField
  | endRow
  deriving DecidableEq

/-- What is done with a symbol that is met in a stage. -/
def Stage.action : Stage → Mark → Action
  | .quoted, .quote => .drop .quoteSeen
  | .quoted, _ => .push .quoted
  | .quoteSeen, .quote => .push .quoted
  | .rowStart, .carriageReturn => .drop .rowStart
  | .rowStart, .lineFeed => .drop .rowStart
  | .rowStart, .quote => .drop .quoted
  | .fieldStart, .quote => .drop .quoted
  | _, .comma => .endField
  | _, .carriageReturn => .endRow
  | _, .lineFeed => .endRow
  | _, _ => .push .bare

section Stages

variable {σ : Type} {mark : σ → Mark} {stage middle next final : Stage}
  {draft draft' draft'' : Draft σ} {symbol : σ} {symbols others : List σ}

theorem rowsFrom_cons (mark : σ → Mark) (place : Place) (stage : Stage) (draft : Draft σ)
    (symbol : σ) (rest : List σ) :
    rowsFrom mark place stage draft (symbol :: rest) =
      match stage.action (mark symbol) with
      | .drop next => rowsFrom mark (place.next (mark symbol)) next draft rest
      | .push next => rowsFrom mark (place.next (mark symbol)) next (draft.push symbol) rest
      | .endField => rowsFrom mark (place.next (mark symbol)) .fieldStart draft.endField rest
      | .endRow => draft.row :: rowsFrom mark (place.next (mark symbol)) .rowStart
          (.begin (place.next (mark symbol))) rest := by
  cases hmark : mark symbol <;> cases stage <;> simp only [rowsFrom, hmark, Stage.action]

theorem rowsFrom_nil (hstage : stage ≠ .rowStart) (mark : σ → Mark) (place : Place)
    (draft : Draft σ) : rowsFrom mark place stage draft [] = [draft.row] := by
  cases stage with
  | rowStart => exact absurd rfl hstage
  | _ => rfl

theorem rowsFrom_endRow (haction : stage.action (mark symbol) = .endRow) (place : Place)
    (draft : Draft σ) (rest : List σ) :
    rowsFrom mark place stage draft (symbol :: rest) =
      draft.row :: rowsFrom mark (place.next (mark symbol)) .rowStart
        (.begin (place.next (mark symbol))) rest := by
  rw [rowsFrom_cons, haction]

/-! ### Stretches of a row -/

/-- Symbols lead the reader from one stage of a row to another, whatever follows them. -/
def Leads (mark : σ → Mark) (stage : Stage) (draft : Draft σ) (symbols : List σ) (final : Stage)
    (draft' : Draft σ) : Prop :=
  ∀ place rest, ∃ place', rowsFrom mark place stage draft (symbols ++ rest) =
    rowsFrom mark place' final draft' rest

theorem Leads.refl (mark : σ → Mark) (stage : Stage) (draft : Draft σ) :
    Leads mark stage draft [] stage draft :=
  fun place _ ↦ ⟨place, rfl⟩

theorem Leads.trans (hfirst : Leads mark stage draft symbols middle draft')
    (hlast : Leads mark middle draft' others final draft'') :
    Leads mark stage draft (symbols ++ others) final draft'' := by
  intro place rest
  obtain ⟨place', hplace'⟩ := hfirst place (others ++ rest)
  obtain ⟨place'', hplace''⟩ := hlast place' rest
  exact ⟨place'', by rw [List.append_assoc, hplace', hplace'']⟩

theorem Leads.cons (hfirst : Leads mark stage draft [symbol] middle draft')
    (hlast : Leads mark middle draft' symbols final draft'') :
    Leads mark stage draft (symbol :: symbols) final draft'' :=
  hfirst.trans hlast

theorem leads_drop (haction : stage.action (mark symbol) = .drop next) (draft : Draft σ) :
    Leads mark stage draft [symbol] next draft := by
  intro place rest
  exact ⟨place.next (mark symbol), by rw [List.singleton_append, rowsFrom_cons, haction]⟩

theorem leads_push (haction : stage.action (mark symbol) = .push next) (draft : Draft σ) :
    Leads mark stage draft [symbol] next (draft.push symbol) := by
  intro place rest
  exact ⟨place.next (mark symbol), by rw [List.singleton_append, rowsFrom_cons, haction]⟩

theorem leads_endField (haction : stage.action (mark symbol) = .endField) (draft : Draft σ) :
    Leads mark stage draft [symbol] .fieldStart draft.endField := by
  intro place rest
  exact ⟨place.next (mark symbol), by rw [List.singleton_append, rowsFrom_cons, haction]⟩

/-- Adds symbols to the field at hand. -/
def Draft.pushAll (draft : Draft σ) (symbols : List σ) : Draft σ :=
  symbols.foldl Draft.push draft

/-- A stage in which symbols are added and that is not left by adding them. -/
theorem leads_pushAll (haction : ∀ symbol ∈ symbols, stage.action (mark symbol) = .push stage)
    (draft : Draft σ) : Leads mark stage draft symbols stage (draft.pushAll symbols) := by
  induction symbols generalizing draft with
  | nil => exact .refl mark stage draft
  | cons symbol rest ih =>
    obtain ⟨hsymbol, hrest⟩ := List.forall_mem_cons.mp haction
    exact (leads_push hsymbol draft).cons (ih hrest (draft.push symbol))

theorem Draft.fields_pushAll : (draft.pushAll symbols).fields = draft.fields := by
  induction symbols generalizing draft with
  | nil => rfl
  | cons symbol rest ih => exact ih

theorem Draft.field_pushAll : (draft.pushAll symbols).field = symbols.reverse ++ draft.field := by
  induction symbols generalizing draft with
  | nil => rfl
  | cons symbol rest ih =>
    have hrest : (draft.pushAll (symbol :: rest)).field =
        rest.reverse ++ (symbol :: draft.field) := ih
    rw [hrest, List.reverse_cons, List.append_assoc, List.singleton_append]

theorem Draft.fields_endField :
    draft.endField.fields = draft.field.reverse :: draft.fields :=
  rfl

theorem Draft.fields_row : draft.row.fields = draft.fields.reverse ++ [draft.field.reverse] := by
  rw [row, fields_endField, List.reverse_cons]

end Stages

/-! ### Texts and their bytes -/

theorem ofByte_of_le {b : UInt8} (hb : 128 ≤ b.toNat) : Mark.ofByte b = .other := by
  have hne : ∀ a : UInt8, a.toNat < 128 → b ≠ a := by
    rintro a ha rfl
    omega
  rw [Mark.ofByte, if_neg (hne _ (by decide)), if_neg (hne _ (by decide)),
    if_neg (hne _ (by decide)), if_neg (hne _ (by decide))]

theorem ofChar_of_le {c : Char} (hc : 128 ≤ c.toNat) : Mark.ofChar c = .other := by
  have hne : ∀ a : Char, a.toNat < 128 → c ≠ a := by
    rintro a ha rfl
    omega
  rw [Mark.ofChar, if_neg (hne _ (by decide)), if_neg (hne _ (by decide)),
    if_neg (hne _ (by decide)), if_neg (hne _ (by decide))]

theorem ofByte_ofNat : ∀ n < 128, Mark.ofByte (UInt8.ofNat n) = Mark.ofChar (Char.ofNat n) := by
  decide

/-- A character has one byte of the same meaning, or neither it nor any of its bytes has a meaning
of its own. -/
theorem marks_encodeChar (c : Char) :
    (∃ b, String.utf8EncodeChar c = [b] ∧ Mark.ofByte b = Mark.ofChar c) ∨
      Mark.ofChar c = .other ∧ ∀ b ∈ String.utf8EncodeChar c, Mark.ofByte b = .other := by
  rcases Utf8.encodeChar_cases c with ⟨hc, hbytes⟩ | ⟨hc, hbytes⟩
  · refine Or.inl ⟨_, hbytes, ?_⟩
    rw [ofByte_ofNat c.toNat hc, Char.ofNat_toNat]
  · exact Or.inr ⟨ofChar_of_le hc, fun b hb ↦ ofByte_of_le (hbytes b hb)⟩

/-- A row of bytes holds the bytes of a row of characters. -/
structure Draft.Encodes (bytes : Draft UInt8) (text : Draft Char) : Prop where
  fields : bytes.fields = text.fields.map Utf8.encode
  field : bytes.field.reverse = Utf8.encode text.field.reverse

namespace Draft.Encodes

variable {bytes : Draft UInt8} {text : Draft Char}

theorem begin (start start' : Place) : Encodes (.begin start) (.begin start') :=
  ⟨rfl, rfl⟩

theorem pushAll (h : Encodes bytes text) (c : Char) :
    Encodes (bytes.pushAll (String.utf8EncodeChar c)) (text.push c) := by
  refine ⟨by rw [fields_pushAll, h.fields]; rfl, ?_⟩
  rw [field_pushAll, List.reverse_append, List.reverse_reverse, h.field, push, List.reverse_cons,
    Utf8.encode, Utf8.encode, List.flatMap_append, List.flatMap_singleton]

theorem endField (h : Encodes bytes text) : Encodes bytes.endField text.endField := by
  refine ⟨?_, rfl⟩
  rw [fields_endField, fields_endField, h.field, h.fields, List.map_cons]

theorem fields_row (h : Encodes bytes text) :
    bytes.row.fields = text.row.fields.map Utf8.encode := by
  rw [Draft.fields_row, Draft.fields_row, h.field, h.fields, List.map_append, List.map_reverse,
    List.map_singleton]

end Draft.Encodes

/-- Symbols without a meaning of their own are added to the field at hand, all in the stage that the
first of them leads to. -/
theorem leads_others {σ : Type} {mark : σ → Mark} {symbols : List σ} (stage : Stage)
    (draft : Draft σ) (hne : symbols ≠ []) (hother : ∀ symbol ∈ symbols, mark symbol = .other) :
    ∃ next, stage.action .other = .push next ∧
      Leads mark stage draft symbols next (draft.pushAll symbols) := by
  obtain ⟨next, haction, hnext⟩ :
      ∃ next, stage.action .other = .push next ∧ next.action .other = .push next := by
    cases stage <;> exact ⟨_, rfl, rfl⟩
  cases symbols with
  | nil => exact absurd rfl hne
  | cons symbol rest =>
    obtain ⟨hsymbol, hrest⟩ := List.forall_mem_cons.mp hother
    refine ⟨next, haction, (leads_push (hsymbol ▸ haction) draft).cons (leads_pushAll ?_ _)⟩
    intro symbol hmem
    rw [hrest symbol hmem, hnext]

/-- The bytes of a text are read as rows of the bytes of its fields, wherever the reader stands. -/
theorem map_fields_encode (text : Text) {bytes : Draft UInt8} {draft : Draft Char} {stage : Stage}
    (h : bytes.Encodes draft) (place place' : Place) :
    (rowsFrom .ofByte place stage bytes (Utf8.encode text)).map Row.fields =
      (rowsFrom .ofChar place' stage draft text).map fun row ↦ row.fields.map Utf8.encode := by
  induction text generalizing stage bytes draft place place' with
  | nil =>
    by_cases hstage : stage = .rowStart
    · rw [hstage]
      rfl
    · have hnil : Utf8.encode [] = [] := rfl
      rw [hnil, rowsFrom_nil hstage, rowsFrom_nil hstage, List.map_singleton, List.map_singleton,
        h.fields_row]
  | cons c rest ih =>
    have hcons : Utf8.encode (c :: rest) = String.utf8EncodeChar c ++ Utf8.encode rest := rfl
    have hpush := h.pushAll c
    rw [hcons, rowsFrom_cons .ofChar]
    rcases marks_encodeChar c with ⟨b, hbytes, hmark⟩ | ⟨hchar, hbytes⟩
    · -- Both readers take one symbol, and do the same with it.
      rw [hbytes] at hpush
      rw [hbytes, List.singleton_append, rowsFrom_cons, hmark]
      cases stage.action (Mark.ofChar c) with
      | drop next => exact ih h _ _
      | push next => exact ih hpush _ _
      | endField => exact ih h.endField _ _
      | endRow =>
        simp only [List.map_cons, h.fields_row]
        rw [ih (.begin _ _)]
    · -- A character is added where all its bytes are.
      obtain ⟨next, haction, hleads⟩ :=
        leads_others stage bytes String.utf8EncodeChar_ne_nil hbytes
      obtain ⟨after, hafter⟩ := hleads place (Utf8.encode rest)
      rw [hafter, hchar, haction]
      exact ih hpush _ _

theorem decodeFields_encode (field : Nat) (texts : List Text) :
    decodeFields field (texts.map Utf8.encode) = .ok texts := by
  induction texts generalizing field with
  | nil => rfl
  | cons text rest ih => rw [List.map_cons, decodeFields, Utf8.decode?_encode, ih]

theorem decodeRows_encode (record : Nat) {rows : List (Row UInt8)} {texts : List (List Text)}
    (h : rows.map Row.fields = texts.map (List.map Utf8.encode)) :
    decodeRows record rows = .ok texts := by
  induction rows generalizing record texts with
  | nil =>
    rw [List.map_nil, eq_comm, List.map_eq_nil_iff] at h
    rw [h, decodeRows]
  | cons row rest ih =>
    obtain ⟨first, others, htexts, hrow, hrest⟩ := List.map_eq_cons_iff.mp h.symm
    rw [decodeRows, ← hrow, decodeFields_encode, ih _ hrest.symm, htexts]

/-! ### Byte order marks -/

theorem ofText_of_head? {text : Text} (h : text.head? ≠ some '\uFEFF') :
    ofText text = nonempty ((rows .ofChar ⟨0, 1⟩ text).map Row.fields) := by
  unfold ofText
  split
  · exact absurd rfl h
  · rfl

theorem ofBytes_of_not_isPrefix {bytes : Bytes} (h : ¬[0xEF, 0xBB, 0xBF] <+: bytes) :
    ofBytes bytes =
      match decodeRows 0 (rows .ofByte ⟨0, 1⟩ bytes) with
      | .error e => .error e
      | .ok rows => nonempty rows := by
  unfold ofBytes
  split
  · exact absurd (List.prefix_append [0xEF, 0xBB, 0xBF] _) h
  · rfl

theorem encodeChar_mark : String.utf8EncodeChar '\uFEFF' = [0xEF, 0xBB, 0xBF] := by
  decide

/-- The bytes of a text begin with those of a byte order mark only if the text begins with it. -/
theorem head?_of_isPrefix_encode {text : Text} (h : [0xEF, 0xBB, 0xBF] <+: Utf8.encode text) :
    text.head? = some '\uFEFF' := by
  obtain ⟨bytes, hbytes⟩ := h
  have hdecode := Utf8.decode?_encode text
  rw [← hbytes, ← encodeChar_mark, Utf8.decode?, Utf8.decodeValid_encodeChar] at hdecode
  split at hdecode
  · next heq =>
    rw [← Option.some.inj hdecode, ← (Prod.mk.inj heq).1, List.head?_cons]
  · exact absurd hdecode (Option.some_ne_none text).symm

/-- The bytes of a text are the same table as the text. -/
theorem ofBytes_encode (text : Text) : ofBytes (Utf8.encode text) = ofText text := by
  have hdecode : ∀ (place place' : Place) (text : Text),
      decodeRows 0 (rows .ofByte place (Utf8.encode text)) =
        .ok ((rows .ofChar place' text).map Row.fields) := by
    intro place place' text
    refine decodeRows_encode 0 ?_
    rw [List.map_map]
    exact map_fields_encode text (.begin _ _) place place'
  by_cases hmark : text.head? = some '\uFEFF'
  · obtain ⟨rest, rfl⟩ := List.head?_eq_some_iff.mp hmark
    have hencode : Utf8.encode ('\uFEFF' :: rest) = 0xEF :: 0xBB :: 0xBF :: Utf8.encode rest := by
      rw [Utf8.encode, List.flatMap_cons, encodeChar_mark]
      rfl
    rw [hencode, ofBytes, hdecode ⟨3, 1⟩ ⟨1, 1⟩, ofText]
  · rw [ofBytes_of_not_isPrefix (mt head?_of_isPrefix_encode hmark), hdecode ⟨0, 1⟩ ⟨0, 1⟩,
      ofText_of_head? hmark]

end ChanceDeck.Sheet
