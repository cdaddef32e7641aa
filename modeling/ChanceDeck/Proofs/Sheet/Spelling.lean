import ChanceDeck.Proofs.Sheet.Reading
import Mathlib.Tactic.SplitIfs

/-!
# Texts that spell a table

A table can be written in many ways: each field bare or between quotation marks, each row ended by a
line feed, a carriage return or both, with blank lines anywhere and a byte order mark in front.
`SpellsField`, `SpellsRow`, `SpellsLines` and `SpellsSheet` say which texts spell a table, and
`ofText_of_spells` that every one of them is read back as that table.

A spelling is followed through the stages of the reader. A field ends in a stage in which a comma
or a line end ends it too (`leads_field`), so that the pieces of a row can be read one after another
(`leads_row`). After a row the reader stands as it does before the first one, so the rows come one by
one, blank lines between them or not (`map_fields_rowsFrom`).
-/

set_option autoImplicit false
set_option relaxedAutoImplicit false

namespace ChanceDeck.Sheet

/-! ### Spellings -/

/-- A text with every quotation mark in it written twice. -/
def doubled : Text → Text
  | [] => []
  | c :: rest => if c = '\x22' then '\x22' :: '\x22' :: doubled rest else c :: doubled rest

/-- The spellings of a field: it may always stand between quotation marks, and bare if no comma and
no line end is in it and it does not begin with a quotation mark. -/
inductive SpellsField (field : Text) : Text → Prop where
  | quoted : SpellsField field ('\x22' :: (doubled field ++ ['\x22']))
  | bare (hplain : ∀ c ∈ field, c ≠ ',' ∧ c ≠ '\r' ∧ c ≠ '\n')
      (hquote : field.head? ≠ some '\x22') : SpellsField field field

/-- The spellings of a row: those of its fields with commas between them. -/
inductive SpellsRow : List Text → Text → Prop where
  | single {field spelling : Text} : SpellsField field spelling → SpellsRow [field] spelling
  | cons {field spelling text : Text} {fields : List Text} : SpellsField field spelling →
      SpellsRow fields text → SpellsRow (field :: fields) (spelling ++ ',' :: text)

/-- The lines that spell a row. A blank line is no row, so that a row of one empty field needs its
quotation marks. -/
structure SpellsLine (fields : List Text) (text : Text) : Prop where
  spellsRow : SpellsRow fields text
  quoted : fields = [[]] → text = ['\x22', '\x22']

/-- What may end a line. -/
def lineEnds : List Text :=
  [['\n'], ['\r', '\n'], ['\r']]

/-- The lines that spell rows, blank lines among them; the last row may go without a line end. -/
inductive SpellsLines : List (List Text) → Text → Prop where
  | nil : SpellsLines [] []
  | blank {ending rest : Text} {rows : List (List Text)} : ending ∈ lineEnds →
      SpellsLines rows rest → SpellsLines rows (ending ++ rest)
  | ended {line ending rest : Text} {fields : List Text} {rows : List (List Text)} :
      SpellsLine fields line → ending ∈ lineEnds → SpellsLines rows rest →
      SpellsLines (fields :: rows) (line ++ (ending ++ rest))
  | last {line : Text} {fields : List Text} : SpellsLine fields line → SpellsLines [fields] line

/-- The texts that spell a table. A byte order mark may stand in front, and has to if the text
begins with that character anyway, as a bare first field can make it. -/
inductive SpellsSheet (rows : List (List Text)) : Text → Prop where
  | marked {text : Text} : SpellsLines rows text → SpellsSheet rows ('\uFEFF' :: text)
  | unmarked {text : Text} : SpellsLines rows text → text.head? ≠ some '\uFEFF' →
      SpellsSheet rows text

/-! ### Fields -/

/-- Whether the reader expects a field. -/
def Stage.Starts (stage : Stage) : Prop :=
  stage = .rowStart ∨ stage = .fieldStart

section Stages

variable {stage : Stage}

theorem Stage.Starts.action_quote (h : stage.Starts) : stage.action .quote = .drop .quoted := by
  rcases h with rfl | rfl <;> rfl

theorem Stage.Starts.action_other (h : stage.Starts) : stage.action .other = .push .bare := by
  rcases h with rfl | rfl <;> rfl

theorem Stage.Starts.ne_quoted (h : stage.Starts) : stage ≠ .quoted := by
  rcases h with rfl | rfl <;> decide

theorem Stage.action_comma (hopen : stage ≠ .quoted) : stage.action .comma = .endField := by
  cases stage with
  | quoted => exact absurd rfl hopen
  | _ => rfl

theorem Stage.action_lineEnd (hopen : stage ≠ .quoted) (hrow : stage ≠ .rowStart) :
    stage.action .carriageReturn = .endRow ∧ stage.action .lineFeed = .endRow := by
  cases stage with
  | quoted => exact absurd rfl hopen
  | rowStart => exact absurd rfl hrow
  | _ => exact ⟨rfl, rfl⟩

end Stages

section Rows

variable {stage : Stage} {field spelling text : Text} {fields : List Text}

theorem ofChar_ne_quote {c : Char} (hquote : c ≠ '\x22') : Mark.ofChar c ≠ .quote := by
  rw [Mark.ofChar, if_neg hquote]
  split_ifs <;> decide

theorem ofChar_of_plain {c : Char} (hplain : c ≠ ',' ∧ c ≠ '\r' ∧ c ≠ '\n') :
    Mark.ofChar c = if c = '\x22' then .quote else .other := by
  rw [Mark.ofChar, if_neg hplain.1, if_neg hplain.2.1, if_neg hplain.2.2]

theorem action_bare {c : Char} (hplain : c ≠ ',' ∧ c ≠ '\r' ∧ c ≠ '\n') :
    Stage.bare.action (Mark.ofChar c) = .push .bare := by
  rw [ofChar_of_plain hplain]
  split_ifs <;> rfl

theorem action_quoted {c : Char} (hquote : c ≠ '\x22') :
    Stage.quoted.action (Mark.ofChar c) = .push .quoted := by
  have hmark := ofChar_ne_quote hquote
  cases hc : Mark.ofChar c with
  | quote => exact absurd hc hmark
  | _ => rfl

/-- Between quotation marks, a doubled mark stands for one, and all else for itself. -/
theorem leads_doubled (draft : Draft Char) (field : Text) :
    Leads .ofChar .quoted draft (doubled field) .quoted (draft.pushAll field) := by
  induction field generalizing draft with
  | nil => exact .refl .ofChar .quoted draft
  | cons c rest ih =>
    rw [doubled]
    split_ifs with hquote
    · subst hquote
      have hclose : Leads .ofChar .quoted draft ['\x22'] .quoteSeen draft := leads_drop rfl draft
      have hreopen : Leads .ofChar .quoteSeen draft ['\x22'] .quoted (draft.push '\x22') :=
        leads_push rfl draft
      exact hclose.cons (hreopen.cons (ih (draft.push '\x22')))
    · exact (leads_push (action_quoted hquote) draft).cons (ih (draft.push c))

/-- A spelling of a field is read as the field, and the stage in which it ends is not within
quotation marks, nor before the row if anything was read. -/
theorem leads_field (hstage : stage.Starts) (h : SpellsField field spelling) (draft : Draft Char) :
    ∃ final, Leads .ofChar stage draft spelling final (draft.pushAll field) ∧ final ≠ .quoted ∧
      (final = .rowStart → stage = .rowStart ∧ spelling = []) := by
  cases h with
  | quoted =>
    have hopen : Leads .ofChar stage draft ['\x22'] .quoted draft :=
      leads_drop hstage.action_quote draft
    have hclose : Leads .ofChar .quoted (draft.pushAll field) ['\x22'] .quoteSeen _ :=
      leads_drop rfl (draft.pushAll field)
    exact ⟨.quoteSeen, hopen.cons ((leads_doubled draft field).trans hclose), by decide,
      fun hfinal ↦ absurd hfinal (by decide)⟩
  | bare hplain hquote =>
    cases field with
    | nil =>
      -- Nothing is read, and the reader stands where it stood, perhaps still before the row.
      exact ⟨stage, .refl .ofChar stage draft, hstage.ne_quoted, fun hrow ↦ ⟨hrow, rfl⟩⟩
    | cons c rest =>
      obtain ⟨hc, hrest⟩ := List.forall_mem_cons.mp hplain
      have hother : Mark.ofChar c = .other := by
        rw [ofChar_of_plain hc, if_neg]
        rintro rfl
        exact hquote rfl
      have hfirst : Leads .ofChar stage draft [c] .bare (draft.push c) :=
        leads_push (hother ▸ hstage.action_other) draft
      have hothers := leads_pushAll (fun c hmem ↦ action_bare (hrest c hmem)) (draft.push c)
      exact ⟨.bare, hfirst.cons hothers, by decide, fun hfinal ↦ absurd hfinal (by decide)⟩

/-! ### Rows -/

/-- A spelling of a row is read up to the end of its last field, and the stage in which it ends is
as for a field. -/
theorem leads_row (h : SpellsRow fields text) (hstage : stage.Starts) (draft : Draft Char)
    (hfield : draft.field = []) :
    ∃ final draft', Leads .ofChar stage draft text final draft' ∧ final ≠ .quoted ∧
      (final = .rowStart → stage = .rowStart ∧ text = []) ∧
      draft'.row.fields = draft.fields.reverse ++ fields := by
  induction h generalizing stage draft with
  | @single field spelling h =>
    obtain ⟨final, hleads, hopen, hblank⟩ := leads_field hstage h draft
    refine ⟨final, _, hleads, hopen, hblank, ?_⟩
    rw [Draft.fields_row, Draft.fields_pushAll, Draft.field_pushAll, hfield, List.append_nil,
      List.reverse_reverse]
  | @cons field spelling text fields h _ ih =>
    obtain ⟨middle, hleads, hopen, -⟩ := leads_field hstage h draft
    have hcomma : Leads .ofChar middle (draft.pushAll field) [','] .fieldStart _ :=
      leads_endField (Stage.action_comma hopen) (draft.pushAll field)
    obtain ⟨final, draft', hrest, hopen', hblank, hrow⟩ :=
      ih (Or.inr rfl) (draft.pushAll field).endField rfl
    refine ⟨final, draft', hleads.trans (hcomma.cons hrest), hopen', fun hfinal ↦ ?_, ?_⟩
    · exact absurd (hblank hfinal).1 (by decide)
    · rw [hrow, Draft.fields_endField, List.reverse_cons, Draft.fields_pushAll, Draft.field_pushAll,
        hfield, List.append_nil, List.reverse_reverse, List.append_assoc, List.singleton_append]

/-- Only a row of one empty field can be spelled by nothing at all. -/
theorem SpellsRow.eq_of_eq_nil (h : SpellsRow fields text) (htext : text = []) :
    fields = [[]] := by
  cases h with
  | single h =>
    cases h with
    | quoted => exact absurd htext (List.cons_ne_nil _ _)
    | bare => rw [htext]
  | cons =>
    exact absurd htext (List.append_ne_nil_of_right_ne_nil _ (List.cons_ne_nil _ _))

theorem SpellsLine.ne_nil (h : SpellsLine fields text) : text ≠ [] := by
  rintro rfl
  exact absurd (h.quoted (h.spellsRow.eq_of_eq_nil rfl)) (by decide)

/-- A line that spells a row is read as the row, and ends in a stage in which a line end and the end
of the text end it. -/
theorem SpellsLine.leads (h : SpellsLine fields text) (start : Place) :
    ∃ final draft', Leads .ofChar .rowStart (.begin start) text final draft' ∧
      final ≠ .quoted ∧ final ≠ .rowStart ∧ draft'.row.fields = fields := by
  obtain ⟨final, draft', hleads, hopen, hblank, hrow⟩ :=
    leads_row h.spellsRow (Or.inl rfl) (.begin start) rfl
  exact ⟨final, draft', hleads, hopen, fun hfinal ↦ h.ne_nil (hblank hfinal).2, hrow⟩

end Rows

/-! ### Tables -/

section Tables

variable {rows : List (List Text)} {text ending : Text}

theorem mem_lineEnds :
    ending ∈ lineEnds ↔ ending = ['\n'] ∨ ending = ['\r', '\n'] ∨ ending = ['\r'] := by
  simp only [lineEnds, List.mem_cons, List.not_mem_nil, or_false]

/-- A line end before a row is passed over. -/
theorem leads_blank (hending : ending ∈ lineEnds) (draft : Draft Char) :
    Leads .ofChar .rowStart draft ending .rowStart draft := by
  have hfeed : Leads .ofChar .rowStart draft ['\n'] .rowStart draft := leads_drop rfl draft
  have hreturn : Leads .ofChar .rowStart draft ['\r'] .rowStart draft := leads_drop rfl draft
  rcases mem_lineEnds.mp hending with rfl | rfl | rfl
  · exact hfeed
  · exact hreturn.cons hfeed
  · exact hreturn

/-- A line end after a row ends it, and the next row may begin. -/
theorem exists_rowsFrom_ending {stage : Stage} (hopen : stage ≠ .quoted) (hrow : stage ≠ .rowStart)
    (hending : ending ∈ lineEnds) (draft : Draft Char) (place : Place) (rest : Text) :
    ∃ place' start, rowsFrom .ofChar place stage draft (ending ++ rest) =
      draft.row :: rowsFrom .ofChar place' .rowStart (.begin start) rest := by
  obtain ⟨hreturn, hfeed⟩ := Stage.action_lineEnd hopen hrow
  rcases mem_lineEnds.mp hending with rfl | rfl | rfl
  · exact ⟨_, _, rowsFrom_endRow hfeed place draft rest⟩
  · -- The carriage return ends the row, and the line feed is then a blank line.
    obtain ⟨place', hplace'⟩ := leads_blank (mem_lineEnds.mpr (.inl rfl))
      (.begin (place.next (Mark.ofChar '\r'))) (place.next (Mark.ofChar '\r')) rest
    refine ⟨place', place.next (Mark.ofChar '\r'), ?_⟩
    rw [List.cons_append, rowsFrom_endRow hreturn, hplace']
  · exact ⟨_, _, rowsFrom_endRow hreturn place draft rest⟩

/-- Lines are read as the rows they spell, from whatever place on. -/
theorem map_fields_rowsFrom (h : SpellsLines rows text) (place start : Place) :
    (rowsFrom .ofChar place .rowStart (.begin start) text).map Row.fields = rows := by
  induction h generalizing place start with
  | nil => rfl
  | blank hending _ ih =>
    obtain ⟨place', hplace'⟩ := leads_blank hending (.begin start) place _
    rw [hplace', ih]
  | @ended line ending rest fields rows hline hending _ ih =>
    obtain ⟨final, draft, hleads, hopen, hrow, hfields⟩ := hline.leads start
    obtain ⟨place', hplace'⟩ := hleads place (ending ++ rest)
    obtain ⟨place'', start', hnext⟩ := exists_rowsFrom_ending hopen hrow hending draft place' rest
    rw [hplace', hnext, List.map_cons, hfields, ih]
  | @last line fields hline =>
    obtain ⟨final, draft, hleads, -, hrow, hfields⟩ := hline.leads start
    obtain ⟨place', hplace'⟩ := hleads place []
    rw [List.append_nil] at hplace'
    rw [hplace', rowsFrom_nil hrow, List.map_singleton, hfields]

/-- A text is read as the table it spells, and so are its bytes. -/
theorem ofText_of_spells (h : SpellsSheet rows text) (hrows : rows ≠ []) :
    ofText text = .ok rows ∧ ofBytes (Utf8.encode text) = .ok rows := by
  have hnonempty : nonempty rows = .ok rows := if_neg hrows
  have htext : ofText text = .ok rows := by
    cases h with
    | marked hlines => rw [ofText, Sheet.rows, map_fields_rowsFrom hlines, hnonempty]
    | unmarked hlines hmark =>
      rw [ofText_of_head? hmark, Sheet.rows, map_fields_rowsFrom hlines, hnonempty]
  exact ⟨htext, (ofBytes_encode text).trans htext⟩

/-- Three kinds of line ends, blank lines, a quoted field with all that needs quoting, a row of one
empty field and an empty field at the very end. -/
theorem ofText_of_spells_mixed :
    ∃ rows text, rows = [["Card".toList, "Text".toList], ["4".toList, "a, \x22b\x22\r\nc".toList],
        [[]], ["5\x22".toList, []]] ∧
      text = ("\uFEFF\nCard,\x22Text\x22\r\n\r" ++
        "4,\x22a, \x22\x22b\x22\x22\r\nc\x22\r\x22\x22\n5\x22,").toList ∧
      SpellsSheet rows text ∧ rows ≠ [] ∧
      ofText text = .ok rows ∧ ofBytes (Utf8.encode text) = .ok rows := by
  have hlabels : SpellsRow ["Card".toList, "Text".toList] "Card,\x22Text\x22".toList :=
    SpellsRow.cons (.bare (by simp) (by decide)) (.single .quoted)
  have hcard : SpellsRow ["4".toList, "a, \x22b\x22\r\nc".toList]
      "4,\x22a, \x22\x22b\x22\x22\r\nc\x22".toList :=
    SpellsRow.cons (.bare (by simp) (by decide)) (.single .quoted)
  have hempty : SpellsRow [[]] "\x22\x22".toList := .single .quoted
  have hlast : SpellsRow ["5\x22".toList, []] "5\x22,".toList :=
    SpellsRow.cons (.bare (by simp) (by decide)) (.single (.bare (by simp) (by decide)))
  have hlines := SpellsLines.blank (mem_lineEnds.mpr (.inl rfl))
    (.ended ⟨hlabels, by decide⟩ (mem_lineEnds.mpr (.inr (.inl rfl)))
      (.blank (mem_lineEnds.mpr (.inr (.inr rfl)))
        (.ended ⟨hcard, by decide⟩ (mem_lineEnds.mpr (.inr (.inr rfl)))
          (.ended ⟨hempty, by decide⟩ (mem_lineEnds.mpr (.inl rfl))
            (.last ⟨hlast, by decide⟩)))))
  have hsheet := SpellsSheet.marked hlines
  exact ⟨_, _, rfl, rfl, hsheet, by decide, ofText_of_spells hsheet (by decide)⟩

end Tables

end ChanceDeck.Sheet
