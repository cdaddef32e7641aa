import ChanceDeck.Proofs.Settings.Document
import ChanceDeck.Proofs.Text.Decimal
import ChanceDeck.Settings.Canonical

/-!
# One document for each canonical form

Each part of a canonical form tells where it ends: a character of a text by its spelling, a text by
its closing mark, a number by what follows it if that is no digit (`Decimal.Stops`), lists and
objects by their brackets. So if the canonical forms of two documents without floats begin the same
text, the documents are equal and so is what follows (`Document.FloatFree.splits`); in particular the
canonical form tells such a document (`Document.FloatFree.canonical_inj`).
-/

set_option autoImplicit false
set_option relaxedAutoImplicit false

namespace ChanceDeck

namespace Document

open Decimal (Stops)

variable {rest others : Text}

/-! ### Characters in quotation marks -/

/-- The character that four digits stand for. -/
def ofDigits? (digits : Text) : Option Char :=
  (Decimal.readDigits 16 0xFFFF 0 digits).toOption.map Char.ofNat

/-- The first character that is spelled in a text, and what follows its spelling. -/
def unspell? : Text → Option (Char × Text)
  | '\\' :: '\x22' :: rest => some ('\x22', rest)
  | '\\' :: '\\' :: rest => some ('\\', rest)
  | '\\' :: 'b' :: rest => some ('\x08', rest)
  | '\\' :: 't' :: rest => some ('\t', rest)
  | '\\' :: 'n' :: rest => some ('\n', rest)
  | '\\' :: 'f' :: rest => some ('\x0C', rest)
  | '\\' :: 'r' :: rest => some ('\r', rest)
  | '\\' :: 'u' :: a :: b :: c :: d :: rest => (ofDigits? [a, b, c, d]).map (·, rest)
  | '\\' :: _ => none
  | c :: rest => some (c, rest)
  | [] => none

theorem unspell?_of_ne {c : Char} (h : c ≠ '\\') (rest : Text) :
    unspell? (c :: rest) = some (c, rest) := by
  rw [unspell?] <;> simp [h]

/-- A control character is spelled by four digits that stand for it. -/
theorem digits_of_control : ∀ n < 0x20, (Hexadecimal.padded 4 (Hexadecimal.lower n)).length = 4 ∧
    ofDigits? (Hexadecimal.padded 4 (Hexadecimal.lower n)) = some (Char.ofNat n) := by
  decide

theorem unspell?_control {c : Char} (h : c.toNat < 0x20) (rest : Text) :
    unspell? ('\\' :: 'u' :: Hexadecimal.padded 4 (Hexadecimal.lower c.toNat) ++ rest) =
      some (c, rest) := by
  obtain ⟨hlength, hvalue⟩ := digits_of_control c.toNat h
  obtain ⟨w, x, y, z, hdigits⟩ := List.length_eq_four.mp hlength
  rw [hdigits] at hvalue ⊢
  show (ofDigits? [w, x, y, z]).map (·, rest) = _
  rw [hvalue, Char.ofNat_toNat]
  rfl

/-- The spelling of a character tells the character and where the spelling ends. -/
theorem unspell?_spelling (c : Char) (rest : Text) :
    unspell? (spelling c ++ rest) = some (c, rest) := by
  rw [spelling.eq_def]
  split
  case h_8 h _ _ _ _ _ =>
    split_ifs with hcontrol
    · exact unspell?_control hcontrol rest
    · exact unspell?_of_ne ‹_› rest
  all_goals rfl

/-- No spelling begins with the mark that closes a text. -/
theorem spelling_append_ne_quote (c : Char) (rest others : Text) :
    spelling c ++ rest ≠ '\x22' :: others := by
  intro h
  have hunspelled := congrArg unspell? h
  rw [unspell?_spelling, unspell?_of_ne (by decide)] at hunspelled
  obtain ⟨rfl, -⟩ := Prod.mk.inj (Option.some.inj hunspelled)
  exact absurd (List.cons.inj h).1 (by decide)

/-- A text in quotation marks tells the text and where it ends. -/
theorem quoted_append_inj {text other : Text} (h : quoted text ++ rest = quoted other ++ others) :
    text = other ∧ rest = others := by
  simp only [quoted, List.cons_append, List.append_assoc, List.nil_append, List.cons.injEq,
    true_and] at h
  induction text generalizing other with
  | nil =>
    cases other with
    | nil => exact ⟨rfl, (List.cons.inj h).2⟩
    | cons d other =>
      rw [List.flatMap_cons, List.append_assoc] at h
      exact absurd h.symm (spelling_append_ne_quote d _ _)
  | cons c text ih =>
    rw [List.flatMap_cons, List.append_assoc] at h
    cases other with
    | nil => exact absurd h (spelling_append_ne_quote c _ _)
    | cons d other =>
      have hunspelled := congrArg unspell? h
      rw [List.flatMap_cons, List.append_assoc, unspell?_spelling, unspell?_spelling] at hunspelled
      obtain ⟨rfl, htail⟩ := Prod.mk.inj (Option.some.inj hunspelled)
      obtain ⟨rfl, hsame⟩ := ih htail
      exact ⟨rfl, hsame⟩

/-! ### Parts between commas -/

/-- What follows the first of joined parts before a closing mark: the mark, or a comma and the other
parts. -/
def afterFirst (close : Char) (rest : Text) : List Text → Text
  | [] => close :: rest
  | part :: parts => ',' :: (Text.join [','] (part :: parts) ++ close :: rest)

theorem join_cons_append (close : Char) (rest part : Text) (parts : List Text) :
    Text.join [','] (part :: parts) ++ close :: rest = part ++ afterFirst close rest parts := by
  cases parts with
  | nil => rw [Text.join_singleton, afterFirst]
  | cons next parts =>
    rw [Text.join_cons_cons, afterFirst, List.append_assoc, List.append_assoc,
      List.singleton_append]

theorem stops_afterFirst {close : Char} (hclose : close.isDigit = false) (rest : Text)
    (parts : List Text) : Stops (afterFirst close rest parts) := by
  cases parts with
  | nil => exact .cons hclose rest
  | cons part parts => exact .cons (by decide) _

/-- Whether a written value tells, among the values of a kind, which one it is and where it ends. -/
def Splits {α : Type} (write : α → Text) (kind : α → Prop) (value : α) : Prop :=
  ∀ ⦃other : α⦄, kind other → ∀ ⦃rest others : Text⦄, Stops rest → Stops others →
    write value ++ rest = write other ++ others → value = other ∧ rest = others

/-- Written values between commas and before a closing mark tell which values they are and where
they end, if each of them does and none begins with the mark. -/
theorem join_append_inj {α : Type} {write : α → Text} {kind : α → Prop} {close : Char}
    (hcomma : close ≠ ',') (hdigit : close.isDigit = false)
    (hbegins : ∀ value, kind value → ∀ rest others, write value ++ rest ≠ close :: others)
    {values found : List α} (hvalues : ∀ value ∈ values, kind value)
    (hfound : ∀ value ∈ found, kind value) (hsplits : ∀ value ∈ values, Splits write kind value)
    (h : Text.join [','] (values.map write) ++ close :: rest =
      Text.join [','] (found.map write) ++ close :: others) :
    values = found ∧ rest = others := by
  induction values generalizing found with
  | nil =>
    cases found with
    | nil => exact ⟨rfl, (List.cons.inj h).2⟩
    | cons other found =>
      rw [List.map_cons, join_cons_append] at h
      exact absurd h.symm (hbegins other (hfound other List.mem_cons_self) _ _)
  | cons value values ih =>
    rw [List.map_cons, join_cons_append] at h
    cases found with
    | nil => exact absurd h (hbegins value (hvalues value List.mem_cons_self) _ _)
    | cons other found =>
      obtain ⟨hother, hlater⟩ := List.forall_mem_cons.mp hfound
      obtain ⟨hsplit, hsplitting⟩ := List.forall_mem_cons.mp hsplits
      have hkinds := (List.forall_mem_cons.mp hvalues).2
      rw [List.map_cons, join_cons_append] at h
      obtain ⟨rfl, hafter⟩ := hsplit hother (stops_afterFirst hdigit rest _)
        (stops_afterFirst hdigit others _) h
      cases values with
      | nil =>
        cases found with
        | nil => exact ⟨rfl, (List.cons.inj hafter).2⟩
        | cons next found => exact absurd (List.cons.inj hafter).1 hcomma
      | cons next values =>
        cases found with
        | nil => exact absurd (List.cons.inj hafter).1.symm hcomma
        | cons following found =>
          obtain ⟨hsame, hrest⟩ := ih hkinds hlater hsplitting (List.cons.inj hafter).2
          exact ⟨congrArg _ hsame, hrest⟩

/-! ### Documents without floats -/

/-- Whether there are no floats in a document. -/
inductive FloatFree : Document → Prop where
  | null : FloatFree .null
  | boolean (value : Bool) : FloatFree (.boolean value)
  | integer (value : Int) : FloatFree (.integer value)
  | text (value : Text) : FloatFree (.text value)
  | list {items : List Document} : (∀ item ∈ items, FloatFree item) → FloatFree (.list items)
  | object {entries : List (Text × Document)} : (∀ entry ∈ entries, FloatFree entry.2) →
      FloatFree (.object entries)

/-- The canonical form of an entry. -/
def canonicalEntry (entry : Text × Document) : Text :=
  quoted entry.1 ++ ':' :: canonical entry.2

theorem canonicalItems_eq_join (items : List Document) :
    canonicalItems items = Text.join [','] (items.map canonical) := by
  induction items with
  | nil => rfl
  | cons item rest ih =>
    cases rest with
    | nil => rw [canonicalItems, List.map_singleton, Text.join_singleton]
    | cons next rest =>
      have hcons : canonicalItems (item :: next :: rest) =
          canonical item ++ ',' :: canonicalItems (next :: rest) := rfl
      rw [hcons, ih, List.map_cons, List.map_cons, List.map_cons, Text.join_cons_cons,
        List.append_assoc, List.singleton_append]

theorem canonicalEntries_eq_join (entries : List (Text × Document)) :
    canonicalEntries entries = Text.join [','] (entries.map canonicalEntry) := by
  induction entries with
  | nil => rfl
  | cons entry rest ih =>
    cases rest with
    | nil => rw [canonicalEntries, List.map_singleton, Text.join_singleton, canonicalEntry]
    | cons next rest =>
      have hcons : canonicalEntries (entry :: next :: rest) =
          canonicalEntry entry ++ ',' :: canonicalEntries (next :: rest) := rfl
      rw [hcons, ih, List.map_cons, List.map_cons, List.map_cons, Text.join_cons_cons,
        List.append_assoc, List.singleton_append]

theorem canonical_list_append (items : List Document) (rest : Text) :
    canonical (.list items) ++ rest =
      '[' :: (Text.join [','] (items.map canonical) ++ ']' :: rest) := by
  rw [canonical, canonicalItems_eq_join, List.append_assoc]
  rfl

theorem canonical_object_append (entries : List (Text × Document)) (rest : Text) :
    canonical (.object entries) ++ rest =
      '\x7b' :: (Text.join [','] (entries.map canonicalEntry) ++ '\x7d' :: rest) := by
  rw [canonical, canonicalEntries_eq_join, List.append_assoc]
  rfl

/-- What a document is, as far as the first character of its canonical form tells. -/
inductive Form where
  | null
  | boolean (value : Bool)
  | integer
  | text
  | list
  | object

/-- The form that begins with a character. -/
def Form.ofChar? (c : Char) : Option Form :=
  if c = '-' ∨ c.isDigit = true then some .integer
  else if c = 'n' then some .null
  else if c = 't' then some (.boolean true)
  else if c = 'f' then some (.boolean false)
  else if c = '\x22' then some .text
  else if c = '[' then some .list
  else if c = '\x7b' then some .object
  else none

/-- The form of a document; a float has none. -/
def form? : Document → Option Form
  | .null => some .null
  | .boolean value => some (.boolean value)
  | .integer _ => some .integer
  | .float _ => none
  | .text _ => some .text
  | .list _ => some .list
  | .object _ => some .object

/-- The first character of a canonical form tells the form of the document. -/
theorem FloatFree.exists_canonical_eq_cons {value : Document} (h : value.FloatFree) :
    ∃ c rest, value.canonical = c :: rest ∧ Form.ofChar? c = value.form? ∧
      value.form?.isSome = true := by
  cases h with
  | null => exact ⟨'n', _, rfl, rfl, rfl⟩
  | boolean value => cases value <;> exact ⟨_, _, rfl, rfl, rfl⟩
  | integer value =>
    obtain ⟨c, rest, hcons, hc⟩ := Decimal.exists_integer_eq_cons value
    exact ⟨c, rest, hcons, if_pos hc, rfl⟩
  | text value => exact ⟨'\x22', _, rfl, rfl, rfl⟩
  | list _ => exact ⟨'[', _, rfl, rfl, rfl⟩
  | object _ => exact ⟨'\x7b', _, rfl, rfl, rfl⟩

theorem FloatFree.form?_eq {v w : Document} (hv : v.FloatFree) (hw : w.FloatFree)
    (h : v.canonical ++ rest = w.canonical ++ others) : v.form? = w.form? := by
  obtain ⟨c, tail, hc, hform, -⟩ := hv.exists_canonical_eq_cons
  obtain ⟨d, tail', hd, hform', -⟩ := hw.exists_canonical_eq_cons
  rw [hc, hd, List.cons_append, List.cons_append] at h
  rw [← hform, ← hform', (List.cons.inj h).1]

theorem FloatFree.canonical_append_ne {value : Document} (h : value.FloatFree) {c : Char}
    (hc : Form.ofChar? c = none) (rest others : Text) :
    value.canonical ++ rest ≠ c :: others := by
  intro heq
  obtain ⟨d, tail, hd, hform, hsome⟩ := h.exists_canonical_eq_cons
  rw [hd, List.cons_append] at heq
  rw [← hform, (List.cons.inj heq).1, hc] at hsome
  exact absurd hsome (by decide)

theorem canonicalEntry_append_ne (entry : Text × Document) {c : Char} (hc : c ≠ '\x22')
    (rest others : Text) : canonicalEntry entry ++ rest ≠ c :: others := by
  intro h
  exact hc (List.cons.inj h).1.symm

/-- An entry tells its key and its value if the value does. -/
theorem splits_canonicalEntry {entry : Text × Document}
    (h : Splits canonical FloatFree entry.2) :
    Splits canonicalEntry (fun other ↦ other.2.FloatFree) entry := by
  obtain ⟨key, value⟩ := entry
  rintro ⟨other, found⟩ hfound rest others hrest hothers heq
  rw [canonicalEntry, canonicalEntry, List.append_assoc, List.append_assoc] at heq
  obtain ⟨rfl, hvalues⟩ := quoted_append_inj heq
  obtain ⟨rfl, hsame⟩ := h hfound hrest hothers (List.cons.inj hvalues).2
  exact ⟨rfl, hsame⟩

/-- Documents without floats whose canonical forms begin the same text are equal, and so is what
follows them. -/
theorem FloatFree.splits {v : Document} (hv : v.FloatFree) : Splits canonical FloatFree v := by
  induction hv with
  | null =>
    intro w hw rest others hrest hothers h
    have hform := FloatFree.null.form?_eq hw h
    cases hw with
    | null => exact ⟨rfl, List.append_cancel_left h⟩
    | _ => cases hform
  | boolean value =>
    intro w hw rest others hrest hothers h
    have hform := (FloatFree.boolean value).form?_eq hw h
    cases hw with
    | boolean other =>
      cases hform
      exact ⟨rfl, List.append_cancel_left h⟩
    | _ => cases hform
  | integer value =>
    intro w hw rest others hrest hothers h
    have hform := (FloatFree.integer value).form?_eq hw h
    cases hw with
    | integer other =>
      obtain ⟨rfl, hsame⟩ := Decimal.integer_append_inj hrest hothers h
      exact ⟨rfl, hsame⟩
    | _ => cases hform
  | text value =>
    intro w hw rest others hrest hothers h
    have hform := (FloatFree.text value).form?_eq hw h
    cases hw with
    | text other =>
      obtain ⟨rfl, hsame⟩ := quoted_append_inj h
      exact ⟨rfl, hsame⟩
    | _ => cases hform
  | list hitems ih =>
    intro w hw rest others hrest hothers h
    have hform := (FloatFree.list hitems).form?_eq hw h
    cases hw with
    | list hfound =>
      rw [canonical_list_append, canonical_list_append] at h
      obtain ⟨rfl, hsame⟩ := join_append_inj (by decide) (by decide)
        (fun item hitem ↦ hitem.canonical_append_ne (by decide)) hitems hfound ih
        (List.cons.inj h).2
      exact ⟨rfl, hsame⟩
    | _ => cases hform
  | object hentries ih =>
    intro w hw rest others hrest hothers h
    have hform := (FloatFree.object hentries).form?_eq hw h
    cases hw with
    | object hfound =>
      rw [canonical_object_append, canonical_object_append] at h
      obtain ⟨rfl, hsame⟩ := join_append_inj (by decide) (by decide)
        (fun entry _ ↦ canonicalEntry_append_ne entry (by decide)) hentries hfound
        (fun entry hentry ↦ splits_canonicalEntry (ih entry hentry)) (List.cons.inj h).2
      exact ⟨rfl, hsame⟩
    | _ => cases hform

/-- The canonical form tells a document without floats. -/
theorem FloatFree.canonical_inj {v w : Document} (hv : v.FloatFree) (hw : w.FloatFree) :
    v.canonical = w.canonical ↔ v = w := by
  constructor
  · intro h
    exact (hv.splits hw .nil .nil (congrArg (· ++ []) h)).1
  · intro h
    rw [h]

end Document

end ChanceDeck
