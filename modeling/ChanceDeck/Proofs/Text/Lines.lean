import ChanceDeck.Proofs.Text.Cut
import ChanceDeck.Text.Lines

/-!
# Lines read back from a text

Closed lines without line feeds, each written with a line feed after it, are the lines of what
was written: `lines_unlines`. A line must not end in a carriage return, which would be read as part
of the line ending; that is why lines are asked to be closed.

After a text that ends in a line feed a new line begins, so that the lines of what is written after
it are added to its own: `lines_append_lines`.
-/

set_option autoImplicit false
set_option relaxedAutoImplicit false

namespace ChanceDeck.Text

/-- A text that stands on one line and whose last character is no blank. -/
structure Line (text : Text) : Prop where
  feedless : '\n' ∉ text
  closed : Closed text

theorem lines_cons {c : Char} {rest line : Text} {others : List Text} (hfeed : c ≠ '\n')
    (hreturn : c = '\r' → rest.head? ≠ some '\n') (h : lines rest = line :: others) :
    lines (c :: rest) = (c :: line) :: others := by
  rw [lines.eq_4]
  · rw [h]
  · rintro tail rfl rfl
    exact hreturn rfl rfl
  · exact hfeed

/-- A line feed ends a line that has none in it and does not end in a carriage return. -/
theorem lines_append {line : Text} (rest : Text) (hfeed : '\n' ∉ line)
    (hreturn : line.getLast? ≠ some '\r') : lines (line ++ '\n' :: rest) = line :: lines rest := by
  induction line with
  | nil => simp [lines]
  | cons c line ih =>
    have hline : '\n' ∉ line := fun hm ↦ hfeed (List.mem_cons_of_mem _ hm)
    have hc : c ≠ '\n' := fun e ↦ hfeed (e ▸ List.mem_cons_self)
    cases line with
    | nil =>
      refine lines_cons hc (fun e ↦ ?_) (ih hline (by simp))
      exact absurd (by simp [e]) hreturn
    | cons d line =>
      refine lines_cons hc (fun _ ↦ ?_) (ih hline ?_)
      · intro hd
        exact hline (by simpa using Or.inl (Option.some.inj hd).symm)
      · simpa using hreturn

/-- Lines are read back as they were written. -/
theorem lines_unlines {texts : List Text} (h : ∀ text ∈ texts, Line text) :
    lines (unlines texts) = texts := by
  induction texts with
  | nil => rfl
  | cons text rest ih =>
    have htext := h text List.mem_cons_self
    have hrest := ih fun t ht ↦ h t (List.mem_cons_of_mem _ ht)
    have hwritten : unlines (text :: rest) = text ++ '\n' :: unlines rest := by
      simp [unlines]
    rw [hwritten, lines_append _ htext.feedless (htext.closed.getLast?_ne (by decide)), hrest]

/-- Whether a text is empty or ends in a line feed, so that a new line begins after it. -/
def Ended (text : Text) : Prop :=
  text = [] ∨ text.getLast? = some '\n'

instance : DecidablePred Ended := fun text ↦
  inferInstanceAs (Decidable (text = [] ∨ text.getLast? = some '\n'))

theorem Ended.of_cons {c : Char} {rest : Text} (h : Ended (c :: rest)) : Ended rest := by
  cases rest with
  | nil => exact Or.inl rfl
  | cons d rest =>
    rcases h with hnil | hlast
    · exact absurd hnil (List.cons_ne_nil _ _)
    · exact Or.inr (by rwa [List.getLast?_cons_cons] at hlast)

theorem lines_ne_nil {text : Text} (h : text ≠ []) : lines text ≠ [] := by
  unfold lines
  split
  · exact absurd rfl h
  · exact List.cons_ne_nil _ _
  · exact List.cons_ne_nil _ _
  · split <;> exact List.cons_ne_nil _ _

/-- The lines of two texts written one after the other are those of the first and then those of the
second, if a new line begins between them. -/
theorem lines_append_lines {before : Text} (h : Ended before) (after : Text) :
    lines (before ++ after) = lines before ++ lines after := by
  induction before using lines.induct with
  | case1 => rfl
  | case2 rest ih =>
    simp only [List.cons_append, lines]
    rw [ih h.of_cons.of_cons]
  | case3 rest ih =>
    simp only [List.cons_append, lines]
    rw [ih h.of_cons]
  | case4 c rest hreturn hfeed hnil _ =>
    -- Nothing follows the character, so that it would be the line feed at the end.
    have hrest : rest = [] := by_contra fun hne ↦ lines_ne_nil hne hnil
    subst hrest
    rcases h with hempty | hlast
    · exact absurd hempty (List.cons_ne_nil _ _)
    · exact absurd (Option.some.inj hlast) (by simpa using hfeed)
  | case5 c rest hreturn hfeed first others hcons ih =>
    have hne : rest ≠ [] := by
      rintro rfl
      exact absurd hcons.symm (List.cons_ne_nil _ _)
    obtain ⟨d, more, rfl⟩ := List.exists_cons_of_ne_nil hne
    have hhead (tail : Text) : c = '\r' → (d :: tail).head? ≠ some '\n' :=
      fun hc hd ↦ hreturn more hc (congrArg (· :: more) (Option.some.inj hd))
    have hrest : lines (d :: (more ++ after)) = first :: (others ++ lines after) := by
      rw [← List.cons_append, ih h.of_cons, hcons, List.cons_append]
    have hc : c ≠ '\n' := fun hc ↦ hfeed hc
    rw [List.cons_append, List.cons_append, lines_cons hc (hhead _) hrest,
      lines_cons hc (hhead _) hcons, List.cons_append]

end ChanceDeck.Text
