import ChanceDeck.Proofs.Listing.Audit
import ChanceDeck.Proofs.Listing.Order

/-!
# Chains of listings

Listings are chained when each begins at the line that the one before it left free. A segment whose
cards cannot be listed leaves nothing behind, and the next segment begins where it would have begun.
`ofText_chain` says that the listings of a chain make up one program: its line numbers strictly
increase and stay in range, and its audit is clean and finds the cards of all listings in order.

The audit carries the last line number across the seam of two listings. The next listing begins
above that number because a step is at least one (`ofLines_lines`), and the induction over the
segments carries that the line left free is above the last line (`ofLines_flatMap_lines`).
-/

set_option autoImplicit false
set_option relaxedAutoImplicit false

namespace ChanceDeck

/-- Cards with the numbering and the title that their listing is to have. -/
structure Segment where
  options : ListingOptions
  cards : List Card

namespace Segment

/-- The listing of a segment, if its cards can be listed. -/
def listing? (segment : Segment) : Option Listing :=
  (Listing.ofCards segment.options segment.cards).toOption

/-- Whether each segment begins at the line that the last listing before it left free. Segments
before the first listing may begin anywhere if no line is given. -/
def Chained : Option Nat → List Segment → Prop
  | _, [] => True
  | next, segment :: rest =>
    (∀ line ∈ next, segment.options.startLine = line) ∧
      Chained ((segment.listing?.map fun listing ↦ listing.range.nextFreeLine).or next) rest

/-- The listings of segments, in order. -/
def listings (segments : List Segment) : List Listing :=
  segments.filterMap listing?

/-- The cards that are listed, each with the line number that it gets. -/
def listedCards (segments : List Segment) : List AuditedCard :=
  (segments.filter fun segment ↦ segment.listing?.isSome).flatMap fun segment ↦
    segment.cards.mapIdx fun k card ↦
      ⟨segment.options.startLine + (k + 1) * segment.options.lineStep, card.id, card.record,
        card.remark⟩

theorem listing?_eq_some_iff {segment : Segment} {listing : Listing} :
    segment.listing? = some listing ↔
      Listing.ofCards segment.options segment.cards = .ok listing := by
  unfold listing?
  cases Listing.ofCards segment.options segment.cards <;> simp [Except.toOption]

theorem listings_cons (segment : Segment) (rest : List Segment) :
    listings (segment :: rest) = segment.listing?.toList ++ listings rest := by
  unfold listings
  rw [List.filterMap_cons]
  cases segment.listing? <;> rfl

theorem listedCards_cons_of_some {segment : Segment} {listing : Listing}
    (h : segment.listing? = some listing) (rest : List Segment) :
    listedCards (segment :: rest) =
      Audit.listed segment.options.startLine segment.options.lineStep segment.cards ++
        listedCards rest := by
  unfold listedCards
  rw [List.filter_cons_of_pos (by rw [h]; rfl), List.flatMap_cons]
  rfl

theorem listedCards_cons_of_none {segment : Segment} (h : segment.listing? = none)
    (rest : List Segment) : listedCards (segment :: rest) = listedCards rest := by
  unfold listedCards
  rw [List.filter_cons_of_neg (by rw [h]; exact Bool.false_ne_true)]

end Segment

namespace Audit

variable {catalog : Catalog} {specials : Specials}

/-- What the audit of a chain takes for granted of a segment: its title stands on one line, and its
cards were encoded with the catalog and the notes of the audit. -/
structure Sound (catalog : Catalog) (specials : Specials) (segment : Segment) : Prop where
  title : '\n' ∉ segment.options.title
  encoded : ∀ card ∈ segment.cards, card.Encoded catalog specials

/-! ### The text of several listings -/

theorem text_flatMap (listings : List Listing) :
    listings.flatMap Listing.text = Text.unlines (listings.flatMap Listing.lines) :=
  List.flatMap_assoc.symm

/-- Every line of a listing of faithful cards begins with a number in range. -/
theorem numbered_of_mem_lines (hcatalog : catalog.Feedless) (hspecials : specials.Feedless)
    {options : ListingOptions} (htitle : '\n' ∉ options.title) {cards : List Card}
    (hcards : ∀ card ∈ cards, card.Faithful catalog specials) {listing : Listing}
    (hlisting : Listing.ofCards options cards = .ok listing) :
    ∀ line ∈ listing.lines,
      ∃ number, Listing.Numbered number line ∧ 1 ≤ number ∧ number ≤ 65529 := by
  obtain ⟨⟨hstart, -⟩, -, rfl⟩ := Listing.ofCards_eq_ok_iff.mp hlisting
  rw [Listing.inRange_iff] at hstart
  intro line hline
  rcases List.mem_cons.mp hline with rfl | hline
  · exact ⟨_, Listing.heading_numbered _ _ htitle, hstart⟩
  · rw [Listing.dataLines_eq_mapIdx] at hline
    obtain ⟨k, hk, rfl⟩ := List.mem_mapIdx.mp hline
    have hnumber := Listing.lineNumber_le hlisting (List.getElem?_eq_getElem hk)
    refine ⟨_, ?_, ?_, hnumber⟩
    · exact DataLine.numbered_of_faithful hcatalog hspecials (hcards _ (List.getElem_mem hk)) _ _
    · exact hstart.1.trans (Nat.le_add_right _ _)

/-- Lines that begin with a number have the numbers that an audit finds at their starts. -/
theorem forall₂_numbers {lines : List Text}
    (h : ∀ line ∈ lines, ∃ number, Listing.Numbered number line ∧ 1 ≤ number ∧ number ≤ 65529) :
    List.Forall₂ Listing.Numbered (numbers lines) lines ∧
      ∀ number ∈ numbers lines, 1 ≤ number ∧ number ≤ 65529 := by
  induction lines with
  | nil => exact ⟨.nil, by simp [numbers]⟩
  | cons line rest ih =>
    obtain ⟨number, hnumbered, hrange⟩ := h line List.mem_cons_self
    obtain ⟨hrest, hranges⟩ := ih fun other hother ↦ h other (List.mem_cons_of_mem _ hother)
    have hmax : number ≤ DataLine.maxLineNumber := hrange.2.trans DataLine.maxLineNumber_le
    have hnumbers : numbers (line :: rest) = number :: numbers rest := by
      rw [numbers_cons, hnumbered.trim_eq_self, lineNumber?_of_numbered hnumbered hmax]
      rfl
    rw [hnumbers]
    exact ⟨.cons hnumbered hrest, List.forall_mem_cons.mpr ⟨hrange, hranges⟩⟩

/-! ### The audit across seams -/

/-- The lines of a chain are audited without an issue, if the last line number before them is below
the line where the chain begins. -/
theorem ofLines_flatMap_lines (hcatalog : catalog.Feedless) (hspecials : specials.Feedless)
    {segments : List Segment} (hsound : ∀ segment ∈ segments, Sound catalog specials segment)
    {next previous : Option Nat} (hchain : Segment.Chained next segments)
    (hprevious : ∀ last ∈ previous, ∃ line ∈ next, last < line) (textLine : Nat) :
    ofLines catalog specials textLine previous
        ((Segment.listings segments).flatMap Listing.lines) =
      ⟨Segment.listedCards segments, []⟩ := by
  induction segments generalizing next previous textLine with
  | nil => rfl
  | cons segment rest ih =>
    obtain ⟨hstart, hrest⟩ := hchain
    have hothers : ∀ other ∈ rest, Sound catalog specials other :=
      fun other hother ↦ hsound other (List.mem_cons_of_mem _ hother)
    obtain ⟨htitle, hencoded⟩ := hsound segment List.mem_cons_self
    rw [Segment.listings_cons]
    cases hlisting : segment.listing? with
    | none =>
      rw [hlisting, Option.map_none, Option.none_or] at hrest
      rw [Segment.listedCards_cons_of_none hlisting]
      exact ih hothers hrest hprevious textLine
    | some listing =>
      have hok := Segment.listing?_eq_some_iff.mp hlisting
      have hfaithful : ∀ card ∈ segment.cards, card.Faithful catalog specials :=
        fun card hcard ↦ (hencoded card hcard).faithful
      have hbefore : ∀ last ∈ previous, last < segment.options.startLine := by
        intro last hlast
        obtain ⟨line, hline, hlt⟩ := hprevious last hlast
        exact (hstart line hline).symm ▸ hlt
      -- The line left free is a step above the last line.
      have hfree : ∀ last ∈ some listing.range.lastLine,
          ∃ line ∈ some listing.range.nextFreeLine, last < line := by
        intro last hlast
        obtain ⟨⟨-, hstep⟩, -, rfl⟩ := Listing.ofCards_eq_ok_iff.mp hok
        rw [← Option.mem_some_iff.mp hlast]
        exact ⟨_, rfl, Nat.lt_add_of_pos_right (Listing.inRange_iff.mp hstep).1⟩
      rw [hlisting, Option.map_some, Option.some_or] at hrest
      rw [Option.toList_some, List.singleton_append, List.flatMap_cons,
        ofLines_lines hcatalog hspecials htitle hfaithful hok hbefore, ih hothers hrest hfree,
        Segment.listedCards_cons_of_some hlisting]

/-- The listings of a chain make up one program: every line begins with its number, the numbers are
in range and strictly increase, and an audit finds the cards of all listings in order, each with the
line number that it got, and nothing to object to. -/
theorem ofText_chain (hcatalog : catalog.Feedless) (hspecials : specials.Feedless)
    {segments : List Segment} (hsound : ∀ segment ∈ segments, Sound catalog specials segment)
    (hchain : Segment.Chained none segments) :
    let text := (Segment.listings segments).flatMap Listing.text
    List.Forall₂ Listing.Numbered (numbers (Text.lines text)) (Text.lines text) ∧
      (∀ number ∈ numbers (Text.lines text), 1 ≤ number ∧ number ≤ 65529) ∧
      (numbers (Text.lines text)).Pairwise (· < ·) ∧
      ofText catalog specials text = ⟨Segment.listedCards segments, []⟩ := by
  have hnumbered : ∀ line ∈ (Segment.listings segments).flatMap Listing.lines,
      ∃ number, Listing.Numbered number line ∧ 1 ≤ number ∧ number ≤ 65529 := by
    intro line hline
    obtain ⟨listing, hlisting, hmem⟩ := List.mem_flatMap.mp hline
    obtain ⟨segment, hsegment, hsome⟩ := List.mem_filterMap.mp hlisting
    obtain ⟨htitle, hencoded⟩ := hsound segment hsegment
    exact numbered_of_mem_lines hcatalog hspecials htitle
      (fun card hcard ↦ (hencoded card hcard).faithful) (Segment.listing?_eq_some_iff.mp hsome)
      line hmem
  have hlines : Text.lines ((Segment.listings segments).flatMap Listing.text) =
      (Segment.listings segments).flatMap Listing.lines := by
    rw [text_flatMap, Text.lines_unlines]
    intro line hline
    obtain ⟨number, hline, -⟩ := hnumbered line hline
    exact hline.line
  have hnothing : ∀ last ∈ (none : Option Nat), ∃ line ∈ (none : Option Nat), last < line := by
    simp
  have haudit := ofLines_flatMap_lines hcatalog hspecials hsound hchain hnothing 1
  obtain ⟨hforall, hrange⟩ := forall₂_numbers hnumbered
  intro text
  have hclean : (ofLines catalog specials 1 none (Text.lines text)).issues = [] := by
    rw [hlines, haudit]
  refine ⟨hlines ▸ hforall, hlines ▸ hrange, pairwise_numbers hclean, ?_⟩
  rw [ofText, hlines, haudit]

/-- Three segments, the second of which would pass the highest line number and leaves nothing. -/
theorem ofText_chain_gap :
    ∃ card segments, card.Encoded .standard .standard ∧
      segments = [(⟨⟨8000, 10, "A".toList⟩, [card, card]⟩ : Segment),
        ⟨⟨8030, 60000, "B".toList⟩, [card]⟩, ⟨⟨8030, 1, "C".toList⟩, [card]⟩] ∧
      Segment.Chained none segments ∧
      numbers (Text.lines ((Segment.listings segments).flatMap Listing.text)) =
        [8000, 8010, 8020, 8030, 8031] ∧
      (numbers (Text.lines ((Segment.listings segments).flatMap Listing.text))).Pairwise (· < ·) ∧
      ofText .standard .standard ((Segment.listings segments).flatMap Listing.text) =
        ⟨Segment.listedCards segments, []⟩ := by
  have hspecials : Specials.standard.Feedless := by decide
  have hcard : Card.Encoded .standard .standard
      ⟨"36".toList, ⟨[1, -2, 0, 0, 0, 0, 0, 0], rfl⟩,
        "CE -2 (special: also pays $2/share dividend)".toList, none⟩ :=
    ⟨["No".toList, "CE".toList], ⟨[⟨"CE".toList, 1, 1⟩]⟩, ["36".toList, "-2".toList], by decide,
      by decide⟩
  refine ⟨_, _, hcard, rfl, ?chain, by decide +kernel, (ofText_chain Catalog.feedless_standard
    hspecials ?sound ?chain).2.2⟩
  case chain => exact ⟨by simp, by decide, by decide, trivial⟩
  case sound =>
    have hone := List.forall_mem_singleton.mpr hcard
    simp only [List.forall_mem_cons]
    exact ⟨⟨by decide, List.forall_mem_cons.mpr ⟨hcard, hone⟩⟩, ⟨by decide, hone⟩,
      ⟨by decide, hone⟩, by simp⟩

end Audit

end ChanceDeck
