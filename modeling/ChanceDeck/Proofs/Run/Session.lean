import ChanceDeck.Proofs.Run.Arguments
import ChanceDeck.Proofs.Run.Conversion
import ChanceDeck.Run.Session

/-!
# A conversion and an inspection after it

A run with status 0 carried out a command without failing (`run_eq_zero_iff`), and an inspection
does not fail if it finds a text without issues (`Inspection.gives_run`). So an inspection accepts
every file that holds a listing and shows its cards (`run_arguments`), and with what a conversion
saves this says when a conversion and an inspection after it agree (`run_arguments_of_convert`).
-/

set_option autoImplicit false
set_option relaxedAutoImplicit false

namespace ChanceDeck

open Step

variable {machine after : Machine} {filter : LogFilter}

/-! ### Inspections -/

namespace Inspection

/-- What an inspection prints. -/
def lines (report : AuditReport) : List Text :=
  report.cards.map cardLine ++ [summaryLine report]

/-- An inspection of a text without issues does not fail, and prints the cards of the text. -/
theorem gives_run (filter : LogFilter) (settings : Settings) {path : RawText} {text : Text}
    {cards : List AuditedCard} (htext : decode (machine.files.read path) = .ok text)
    (haudit : Audit.ofText .standard .standard text = ⟨cards, []⟩) :
    Gives (run filter settings (some path)) machine ()
      { machine with results := machine.results ++ Text.unlines (lines ⟨cards, []⟩) } := by
  have hlines : Text.unlines (lines ⟨cards, []⟩) =
      Text.unlines (cards.map cardLine) ++ Text.unlines [summaryLine ⟨cards, []⟩] :=
    List.flatMap_append
  simp only [run, gives_bind]
  refine ⟨path, machine, gives_require.mpr ⟨rfl, rfl⟩, text, machine,
    gives_readText.mpr ⟨htext, rfl⟩, ?_⟩
  -- There is nothing to report, so the files, the settings and the filter no longer matter.
  rw [haudit, hlines, ← List.append_assoc]
  exact ⟨(), _, gives_print.mpr rfl, (), _, gives_pure.mpr ⟨rfl, rfl⟩, (), _, gives_print.mpr rfl,
    gives_require.mpr ⟨rfl, rfl⟩⟩

end Inspection

/-! ### Settings -/

namespace Session

/-- What settings files give together. -/
def Loaded (files : FileTree) (paths : List RawText) (settings : Settings) : Prop :=
  ∃ texts, List.Forall₂ (fun path text ↦ decode (files.read path) = .ok text) paths texts ∧
    Settings.ofLayers texts = .ok settings

theorem forall₂_of_readLayers {paths : List RawText} {texts : List Text}
    (h : Gives (readLayers paths) machine texts after) :
    List.Forall₂ (fun path text ↦ decode (machine.files.read path) = .ok text) paths texts ∧
      after = machine := by
  induction paths generalizing texts after with
  | nil =>
    obtain ⟨rfl, rfl⟩ := gives_pure.mp h
    exact ⟨.nil, rfl⟩
  | cons path rest ih =>
    simp only [readLayers, gives_bind, gives_readText, gives_pure] at h
    obtain ⟨text, _, ⟨htext, rfl⟩, others, _, hothers, rfl, rfl⟩ := h
    obtain ⟨hrest, rfl⟩ := ih hothers
    exact ⟨.cons htext hrest, rfl⟩

theorem loaded_of_loadSettings {paths : List RawText} {strict : Bool} {settings : Settings}
    (h : Gives (loadSettings filter paths strict) machine settings after) :
    Loaded machine.files paths settings ∧ after.files = machine.files := by
  simp only [loadSettings, gives_bind, gives_require, gives_pure] at h
  obtain ⟨texts, _, htexts, loaded, _, ⟨hloaded, rfl⟩, report, _, ⟨-, rfl⟩, _, _, hlog, rfl, rfl⟩ := h
  obtain ⟨hread, rfl⟩ := forall₂_of_readLayers htexts
  obtain ⟨_, rfl⟩ := exists_reports_of_log hlog
  exact ⟨⟨texts, hread, hloaded⟩, rfl⟩

/-- Without settings files nothing is set, and nothing can go wrong. -/
theorem gives_loadSettings_nil :
    Gives (loadSettings filter [] false) machine .empty machine :=
  rfl

end Session

/-! ### Whole runs -/

namespace Machine

theorem bind_apply {α β : Type} (action : StateM Machine α) (next : α → StateM Machine β)
    (machine : Machine) :
    (action >>= next) machine = next (action machine).1 (action machine).2 :=
  rfl

/-- The search for a file changes nothing. -/
theorem readFirst_snd (paths : List RawText) (machine : Machine) :
    ((Session.readFirst paths : StateM Machine (Option Bytes)) machine).2 = machine := by
  induction paths with
  | nil => rfl
  | cons path rest ih =>
    have hread : (Host.readFile path : StateM Machine _) machine =
        (machine.files.read path, machine) := rfl
    rw [Session.readFirst, bind_apply, hread]
    cases machine.files.read path with
    | ok bytes => rfl
    | error e =>
      by_cases hgoes : e = .missing ∨ e = .isFolder
      · simp only [hgoes, if_true]
        exact ih
      · simp only [hgoes, if_false]
        rfl

/-- The filter of a run on a machine. -/
def logFilter (machine : Machine) : LogFilter :=
  Environment.logFilter
    ((Session.readFirst (Session.environmentPaths machine.files.working.reverse) :
      StateM Machine (Option Bytes)) machine).1

/-- A run is carried out on the machine as it is, with the filter of its local environment. -/
theorem run_eq (machine : Machine) (arguments : List RawText) :
    machine.run arguments =
      (Session.execute machine.logFilter arguments : StateM Machine Nat) machine := by
  rw [run, Session.run, bind_apply, bind_apply]
  exact congrArg _ (readFirst_snd _ machine)

/-- The status after steps is 0 exactly if they did not fail. -/
theorem status_eq_zero_iff {steps : Step (StateM Machine) Unit} :
    (steps.run >>= fun outcome : Except RunError Unit ↦
      match outcome with
      | .ok () => (pure 0 : StateM Machine Nat)
      | .error e => do
        Session.reportAll e.explanation.report
        pure 1) machine = (0, after) ↔ Gives steps machine () after := by
  rw [bind_apply, Gives]
  rcases steps.run machine with ⟨e | ⟨⟩, middle⟩
  · refine iff_of_false (fun h ↦ ?_) fun h ↦ ?_
    · cases (Prod.mk.inj h).1
    · cases (Prod.mk.inj h).1
  · exact ⟨fun h ↦ (Prod.mk.inj h).2 ▸ rfl, fun h ↦ (Prod.mk.inj h).2 ▸ rfl⟩

/-- A run has status 0 exactly if its arguments are understood and the command does not fail. -/
theorem run_eq_zero_iff {arguments : List RawText} :
    machine.run arguments = (0, after) ↔
      ∃ invocation, Invocation.ofArguments? arguments = some invocation ∧
        Gives (Session.invoke machine.logFilter invocation) machine () after := by
  rw [run_eq, Session.execute]
  cases harguments : Invocation.ofArguments? arguments with
  | none =>
    refine iff_of_false (fun h ↦ ?_) fun ⟨invocation, h, _⟩ ↦ ?_
    · cases (Prod.mk.inj h).1
    · cases h
  | some invocation =>
    simp only [Option.some.injEq, exists_eq_left']
    exact status_eq_zero_iff

/-- An inspection of a file that holds a listing has status 0, changes no file, reports nothing, and
prints every card with its line number. -/
theorem run_arguments {settings : Settings} {flags : ConvertFlags} {files : FileTree}
    {chosen : ConvertSettings RawText} {deck : Deck} {listing : Listing}
    (hderived : Conversion.Derived settings flags files chosen deck listing) {path : RawText}
    (hread : machine.files.read path = .ok (Utf8.encode listing.text)) :
    machine.run (Inspection.arguments path) =
      (0, { machine with
        results := machine.results ++ Text.unlines (Inspection.lines
          ⟨deck.cards.mapIdx fun k card ↦
            ⟨chosen.startLine + (k + 1) * chosen.lineStep, card.id, card.record, card.remark⟩,
            []⟩) }) := by
  obtain ⟨rows, -, hdeck⟩ := hderived.encoded
  have htitle : '\n' ∉ (Conversion.options chosen).title :=
    show '\n' ∉ Listing.defaultOptions.title by decide
  have haudit : Audit.ofText .standard .standard listing.text =
      ⟨Audit.listed chosen.startLine chosen.lineStep deck.cards, []⟩ :=
    Audit.ofText_text_of_faithful Catalog.feedless_standard (by decide) htitle
      (fun card hcard ↦ (Deck.encoded_of_mem hdeck hcard).faithful) hderived.listed
  have htext : decode (machine.files.read path) = .ok listing.text := by
    simp only [hread, decode, Except.bind, Utf8.decode?_encode]
  have hgives := Inspection.gives_run machine.logFilter .empty htext haudit
  exact run_eq_zero_iff.mpr ⟨_, Inspection.ofArguments?_arguments (FileTree.ne_nil_of_read hread),
    gives_bind.mpr ⟨.empty, machine, Session.gives_loadSettings_nil, hgives⟩⟩

/-- After a conversion with status 0, its output holds the listing of its sheet unless a report went
to the same place, and an inspection of an output that holds the listing accepts it and prints every
card with its line number. -/
theorem run_arguments_of_convert {arguments paths : List RawText} {strict : Bool}
    {flags : ConvertFlags}
    (harguments : Invocation.ofArguments? arguments = some ⟨paths, strict, .convert flags⟩)
    (hstatus : (machine.run arguments).1 = 0) :
    let after := (machine.run arguments).2
    ∃ settings chosen deck listing, Session.Loaded machine.files paths settings ∧
      Conversion.Derived settings flags machine.files chosen deck listing ∧
      (after.files.read chosen.output = .ok (Utf8.encode listing.text) ↔
        ∀ path ∈ chosen.report, after.files.find path ≠ after.files.find chosen.output) ∧
      (after.files.read chosen.output = .ok (Utf8.encode listing.text) →
        after.run (Inspection.arguments chosen.output) =
          (0, { after with
            results := after.results ++ Text.unlines (Inspection.lines
              ⟨deck.cards.mapIdx fun k card ↦
                ⟨chosen.startLine + (k + 1) * chosen.lineStep, card.id, card.record, card.remark⟩,
                []⟩) })) := by
  intro after
  have hrun : machine.run arguments = (0, after) := Prod.ext hstatus rfl
  obtain ⟨invocation, hinvocation, hinvoke⟩ := run_eq_zero_iff.mp hrun
  obtain rfl := Option.some.inj (harguments.symm.trans hinvocation)
  obtain ⟨settings, middle, hload, hconvert⟩ := gives_bind.mp hinvoke
  obtain ⟨hloaded, hfiles⟩ := Session.loaded_of_loadSettings hload
  obtain ⟨chosen, deck, listing, hderived, hread⟩ := Conversion.exists_read_output_iff hconvert
  rw [hfiles] at hderived
  exact ⟨settings, chosen, deck, listing, hloaded, hderived, hread, run_arguments hderived⟩

/-- A machine with one file in its working folder, a sheet. -/
def ofSheet (text : Text) : Machine :=
  .ofFiles (FileTree.empty.set
    (FileTree.empty.working ++ [Utf8.encode "cards.csv".toList]) (.file (Utf8.encode text)))

/-- A machine with the sheet of one card. -/
def oneCard : Machine :=
  .ofSheet "Card,CE\n1,5\n".toList

/-- A listing in a folder that has to be made, and a report beside it. -/
theorem run_arguments_of_convert_folder :
    ∃ arguments flags,
      arguments = ["convert".toList, "--input".toList, "cards.csv".toList, "--output".toList,
        "out/data.txt".toList, "--report".toList, "out/report.json".toList] ∧
      Invocation.ofArguments? arguments = some ⟨[], false, .convert flags⟩ ∧
      (oneCard.run arguments).1 = 0 ∧
      let after := (oneCard.run arguments).2
      ∃ settings chosen deck listing, Session.Loaded oneCard.files [] settings ∧
        Conversion.Derived settings flags oneCard.files chosen deck listing ∧
        (after.files.read chosen.output = .ok (Utf8.encode listing.text) ↔
          ∀ path ∈ chosen.report, after.files.find path ≠ after.files.find chosen.output) ∧
        (after.files.read chosen.output = .ok (Utf8.encode listing.text) →
          after.run (Inspection.arguments chosen.output) =
            (0, { after with
              results := after.results ++ Text.unlines (Inspection.lines
                ⟨deck.cards.mapIdx fun k card ↦
                  ⟨chosen.startLine + (k + 1) * chosen.lineStep, card.id, card.record, card.remark⟩,
                  []⟩) })) := by
  refine ⟨_, ⟨some (.ofText "cards.csv".toList), some (.ofText "out/data.txt".toList), none, none,
    some (.ofText "out/report.json".toList)⟩, rfl, ?understood, ?status,
    run_arguments_of_convert ?understood ?status⟩
  case understood => decide +kernel
  case status => decide +kernel

/-- A report that goes to the place of the listing: the conversion has status 0, but its output does
not hold the listing, and an inspection of it finds no card. -/
theorem read_ne_of_report :
    ∃ arguments flags,
      arguments = ["convert".toList, "--input".toList, "cards.csv".toList, "--output".toList,
        "data.txt".toList, "--report".toList, "data.txt".toList] ∧
      Invocation.ofArguments? arguments = some ⟨[], false, .convert flags⟩ ∧
      (oneCard.run arguments).1 = 0 ∧
      let after := (oneCard.run arguments).2
      ∃ chosen deck listing, Conversion.Derived .empty flags oneCard.files chosen deck listing ∧
        deck.cards.length = 1 ∧
        after.files.read chosen.output ≠ .ok (Utf8.encode listing.text) ∧
        after.run (Inspection.arguments chosen.output) =
          (0, { after with results := after.results ++ "audit records=0 issues=0\n".toList }) := by
  refine ⟨_, ⟨some (.ofText "cards.csv".toList), some (.ofText "data.txt".toList), none, none,
      some (.ofText "data.txt".toList)⟩,
    rfl, by decide +kernel, by decide +kernel,
    ⟨"cards.csv".toList, "data.txt".toList, 8000, 10, some (.ofText "data.txt".toList)⟩, _, _,
    ⟨rfl, ⟨[["Card".toList, "CE".toList], ["1".toList, "5".toList]], ?rows, rfl⟩, rfl⟩, rfl, ?read,
    ?inspection⟩
  case rows => decide +kernel
  case read => decide +kernel
  case inspection => decide +kernel

end Machine

end ChanceDeck
