import RustWorkbench.Analyzer.OwnershipModel
import RustWorkbench.Analyzer.ProblemList
import RustWorkbench.Library.Ids

/-!
# From a problem to its model and back

The editor asks for the model at the `model_position` of a problem and discards an answer whose
`selected_problem_id` is another one.

* `problems_round_trip_iff` — the round trip holds exactly if every listed diagnostic is the
  first one at its own start, up to its id, and no rejected use is without a diagnostic there.
-/

namespace RustWorkbench.Analyzer

variable (snap : Snapshot) (fileId : FileId)

/-- The facts stored for a file. -/
abbrev Snapshot.diagnosticsOf : List OwnershipDiagnostic :=
  ownershipDiagnosticsForFile snap.ownershipDiagnostics fileId

abbrev Snapshot.eventsOf : List OwnershipEvent :=
  ownershipEventsForFile snap.ownershipEvents fileId

abbrev Snapshot.tutorialOf : OwnershipTutorialModel :=
  ownershipTutorialForFile snap.ownershipTutorialModels fileId

/-- The position lies in the file, and the first stored diagnostic that touches it, with its own
range or a related one, is reported under `id`. -/
def SelectsProblem (id : String) (position : Position) : Prop :=
  (∃ offset, (snap.fileLineIndex fileId).offset position = .ok offset) ∧
    ∃ diagnostic, selectedDiagnosticAt (snap.diagnosticsOf fileId) (Range.point position)
        = some diagnostic ∧
      (ownershipProblemFromDiagnostic diagnostic (snap.eventsOf fileId)
        (snap.tutorialOf fileId)).id = id

variable {snap fileId} {uri : String}

/-! ## The model at a position -/

theorem selectionAt_diagnostic (diagnostics : List OwnershipDiagnostic)
    (events : List OwnershipEvent) (tutorial : OwnershipTutorialModel) (request : Range) :
    (selectionAt diagnostics events tutorial request).diagnostic
      = selectedDiagnosticAt diagnostics request := by
  unfold selectionAt
  dsimp only
  split
  · rfl
  · rfl

/-- A position is a range of the file exactly if it has an offset. -/
theorem fileRange_point (hfile : snap.urlToFileId uri = .ok (some fileId)) (position : Position) :
    (∃ fileRange, snap.fileRange uri (Range.point position) = .ok (some (fileId, fileRange))) ↔
      ∃ offset, (snap.fileLineIndex fileId).offset position = .ok offset := by
  unfold Snapshot.fileRange LineIndex.textRange Range.point
  rw [hfile]
  cases hoffset : (snap.fileLineIndex fileId).offset position with
  | error message => simp [hoffset]
  | ok offset => simp [hoffset]

/-- **The problem a model is about.** -/
theorem selectedProblemId_eq_iff (hfile : snap.urlToFileId uri = .ok (some fileId))
    (id : String) (position : Position) :
    (∃ model, handleOwnershipModel snap uri position = .ok model
        ∧ model.selectedProblemId = some id) ↔ SelectsProblem snap fileId id position := by
  unfold SelectsProblem
  rw [← fileRange_point hfile]
  constructor
  · rintro ⟨model, hmodel, hid⟩
    unfold handleOwnershipModel at hmodel
    split at hmodel
    · cases hmodel
    · obtain rfl : ({} : OwnershipModel) = model := by simpa using hmodel
      cases hid
    · rename_i file fileRange hrange
      have hsame : file = fileId := by
        unfold Snapshot.fileRange at hrange
        rw [hfile] at hrange
        dsimp only at hrange
        split at hrange
        · cases hrange
        · simp only [Except.ok.injEq, Option.some.injEq, Prod.mk.injEq] at hrange
          exact hrange.1.symm
      subst hsame
      refine ⟨⟨fileRange, hrange⟩, ?_⟩
      obtain rfl := Except.ok.inj hmodel
      obtain ⟨diagnostic, hdiagnostic, hid⟩ := Option.map_eq_some_iff.mp hid
      refine ⟨diagnostic, ?_, hid⟩
      rw [Snapshot.selectionAt, selectionAt_diagnostic] at hdiagnostic
      exact hdiagnostic
  · rintro ⟨⟨fileRange, hrange⟩, diagnostic, hdiagnostic, hid⟩
    refine ⟨_, by rw [handleOwnershipModel, hrange], ?_⟩
    show Option.map _ (snap.selectionAt fileId position).diagnostic = some id
    rw [Snapshot.selectionAt, selectionAt_diagnostic, hdiagnostic, Option.map_some, hid]

/-! ## Problem ids -/

/-- The id of a problem determines its range, and its code and binding as one text. -/
theorem ownershipProblemId_inj {code name code' name' : String} {range range' : Range}
    (h : ownershipProblemId code name range = ownershipProblemId code' name' range') :
    range = range' ∧ code ++ "-" ++ name = code' ++ "-" ++ name' := by
  unfold ownershipProblemId at h
  obtain ⟨h, hec⟩ := Ids.append_dash_toString_inj h
  obtain ⟨h, hel⟩ := Ids.append_dash_toString_inj h
  obtain ⟨h, hsc⟩ := Ids.append_dash_toString_inj h
  obtain ⟨hlabel, hsl⟩ := Ids.append_dash_toString_inj h
  obtain ⟨⟨sl, sc⟩, ⟨el, ec⟩⟩ := range
  obtain ⟨⟨sl', sc'⟩, ⟨el', ec'⟩⟩ := range'
  simp_all

/-- **A rejected use without a diagnostic is never selected.**  The selected diagnostic would
have its range, and then it would have covered the use. -/
theorem uncovered_use_not_selected {event : OwnershipEvent}
    (hevent : event ∈ uncoveredUses (snap.diagnosticsOf fileId) (snap.eventsOf fileId))
    (hrange : event.range.WellFormed) (position : Position) :
    ¬ SelectsProblem snap fileId (ownershipProblemId "E0382" event.name event.range) position := by
  rintro ⟨_, diagnostic, hselected, hid⟩
  have hsame : diagnostic.range = event.range := (ownershipProblemId_inj hid).1
  have hmem : diagnostic ∈ snap.diagnosticsOf fileId := List.mem_of_find?_eq_some hselected
  have huntouched := (mem_uncoveredUses hevent).2.2 diagnostic hmem
  rw [hsame] at huntouched
  have htouch : rangesTouch event.range event.range = true := rangesTouch_iff.mpr ⟨hrange, hrange⟩
  rw [htouch] at huntouched
  cases huntouched

/-! ## The round trip -/

/-- Every listed problem is the one the model at its position is about. -/
def RoundTrips (snap : Snapshot) (uri : String) : Prop :=
  ∀ result, handleOwnershipProblems snap uri = .ok result → ∀ problem ∈ result.problems,
    ∃ model, handleOwnershipModel snap uri problem.modelPosition = .ok model ∧
      model.selectedProblemId = some problem.id

theorem modelPosition_eq {diagnostics : List OwnershipDiagnostic} {events : List OwnershipEvent}
    {tutorial : OwnershipTutorialModel} {problem : OwnershipProblem}
    (h : problem ∈ ownershipProblemList diagnostics events tutorial) :
    problem.modelPosition = problem.primaryRange.start := by
  rcases of_mem_problemList h with ⟨d, _, rfl⟩ | ⟨e, _, rfl⟩
  · rfl
  · rfl

/-- **When selection round-trips.**  Exactly if every diagnostic that gets a problem of its own
starts inside the file at a point where the first touching diagnostic has the same problem id, and
no rejected use with a well-formed range is listed without a diagnostic. -/
theorem problems_round_trip_iff (snap : Snapshot) (uri : String) :
    RoundTrips snap uri ↔ ∀ fileId, snap.urlToFileId uri = .ok (some fileId) →
      (∀ diagnostic, IsDistinct (snap.diagnosticsOf fileId) (snap.eventsOf fileId)
          (snap.tutorialOf fileId) diagnostic →
        SelectsProblem snap fileId
          (ownershipProblemFromDiagnostic diagnostic (snap.eventsOf fileId)
            (snap.tutorialOf fileId)).id diagnostic.range.start) ∧
      ∀ event ∈ uncoveredUses (snap.diagnosticsOf fileId) (snap.eventsOf fileId),
        ¬ event.range.WellFormed ∧
          SelectsProblem snap fileId (ownershipProblemId "E0382" event.name event.range)
            event.range.start := by
  have hknown : ∀ fileId, snap.urlToFileId uri = .ok (some fileId) →
      (RoundTrips snap uri ↔
        ∀ problem ∈ ownershipProblemList (snap.diagnosticsOf fileId) (snap.eventsOf fileId)
            (snap.tutorialOf fileId),
          SelectsProblem snap fileId problem.id problem.primaryRange.start) := by
    intro fileId hfile
    unfold RoundTrips handleOwnershipProblems
    rw [hfile]
    simp only [Except.ok.injEq, forall_eq', ownershipProblemsOf]
    refine forall_congr' fun problem => forall_congr' fun hproblem => ?_
    rw [selectedProblemId_eq_iff hfile, modelPosition_eq hproblem]
  constructor
  · intro h fileId hfile
    obtain ⟨hdiagnostics, huses⟩ := (@forall_problemList_iff _ _ _ fun id range =>
      SelectsProblem snap fileId id range.start).mp ((hknown fileId hfile).mp h)
    exact ⟨hdiagnostics, fun event hevent => ⟨fun hrange =>
      uncovered_use_not_selected hevent hrange _ (huses event hevent), huses event hevent⟩⟩
  · intro h
    match hfile : snap.urlToFileId uri with
    | .error message =>
      intro result hresult
      simp [handleOwnershipProblems, hfile] at hresult
    | .ok none =>
      intro result hresult problem hproblem
      obtain rfl : ({} : OwnershipProblems) = result := by
        simpa [handleOwnershipProblems, hfile] using hresult
      cases hproblem
    | .ok (some fileId) =>
      exact (hknown fileId hfile).mpr ((@forall_problemList_iff _ _ _ fun id range =>
        SelectsProblem snap fileId id range.start).mpr
          ⟨(h fileId hfile).1, fun event hevent => ((h fileId hfile).2 event hevent).2⟩)

/-! ## Two errors on one line -/

/-- A line table for a file of one line. -/
def oneLine : LineIndex where
  offset position := .ok position.character
  position offset := ⟨0, offset⟩
  position_mono h := Or.inr ⟨rfl, h⟩

/-- The columns of the first line. -/
def columns (start stop : Nat) : Range := ⟨⟨0, start⟩, ⟨0, stop⟩⟩

/-- One file with the given diagnostics and nothing else. -/
def diagnosticsOnly (diagnostics : List OwnershipDiagnostic) : Snapshot where
  checkFixes := []
  ownershipEvents := []
  ownershipDiagnostics := [[(none, [(0, diagnostics)])]]
  ownershipTutorialModels := []
  urlToFileId _ := .ok (some 0)
  urlFileName _ := none
  fileText _ := ""
  fileLineIndex _ := oneLine
  parse _ := none
  callInsights _ _ := []
  assists _ _ := []
  isLocal _ := true
  fileUrl _ := "main.rs"
  incomingCalls _ _ := none

def outerError : OwnershipDiagnostic :=
  ⟨"E0505", "cannot move out of `a` because it is borrowed", columns 0 20, []⟩

def innerError : OwnershipDiagnostic := ⟨"E0382", "use of moved value: `b`", columns 5 6, []⟩

/-- A moved value used inside a larger expression that moves a borrowed one. -/
def nestedErrors : Snapshot := diagnosticsOnly [outerError, innerError]

/-- The model at the inner error is about the outer one. -/
theorem nested_error_selects_outer :
    nestedErrors.urlToFileId "main.rs" = .ok (some 0) ∧ ¬ RoundTrips nestedErrors "main.rs" := by
  refine ⟨rfl, fun h => ?_⟩
  have hlisted : ownershipProblemFromDiagnostic innerError [] {}
      ∈ ownershipProblemList (nestedErrors.diagnosticsOf 0) [] {} := by decide +kernel
  obtain ⟨_, diagnostic, hselected, hid⟩ :=
    (@selectedProblemId_eq_iff nestedErrors 0 _ rfl _ _).mp (h _ rfl _ hlisted)
  have houter : selectedDiagnosticAt (nestedErrors.diagnosticsOf 0)
      (Range.point innerError.range.start) = some outerError := by decide +kernel
  obtain rfl : outerError = diagnostic := Option.some.inj (houter.symm.trans hselected)
  exact absurd (ownershipProblemId_inj hid).1 (by decide)

/-- A rejected use of `b` and no diagnostic. -/
theorem rejected_use_not_selected : ∃ (snap : Snapshot) (event : OwnershipEvent),
    event ∈ uncoveredUses (snap.diagnosticsOf 0) (snap.eventsOf 0) ∧
      ¬ SelectsProblem snap 0 (ownershipProblemId "E0382" event.name event.range)
        event.range.start := by
  let event : OwnershipEvent := ⟨"use-b", 1, 0, 0, .invalidUse, .moved, columns 5 6, columns 0 1,
    "b", "b", none, true, none, none⟩
  let snap : Snapshot := { diagnosticsOnly [] with ownershipEvents := [[(none, [(0, [event])])]] }
  have hevent : event ∈ uncoveredUses (snap.diagnosticsOf 0) (snap.eventsOf 0) := by decide +kernel
  exact ⟨snap, event, hevent, uncovered_use_not_selected hevent (by decide) _⟩

end RustWorkbench.Analyzer
