import RustWorkbench.Analyzer.GuideSites
import Mathlib.Data.Prod.Lex
import Mathlib.Data.String.Basic

/-!
# The workspace guide

`handle_ownership_workspace_guide`: the problems of all local files, grouped by cause, and the
journey of the value behind the selected group.
-/

namespace RustWorkbench.Analyzer

open PushNew (pushNew)
open StableSort (sortByKey dedupBy sameKey)

def MAX_CLUSTERS : Nat := 100
def MAX_PROBLEMS : Nat := 2000
def MAX_IMPACTS : Nat := 50
def MAX_RELATED_CONSTRAINTS : Nat := 16
def MAX_JOURNEY_FRAMES : Nat := 16

structure OwnershipWorkspaceGuideParams where
  uri : String
  position : Position
  selectedProblemId : Option String := none
  expectedRevision : Option String := none

/-! ## The problems of the workspace -/

/-- `ownership_diagnostic_file_ids`. -/
def ownershipDiagnosticFileIds (diagnostics : OwnershipDiagnostics) : List FileId :=
  dedupBy (sameKey id) (sortByKey id
    ((diagnostics.flatMap fun flycheck => flycheck.values).flatMap fun package =>
      package.map (·.1)))

/-- The problem of a diagnostic, with its cause. -/
def workspaceProblem (snap : Snapshot) (fileId : FileId) (diagnostic : OwnershipDiagnostic) :
    WorkspaceOwnershipProblem :=
  let events := ownershipEventsForFile snap.ownershipEvents fileId
  let problem := ownershipProblemFromDiagnostic diagnostic events
    (ownershipTutorialForFile snap.ownershipTutorialModels fileId)
  { fileId
    uri := snap.fileUrl fileId
    problem
    causeId := ownershipProblemCauseId (snap.fileUrl fileId) problem events }

/-- The problems of a file, none for a file outside the workspace. -/
def workspaceProblemsOf (snap : Snapshot) (fileId : FileId) : List WorkspaceOwnershipProblem :=
  if !snap.isLocal fileId then []
  else (ownershipDiagnosticsForFile snap.ownershipDiagnostics fileId).map
    (workspaceProblem snap fileId)

/-- All problems: the active file first, then by URL and start. -/
def workspaceProblems (snap : Snapshot) (activeFileId : FileId) :
    List WorkspaceOwnershipProblem :=
  sortByKey (fun entry => toLex (!decide (entry.fileId = activeFileId),
      toLex (entry.uri, entry.problem.primaryRange.start)))
    ((ownershipDiagnosticFileIds snap.ownershipDiagnostics).flatMap (workspaceProblemsOf snap))

/-- The problems that are looked at. -/
def guideProblems (snap : Snapshot) (activeFileId : FileId) : List WorkspaceOwnershipProblem :=
  (workspaceProblems snap activeFileId).take MAX_PROBLEMS

/-- The id in the request, or that of the first problem of the active file at the position. -/
def guideSelectedProblemId (entries : List WorkspaceOwnershipProblem) (activeFileId : FileId)
    (params : OwnershipWorkspaceGuideParams) : Option String :=
  params.selectedProblemId
    <|> (entries.find? fun entry => decide (entry.fileId = activeFileId)
      && (rangesTouch entry.problem.primaryRange (Range.point params.position)
        || entry.problem.relatedRanges.any fun range =>
          rangesTouch range (Range.point params.position))).map (·.problem.id)

def guideSelectedCauseId (entries : List WorkspaceOwnershipProblem)
    (selectedProblemId : Option String) : Option String :=
  selectedProblemId.bind fun selected =>
    (entries.find? fun entry => entry.problem.id == selected).map (·.causeId)

/-- `slice::swap(0, index)`, for an index inside the list. -/
def swapToFront {α : Type} (l : List α) (index : Nat) : List α :=
  match l, l[index]? with
  | first :: _, some a => (l.set 0 a).set index first
  | l, _ => l

/-- Each cause once, in the order of the problems; the selected one changes places with the
first. -/
def guideCauseIds (entries : List WorkspaceOwnershipProblem) (selectedCauseId : Option String) :
    List String :=
  let causeIds := (entries.map (·.causeId)).foldl pushNew []
  match selectedCauseId with
  | none => causeIds
  | some selected =>
    match causeIds.findIdx? (· == selected) with
    | none => causeIds
    | some index => swapToFront causeIds index

/-! ## Clusters -/

def groupedProblems (entries : List WorkspaceOwnershipProblem) (causeId : String) :
    List WorkspaceOwnershipProblem :=
  entries.filter fun entry => entry.causeId == causeId

/-- The first problem of a group by range. -/
def groupRoot (entries : List WorkspaceOwnershipProblem) (causeId : String) :
    Option WorkspaceOwnershipProblem :=
  (groupedProblems entries causeId).argmin fun entry => entry.problem.primaryRange

def evidenceSite (root : WorkspaceOwnershipProblem) (request : Range)
    (related : OwnershipProblemRelated) : OwnershipWorkspaceSite where
  problemId := none
  role := "evidence"
  location := ⟨root.uri, related.range⟩
  label := related.message
  relationship := "compiler-related span"
  precision := "compiler_diagnostic"
  selected := rangesTouch related.range request

/-- The impact sites of a group, before the limit. -/
def impactSites (grouped : List WorkspaceOwnershipProblem) (root : WorkspaceOwnershipProblem)
    (selectedProblemId : Option String) (request : Range) : List OwnershipWorkspaceSite :=
  let symptoms := grouped.map fun entry =>
    ownershipProblemSite entry "symptom"
      "rustc rejected this site because of the root event above" selectedProblemId
  dedupBy (sameKey fun site => (site.location, site.label))
    (sortByKey (fun site => toLex (site.location.uri, site.location.range.start))
      (symptoms ++ root.problem.related.map (evidenceSite root request)))

def clusterPrecision (grouped : List WorkspaceOwnershipProblem) : String :=
  if grouped.any fun entry => entry.problem.precision == "estimated" then "estimated"
  else if grouped.any fun entry => entry.problem.precision == "compiler_diagnostic" then
    "compiler_diagnostic"
  else "compiler_exact"

/-- The cluster of a cause. -/
def guideCluster (snap : Snapshot) (entries : List WorkspaceOwnershipProblem)
    (selectedProblemId : Option String) (request : Range) (causeId : String) :
    Option OwnershipProblemCluster :=
  let grouped := groupedProblems entries causeId
  (groupRoot entries causeId).map fun root =>
    let impacts := impactSites grouped root selectedProblemId request
    { id := causeId
      rootProblemId := root.problem.id
      title := ownershipClusterTitle root.problem
      summary := ownershipClusterSummary root.problem grouped.length
      category := root.problem.category
      diagnosticCode := root.problem.diagnosticCode
      root := ownershipProblemRootSite root
        (ownershipEventsForFile snap.ownershipEvents root.fileId) selectedProblemId
      impacts := impacts.take MAX_IMPACTS
      relatedConstraints := []
      affectedFiles := (grouped.map (·.uri)).dedup.length
      precision := clusterPrecision grouped
      truncated := impacts.length > MAX_IMPACTS }

def guideClusters (snap : Snapshot) (entries : List WorkspaceOwnershipProblem)
    (selectedProblemId selectedCauseId : Option String) (request : Range) :
    List OwnershipProblemCluster :=
  ((guideCauseIds entries selectedCauseId).take MAX_CLUSTERS).filterMap
    (guideCluster snap entries selectedProblemId request)

/-! ## The selected cluster -/

def guideSelectedClusterId (clusters : List OwnershipProblemCluster)
    (selectedCauseId : Option String) : Option String :=
  (selectedCauseId.filter fun cause => clusters.any fun cluster => cluster.id == cause)
    <|> clusters.head?.map (·.id)

/-- The problem that the journey is about. -/
def guideRootEntry (entries : List WorkspaceOwnershipProblem)
    (clusters : List OwnershipProblemCluster) (clusterId : String) :
    Option WorkspaceOwnershipProblem :=
  entries.find? fun entry => entry.causeId == clusterId
    && entry.problem.id
      == ((clusters.find? fun cluster => cluster.id == clusterId).map (·.rootProblemId)).getD ""

def clusterRootFrame (cluster : OwnershipProblemCluster) : OwnershipJourneyFrame where
  id := cluster.id ++ "-root"
  kind := "diagnostic"
  location := cluster.root.location
  label := cluster.root.label
  explanation := cluster.summary
  transfer := "compiler diagnostic"
  after := "operation rejected"
  provenance := cluster.root.precision

/-- The clusters with the constraints of the selected one, and the journey. -/
def guideJourney (snap : Snapshot) (entries : List WorkspaceOwnershipProblem)
    (clusters : List OwnershipProblemCluster) (selectedProblemId : Option String)
    (clusterId : Option String) :
    Except String (List OwnershipProblemCluster × List OwnershipJourneyFrame) :=
  match clusterId with
  | none => .ok (clusters, [])
  | some clusterId =>
    match guideRootEntry entries clusters clusterId with
    | none => .ok (clusters, [])
    | some root =>
      let journey := ownershipWorkspaceJourney snap root MAX_JOURNEY_FRAMES
      match ownershipIncomingCallConstraints snap root.fileId root.problem.primaryRange
          selectedProblemId MAX_RELATED_CONSTRAINTS with
      | .error message => .error message
      | .ok constraints =>
        let isSelected := fun cluster : OwnershipProblemCluster => cluster.id == clusterId
        .ok (clusters.modify (clusters.findIdx isSelected)
            fun cluster => { cluster with relatedConstraints := constraints },
          if journey.isEmpty then ((clusters.find? isSelected).map clusterRootFrame).toList
          else journey)

/-! ## Intent questions -/

/-- `ownership_intent_question`. -/
def ownershipIntentQuestion (category : String) : Option OwnershipIntentQuestion :=
  match category with
  | "use_after_move" | "partial_move" | "move_while_borrowed" =>
    some {
      id := "retain_after_transfer"
      prompt := "Should the original caller still use this value after the call?"
      choices := [
        ⟨"transfer", "No, transfer it", "Keep the move and stop using the original binding."⟩,
        ⟨"borrow", "Yes, lend it temporarily",
          "Change the call boundary to borrow when the callee does not need ownership."⟩,
        ⟨"duplicate_or_share", "Yes, duplicate or share",
          "Compare an independent clone with shared ownership and their runtime costs."⟩] }
  | "immutable_mutation" =>
    some {
      id := "mutation_owner"
      prompt := "Who should be allowed to change this value?"
      choices := [
        ⟨"unique", "One mutable owner",
          "Prefer `mut` or `&mut`; this keeps mutation checked at compile time."⟩,
        ⟨"shared_local", "Several same-thread owners",
          "Consider `Rc<RefCell<_>>`; borrow conflicts become runtime checks."⟩,
        ⟨"shared_threads", "Owners on multiple threads",
          "Consider `Arc<Mutex<_>>` or `Arc<RwLock<_>>`; locking changes runtime behavior."⟩] }
  | "multiple_mutable_borrows" | "mutable_while_shared" | "assign_while_borrowed" =>
    some {
      id := "old_view_needed"
      prompt := "Is the earlier reference still needed after this mutation?"
      choices := [
        ⟨"end_first", "No, end it first",
          "Shorten the borrow or reorder operations before adding a wrapper."⟩,
        ⟨"snapshot", "Yes, keep a snapshot",
          "Copy or clone only the data that must survive the mutation."⟩,
        ⟨"shared_runtime", "Yes, share live state",
          "Interior mutability or locking may be appropriate, with runtime trade-offs."⟩] }
  | _ => none

/-! ## The handler -/

def guideRevision (entries : List WorkspaceOwnershipProblem) (activeSource : String) : String :=
  stableSourceHash ("|".intercalate
    (entries.map (fun entry => entry.uri ++ ":" ++ entry.problem.id)
      ++ [stableSourceHash activeSource]))

def guideStatus (entries : List WorkspaceOwnershipProblem) (expectedRevision : Option String)
    (revision : String) : String :=
  if expectedRevision.any (· != revision) then "refreshed"
  else if entries.isEmpty then "ready_empty"
  else "ready"

/-- `handle_ownership_workspace_guide`; an excluded file gets the default guide. -/
def handleOwnershipWorkspaceGuide (snap : Snapshot) (params : OwnershipWorkspaceGuideParams) :
    Except String OwnershipWorkspaceGuide :=
  match snap.urlToFileId params.uri with
  | .error message => .error message
  | .ok none => .ok {}
  | .ok (some activeFileId) =>
    let entries := guideProblems snap activeFileId
    let selectedProblemId := guideSelectedProblemId entries activeFileId params
    let selectedCauseId := guideSelectedCauseId entries selectedProblemId
    let clusters := guideClusters snap entries selectedProblemId selectedCauseId
      (Range.point params.position)
    let selectedClusterId := guideSelectedClusterId clusters selectedCauseId
    let category := selectedClusterId.bind fun selected =>
      (clusters.find? fun cluster => cluster.id == selected).map (·.category)
    match guideJourney snap entries clusters selectedProblemId selectedClusterId with
    | .error message => .error message
    | .ok (clusters, journey) =>
      let revision := guideRevision entries (snap.fileText activeFileId)
      .ok {
        schemaVersion := 1
        status := guideStatus entries params.expectedRevision revision
        revision
        selectedClusterId
        clusters
        journey := journey.take MAX_JOURNEY_FRAMES
        intentQuestion := category.bind ownershipIntentQuestion
        truncated := (workspaceProblems snap activeFileId).length > MAX_PROBLEMS
          || (guideCauseIds entries selectedCauseId).length > MAX_CLUSTERS
          || journey.length > MAX_JOURNEY_FRAMES }

end RustWorkbench.Analyzer
