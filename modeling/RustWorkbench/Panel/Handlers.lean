import RustWorkbench.Panel.State

/-!
# The handlers of the learning panel

One definition per method of `RustWorkbenchPanel` that touches the modelled state, in the
order of the source.  A method that the source spawns as a task body takes the values its
closure captured.
-/

namespace RustWorkbench.Panel

namespace PanelState

/-- `active_editor.as_ref().and_then(WeakEntity::upgrade)`. -/
def liveEditor (app : App) (panel : PanelState) : Option EditorId :=
  panel.activeEditor.filter app.upgrade

def selectedProblem (panel : PanelState) : Option OwnershipProblem :=
  panel.selectedProblemId.bind fun selected =>
    panel.problems.problems.find? fun problem => problem.id == selected

def selectedProblemIndex (panel : PanelState) : Option Nat :=
  panel.selectedProblemId.bind fun selected =>
    panel.problems.problems.findIdx? fun problem => problem.id == selected

def activeCursorPosition (app : App) (panel : PanelState) : Option Position :=
  (panel.liveEditor app).bind fun editor => (app.newestHead editor).map (·.position)

def problemIndexAtCursor (app : App) (panel : PanelState) : Option Nat :=
  (panel.activeCursorPosition app).bind fun position =>
    ownershipProblemIndexAtPosition panel.problems.problems position

/-- `last_problem_key = None; pending_problem_key = None`. -/
def clearProblemKeys (panel : PanelState) : PanelState :=
  { panel with lastProblemKey := none, pendingProblemKey := none }

/-- `last_model_key = None; pending_model_key = None`. -/
def clearModelKeys (panel : PanelState) : PanelState :=
  { panel with lastModelKey := none, pendingModelKey := none }

/-- The two guide keys are always cleared together with the guide they belong to. -/
def clearGuide (panel : PanelState) : PanelState :=
  { panel with
    lastWorkspaceGuideKey := none
    pendingWorkspaceGuideKey := none
    workspaceGuide := {} }

/-! ## Debounced channels -/

def scheduleProblemScan (panel : PanelState) : PanelState :=
  { panel with previewRepairId := none, problemScanTask := .timer }

def scheduleWorkspaceGuide (panel : PanelState) : PanelState :=
  if !panel.active || panel.selectedProblemId.isNone then panel
  else { panel with workspaceGuideTask := .timer }

def scheduleRefresh (panel : PanelState) : PanelState :=
  if !panel.active then panel else { panel with refreshTask := .timer }

def scheduleCursorProblemSelection (panel : PanelState) : PanelState :=
  { panel with problemSelectionTask := .timer }

/-! ## Editors and analysis sessions -/

def observeActiveEditor (app : App) (panel : PanelState) : PanelState :=
  if app.activeItem = panel.activeEditor then panel
  else
    { panel.clearModelKeys.clearProblemKeys.clearGuide with
      activeBuffer := none
      activePosition := none
      problems := {}
      selectedProblemId := none
      selectedSymptomProblemId := none
      operationFocusRequested := false
      selectionEpoch := panel.selectionEpoch + 1
      model := {}
      previewRepairId := none
      repairApplyTask := .ready
      repairVerification := none
      repairValidationTask := none
      validatingRepairId := none
      activeEditor := app.activeItem
      editorSubscription := app.activeItem }

def openForClue (app : App) (panel : PanelState) : PanelState :=
  let panel := panel.observeActiveEditor app
  let panel :=
    { panel.clearProblemKeys.clearModelKeys.clearGuide with
      selectedProblemId := none
      operationFocusRequested := true
      selectionEpoch := panel.selectionEpoch + 1
      selectedSymptomProblemId := none }
  panel.scheduleRefresh.scheduleProblemScan

def invalidateAnalysisSession (panel : PanelState) : PanelState :=
  -- The keys are cleared but the guide itself stays on display.
  let panel :=
    { panel.clearProblemKeys.clearModelKeys with
      analysisEpoch := panel.analysisEpoch + 1
      lastWorkspaceGuideKey := none
      pendingWorkspaceGuideKey := none
      validatingRepairId := none }
  if panel.activeBuffer.isSome then panel.scheduleProblemScan else panel

def clearUnavailableSourceState (panel : PanelState) : PanelState :=
  { panel.clearProblemKeys.clearModelKeys.clearGuide with
    activeBuffer := none
    activePosition := none
    problems := {}
    model := {}
    selectedProblemId := none
    selectedSymptomProblemId := none
    previewRepairId := none
    repairApplyTask := .ready
    repairVerification := none
    repairValidationTask := none
    validatingRepairId := none }

/-- `owns_active_uri`; `notificationPath` is `uri.to_file_path()`. -/
def ownsActiveUri (app : App) (notificationPath : Option String) (panel : PanelState) : Bool :=
  match notificationPath, panel.activeBuffer with
  | some path, some buffer => app.absPath buffer == some path
  | _, _ => false

/-! ## Selecting a problem -/

def selectProblemIndex (index : Nat) (panel : PanelState) : PanelState :=
  match panel.problems.problems[index]? with
  | none => panel
  | some problem =>
    if panel.selectedProblemId = some problem.id then
      { panel.clearGuide with selectedSymptomProblemId := some problem.id }.scheduleWorkspaceGuide
    else
      let panel :=
        { panel.clearGuide.clearModelKeys with
          selectedProblemId := some problem.id
          selectedSymptomProblemId := some problem.id
          operationFocusRequested := false
          selectionEpoch := panel.selectionEpoch + 1
          model := {}
          repairVerification := none
          repairValidationTask := none
          validatingRepairId := none
          previewRepairId := none }
      panel.scheduleRefresh.scheduleWorkspaceGuide

def selectRelativeProblem (direction : Int) (panel : PanelState) : PanelState :=
  match relativeProblemIndex panel.selectedProblemIndex panel.problems.problems.length
      direction with
  | none => panel
  | some index => panel.selectProblemIndex index

/-- Body of the task `schedule_cursor_problem_selection` spawns. -/
def cursorProblemSelection (app : App) (panel : PanelState) : PanelState :=
  if panel.problems.problems.isEmpty then
    if panel.pendingProblemKey.isNone then panel.scheduleProblemScan else panel
  else
    match panel.problemIndexAtCursor app with
    | none => panel
    | some index =>
      if panel.selectedProblemIndex ≠ some index then panel.selectProblemIndex index else panel

def ensureProblemScan (app : App) (panel : PanelState) : PanelState :=
  let previousEditor := panel.activeEditor
  let panel := panel.observeActiveEditor app
  if previousEditor ≠ panel.activeEditor
      ∨ panel.lastProblemKey.isNone ∧ panel.pendingProblemKey.isNone then
    panel.scheduleProblemScan
  else panel

/-! ## Problem scan -/

/-- `scan_problems`. -/
def scanProblems (app : App) (panel : PanelState) : PanelState :=
  match panel.liveEditor app with
  | none =>
    { panel with activeEditor := none, editorSubscription := none }.clearUnavailableSourceState
  | some editor =>
    match (app.newestHead editor).bind (·.buffer) with
    | none => panel.clearUnavailableSourceState
    | some buffer =>
      let panel := { panel with activeBuffer := some buffer }
      let requestKey : ProblemRequestKey :=
        { bufferId := buffer
          sourceHash := stableSourceHash (app.text buffer)
          analysisEpoch := panel.analysisEpoch }
      if panel.pendingProblemKey = some requestKey ∨ panel.lastProblemKey = some requestKey then
        panel
      else
        { panel with
          pendingProblemKey := some requestKey
          problemScanTask := .request ⟨requestKey, buffer⟩ }

def updateRepairVerification (problems : OwnershipProblems) (panel : PanelState) : PanelState :=
  { panel with
    repairVerification := panel.repairVerification.map fun verification =>
      if verification.state = .checking then
        { verification with state := repairVerificationOutcome verification problems }
      else verification }

/-- The index a fresh problem list selects: the same id, then the same problem moved, then
the problem at the cursor, then the first. -/
def selectedAfterScan (app : App) (previousId : Option String)
    (previousProblem : Option OwnershipProblem) (panel : PanelState) : Option Nat :=
  (previousId.bind fun id => panel.problems.problems.findIdx? fun problem => problem.id == id)
    <|> (previousProblem.bind fun previous =>
      reconciledOwnershipProblemIndex previous panel.problems.problems)
    <|> panel.problemIndexAtCursor app
    <|> defaultProblemIndex panel.problems.problems.length panel.operationFocusRequested

/-- The id at that index. -/
def selectedIdAfterScan (app : App) (previousId : Option String)
    (previousProblem : Option OwnershipProblem) (panel : PanelState) : Option String :=
  (panel.selectedAfterScan app previousId previousProblem).bind fun index =>
    panel.problems.problems[index]?.map (·.id)

/-- Select `selectedId`; a changed selection drops the facts of the previous one. -/
def reselect (selectedId : Option String) (panel : PanelState) : PanelState :=
  if selectedId = panel.selectedProblemId then panel
  else
    { panel.clearModelKeys.clearGuide with
      selectionEpoch := panel.selectionEpoch + 1
      model := {}
      selectedSymptomProblemId := selectedId
      selectedProblemId := selectedId }

/-- Store a sorted problem list and its key. -/
def storeProblems (requestKey : ProblemRequestKey) (problems : OwnershipProblems)
    (panel : PanelState) : PanelState :=
  let sorted :=
    { problems with problems := problems.problems.insertionSort ownershipProblemSortLe }
  { panel.updateRepairVerification sorted with
    problems := sorted
    lastProblemKey := some requestKey }

/-- A problem list for the current source arrived. -/
def installProblems (app : App) (requestKey : ProblemRequestKey) (problems : OwnershipProblems)
    (panel : PanelState) : PanelState :=
  let stored := panel.storeProblems requestKey problems
  let selectedId := stored.selectedIdAfterScan app panel.selectedProblemId panel.selectedProblem
  let panel := stored.reselect selectedId
  if panel.active then panel.scheduleRefresh.scheduleWorkspaceGuide else panel

/-- Body of the request task `scan_problems` spawns. -/
def problemsResponse (app : App) (request : ProblemRequest)
    (result : Except String OwnershipProblems) (panel : PanelState) : PanelState :=
  if panel.pendingProblemKey ≠ some request.key then panel
  else
    let panel := { panel with pendingProblemKey := none }
    match result with
    | .ok problems =>
      let sourceIsCurrent :=
        (panel.activeBuffer.filter (· == request.requestedBuffer)).any fun buffer =>
          ownershipProblemsMatchSource problems (app.text buffer)
      if sourceIsCurrent then panel.installProblems app request.key problems
      else { panel with lastProblemKey := none }
    | .error error =>
      { panel with
        lastProblemKey := none
        repairVerification := panel.repairVerification.map fun verification =>
          if verification.state = .checking then
            { verification with
              state := .failed ("Cargo check could not verify this repair: " ++ error) }
          else verification }

/-! ## Workspace guide -/

def refreshWorkspaceGuide (app : App) (panel : PanelState) : PanelState :=
  match panel.activeBuffer, panel.activePosition with
  | some buffer, some position =>
    let requestKey : WorkspaceGuideRequestKey :=
      { bufferId := buffer
        sourceHash := stableSourceHash (app.text buffer)
        problemId := panel.selectedSymptomProblemId <|> panel.selectedProblemId
        position := position
        selectionEpoch := panel.selectionEpoch
        analysisEpoch := panel.analysisEpoch }
    if panel.pendingWorkspaceGuideKey = some requestKey
        ∨ panel.lastWorkspaceGuideKey = some requestKey then
      panel
    else
      let expectedRevision :=
        if panel.workspaceGuide.revision.isEmpty then none else some panel.workspaceGuide.revision
      { panel with
        pendingWorkspaceGuideKey := some requestKey
        workspaceGuideTask := .request ⟨requestKey, expectedRevision⟩ }
  | _, _ => panel

/-- Body of the request task `refresh_workspace_guide` spawns. -/
def guideResponse (app : App) (request : GuideRequest)
    (result : Except String OwnershipWorkspaceGuide) (panel : PanelState) : PanelState :=
  if panel.pendingWorkspaceGuideKey ≠ some request.key then panel
  else
    let panel := { panel with pendingWorkspaceGuideKey := none }
    let sourceIsCurrent :=
      (panel.activeBuffer.filter (· == request.key.bufferId)).any fun buffer =>
        stableSourceHash (app.text buffer) == request.key.sourceHash
    if !sourceIsCurrent || panel.selectionEpoch != request.key.selectionEpoch
        || panel.analysisEpoch != request.key.analysisEpoch then
      panel
    else
      match result with
      | .ok guide =>
        { panel with lastWorkspaceGuideKey := some request.key, workspaceGuide := guide }
      | .error error =>
        { panel with
          lastWorkspaceGuideKey := none
          workspaceGuide :=
            { panel.workspaceGuide with status := "Workspace guide unavailable: " ++ error } }

/-! ## Ownership model -/

/-- The buffer and position the model is requested for: the locked problem's position,
clipped to the buffer, or else the cursor. -/
def requestSite (app : App) (editor : EditorId) (panel : PanelState) :
    Option (BufferId × Position) :=
  (app.newestHead editor).bind fun cursor => cursor.buffer.map fun buffer =>
    match panel.selectedProblem with
    | some problem => (buffer, app.clipPoint buffer problem.modelPosition)
    | none => (buffer, cursor.position)

def refresh (app : App) (panel : PanelState) : PanelState :=
  if !panel.operationFocusRequested && panel.selectedProblemId.isNone
      && (panel.pendingProblemKey.isSome || !panel.problems.problems.isEmpty) then
    panel
  else
    match panel.liveEditor app with
    | none => { panel with model := {} }
    | some editor =>
      match panel.requestSite app editor with
      | none => panel
      | some (buffer, position) =>
        let panel :=
          { panel with
            activeBuffer := some buffer
            activePosition := some position }.scheduleWorkspaceGuide
        let source := app.text buffer
        let requestKey : ModelRequestKey :=
          { sourceHash := stableSourceHash source
            problemId := panel.selectedProblemId
            position := position
            selectionEpoch := panel.selectionEpoch
            analysisEpoch := panel.analysisEpoch }
        if panel.pendingModelKey = some requestKey
            ∨ panel.lastModelKey = some requestKey
              ∧ ownershipModelMatchesSource panel.model source then
          panel
        else
          { panel with
            pendingModelKey := some requestKey
            refreshTask := .request ⟨requestKey, buffer⟩ }

/-- Body of the request task `refresh` spawns. -/
def modelResponse (app : App) (request : ModelRequest) (result : Except String OwnershipModel)
    (panel : PanelState) : PanelState :=
  if !modelResponseIsCurrent panel.pendingModelKey request.key panel.selectedProblemId
      panel.selectionEpoch panel.analysisEpoch then
    panel
  else
    let panel := { panel with pendingModelKey := none }
    match result with
    | .ok model =>
      if model.status == "rust_analyzer_unavailable"
          && panel.model.status != "rust_analyzer_unavailable"
          && panel.model.sourceHash == request.key.sourceHash then
        { panel with lastModelKey := none }
      else
        let sourceIsCurrent :=
          (panel.activeBuffer.filter (· == request.requestedBuffer)).any fun buffer =>
            ownershipModelMatchesSource model (app.text buffer)
        if sourceIsCurrent && ownershipModelMatchesProblem model request.key.problemId then
          { panel with model := model, lastModelKey := some request.key }
        else
          { panel with lastModelKey := none }.scheduleRefresh
    | .error _ =>
      let panel := { panel with lastModelKey := none }
      if panel.model.status != "rust_analyzer_unavailable"
          && panel.model.sourceHash == request.key.sourceHash then
        panel
      else
        { panel with model := {} }

/-! ## Previewing and applying repairs -/

def previewRepair (repairId : String) (panel : PanelState) : PanelState :=
  if panel.previewRepairId = some repairId then { panel with previewRepairId := none }
  else
    let panel := { panel with previewRepairId := some repairId }
    match panel.model.repairs.find? fun repair => repair.id == repairId with
    | none => panel
    | some repair =>
      if repairIsCompilerValidated repair then panel
      else if panel.validatingRepairId = some repairId then panel
      else if panel.activeBuffer.isNone || panel.activePosition.isNone then panel
      else
        { panel with
          validatingRepairId := some repairId
          repairValidationTask :=
            some ⟨repairId, panel.selectionEpoch, panel.analysisEpoch⟩ }

/-- Body of the task `preview_repair` spawns. -/
def validationResponse (request : ValidationRequest)
    (result : Except String OwnershipRepairValidationResult) (panel : PanelState) : PanelState :=
  if panel.validatingRepairId ≠ some request.repairId
      ∨ panel.selectionEpoch ≠ request.selectionEpoch
      ∨ panel.analysisEpoch ≠ request.analysisEpoch then
    panel
  else
    match result with
    | .ok result =>
      if result.status != "checking" then { panel with validatingRepairId := none } else panel
    | .error _ => { panel with validatingRepairId := none }

def setVerificationState (state : RepairVerificationState) (panel : PanelState) : PanelState :=
  { panel with
    repairVerification := panel.repairVerification.map fun verification =>
      { verification with state := state } }

/-- The record `apply_repair` starts verifying a repair of `problem` with. -/
def verificationOf (problems : OwnershipProblems) (title : String) (problem : OwnershipProblem) :
    RepairVerification :=
  { diagnosticCode := problem.diagnosticCode
    category := problem.category
    bindingName := problem.bindingName
    originalLine := problem.primaryRange.start.line
    repairTitle := title
    baselineProblemSignatures := problems.problems.map ownershipProblemSignature
    state := .applying }

def applyRepair (app : App) (repairId title sourceHash : String) (panel : PanelState) :
    PanelState :=
  if !panel.model.repairs.any fun repair =>
      repair.id == repairId && repairIsCompilerValidated repair then
    panel
  else
    match panel.activeBuffer, panel.activePosition with
    | some buffer, some position =>
      let panel :=
        { panel with
          repairVerification := panel.selectedProblem.map (verificationOf panel.problems title) }
      if stableSourceHash (app.text buffer) ≠ sourceHash then
        (panel.setVerificationState
          (.failed "The preview was stale, so no edit was applied.")).scheduleRefresh
      else
        { panel with
          repairApplyTask := .awaitingAction
            { repairId := repairId
              sourceHash := sourceHash
              buffer := buffer
              position := position
              selectionEpoch := panel.selectionEpoch
              analysisEpoch := panel.analysisEpoch } }
    | _, _ => panel

/-- The final update of the task `apply_repair` spawns. -/
def repairApplied (request : ApplyRequest) (result : Except String Unit) (panel : PanelState) :
    PanelState :=
  if panel.selectionEpoch ≠ request.selectionEpoch
      ∨ panel.analysisEpoch ≠ request.analysisEpoch then
    panel
  else
    match result with
    | .ok () => (panel.setVerificationState .checking).scheduleProblemScan
    | .error error =>
      panel.setVerificationState (.failed ("The editor could not apply the rewrite: " ++ error))

/-- The awaited code action arrived: it is applied, or the task ends with an error. -/
def repairActionResponse (request : ApplyRequest) (result : Except String (Option CodeAction))
    (panel : PanelState) : PanelState :=
  match result with
  | .ok (some _) => { panel with repairApplyTask := .awaitingEdit request }
  | .ok none => panel.repairApplied request (.error "repair is stale or no longer available")
  | .error error => panel.repairApplied request (.error error)

/-! ## Activation -/

def setActive (active : Bool) (panel : PanelState) : PanelState :=
  { panel with active := active, deferredActivations := panel.deferredActivations + 1 }

/-- Body of the callback `set_active` defers. -/
def deferredActivation (app : App) (panel : PanelState) : PanelState :=
  if panel.active then
    let panel := panel.observeActiveEditor app
    if panel.problems.problems.isEmpty then
      if panel.pendingProblemKey.isNone then panel.scheduleProblemScan else panel
    else panel.scheduleCursorProblemSelection
  else panel

end PanelState

end RustWorkbench.Panel
