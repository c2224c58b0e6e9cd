import RustWorkbench.Library.Runs
import RustWorkbench.Panel.Handlers

/-!
# Runs of the learning panel

The panel as a transition system.  An action is an event together with what the handlers read
from the rest of the application at that moment.

A task field is the only way a task reaches the panel: a timer fires, and a response arrives,
only while the task that waits for it is the one stored in its field.  When it does, the field
is left with a finished task unless the handler stores another one.
-/

namespace RustWorkbench.Panel

open Channel (Slot)

/-- The events of the observed editor the panel distinguishes. -/
inductive EditorEvent
  | edited
  | bufferEdited
  | reparsed
  | fileHandleChanged
  | selectionsChanged (isLocal : Bool)
  | other
  deriving DecidableEq, Repr

def EditorEvent.sourceChanged : EditorEvent → Bool
  | .edited | .bufferEdited | .reparsed | .fileHandleChanged => true
  | .selectionsChanged _ | .other => false

/-- `rust_analyzer_ext::RUST_ANALYZER_NAME`. -/
def RUST_ANALYZER_NAME : String := "rust-analyzer"

namespace PanelState

/-! ## Subscriptions -/

/-- `workspace::Event::ActiveItemChanged`. -/
def activeItemChanged (app : App) (panel : PanelState) : PanelState :=
  (panel.clearModelKeys.observeActiveEditor app).scheduleProblemScan

/-- `project::Event::OwnershipModelChanged`. -/
def ownershipModelChanged (app : App) (path : Option String) (panel : PanelState) : PanelState :=
  if panel.ownsActiveUri app path then
    { panel.clearModelKeys.clearProblemKeys.clearGuide with
      validatingRepairId := none }.scheduleProblemScan
  else panel

/-- `project::Event::DiskBasedDiagnosticsFinished`. -/
def diskBasedDiagnosticsFinished (panel : PanelState) : PanelState :=
  if panel.activeBuffer.isSome then panel.clearProblemKeys.scheduleProblemScan else panel

/-- `project::Event::DiagnosticsUpdated`. -/
def diagnosticsUpdated (app : App) (paths : List ProjectPath) (panel : PanelState) :
    PanelState :=
  if (panel.activeBuffer.bind app.projectPath).any fun path => paths.contains path then
    panel.clearProblemKeys.scheduleProblemScan
  else panel

/-- `project::Event::LanguageServerAdded`. -/
def languageServerAdded (name : String) (panel : PanelState) : PanelState :=
  if name = RUST_ANALYZER_NAME then panel.invalidateAnalysisSession else panel

/-- The source-changed half of the editor subscription. -/
def sourceChanged (panel : PanelState) : PanelState :=
  let panel : PanelState :=
    { panel.clearModelKeys.clearProblemKeys.clearGuide with
      selectedSymptomProblemId := none
      repairValidationTask := none
      validatingRepairId := none
      repairVerification := panel.repairVerification.map fun verification =>
        if verification.state = .applying ∨ verification.state = .checking then verification
        else { verification with state := .checking } }
  panel.scheduleProblemScan

/-- The editor subscription `observe_active_editor` installs. -/
def editorEvent (event : EditorEvent) (panel : PanelState) : PanelState :=
  let panel := if event.sourceChanged then panel.sourceChanged else panel
  if panel.active && event == .selectionsChanged true then panel.scheduleCursorProblemSelection
  else panel

/-- The refresh button in the panel's header. -/
def refreshClicked (panel : PanelState) : PanelState :=
  panel.clearModelKeys.clearProblemKeys.clearGuide.scheduleProblemScan

end PanelState

/-! ## Events -/

inductive Event
  | activeItemChanged
  | ownershipModelChanged (path : Option String)
  | diskBasedDiagnosticsFinished
  | diagnosticsUpdated (paths : List ProjectPath)
  | languageServerAdded (name : String)
  | languageServerRemoved
  | editor (event : EditorEvent)
  | refreshAction
  | refreshClicked
  | openForClue
  | relativeIssue (direction : Int)
  | focusProblem (index : Nat)
  | ensureProblemScan
  | setActive (active : Bool)
  | deferredActivation
  | previewRepair (repairId : String)
  | applyRepair (repairId title sourceHash : String)
  | scanTimer
  | refreshTimer
  | guideTimer
  | selectionTimer
  | problemsResponse (result : Except String OwnershipProblems)
  | modelResponse (result : Except String OwnershipModel)
  | guideResponse (result : Except String OwnershipWorkspaceGuide)
  | validationResponse (result : Except String OwnershipRepairValidationResult)
  | repairAction (result : Except String (Option CodeAction))
  | repairEdit (result : Except String Unit)

/-- One event; `none` when the task or subscription that would deliver it is not there. -/
def step (panel : PanelState) : App × Event → Option PanelState
  | (app, .activeItemChanged) => some (panel.activeItemChanged app)
  | (app, .ownershipModelChanged path) => some (panel.ownershipModelChanged app path)
  | (_, .diskBasedDiagnosticsFinished) => some panel.diskBasedDiagnosticsFinished
  | (app, .diagnosticsUpdated paths) => some (panel.diagnosticsUpdated app paths)
  | (_, .languageServerAdded name) => some (panel.languageServerAdded name)
  | (_, .languageServerRemoved) => some panel.invalidateAnalysisSession
  | (_, .editor event) =>
    if panel.editorSubscription.isSome then some (panel.editorEvent event) else none
  | (_, .refreshAction) => some panel.scheduleRefresh
  | (_, .refreshClicked) => some panel.refreshClicked
  | (app, .openForClue) => some (panel.openForClue app)
  | (_, .relativeIssue direction) => some (panel.selectRelativeProblem direction)
  | (_, .focusProblem index) => some (panel.selectProblemIndex index)
  | (app, .ensureProblemScan) => some (panel.ensureProblemScan app)
  | (_, .setActive active) => some (panel.setActive active)
  | (app, .deferredActivation) =>
    if panel.deferredActivations = 0 then none
    else
      some ({ panel with
        deferredActivations := panel.deferredActivations - 1 }.deferredActivation app)
  | (_, .previewRepair repairId) => some (panel.previewRepair repairId)
  | (app, .applyRepair repairId title sourceHash) =>
    some (panel.applyRepair app repairId title sourceHash)
  | (app, .scanTimer) =>
    match panel.problemScanTask with
    | .timer => some ({ panel with problemScanTask := .ready }.scanProblems app)
    | _ => none
  | (app, .refreshTimer) =>
    match panel.refreshTask with
    | .timer => some ({ panel with refreshTask := .ready }.refresh app)
    | _ => none
  | (app, .guideTimer) =>
    match panel.workspaceGuideTask with
    | .timer => some ({ panel with workspaceGuideTask := .ready }.refreshWorkspaceGuide app)
    | _ => none
  | (app, .selectionTimer) =>
    match panel.problemSelectionTask with
    | .timer => some ({ panel with problemSelectionTask := .ready }.cursorProblemSelection app)
    | _ => none
  | (app, .problemsResponse result) =>
    match panel.problemScanTask with
    | .request issued =>
      some ({ panel with problemScanTask := .ready }.problemsResponse app issued result)
    | _ => none
  | (app, .modelResponse result) =>
    match panel.refreshTask with
    | .request issued =>
      some ({ panel with refreshTask := .ready }.modelResponse app issued result)
    | _ => none
  | (app, .guideResponse result) =>
    match panel.workspaceGuideTask with
    | .request issued =>
      some ({ panel with workspaceGuideTask := .ready }.guideResponse app issued result)
    | _ => none
  | (_, .validationResponse result) =>
    match panel.repairValidationTask with
    | some issued =>
      some ({ panel with repairValidationTask := none }.validationResponse issued result)
    | none => none
  | (_, .repairAction result) =>
    match panel.repairApplyTask with
    | .awaitingAction issued =>
      some ({ panel with repairApplyTask := .ready }.repairActionResponse issued result)
    | _ => none
  | (_, .repairEdit result) =>
    match panel.repairApplyTask with
    | .awaitingEdit issued =>
      some ({ panel with repairApplyTask := .ready }.repairApplied issued result)
    | _ => none

/-! ## What one step does -/

/-- The handler of each event, run while the task or subscription that delivers it is there. -/
inductive Steps (panel : PanelState) (app : App) : Event → PanelState → Prop
  | activeItemChanged : Steps panel app .activeItemChanged (panel.activeItemChanged app)
  | ownershipModelChanged (path : Option String) :
      Steps panel app (.ownershipModelChanged path) (panel.ownershipModelChanged app path)
  | diskBasedDiagnosticsFinished :
      Steps panel app .diskBasedDiagnosticsFinished panel.diskBasedDiagnosticsFinished
  | diagnosticsUpdated (paths : List ProjectPath) :
      Steps panel app (.diagnosticsUpdated paths) (panel.diagnosticsUpdated app paths)
  | languageServerAdded (name : String) :
      Steps panel app (.languageServerAdded name) (panel.languageServerAdded name)
  | languageServerRemoved :
      Steps panel app .languageServerRemoved panel.invalidateAnalysisSession
  | editor (event : EditorEvent) (hobserved : panel.editorSubscription.isSome = true) :
      Steps panel app (.editor event) (panel.editorEvent event)
  | refreshAction : Steps panel app .refreshAction panel.scheduleRefresh
  | refreshClicked : Steps panel app .refreshClicked panel.refreshClicked
  | openForClue : Steps panel app .openForClue (panel.openForClue app)
  | relativeIssue (direction : Int) :
      Steps panel app (.relativeIssue direction) (panel.selectRelativeProblem direction)
  | focusProblem (index : Nat) :
      Steps panel app (.focusProblem index) (panel.selectProblemIndex index)
  | ensureProblemScan : Steps panel app .ensureProblemScan (panel.ensureProblemScan app)
  | setActive (active : Bool) : Steps panel app (.setActive active) (panel.setActive active)
  | deferredActivation (hdeferred : panel.deferredActivations ≠ 0) :
      Steps panel app .deferredActivation
        ({ panel with
          deferredActivations := panel.deferredActivations - 1 }.deferredActivation app)
  | previewRepair (repairId : String) :
      Steps panel app (.previewRepair repairId) (panel.previewRepair repairId)
  | applyRepair (repairId title sourceHash : String) :
      Steps panel app (.applyRepair repairId title sourceHash)
        (panel.applyRepair app repairId title sourceHash)
  | scanTimer (htask : panel.problemScanTask = .timer) :
      Steps panel app .scanTimer ({ panel with problemScanTask := .ready }.scanProblems app)
  | refreshTimer (htask : panel.refreshTask = .timer) :
      Steps panel app .refreshTimer ({ panel with refreshTask := .ready }.refresh app)
  | guideTimer (htask : panel.workspaceGuideTask = .timer) :
      Steps panel app .guideTimer
        ({ panel with workspaceGuideTask := .ready }.refreshWorkspaceGuide app)
  | selectionTimer (htask : panel.problemSelectionTask = .timer) :
      Steps panel app .selectionTimer
        ({ panel with problemSelectionTask := .ready }.cursorProblemSelection app)
  | problemsResponse (result : Except String OwnershipProblems) {request}
      (htask : panel.problemScanTask = .request request) :
      Steps panel app (.problemsResponse result)
        ({ panel with problemScanTask := .ready }.problemsResponse app request result)
  | modelResponse (result : Except String OwnershipModel) {request}
      (htask : panel.refreshTask = .request request) :
      Steps panel app (.modelResponse result)
        ({ panel with refreshTask := .ready }.modelResponse app request result)
  | guideResponse (result : Except String OwnershipWorkspaceGuide) {request}
      (htask : panel.workspaceGuideTask = .request request) :
      Steps panel app (.guideResponse result)
        ({ panel with workspaceGuideTask := .ready }.guideResponse app request result)
  | validationResponse (result : Except String OwnershipRepairValidationResult) {request}
      (htask : panel.repairValidationTask = some request) :
      Steps panel app (.validationResponse result)
        ({ panel with repairValidationTask := none }.validationResponse request result)
  | repairAction (result : Except String (Option CodeAction)) {request}
      (htask : panel.repairApplyTask = .awaitingAction request) :
      Steps panel app (.repairAction result)
        ({ panel with repairApplyTask := .ready }.repairActionResponse request result)
  | repairEdit (result : Except String Unit) {request}
      (htask : panel.repairApplyTask = .awaitingEdit request) :
      Steps panel app (.repairEdit result)
        ({ panel with repairApplyTask := .ready }.repairApplied request result)

/-- **A step is the handler of its event.** -/
theorem steps_of_step {panel panel' : PanelState} {app : App} {event : Event}
    (h : step panel (app, event) = some panel') : Steps panel app event panel' := by
  cases event
  case editor event =>
    obtain ⟨hobserved, hpanel⟩ := Option.ite_none_right_eq_some.mp h
    cases hpanel
    exact .editor event hobserved
  case deferredActivation =>
    obtain ⟨hdeferred, hpanel⟩ := Option.ite_none_left_eq_some.mp h
    cases hpanel
    exact .deferredActivation hdeferred
  -- A task delivers: the step is defined by the state of its field.
  case scanTimer | refreshTimer | guideTimer | selectionTimer | problemsResponse | modelResponse
      | guideResponse | validationResponse | repairAction | repairEdit =>
    simp only [step] at h
    split at h
    · rename_i htask
      cases h
      constructor
      exact htask
    · cases h
  all_goals
    cases h
    constructor

/-- The panel, from the state `load` builds. -/
def system : Runs.System PanelState (App × Event) where
  init := {}
  step := step

end RustWorkbench.Panel
