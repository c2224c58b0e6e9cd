import Mathlib.Data.List.MinMax
import Mathlib.Data.List.Sort
import Mathlib.Data.Prod.Lex
import RustWorkbench.Hash
import RustWorkbench.Library.Channel
import RustWorkbench.Wire.CodeAction
import RustWorkbench.Wire.Model
import RustWorkbench.Wire.Problems

/-!
# The state of the learning panel

`RustWorkbenchPanel` keeps the facts it shows, the selection, one *last* and one *pending*
request key for each of its three request channels, and one task field per channel.  A task
field holds at most one task: assigning to it cancels the task it held.

What a handler reads from the rest of the editor through its context is the record `App`;
every event of a run comes with its own `App`, so nothing is assumed about how buffers,
cursors and the active item change between two events.

Fields that are only rendered (status texts, display preferences, scenes, annotations) are
left out.
-/

namespace RustWorkbench.Panel

open Channel (Slot)

abbrev EditorId := Nat
abbrev BufferId := Nat

/-- `project::ProjectPath`. -/
structure ProjectPath where
  worktreeId : Nat
  path : String
  deriving DecidableEq, Repr

/-- The head of an editor's newest selection: its position, and the buffer it lies in when
the multibuffer still holds that buffer. -/
structure Cursor where
  position : Position
  buffer : Option BufferId
  deriving DecidableEq, Repr

/-- What handlers read through `cx`. -/
structure App where
  /-- `workspace.active_item_as::<Editor>`; `none` also when the workspace is gone. -/
  activeItem : Option EditorId
  /-- `WeakEntity::upgrade` succeeds. -/
  upgrade : EditorId → Bool
  newestHead : EditorId → Option Cursor
  /-- `buffer.snapshot().text()`. -/
  text : BufferId → String
  /-- `clip_point_utf16(_, Bias::Left)`. -/
  clipPoint : BufferId → Position → Position
  /-- Absolute path of a local file. -/
  absPath : BufferId → Option String
  projectPath : BufferId → Option ProjectPath

structure ModelRequestKey where
  sourceHash : String
  problemId : Option String
  position : Position
  selectionEpoch : UInt64
  analysisEpoch : UInt64
  deriving DecidableEq, Repr

structure ProblemRequestKey where
  bufferId : BufferId
  sourceHash : String
  analysisEpoch : UInt64
  deriving DecidableEq, Repr

structure WorkspaceGuideRequestKey where
  bufferId : BufferId
  sourceHash : String
  problemId : Option String
  position : Position
  selectionEpoch : UInt64
  analysisEpoch : UInt64
  deriving DecidableEq, Repr

structure ProblemRequest where
  key : ProblemRequestKey
  requestedBuffer : BufferId
  deriving DecidableEq, Repr

structure ModelRequest where
  key : ModelRequestKey
  requestedBuffer : BufferId
  deriving DecidableEq, Repr

structure GuideRequest where
  key : WorkspaceGuideRequestKey
  expectedRevision : Option String
  deriving DecidableEq, Repr

/-- The values the closure of `repair_apply_task` captured. -/
structure ApplyRequest where
  repairId : String
  sourceHash : String
  buffer : BufferId
  position : Position
  selectionEpoch : UInt64
  analysisEpoch : UInt64
  deriving DecidableEq, Repr

/-- `repair_apply_task`: first the code action is awaited, then its application. -/
inductive ApplyTask
  | ready
  | awaitingAction (issued : ApplyRequest)
  | awaitingEdit (issued : ApplyRequest)
  deriving DecidableEq, Repr

/-- The values the closure of `repair_validation_task` captured. -/
structure ValidationRequest where
  repairId : String
  selectionEpoch : UInt64
  analysisEpoch : UInt64
  deriving DecidableEq, Repr

inductive RepairVerificationState
  | applying
  | checking
  | resolved (remainingFileProblems : Nat)
  | introducedProblems (summaries : List String)
  | stillPresent (currentLine : Nat)
  | failed (message : String)
  deriving DecidableEq, Repr

structure RepairVerification where
  diagnosticCode : Option String
  category : String
  bindingName : String
  originalLine : Nat
  repairTitle : String
  baselineProblemSignatures : List String
  state : RepairVerificationState
  deriving DecidableEq, Repr

/-- `RustWorkbenchPanel`; the defaults are the values `load` starts from. -/
structure PanelState where
  active : Bool := false
  model : OwnershipModel := {}
  problems : OwnershipProblems := {}
  workspaceGuide : OwnershipWorkspaceGuide := {}
  selectedProblemId : Option String := none
  selectedSymptomProblemId : Option String := none
  operationFocusRequested : Bool := false
  selectionEpoch : UInt64 := 0
  analysisEpoch : UInt64 := 0
  activeBuffer : Option BufferId := none
  activePosition : Option Position := none
  lastProblemKey : Option ProblemRequestKey := none
  pendingProblemKey : Option ProblemRequestKey := none
  lastModelKey : Option ModelRequestKey := none
  pendingModelKey : Option ModelRequestKey := none
  lastWorkspaceGuideKey : Option WorkspaceGuideRequestKey := none
  pendingWorkspaceGuideKey : Option WorkspaceGuideRequestKey := none
  activeEditor : Option EditorId := none
  editorSubscription : Option EditorId := none
  refreshTask : Slot ModelRequest := .ready
  problemScanTask : Slot ProblemRequest := .ready
  /-- Only ever a timer: the closure issues no request. -/
  problemSelectionTask : Slot Empty := .ready
  workspaceGuideTask : Slot GuideRequest := .ready
  repairApplyTask : ApplyTask := .ready
  repairVerification : Option RepairVerification := none
  repairValidationTask : Option ValidationRequest := none
  validatingRepairId : Option String := none
  previewRepairId : Option String := none
  /-- Callbacks of `set_active` that `cx.defer_in` has queued and not yet run. -/
  deferredActivations : Nat := 0

/-! ## Pure helpers -/

/-- `model_response_is_current`. -/
def modelResponseIsCurrent (pending : Option ModelRequestKey) (request : ModelRequestKey)
    (selectedProblemId : Option String) (selectionEpoch analysisEpoch : UInt64) : Bool :=
  pending == some request && selectionEpoch == request.selectionEpoch
    && analysisEpoch == request.analysisEpoch && selectedProblemId == request.problemId

def defaultProblemIndex (problemCount : Nat) (operationFocusRequested : Bool) : Option Nat :=
  if !operationFocusRequested && problemCount > 0 then some 0 else none

def repairIsCompilerValidated (repair : OwnershipRepair) : Bool :=
  repair.previewComplete && (repair.compilerValidated || repair.validationState == "validated")

def ownershipModelMatchesSource (model : OwnershipModel) (source : String) : Bool :=
  model.status == "rust_analyzer_unavailable" || model.sourceHash == stableSourceHash source

def ownershipProblemsMatchSource (problems : OwnershipProblems) (source : String) : Bool :=
  problems.status == "rust_analyzer_unavailable" || problems.sourceHash == stableSourceHash source

def ownershipModelMatchesProblem (model : OwnershipModel)
    (requestedProblemId : Option String) : Bool :=
  requestedProblemId.isNone || model.schemaVersion < 11
    || model.selectedProblemId == requestedProblemId

/-- `ownership_problem_sort_key(left) <= ownership_problem_sort_key(right)`. -/
def ownershipProblemSortLe (left right : OwnershipProblem) : Prop :=
  left.primaryRange.start < right.primaryRange.start
    ∨ left.primaryRange.start = right.primaryRange.start ∧ left.id ≤ right.id

instance : DecidableRel ownershipProblemSortLe := fun left right =>
  inferInstanceAs (Decidable (left.primaryRange.start < right.primaryRange.start
    ∨ left.primaryRange.start = right.primaryRange.start ∧ left.id ≤ right.id))

def positionIsBefore (left right : Position) : Bool := left < right

def positionIsInRange (position : Position) (range : Range) : Bool :=
  !positionIsBefore position range.start && !positionIsBefore range.stop position

/-- `u32::abs_diff`. -/
def absDiff (a b : Nat) : Nat := (a - b) + (b - a)

/-- `ownership_problem_index_at_position`: the containing problem with the least
`(lines, columns, index)`. -/
def ownershipProblemIndexAtPosition (problems : List OwnershipProblem)
    (position : Position) : Option Nat :=
  let containing := problems.zipIdx.filter fun c => positionIsInRange position c.1.primaryRange
  (containing.argmin fun c =>
    toLex (c.1.primaryRange.stop.line - c.1.primaryRange.start.line,
      toLex (c.1.primaryRange.stop.character - c.1.primaryRange.start.character, c.2))).map (·.2)

def reconciledOwnershipProblemIndex (previous : OwnershipProblem)
    (current : List OwnershipProblem) : Option Nat :=
  let candidates := current.zipIdx.filter fun c =>
    c.1.diagnosticCode == previous.diagnosticCode && c.1.category == previous.category
      && c.1.bindingName == previous.bindingName
  (candidates.argmin fun c =>
    toLex (absDiff c.1.primaryRange.start.line previous.primaryRange.start.line,
      toLex (absDiff c.1.primaryRange.start.character previous.primaryRange.start.character,
        c.2))).map (·.2)

/-- `relative_problem_index`; `rem_euclid` is `%` on `Int`. -/
def relativeProblemIndex (selected : Option Nat) (problemCount : Nat) (direction : Int) :
    Option Nat :=
  if problemCount = 0 then none
  else some (((selected.getD 0 : Int) + direction) % (problemCount : Int)).toNat

/-- `display_line_number`, saturating at `u32::MAX`. -/
def displayLineNumber (zeroBasedLine : Nat) : Nat := min (zeroBasedLine + 1) (2 ^ 32 - 1)

def ownershipProblemSignature (problem : OwnershipProblem) : String :=
  problem.diagnosticCode.getD "rustc" ++ "|" ++ problem.category ++ "|" ++ problem.bindingName

def repairVerificationOutcome (verification : RepairVerification)
    (problems : OwnershipProblems) : RepairVerificationState :=
  let candidates := problems.problems.filter fun problem =>
    problem.category == verification.category
      && problem.bindingName == verification.bindingName
      && problem.diagnosticCode == verification.diagnosticCode
  let distance := fun problem : OwnershipProblem =>
    absDiff problem.primaryRange.start.line verification.originalLine
  match (candidates.argmin distance).filter (fun problem => distance problem ≤ 8) with
  | some problem => .stillPresent problem.primaryRange.start.line
  | none =>
    let introduced := problems.problems.filter fun problem =>
      !verification.baselineProblemSignatures.contains (ownershipProblemSignature problem)
    let summaries := (introduced.take 5).map fun problem =>
      problem.diagnosticCode.getD "rustc" ++ " on `" ++ problem.bindingName ++ "` at line "
        ++ toString (displayLineNumber problem.primaryRange.start.line)
    if summaries.isEmpty then .resolved problems.problems.length
    else .introducedProblems summaries

end RustWorkbench.Panel
