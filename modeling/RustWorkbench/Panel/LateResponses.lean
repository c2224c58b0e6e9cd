import RustWorkbench.Panel.Frame
import RustWorkbench.Panel.Pending

/-!
# Late responses

Cancelling a task is best effort: a timer whose task was replaced may still fire, and a response
may be delivered long after the panel stopped waiting for it.  `lateSystem` adds these deliveries
to the events of the panel.  Whatever is delivered, the facts the panel stores belong to the
problem it has locked.

* `lateSystem` — every request the panel has issued can be answered at any time.
* `moves_lateStep` — what a delivery can do to the locked problem and the stored model.
* `facts_match_locked_problem` — the invariant along whole runs.
-/

namespace RustWorkbench.Panel

open Channel (Slot)
open Runs (Run anyStep)

/-! ## Deliveries after cancellation -/

inductive TimerKind
  | scan | refresh | guide | selection
  deriving DecidableEq, Repr

/-- An event of the panel, or the delivery of a timer or a response that was cancelled. -/
inductive LateEvent
  | event (event : Event)
  | timer (kind : TimerKind)
  | problems (request : ProblemRequest) (result : Except String OwnershipProblems)
  | model (request : ModelRequest) (result : Except String OwnershipModel)
  | guide (request : GuideRequest) (result : Except String OwnershipWorkspaceGuide)

/-- The panel with every request it has ever issued. -/
structure LatePanel where
  panel : PanelState := {}
  problemRequests : List ProblemRequest := []
  modelRequests : List ModelRequest := []
  guideRequests : List GuideRequest := []

/-- The request in a task field. -/
def slotRequest {ρ : Type} : Slot ρ → List ρ
  | .request issued => [issued]
  | .ready | .timer => []

/-- The next state of the panel; a request in one of its task fields has been issued. -/
def LatePanel.moveTo (late : LatePanel) (panel : PanelState) : LatePanel where
  panel := panel
  problemRequests := late.problemRequests ++ slotRequest panel.problemScanTask
  modelRequests := late.modelRequests ++ slotRequest panel.refreshTask
  guideRequests := late.guideRequests ++ slotRequest panel.workspaceGuideTask

/-- The handler a timer runs. -/
def PanelState.timerFired (app : App) (kind : TimerKind) (panel : PanelState) : PanelState :=
  match kind with
  | .scan => panel.scanProblems app
  | .refresh => panel.refresh app
  | .guide => panel.refreshWorkspaceGuide app
  | .selection => panel.cursorProblemSelection app

def lateStep (late : LatePanel) : App × LateEvent → Option LatePanel
  | (app, .event event) => (step late.panel (app, event)).map late.moveTo
  | (app, .timer kind) => some (late.moveTo (late.panel.timerFired app kind))
  | (app, .problems request result) =>
    if request ∈ late.problemRequests then
      some (late.moveTo (late.panel.problemsResponse app request result))
    else none
  | (app, .model request result) =>
    if request ∈ late.modelRequests then
      some (late.moveTo (late.panel.modelResponse app request result))
    else none
  | (app, .guide request result) =>
    if request ∈ late.guideRequests then
      some (late.moveTo (late.panel.guideResponse app request result))
    else none

def lateSystem : Runs.System LatePanel (App × LateEvent) where
  init := {}
  step := lateStep

/-! ## The locked problem and the stored model -/

/-- Facts that name a problem are about the locked one; models before version 11 name none. -/
def FactsMatch (panel : PanelState) : Prop :=
  ∀ locked shown, panel.selectedProblemId = some locked → 11 ≤ panel.model.schemaVersion →
    panel.model.selectedProblemId = some shown → locked = shown

theorem Moves.factsMatch {panel panel' : PanelState} (h : Moves panel panel')
    (hmatch : FactsMatch panel) : FactsMatch panel' := by
  intro locked shown hlocked hversion hshown
  cases h with
  | kept hid hmodel =>
    rw [hmodel] at hversion hshown
    exact hmatch locked shown (hid.symm.trans hlocked) hversion hshown
  | emptied hmodel =>
    rw [hmodel] at hshown
    exact nomatch hshown
  | unlocked hid =>
    rw [hid] at hlocked
    exact nomatch hlocked
  | stored h =>
    simp only [ownershipModelMatchesProblem, hlocked, hshown, Option.isNone_some, Bool.false_or,
      Bool.or_eq_true, decide_eq_true_eq, beq_iff_eq, Option.some.injEq] at h
    rcases h with h | h
    · omega
    · exact h.symm

theorem moves_timerFired {panel : PanelState} {app : App} (kind : TimerKind) :
    Moves panel (panel.timerFired app kind) := by
  cases kind with
  | scan => exact Changes.scanProblems.frame.facts
  | refresh => exact frame_refresh.facts
  | guide => exact Changes.refreshWorkspaceGuide.frame.facts
  | selection => exact Changes.cursorProblemSelection.frame.facts

theorem moves_lateStep {late late' : LatePanel} {action : App × LateEvent}
    (h : lateStep late action = some late') : Moves late.panel late'.panel := by
  obtain ⟨app, event⟩ := action
  cases event with
  | event event =>
    obtain ⟨panel', hstep, rfl⟩ := Option.map_eq_some_iff.mp h
    exact moves_step hstep
  | timer kind =>
    cases h
    exact moves_timerFired kind
  | problems request result =>
    simp only [lateStep] at h
    split at h
    · cases h
      exact (Works.problemsResponse request result).moves
    · cases h
  | model request result =>
    simp only [lateStep] at h
    split at h
    · cases h
      exact (frame_modelResponse request result).facts
    · cases h
  | guide request result =>
    simp only [lateStep] at h
    split at h
    · cases h
      exact (Changes.guideResponse request result).frame.facts
    · cases h

/-- **The panel never shows the facts of one problem under another.**  In every state reached, with
responses delivered late and in any order, a stored model that names a problem names the locked
one. -/
theorem facts_match_locked_problem {tr : List (LatePanel × (App × LateEvent))} {late : LatePanel}
    (h : Run lateSystem anyStep tr late) : FactsMatch late.panel := by
  refine h.invariant (I := fun late => FactsMatch late.panel) ?_ ?_
  · intro locked shown hlocked
    exact nomatch hlocked
  · intro late action late' hmatch _ hstep
    exact (moves_lateStep hstep).factsMatch hmatch

/-! ## A model that arrives late -/

/-- The only problem of an empty file. -/
def movedValue : OwnershipProblem where
  id := "E0382-a"
  category := "use_after_move"
  diagnosticCode := some "E0382"
  message := "use of moved value"
  bindingName := "a"
  primaryRange := ⟨⟨0, 0⟩, ⟨0, 0⟩⟩
  bindingRange := ⟨⟨0, 0⟩, ⟨0, 0⟩⟩
  relatedRanges := []
  related := []
  modelPosition := ⟨0, 0⟩
  precision := "compiler_exact"

/-- The list of problems for the empty source. -/
def problemList (status : String) (problems : List OwnershipProblem) : OwnershipProblems :=
  { status, sourceHash := stableSourceHash "", problems }

/-- The model of the problem. -/
def movedModel (repairs : List OwnershipRepair) : OwnershipModel :=
  { schemaVersion := 14
    status := "ready"
    sourceHash := stableSourceHash ""
    selectedProblemId := some "E0382-a"
    repairs }

/-- The request that `refresh` issues for the locked problem. -/
def movedRequest : ModelRequest :=
  ⟨⟨stableSourceHash "", some "E0382-a", ⟨0, 0⟩, 2, 0⟩, 0⟩

/-- Open the file, show the panel, receive the problem and request its model. -/
def lockProblem : List Event :=
  [.activeItemChanged, .setActive true, .scanTimer,
    .problemsResponse (.ok (problemList "ready" [movedValue])), .refreshTimer]

/-- The task that waits for the model is replaced, and the model arrives all the same. -/
theorem late_model_names_locked_problem :
    ∃ tr late, Run lateSystem anyStep tr late
      ∧ (late.panel.selectedProblemId, late.panel.model.selectedProblemId,
        late.panel.model.schemaVersion) = (some "E0382-a", some "E0382-a", 14)
      ∧ FactsMatch late.panel := by
  obtain ⟨tr, late, hrun, hfields⟩ := Runs.exists_run_of_runActions (S := lateSystem)
    (f := fun late : LatePanel => (late.panel.selectedProblemId,
      late.panel.model.selectedProblemId, late.panel.model.schemaVersion))
    (v := (some "E0382-a", some "E0382-a", 14))
    (show (Runs.runActions lateSystem
      ((lockProblem.map fun event => (oneEditor, .event event))
        ++ [(oneEditor, .event .refreshAction), (oneEditor, .model movedRequest (.ok (movedModel [])))])
      [] lateSystem.init).map _ = some _ by decide +kernel)
  exact ⟨tr, late, hrun, hfields, facts_match_locked_problem hrun⟩

end RustWorkbench.Panel
