import RustWorkbench.Panel.Step

/-!
# Pending requests are in flight

Each of the panel's channels remembers the key of the request it waits for and returns early
when the same request is asked for again.  That is sound only while the request with the
pending key is the task in the channel's field; otherwise the channel waits for a response
that nothing will deliver.  Handlers that clear a pending key before they overwrite the task
field keep this; six handlers overwrite the field without clearing the key.

* `pending_requests_in_flight` — the bookkeeping along whole runs.
* `tracked_throughout_iff` — the runs that keep it are those without an unsafe step.
* `active_item_change_wedges_scan` — the run in which it is lost for good.
-/

namespace RustWorkbench.Panel

open Channel (Slot Tracked)
open Runs (Run anyStep Always always_snoc)

/-- For each channel: if a key is pending, the task in the channel's field is the request that
was issued with that key. -/
structure RequestsTracked (panel : PanelState) : Prop where
  problem : Tracked ProblemRequest.key panel.pendingProblemKey panel.problemScanTask
  model : Tracked ModelRequest.key panel.pendingModelKey panel.refreshTask
  guide : Tracked GuideRequest.key panel.pendingWorkspaceGuideKey panel.workspaceGuideTask

/-- The inductive invariant.  A model response that is not current is dropped without clearing
the pending key, so the pending model key also has to stay current. -/
structure Inv (panel : PanelState) : Prop extends RequestsTracked panel where
  current : ∀ key, panel.pendingModelKey = some key →
    key.selectionEpoch = panel.selectionEpoch ∧ key.analysisEpoch = panel.analysisEpoch
      ∧ key.problemId = panel.selectedProblemId

namespace PanelState

variable (panel : PanelState)

/-! ## What scheduling leaves alone -/

@[simp] theorem scheduleRefresh_active : panel.scheduleRefresh.active = panel.active := by
  unfold scheduleRefresh
  split <;> rfl

@[simp] theorem scheduleRefresh_selectedProblemId :
    panel.scheduleRefresh.selectedProblemId = panel.selectedProblemId := by
  unfold scheduleRefresh
  split <;> rfl

@[simp] theorem scheduleRefresh_pendingWorkspaceGuideKey :
    panel.scheduleRefresh.pendingWorkspaceGuideKey = panel.pendingWorkspaceGuideKey := by
  unfold scheduleRefresh
  split <;> rfl

theorem reselect_of_ne {p : PanelState} {id : Option String} (h : id ≠ p.selectedProblemId) :
    (p.reselect id).pendingModelKey = none ∧ (p.reselect id).pendingWorkspaceGuideKey = none := by
  unfold reselect
  rw [if_neg h]
  exact ⟨rfl, rfl⟩

theorem reselect_active (id : Option String) : (panel.reselect id).active = panel.active := by
  unfold reselect
  split <;> rfl

theorem reselect_self {panel : PanelState} :
    panel.reselect panel.selectedProblemId = panel := by
  unfold reselect
  rw [if_pos rfl]

end PanelState

namespace Inv

variable {panel : PanelState} {app : App}

/-- Nothing is pending. -/
theorem of_none (hp : panel.pendingProblemKey = none) (hm : panel.pendingModelKey = none)
    (hg : panel.pendingWorkspaceGuideKey = none) : Inv panel := by
  refine ⟨⟨?_, ?_, ?_⟩, ?_⟩
  · rw [hp]; exact Channel.tracked_none
  · rw [hm]; exact Channel.tracked_none
  · rw [hg]; exact Channel.tracked_none
  · intro key hk
    rw [hm] at hk
    cases hk

theorem model_clear (h : Inv panel) : Inv panel.clearModelKeys :=
  ⟨⟨h.problem, Channel.tracked_none, h.guide⟩, by intro key hk; cases hk⟩

theorem problem_clear (h : Inv panel) : Inv panel.clearProblemKeys :=
  ⟨⟨Channel.tracked_none, h.model, h.guide⟩, h.current⟩

/-! ## Scheduling -/

theorem problem_scan (h : Inv panel) (hp : panel.pendingProblemKey = none) :
    Inv panel.scheduleProblemScan :=
  ⟨⟨Channel.tracked_timer.mpr hp, h.model, h.guide⟩, h.current⟩

theorem model_schedule (h : Inv panel)
    (hp : panel.active = true → panel.pendingModelKey = none) : Inv panel.scheduleRefresh := by
  unfold PanelState.scheduleRefresh
  split
  · exact h
  · rename_i hactive
    simp only [Bool.not_eq_true, Bool.not_eq_false'] at hactive
    exact ⟨⟨h.problem, Channel.tracked_timer.mpr (hp hactive), h.guide⟩, h.current⟩

theorem guide_schedule (h : Inv panel)
    (hp : panel.active = true → panel.selectedProblemId.isSome = true →
      panel.pendingWorkspaceGuideKey = none) : Inv panel.scheduleWorkspaceGuide := by
  unfold PanelState.scheduleWorkspaceGuide
  split
  · exact h
  · rename_i hactive
    simp only [Bool.or_eq_true, Bool.not_eq_true', not_or, Bool.not_eq_false,
      Option.isNone_iff_eq_none, ← ne_eq, Option.ne_none_iff_isSome] at hactive
    exact ⟨⟨h.problem, h.model, Channel.tracked_timer.mpr (hp hactive.1 hactive.2)⟩, h.current⟩

/-! ## Editors, sessions and selection -/

theorem observe (h : Inv panel) : Inv (panel.observeActiveEditor app) := by
  unfold PanelState.observeActiveEditor
  split
  · exact h
  · exact of_none rfl rfl rfl

theorem invalidate : Inv panel.invalidateAnalysisSession := by
  unfold PanelState.invalidateAnalysisSession
  dsimp only
  split
  · exact problem_scan (of_none rfl rfl rfl) rfl
  · exact of_none rfl rfl rfl

theorem select (h : Inv panel) (index : Nat) : Inv (panel.selectProblemIndex index) := by
  unfold PanelState.selectProblemIndex
  split
  · exact h
  · split
    · refine guide_schedule ?_ (fun _ _ => rfl)
      exact ⟨⟨h.problem, h.model, Channel.tracked_none⟩, h.current⟩
    · refine guide_schedule (model_schedule ?_ (fun _ => rfl)) ?_
      · exact ⟨⟨h.problem, Channel.tracked_none, Channel.tracked_none⟩,
          by intro key hk; cases hk⟩
      · intro _ _
        rw [PanelState.scheduleRefresh_pendingWorkspaceGuideKey]
        rfl

theorem reselect (h : Inv panel) (id : Option String) : Inv (panel.reselect id) := by
  unfold PanelState.reselect
  split
  · exact h
  · exact ⟨⟨h.problem, Channel.tracked_none, Channel.tracked_none⟩, by intro key hk; cases hk⟩

end Inv

/-! ## When a fresh problem list keeps the selection -/

/-- The selection survives a fresh problem list: the selected id is still in it, or nothing was
selected and neither the cursor nor the default selects anything. -/
def KeepsSelection (app : App) (panel : PanelState) (problems : List OwnershipProblem) : Prop :=
  match panel.selectedProblemId with
  | some id => ∃ problem ∈ problems, problem.id = id
  | none =>
    (∀ position, panel.activeCursorPosition app = some position →
      ∀ problem ∈ problems, positionIsInRange position problem.primaryRange = false)
    ∧ (problems = [] ∨ panel.operationFocusRequested = true)

theorem argmin_zipIdx_lt {α β : Type} [LinearOrder β] {l : List α} {p : α × Nat → Bool}
    {f : α × Nat → β} {c : α × Nat} (h : (l.zipIdx.filter p).argmin f = some c) :
    l[c.2]? = some c.1 ∧ p c = true := by
  have hmem := List.argmin_mem (Option.mem_def.mpr h)
  rw [List.mem_filter] at hmem
  exact ⟨List.mem_zipIdx_iff_getElem?.mp hmem.1, hmem.2⟩

theorem indexAtPosition_spec {problems : List OwnershipProblem} {position : Position} :
    (ownershipProblemIndexAtPosition problems position = none ↔
      ∀ problem ∈ problems, positionIsInRange position problem.primaryRange = false)
    ∧ ∀ index, ownershipProblemIndexAtPosition problems position = some index →
      ∃ problem, problems[index]? = some problem := by
  unfold ownershipProblemIndexAtPosition
  dsimp only
  refine ⟨?_, ?_⟩
  · rw [Option.map_eq_none_iff, List.argmin_eq_none, List.filter_eq_nil_iff]
    constructor
    · intro h problem hmem
      obtain ⟨i, hi⟩ := List.mem_iff_getElem?.mp hmem
      have := h (problem, i) (List.mem_zipIdx_iff_getElem?.mpr hi)
      simpa using this
    · intro h c hc
      have hmem := List.mem_of_getElem? (List.mem_zipIdx_iff_getElem?.mp hc)
      simp [h c.1 hmem]
  · intro index h
    obtain ⟨c, hc, rfl⟩ := Option.map_eq_some_iff.mp h
    exact ⟨c.1, (argmin_zipIdx_lt hc).1⟩

theorem defaultProblemIndex_bind_eq_none {problems : List OwnershipProblem} {focus : Bool} :
    ((defaultProblemIndex problems.length focus).bind fun index =>
        problems[index]?.map (·.id)) = none
      ↔ problems = [] ∨ focus = true := by
  unfold defaultProblemIndex
  cases problems <;> cases focus <;> simp

/-- The id selected after a scan is the one selected before it exactly when the new list keeps
the selection. -/
theorem selectedIdAfterScan_eq_iff (app : App) (panel : PanelState)
    (previousProblem : Option OwnershipProblem)
    (hprev : panel.selectedProblemId = none → previousProblem = none) :
    panel.selectedIdAfterScan app panel.selectedProblemId previousProblem
        = panel.selectedProblemId
      ↔ KeepsSelection app panel panel.problems.problems := by
  unfold KeepsSelection PanelState.selectedIdAfterScan PanelState.selectedAfterScan
  cases hsel : panel.selectedProblemId with
  | some id =>
    simp only [Option.bind_some]
    cases hidx : panel.problems.problems.findIdx? (fun problem => problem.id == id) with
    | some i =>
      obtain ⟨hi, hid, -⟩ := List.findIdx?_eq_some_iff_getElem.mp hidx
      simp only [beq_iff_eq] at hid
      simp only [Option.orElse_eq_orElse, Option.orElse_eq_or, Option.some_or, Option.bind_some, List.getElem?_eq_getElem hi,
        Option.map_some, hid, true_iff]
      exact ⟨_, List.getElem_mem hi, hid⟩
    | none =>
      rw [List.findIdx?_eq_none_iff] at hidx
      constructor
      · intro h
        obtain ⟨j, -, hj⟩ := Option.bind_eq_some_iff.mp h
        obtain ⟨problem, hproblem, hid⟩ := Option.map_eq_some_iff.mp hj
        exact ⟨problem, List.mem_of_getElem? hproblem, hid⟩
      · rintro ⟨problem, hmem, hid⟩
        have := hidx problem hmem
        simp [hid] at this
  | none =>
    rw [hprev hsel]
    simp only [Option.bind_none, Option.orElse_eq_orElse, Option.orElse_eq_or, Option.none_or,
      PanelState.problemIndexAtCursor]
    cases hcur : panel.activeCursorPosition app with
    | none =>
      rw [Option.bind_none, Option.none_or, defaultProblemIndex_bind_eq_none]
      simp
    | some position =>
      obtain ⟨hnone, hsome⟩ := @indexAtPosition_spec panel.problems.problems position
      simp only [Option.bind_some, Option.some.injEq, forall_eq', ← hnone]
      cases hidx : ownershipProblemIndexAtPosition panel.problems.problems position with
      | none =>
        rw [Option.none_or, defaultProblemIndex_bind_eq_none]
        simp
      | some i =>
        obtain ⟨problem, hproblem⟩ := hsome i hidx
        simp [hproblem]

variable {panel p : PanelState} {app : App}

theorem keepsSelection_storeProblems {key : ProblemRequestKey} {problems : OwnershipProblems} :
    KeepsSelection app (panel.storeProblems key problems)
        (panel.storeProblems key problems).problems.problems
      ↔ KeepsSelection app panel problems.problems := by
  have hmem : ∀ problem, problem ∈ (panel.storeProblems key problems).problems.problems
      ↔ problem ∈ problems.problems := fun problem => List.mem_insertionSort _
  have hnil : (panel.storeProblems key problems).problems.problems = []
      ↔ problems.problems = [] := by
    rw [List.eq_nil_iff_forall_not_mem, List.eq_nil_iff_forall_not_mem]
    simp only [hmem]
  unfold KeepsSelection
  rw [show (panel.storeProblems key problems).selectedProblemId = panel.selectedProblemId from rfl]
  cases panel.selectedProblemId with
  | some id => simp only [hmem]
  | none =>
    simp only [hmem, hnil]
    exact Iff.rfl

theorem storeProblems_selectedId_eq_iff (app : App) (panel : PanelState)
    (key : ProblemRequestKey) (problems : OwnershipProblems) :
    (panel.storeProblems key problems).selectedIdAfterScan app panel.selectedProblemId
        panel.selectedProblem = panel.selectedProblemId
      ↔ KeepsSelection app panel problems.problems := by
  rw [← @keepsSelection_storeProblems panel app key problems]
  refine selectedIdAfterScan_eq_iff app (panel.storeProblems key problems) panel.selectedProblem ?_
  intro hnone
  have hnone' : panel.selectedProblemId = none := hnone
  rw [PanelState.selectedProblem, hnone']
  rfl

/-- The buffer under the cursor of the observed editor, where `refresh` looks for the source. -/
def PanelState.sourceBuffer (app : App) (panel : PanelState) : Option BufferId :=
  ((panel.liveEditor app).bind app.newestHead).bind (·.buffer)

theorem requestSite_sourceBuffer {editor : EditorId} {site : BufferId × Position}
    (he : panel.liveEditor app = some editor) (hs : panel.requestSite app editor = some site) :
    panel.sourceBuffer app = some site.1 := by
  unfold PanelState.requestSite at hs
  obtain ⟨cursor, hcursor, hs⟩ := Option.bind_eq_some_iff.mp hs
  obtain ⟨buffer, hbuffer, rfl⟩ := Option.map_eq_some_iff.mp hs
  rw [PanelState.sourceBuffer, he, Option.bind_some, hcursor, Option.bind_some, hbuffer]
  split <;> rfl

/-- The test every response makes before it is installed: the active buffer is still the one
the request was for, and its text passes. -/
theorem filter_any_eq_true {active : Option BufferId} {requested : BufferId}
    {p : BufferId → Bool} :
    (active.filter (· == requested)).any p = true ↔ active = some requested ∧ p requested := by
  rw [Option.any_eq_true]
  constructor
  · rintro ⟨buffer, hbuffer, hp⟩
    obtain ⟨hactive, heq⟩ := Option.filter_eq_some_iff.mp hbuffer
    rw [beq_iff_eq] at heq
    subst heq
    exact ⟨hactive, hp⟩
  · rintro ⟨rfl, hp⟩
    exact ⟨requested, by simp, hp⟩

/-! ## The three request channels -/

namespace Inv

variable {panel : PanelState} {app : App}

theorem scan (h : Inv panel) : Inv (panel.scanProblems app) := by
  unfold PanelState.scanProblems
  split
  · exact of_none rfl rfl rfl
  · split
    · exact of_none rfl rfl rfl
    · dsimp only
      split
      · exact ⟨⟨h.problem, h.model, h.guide⟩, h.current⟩
      · exact ⟨⟨Channel.tracked_issued rfl, h.model, h.guide⟩, h.current⟩

theorem store (h : Inv panel) (key : ProblemRequestKey) (problems : OwnershipProblems) :
    Inv (panel.storeProblems key problems) :=
  ⟨⟨h.problem, h.model, h.guide⟩, h.current⟩

/-- A fresh problem list keeps the bookkeeping unless it keeps the selection while the model or
the guide of that selection is still being waited for. -/
theorem install (h : Inv panel) (key : ProblemRequestKey) (problems : OwnershipProblems)
    (hsafe : panel.active = true → KeepsSelection app panel problems.problems →
      panel.pendingModelKey = none
        ∧ (panel.selectedProblemId.isSome = true → panel.pendingWorkspaceGuideKey = none)) :
    Inv (panel.installProblems app key problems) := by
  unfold PanelState.installProblems
  dsimp only
  have hiff := storeProblems_selectedId_eq_iff app panel key problems
  generalize (panel.storeProblems key problems).selectedIdAfterScan app panel.selectedProblemId
    panel.selectedProblem = selectedId at hiff ⊢
  have hsel := (h.store key problems).reselect selectedId
  split
  · rename_i hactive
    have hactive' : panel.active = true := by
      rw [PanelState.reselect_active] at hactive
      exact hactive
    by_cases hid : selectedId = panel.selectedProblemId
    · obtain ⟨hm, hg⟩ := hsafe hactive' (hiff.mp hid)
      rw [hid, show panel.selectedProblemId = (panel.storeProblems key problems).selectedProblemId
        from rfl, PanelState.reselect_self]
      refine guide_schedule (model_schedule (h.store key problems) (fun _ => hm)) ?_
      intro _ hsome
      rw [PanelState.scheduleRefresh_selectedProblemId] at hsome
      rw [PanelState.scheduleRefresh_pendingWorkspaceGuideKey]
      exact hg hsome
    · obtain ⟨hm, hg⟩ := PanelState.reselect_of_ne (p := panel.storeProblems key problems) hid
      refine guide_schedule (model_schedule hsel (fun _ => hm)) ?_
      intro _ _
      rw [PanelState.scheduleRefresh_pendingWorkspaceGuideKey]
      exact hg
  · exact hsel

theorem guide_refresh (h : Inv panel) : Inv (panel.refreshWorkspaceGuide app) := by
  unfold PanelState.refreshWorkspaceGuide
  split
  · dsimp only
    split
    · exact h
    · exact ⟨⟨h.problem, h.model, Channel.tracked_issued rfl⟩, h.current⟩
  · exact h

/-- A guide response clears the key it was pending on before it looks at anything else. -/
theorem guide_response (h : Inv panel) (request : GuideRequest)
    (hslot : panel.workspaceGuideTask = .request request)
    (result : Except String OwnershipWorkspaceGuide) :
    Inv ({ panel with workspaceGuideTask := .ready }.guideResponse app request result) := by
  unfold PanelState.guideResponse
  dsimp only
  split
  · rename_i hne
    have hpending : panel.pendingWorkspaceGuideKey = none := by
      have htracked := h.guide
      rw [hslot, Channel.tracked_request] at htracked
      cases hk : panel.pendingWorkspaceGuideKey with
      | none => rfl
      | some key => rw [hk, htracked key hk] at hne; exact absurd rfl hne
    exact ⟨⟨h.problem, h.model, Channel.tracked_ready.mpr hpending⟩, h.current⟩
  · split
    · exact ⟨⟨h.problem, h.model, Channel.tracked_none⟩, h.current⟩
    · split
      · exact ⟨⟨h.problem, h.model, Channel.tracked_none⟩, h.current⟩
      · exact ⟨⟨h.problem, h.model, Channel.tracked_none⟩, h.current⟩

/-- A model response that is dropped as stale belongs to no pending key. -/
theorem model_response (h : Inv panel) (request : ModelRequest)
    (hslot : panel.refreshTask = .request request) (result : Except String OwnershipModel) :
    Inv ({ panel with refreshTask := .ready }.modelResponse app request result) := by
  unfold PanelState.modelResponse
  dsimp only
  split
  · rename_i hstale
    have hpending : panel.pendingModelKey = none := by
      have htracked := h.model
      rw [hslot, Channel.tracked_request] at htracked
      cases hk : panel.pendingModelKey with
      | none => rfl
      | some key =>
        obtain ⟨hsel, hana, hid⟩ := h.current key hk
        rw [htracked key hk] at hsel hana hid
        simp [modelResponseIsCurrent, hk, htracked key hk, hsel, hana, hid] at hstale
    exact ⟨⟨h.problem, Channel.tracked_ready.mpr hpending, h.guide⟩, h.current⟩
  · have hclear : ∀ model lastModelKey,
        Inv { panel with
          refreshTask := .ready
          pendingModelKey := none
          model := model
          lastModelKey := lastModelKey } :=
      fun _ _ => ⟨⟨h.problem, Channel.tracked_none, h.guide⟩, by intro key hk; cases hk⟩
    split
    · split
      · exact hclear _ _
      · split
        · exact hclear _ _
        · exact model_schedule (hclear _ _) (fun _ => rfl)
    · split
      · exact hclear _ _
      · exact hclear _ _

/-- `refresh` restarts the guide's timer on its way to the model request. -/
theorem refresh (h : Inv panel)
    (hsafe : (panel.sourceBuffer app).isSome = true → panel.active = true →
      panel.selectedProblemId.isSome = true → panel.pendingWorkspaceGuideKey = none) :
    Inv (panel.refresh app) := by
  unfold PanelState.refresh
  split
  · exact h
  · split
    · exact ⟨⟨h.problem, h.model, h.guide⟩, h.current⟩
    · rename_i editor heditor
      split
      · exact h
      · rename_i buffer position hsite
        dsimp only
        have hsource : (panel.sourceBuffer app).isSome = true := by
          rw [requestSite_sourceBuffer heditor hsite]
          rfl
        have hguide : Inv { panel with
            activeBuffer := some buffer
            activePosition := some position }.scheduleWorkspaceGuide := by
          refine guide_schedule ?_ (hsafe hsource)
          exact ⟨⟨h.problem, h.model, h.guide⟩, h.current⟩
        split
        · exact hguide
        · refine ⟨⟨hguide.problem, Channel.tracked_issued rfl, hguide.guide⟩, ?_⟩
          intro key hk
          cases hk
          exact ⟨rfl, rfl, rfl⟩

/-- A problem response clears the key it was pending on and may then schedule the other two
channels. -/
theorem problem_response (h : Inv panel) (request : ProblemRequest)
    (hslot : panel.problemScanTask = .request request)
    (result : Except String OwnershipProblems)
    (hsafe : ∀ problems, result = .ok problems → panel.pendingProblemKey = some request.key →
      panel.activeBuffer = some request.requestedBuffer →
      ownershipProblemsMatchSource problems (app.text request.requestedBuffer) = true →
      panel.active = true → KeepsSelection app panel problems.problems →
      panel.pendingModelKey = none
        ∧ (panel.selectedProblemId.isSome = true → panel.pendingWorkspaceGuideKey = none)) :
    Inv ({ panel with problemScanTask := .ready }.problemsResponse app request result) := by
  unfold PanelState.problemsResponse
  dsimp only
  split
  · rename_i hne
    have hpending : panel.pendingProblemKey = none := by
      have htracked := h.problem
      rw [hslot, Channel.tracked_request] at htracked
      cases hk : panel.pendingProblemKey with
      | none => rfl
      | some key => rw [hk, htracked key hk] at hne; exact absurd rfl hne
    exact ⟨⟨Channel.tracked_ready.mpr hpending, h.model, h.guide⟩, h.current⟩
  · rename_i hpending
    rw [not_not] at hpending
    have hclear : Inv { panel with problemScanTask := .ready, pendingProblemKey := none } :=
      ⟨⟨Channel.tracked_none, h.model, h.guide⟩, h.current⟩
    split
    · rename_i problems
      split
      · rename_i hcurrent
        obtain ⟨hbuffer, hmatch⟩ := filter_any_eq_true.mp hcurrent
        exact hclear.install request.key problems
          (hsafe problems rfl hpending hbuffer hmatch)
      · exact ⟨⟨hclear.problem, hclear.model, hclear.guide⟩, hclear.current⟩
    · exact ⟨⟨hclear.problem, hclear.model, hclear.guide⟩, hclear.current⟩

theorem apply_repair (h : Inv panel) (repairId title sourceHash : String)
    (hsafe : ∀ buffer, panel.active = true → panel.activeBuffer = some buffer →
      panel.activePosition.isSome = true →
      (panel.model.repairs.any fun repair =>
        repair.id == repairId && repairIsCompilerValidated repair) = true →
      stableSourceHash (app.text buffer) ≠ sourceHash → panel.pendingModelKey = none) :
    Inv (panel.applyRepair app repairId title sourceHash) := by
  unfold PanelState.applyRepair
  split
  · exact h
  · rename_i hvalid
    split
    · rename_i buffer position hbuffer hposition
      dsimp only
      split
      · rename_i hstale
        refine model_schedule ?_ (fun hactive => ?_)
        · exact ⟨⟨h.problem, h.model, h.guide⟩, h.current⟩
        · exact hsafe buffer hactive hbuffer (by rw [hposition]; rfl) (by simpa using hvalid) hstale
      · exact ⟨⟨h.problem, h.model, h.guide⟩, h.current⟩
    · exact h

theorem repair_applied (h : Inv panel) (request : ApplyRequest) (result : Except String Unit)
    (hsafe : result = .ok () → request.selectionEpoch = panel.selectionEpoch →
      request.analysisEpoch = panel.analysisEpoch → panel.pendingProblemKey = none) :
    Inv (panel.repairApplied request result) := by
  unfold PanelState.repairApplied
  split
  · exact h
  · rename_i hepochs
    simp only [not_or, ne_eq, not_not] at hepochs
    split
    · refine problem_scan ?_ (hsafe rfl hepochs.1.symm hepochs.2.symm)
      exact ⟨⟨h.problem, h.model, h.guide⟩, h.current⟩
    · exact ⟨⟨h.problem, h.model, h.guide⟩, h.current⟩

end Inv

/-! ## Which steps keep the bookkeeping -/

/-- A problem response is taken: its request is still pending and its source still current. -/
def AnswersCurrentSource (app : App) (panel : PanelState) (problems : OwnershipProblems) : Prop :=
  ∃ request, panel.problemScanTask = .request request
    ∧ panel.pendingProblemKey = some request.key
    ∧ panel.activeBuffer = some request.requestedBuffer
    ∧ ownershipProblemsMatchSource problems (app.text request.requestedBuffer) = true

/-- The steps that do not overwrite the task a pending key waits for.  The six events listed
restart a channel's timer without clearing its pending key. -/
def StepSafe (panel : PanelState) : App × Event → Prop
  | (app, .activeItemChanged) =>
    app.activeItem = panel.activeEditor → panel.pendingProblemKey = none
  | (_, .refreshAction) => panel.active = true → panel.pendingModelKey = none
  | (app, .refreshTimer) =>
    panel.active = true → panel.selectedProblemId.isSome = true →
      (panel.sourceBuffer app).isSome = true → panel.pendingWorkspaceGuideKey = none
  | (app, .problemsResponse (.ok problems)) =>
    panel.active = true → AnswersCurrentSource app panel problems →
      KeepsSelection app panel problems.problems →
      panel.pendingModelKey = none
        ∧ (panel.selectedProblemId.isSome = true → panel.pendingWorkspaceGuideKey = none)
  | (app, .applyRepair repairId _ sourceHash) =>
    ∀ buffer, panel.active = true → panel.activeBuffer = some buffer →
      panel.activePosition.isSome = true →
      (panel.model.repairs.any fun repair =>
        repair.id == repairId && repairIsCompilerValidated repair) = true →
      stableSourceHash (app.text buffer) ≠ sourceHash → panel.pendingModelKey = none
  | (_, .repairEdit (.ok ())) =>
    ∀ request, panel.repairApplyTask = .awaitingEdit request →
      request.selectionEpoch = panel.selectionEpoch →
      request.analysisEpoch = panel.analysisEpoch → panel.pendingProblemKey = none
  | _ => True

theorem observe_pendingProblemKey_of_ne (h : app.activeItem ≠ p.activeEditor) :
    (p.observeActiveEditor app).pendingProblemKey = none := by
  unfold PanelState.observeActiveEditor
  rw [if_neg h]
  rfl

section Handlers

variable {panel : PanelState} {app : App}

theorem observe_activeEditor :
    (panel.observeActiveEditor app).activeEditor = app.activeItem := by
  unfold PanelState.observeActiveEditor
  split
  · rename_i h
    exact h.symm
  · rfl

theorem observe_of_eq {p : PanelState} (h : app.activeItem = p.activeEditor) :
    p.observeActiveEditor app = p := by
  unfold PanelState.observeActiveEditor
  rw [if_pos h]

variable (h : Inv panel)

include h

/-- The subscriptions and the scans they start. -/
theorem inv_activeItemChanged
    (hsafe : app.activeItem = panel.activeEditor → panel.pendingProblemKey = none) :
    Inv (panel.activeItemChanged app) := by
  unfold PanelState.activeItemChanged
  refine h.model_clear.observe.problem_scan ?_
  by_cases heq : app.activeItem = panel.activeEditor
  · rw [observe_of_eq (p := panel.clearModelKeys) heq]
    exact hsafe heq
  · exact observe_pendingProblemKey_of_ne (p := panel.clearModelKeys) heq

theorem inv_ensureProblemScan : Inv (panel.ensureProblemScan app) := by
  unfold PanelState.ensureProblemScan
  dsimp only
  split
  · rename_i hscan
    refine h.observe.problem_scan ?_
    rcases hscan with hne | ⟨-, hnone⟩
    · rw [observe_activeEditor] at hne
      exact observe_pendingProblemKey_of_ne (Ne.symm hne)
    · exact Option.isNone_iff_eq_none.mp hnone
  · exact h.observe

theorem inv_scanIfIdle :
    Inv (if panel.pendingProblemKey.isNone then panel.scheduleProblemScan else panel) := by
  split
  · rename_i hnone
    exact h.problem_scan (Option.isNone_iff_eq_none.mp hnone)
  · exact h

theorem inv_cursorProblemSelection : Inv (panel.cursorProblemSelection app) := by
  unfold PanelState.cursorProblemSelection
  split
  · exact inv_scanIfIdle h
  · split
    · exact h
    · split
      · exact h.select _
      · exact h

theorem inv_deferredActivation : Inv (panel.deferredActivation app) := by
  unfold PanelState.deferredActivation
  split
  · dsimp only
    split
    · exact inv_scanIfIdle h.observe
    · exact ⟨⟨h.observe.problem, h.observe.model, h.observe.guide⟩, h.observe.current⟩
  · exact h

theorem inv_editorEvent (event : EditorEvent) : Inv (panel.editorEvent event) := by
  have hsource : Inv (if event.sourceChanged then panel.sourceChanged else panel) := by
    split
    · exact Inv.problem_scan (Inv.of_none rfl rfl rfl) rfl
    · exact h
  unfold PanelState.editorEvent
  dsimp only
  generalize (if event.sourceChanged then panel.sourceChanged else panel) = changed at hsource ⊢
  split
  · exact ⟨⟨hsource.problem, hsource.model, hsource.guide⟩, hsource.current⟩
  · exact hsource

theorem inv_previewRepair (repairId : String) : Inv (panel.previewRepair repairId) := by
  have hframe : ∀ preview validating task, Inv { panel with
      previewRepairId := preview
      validatingRepairId := validating
      repairValidationTask := task } :=
    fun _ _ _ => ⟨⟨h.problem, h.model, h.guide⟩, h.current⟩
  unfold PanelState.previewRepair
  split
  · exact hframe _ _ _
  · dsimp only
    split
    · exact hframe _ _ _
    · repeat' split
      all_goals exact hframe _ _ _

theorem inv_validationResponse (request : ValidationRequest)
    (result : Except String OwnershipRepairValidationResult) :
    Inv (panel.validationResponse request result) := by
  have hframe : Inv { panel with validatingRepairId := none } :=
    ⟨⟨h.problem, h.model, h.guide⟩, h.current⟩
  unfold PanelState.validationResponse
  split
  · exact h
  · split
    · split
      · exact hframe
      · exact h
    · exact hframe

end Handlers

/-- **Every safe step keeps the bookkeeping.** -/
theorem inv_step (panel : PanelState) (action : App × Event) (panel' : PanelState)
    (h : Inv panel) (hsafe : StepSafe panel action) (hstep : step panel action = some panel') :
    Inv panel' := by
  obtain ⟨app, event⟩ := action
  cases steps_of_step hstep with
  | activeItemChanged => exact inv_activeItemChanged h hsafe
  | ownershipModelChanged path =>
    unfold PanelState.ownershipModelChanged
    split
    · exact Inv.problem_scan (Inv.of_none rfl rfl rfl) rfl
    · exact h
  | diskBasedDiagnosticsFinished =>
    unfold PanelState.diskBasedDiagnosticsFinished
    split
    · exact h.problem_clear.problem_scan rfl
    · exact h
  | diagnosticsUpdated paths =>
    unfold PanelState.diagnosticsUpdated
    split
    · exact h.problem_clear.problem_scan rfl
    · exact h
  | languageServerAdded name =>
    unfold PanelState.languageServerAdded
    split
    · exact Inv.invalidate
    · exact h
  | languageServerRemoved => exact Inv.invalidate
  | editor event => exact inv_editorEvent h event
  | refreshAction => exact h.model_schedule hsafe
  | refreshClicked => exact Inv.problem_scan (Inv.of_none rfl rfl rfl) rfl
  | openForClue =>
    unfold PanelState.openForClue
    dsimp only
    refine Inv.problem_scan (Inv.model_schedule (Inv.of_none rfl rfl rfl) (fun _ => rfl)) ?_
    unfold PanelState.scheduleRefresh
    split <;> rfl
  | relativeIssue direction =>
    unfold PanelState.selectRelativeProblem
    split
    · exact h
    · exact h.select _
  | focusProblem index => exact h.select index
  | ensureProblemScan => exact inv_ensureProblemScan h
  | setActive active => exact ⟨⟨h.problem, h.model, h.guide⟩, h.current⟩
  | deferredActivation =>
    exact inv_deferredActivation ⟨⟨h.problem, h.model, h.guide⟩, h.current⟩
  | previewRepair repairId => exact inv_previewRepair h repairId
  | applyRepair repairId title sourceHash =>
    exact h.apply_repair repairId title sourceHash hsafe
  | scanTimer htask =>
    have hpending := Channel.tracked_timer.mp (htask ▸ h.problem)
    exact Inv.scan ⟨⟨Channel.tracked_ready.mpr hpending, h.model, h.guide⟩, h.current⟩
  | refreshTimer htask =>
    have hpending := Channel.tracked_timer.mp (htask ▸ h.model)
    refine Inv.refresh ⟨⟨h.problem, Channel.tracked_ready.mpr hpending, h.guide⟩, h.current⟩ ?_
    exact fun hsource hactive hsel => hsafe hactive hsel hsource
  | guideTimer htask =>
    have hpending := Channel.tracked_timer.mp (htask ▸ h.guide)
    exact Inv.guide_refresh
      ⟨⟨h.problem, h.model, Channel.tracked_ready.mpr hpending⟩, h.current⟩
  | selectionTimer =>
    exact inv_cursorProblemSelection ⟨⟨h.problem, h.model, h.guide⟩, h.current⟩
  | problemsResponse result htask =>
    refine h.problem_response _ htask result ?_
    rintro problems rfl hpending hbuffer hmatch hactive hkeeps
    exact hsafe hactive ⟨_, htask, hpending, hbuffer, hmatch⟩ hkeeps
  | modelResponse result htask => exact h.model_response _ htask result
  | guideResponse result htask => exact h.guide_response _ htask result
  | validationResponse result =>
    have hready : Inv { panel with repairValidationTask := none } :=
      ⟨⟨h.problem, h.model, h.guide⟩, h.current⟩
    exact inv_validationResponse hready _ result
  | repairAction result =>
    have hready : Inv { panel with repairApplyTask := .ready } :=
      ⟨⟨h.problem, h.model, h.guide⟩, h.current⟩
    unfold PanelState.repairActionResponse
    split
    · exact ⟨⟨h.problem, h.model, h.guide⟩, h.current⟩
    · exact hready.repair_applied _ _ (by intro hok; cases hok)
    · exact hready.repair_applied _ _ (by intro hok; cases hok)
  | repairEdit result htask =>
    have hready : Inv { panel with repairApplyTask := .ready } :=
      ⟨⟨h.problem, h.model, h.guide⟩, h.current⟩
    refine hready.repair_applied _ result ?_
    rintro rfl hsel hana
    exact hsafe _ htask hsel hana

/-! ## No other step does -/

theorem scheduleRefresh_tracked (h : Tracked ModelRequest.key p.scheduleRefresh.pendingModelKey
      p.scheduleRefresh.refreshTask) (hactive : p.active = true) : p.pendingModelKey = none := by
  simp only [PanelState.scheduleRefresh, hactive, Bool.not_true, Bool.false_eq_true, if_false]
    at h
  exact Channel.tracked_timer.mp h

theorem scheduleWorkspaceGuide_task (h : panel.active = true)
    (hs : panel.selectedProblemId.isSome = true) :
    panel.scheduleWorkspaceGuide.workspaceGuideTask = .timer := by
  simp [PanelState.scheduleWorkspaceGuide, h, Option.isSome_iff_ne_none.mp hs]

theorem scheduleWorkspaceGuide_model :
    panel.scheduleWorkspaceGuide.refreshTask = panel.refreshTask
      ∧ panel.scheduleWorkspaceGuide.pendingModelKey = panel.pendingModelKey
      ∧ panel.scheduleWorkspaceGuide.pendingWorkspaceGuideKey
        = panel.pendingWorkspaceGuideKey := by
  unfold PanelState.scheduleWorkspaceGuide
  split <;> exact ⟨rfl, rfl, rfl⟩

/-- With a locked problem and a source to ask about, `refresh` always restarts the guide. -/
theorem refresh_restarts_guide (hactive : panel.active = true)
    (hsel : panel.selectedProblemId.isSome = true)
    (hsource : (panel.sourceBuffer app).isSome = true) :
    (panel.refresh app).workspaceGuideTask = .timer
      ∧ (panel.refresh app).pendingWorkspaceGuideKey = panel.pendingWorkspaceGuideKey := by
  obtain ⟨buffer, hbuffer⟩ := Option.isSome_iff_exists.mp hsource
  obtain ⟨cursor, hcursor, hbuf⟩ := Option.bind_eq_some_iff.mp hbuffer
  obtain ⟨editor, heditor, hhead⟩ := Option.bind_eq_some_iff.mp hcursor
  have hsite : ∃ position, panel.requestSite app editor = some (buffer, position) := by
    simp only [PanelState.requestSite, hhead, Option.bind_some, hbuf, Option.map_some]
    split
    · exact ⟨_, rfl⟩
    · exact ⟨_, rfl⟩
  obtain ⟨position, hsite⟩ := hsite
  unfold PanelState.refresh
  rw [if_neg (by simp [Option.isSome_iff_ne_none.mp hsel]), heditor]
  dsimp only
  rw [hsite]
  dsimp only
  split
  · exact ⟨scheduleWorkspaceGuide_task hactive hsel, scheduleWorkspaceGuide_model.2.2⟩
  · exact ⟨scheduleWorkspaceGuide_task hactive hsel, scheduleWorkspaceGuide_model.2.2⟩

/-- A problem list that keeps the selection restarts both other channels. -/
theorem installProblems_restarts {key : ProblemRequestKey} {problems : OwnershipProblems}
    (hactive : p.active = true) (hkeeps : KeepsSelection app p problems.problems)
    (htracked : RequestsTracked (p.installProblems app key problems)) :
    p.pendingModelKey = none
      ∧ (p.selectedProblemId.isSome = true → p.pendingWorkspaceGuideKey = none) := by
  have hactive' : (p.storeProblems key problems).active = true := hactive
  unfold PanelState.installProblems at htracked
  dsimp only at htracked
  rw [(storeProblems_selectedId_eq_iff app p key problems).mpr hkeeps,
    show p.selectedProblemId = (p.storeProblems key problems).selectedProblemId from rfl,
    PanelState.reselect_self, if_pos hactive'] at htracked
  refine ⟨?_, ?_⟩
  · have hm := htracked.model
    rw [scheduleWorkspaceGuide_model.1, scheduleWorkspaceGuide_model.2.1] at hm
    have hnone := scheduleRefresh_tracked hm hactive'
    exact hnone
  · intro hsome
    have hg := htracked.guide
    rw [scheduleWorkspaceGuide_task (by rw [PanelState.scheduleRefresh_active]; exact hactive')
        (by rw [PanelState.scheduleRefresh_selectedProblemId]; exact hsome),
      Channel.tracked_timer, scheduleWorkspaceGuide_model.2.2,
      PanelState.scheduleRefresh_pendingWorkspaceGuideKey] at hg
    exact hg

/-- **Only safe steps keep the bookkeeping**: from a state with the invariant, any other step
leaves a channel waiting for a task it has just cancelled. -/
theorem stepSafe_of_tracked (panel : PanelState) (action : App × Event) (panel' : PanelState)
    (hstep : step panel action = some panel') (htracked : RequestsTracked panel') :
    StepSafe panel action := by
  obtain ⟨app, event⟩ := action
  cases event with
  | activeItemChanged =>
    cases hstep
    intro heq
    have hp := htracked.problem
    rw [PanelState.activeItemChanged, observe_of_eq (p := panel.clearModelKeys) heq] at hp
    exact Channel.tracked_timer.mp hp
  | refreshAction =>
    cases hstep
    intro hactive
    exact scheduleRefresh_tracked htracked.model hactive
  | refreshTimer =>
    intro hactive hsel hsource
    obtain ⟨_⟩ := steps_of_step hstep
    obtain ⟨htask, hpending⟩ := @refresh_restarts_guide
      { panel with refreshTask := .ready } app hactive hsel hsource
    have hg := htracked.guide
    rw [htask, Channel.tracked_timer, hpending] at hg
    exact hg
  | problemsResponse result =>
    cases result with
    | error error => trivial
    | ok problems =>
      rintro hactive ⟨request, htask, hpending, hbuffer, hmatch⟩ hkeeps
      simp only [step, htask] at hstep
      cases hstep
      unfold PanelState.problemsResponse at htracked
      rw [if_neg (by simp [hpending])] at htracked
      dsimp only at htracked
      rw [if_pos (filter_any_eq_true.mpr ⟨hbuffer, hmatch⟩)] at htracked
      exact installProblems_restarts
        (p := { panel with problemScanTask := .ready, pendingProblemKey := none })
        hactive hkeeps htracked
  | applyRepair repairId title sourceHash =>
    cases hstep
    intro buffer hactive hbuffer hposition hvalid hstale
    obtain ⟨position, hposition⟩ := Option.isSome_iff_exists.mp hposition
    have hm := htracked.model
    rw [PanelState.applyRepair, if_neg (by simp [hvalid]), hbuffer, hposition] at hm
    dsimp only at hm
    rw [if_pos hstale] at hm
    have hnone := scheduleRefresh_tracked hm hactive
    exact hnone
  | repairEdit result =>
    cases result with
    | error error => trivial
    | ok done =>
      intro request htask hsel hana
      simp only [step, htask] at hstep
      cases hstep
      have hp := htracked.problem
      rw [PanelState.repairApplied, if_neg (by simp [hsel, hana])] at hp
      exact Channel.tracked_timer.mp hp
  | _ => trivial

/-! ## Whole runs -/

/-- **Pending requests are in flight.**  In every run whose steps are all safe, every pending
key of every channel belongs to the request in that channel's task field. -/
theorem pending_requests_in_flight {tr : List (PanelState × (App × Event))} {panel : PanelState}
    (h : Run system StepSafe tr panel) : RequestsTracked panel := by
  have hinv : Inv panel := h.invariant (Inv.of_none rfl rfl rfl) inv_step
  exact hinv.toRequestsTracked

/-- **No other side condition would do**: whatever the user, the timers and the server do, a run
keeps the bookkeeping in all its states exactly when none of its steps was unsafe. -/
theorem tracked_throughout_iff {tr : List (PanelState × (App × Event))} {panel : PanelState}
    (h : Run system anyStep tr panel) :
    Always (fun _ panel => RequestsTracked panel) tr panel ↔ ∀ p ∈ tr, StepSafe p.1 p.2 := by
  constructor
  · intro halways
    induction h with
    | start => simp
    | snoc _ _ hstep ih =>
      obtain ⟨hbefore, hlast⟩ := always_snoc.mp halways
      refine List.forall_mem_append.mpr ⟨ih hbefore, List.forall_mem_singleton.mpr ?_⟩
      exact stepSafe_of_tracked _ _ _ hstep hlast
  · intro hsafe
    -- Only the invariant passes from state to state; the bookkeeping alone would not.
    have hinv : Always (fun _ panel => Inv panel) tr panel := by
      refine (Run.always_iff (Inv.of_none rfl rfl rfl) (fun _ s a s' hs hstep => ?_) h).mpr hsafe
      exact ⟨fun h' => stepSafe_of_tracked s a s' hstep h'.toRequestsTracked,
        fun hok => inv_step s a s' hs hok hstep⟩
    exact ⟨hinv.1.toRequestsTracked,
      fun before p after htr => (hinv.2 before p after htr).toRequestsTracked⟩

/-- One editor with one empty buffer, always in front. -/
def oneEditor : App where
  activeItem := some 0
  upgrade _ := true
  newestHead _ := some ⟨⟨0, 0⟩, some 0⟩
  text _ := ""
  clipPoint _ position := position
  absPath _ := none
  projectPath _ := none

/-- The first scan of a newly opened editor is such a run, and its request is pending. -/
theorem first_scan_in_flight :
    ∃ tr panel, Run system StepSafe tr panel ∧ panel.pendingProblemKey.isSome = true
      ∧ RequestsTracked panel := by
  have hopen : Run system StepSafe _ _ :=
    .snoc .start (a := (oneEditor, Event.activeItemChanged)) (by intro h; cases h) rfl
  have hscan := Run.snoc hopen (a := (oneEditor, Event.scanTimer)) trivial rfl
  exact ⟨_, _, hscan, rfl, pending_requests_in_flight hscan⟩

/-- Opening an editor loses no request. -/
theorem opened_editor_tracked_throughout :
    ∃ tr panel, Run system anyStep tr panel ∧ tr ≠ []
      ∧ Always (fun _ panel => RequestsTracked panel) tr panel := by
  have hopen : Run system StepSafe _ _ :=
    .snoc .start (a := (oneEditor, Event.activeItemChanged)) (by intro h; cases h) rfl
  have hany := hopen.mono fun _ _ _ => trivial
  exact ⟨_, _, hany, by simp, (tracked_throughout_iff hany).mpr hopen.met⟩

/-- **The scan channel wedges.**  The active item changes to the editor that is already
observed while its scan is in flight: the request is cancelled, the timer that replaced it
finds the same key still pending and gives up, and the key stays pending with no task left. -/
theorem active_item_change_wedges_scan :
    ¬ (∀ tr panel, Run system anyStep tr panel → RequestsTracked panel)
      ∧ ∃ tr panel, Run system anyStep tr panel
        ∧ (panel.pendingProblemKey.isSome, panel.problemScanTask) = (true, .ready) := by
  have hrun := Runs.exists_run_of_runActions (S := system)
    (f := fun panel => (panel.pendingProblemKey.isSome, panel.problemScanTask))
    (v := (true, .ready))
    (show (Runs.runActions system
      [(oneEditor, .activeItemChanged), (oneEditor, .scanTimer),
        (oneEditor, .activeItemChanged), (oneEditor, .scanTimer)] [] system.init).map _ = some _
      by decide +kernel)
  refine ⟨?_, hrun⟩
  intro hall
  obtain ⟨tr, panel, hr, hfields⟩ := hrun
  obtain ⟨hsome, htask⟩ := Prod.mk.inj hfields
  have htracked := (hall tr panel hr).problem
  rw [htask, Channel.tracked_ready] at htracked
  rw [htracked] at hsome
  cases hsome

end RustWorkbench.Panel
