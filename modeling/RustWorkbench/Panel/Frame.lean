import RustWorkbench.Panel.Step

/-!
# What the handlers touch

Most handlers only touch the locked problem, the stored model, the repair under verification and the
request for the model by a few kinds of changes.  Which they are made of is said once for every
handler; what all of them leave alone is then a matter of the kinds.

* `Moves`, `LeavesRepair` — the changes of the problem and the model, and of the repair.
* `Frame` — both, for the handlers that do not work on a repair.
-/

namespace RustWorkbench.Panel

/-! ## Kinds of changes -/

/-- All that a handler does to the locked problem and the stored model: it leaves both alone,
drops the model, unlocks the problem, or stores a model that matches it. -/
inductive Moves (panel panel' : PanelState) : Prop
  | kept (hid : panel'.selectedProblemId = panel.selectedProblemId)
      (hmodel : panel'.model = panel.model)
  | emptied (hmodel : panel'.model = {})
  | unlocked (hid : panel'.selectedProblemId = none)
  | stored (h : ownershipModelMatchesProblem panel'.model panel'.selectedProblemId = true)

/-- The repair under verification is left alone, with its task, or dropped. -/
inductive LeavesRepair (panel panel' : PanelState) : Prop
  | kept (hverification : panel'.repairVerification = panel.repairVerification)
      (htask : panel'.repairApplyTask = panel.repairApplyTask)
  | dropped (hverification : panel'.repairVerification = none)

structure Frame (panel panel' : PanelState) : Prop where
  facts : Moves panel panel'
  repair : LeavesRepair panel panel'

/-- None of these fields is touched. -/
structure Same (panel panel' : PanelState) : Prop where
  id : panel'.selectedProblemId = panel.selectedProblemId
  model : panel'.model = panel.model
  verification : panel'.repairVerification = panel.repairVerification
  task : panel'.repairApplyTask = panel.repairApplyTask

section Kinds

variable {panel panel' panel'' : PanelState}

theorem Moves.refl : Moves panel panel := .kept rfl rfl

theorem Moves.trans (h : Moves panel panel') (h' : Moves panel' panel'') : Moves panel panel'' := by
  cases h' with
  | kept hid hmodel =>
    cases h with
    | kept hid' hmodel' => exact .kept (hid.trans hid') (hmodel.trans hmodel')
    | emptied h => exact .emptied (hmodel.trans h)
    | unlocked h => exact .unlocked (hid.trans h)
    | stored h => exact .stored (by rw [hid, hmodel]; exact h)
  | emptied h => exact .emptied h
  | unlocked h => exact .unlocked h
  | stored h => exact .stored h

theorem LeavesRepair.trans (h : LeavesRepair panel panel') (h' : LeavesRepair panel' panel'') :
    LeavesRepair panel panel'' := by
  cases h' with
  | kept hv ht =>
    cases h with
    | kept hv' ht' => exact .kept (hv.trans hv') (ht.trans ht')
    | dropped hv' => exact .dropped (hv.trans hv')
  | dropped hv => exact .dropped hv

theorem Frame.refl : Frame panel panel := ⟨.refl, .kept rfl rfl⟩

theorem Frame.trans (h : Frame panel panel') (h' : Frame panel' panel'') : Frame panel panel'' :=
  ⟨h.facts.trans h'.facts, h.repair.trans h'.repair⟩

theorem Same.frame (h : Same panel panel') : Frame panel panel' :=
  ⟨.kept h.id h.model, .kept h.verification h.task⟩

theorem Frame.after_same (h : Frame panel' panel'') (hsame : Same panel panel') :
    Frame panel panel'' := hsame.frame.trans h

end Kinds

/-- What the handlers are made of, as far as these fields and the request for the model go. -/
inductive Change (panel panel' : PanelState) : Prop
  | aside (h : Same panel panel') (htask : panel'.refreshTask = panel.refreshTask)
      (hpending : panel'.pendingModelKey = panel.pendingModelKey)
  | scheduled (h : Same panel panel') (htask : panel'.refreshTask = .timer)
  | cleared (h : Same panel panel') (hpending : panel'.pendingModelKey = none)
  | dropped (hfacts : panel'.model = {} ∨ panel'.selectedProblemId = none)
      (hpending : panel'.pendingModelKey = none) (hrepair : LeavesRepair panel panel')
      (htask : panel'.repairApplyTask = panel.repairApplyTask ∨ panel'.repairApplyTask = .ready)

/-- Changes one after the other. -/
def Changes : PanelState → PanelState → Prop := Relation.ReflTransGen Change

/-- A change, or one of the repair, which may drop the request for the model. -/
inductive Work (panel panel' : PanelState) : Prop
  | change (h : Change panel panel')
  | repair (hfacts : Moves panel panel') (htask : panel'.refreshTask = panel.refreshTask)
      (hpending : panel'.pendingModelKey = panel.pendingModelKey ∨ panel'.pendingModelKey = none)

/-- Changes of all fields one after the other. -/
def Works : PanelState → PanelState → Prop := Relation.ReflTransGen Work

namespace Changes

variable {panel panel' panel'' : PanelState} {app : App}

theorem refl : Changes panel panel := Relation.ReflTransGen.refl

theorem of (h : Change panel panel') : Changes panel panel' := Relation.ReflTransGen.single h

theorem trans (h : Changes panel panel') (h' : Changes panel' panel'') : Changes panel panel'' :=
  Relation.ReflTransGen.trans h h'

/-- **What holds for each kind of change holds for all that the handlers do.** -/
theorem minimal {R : PanelState → PanelState → Prop} (hrefl : ∀ {panel}, R panel panel)
    (htrans : ∀ {panel panel' panel''}, R panel panel' → R panel' panel'' → R panel panel'')
    (hchange : ∀ {panel panel'}, Change panel panel' → R panel panel')
    (h : Changes panel panel') : R panel panel' := Runs.reflTransGen_le hrefl htrans hchange h

theorem works (h : Changes panel panel') : Works panel panel' :=
  Relation.ReflTransGen.mono (fun _ _ => .change) _ _ h

/-- A change of fields that nothing here is about. -/
theorem aside (h : Same panel panel') (htask : panel'.refreshTask = panel.refreshTask)
    (hpending : panel'.pendingModelKey = panel.pendingModelKey) : Changes panel panel' :=
  of (.aside h htask hpending)

/-- A timer or a response leaves its task finished before its handler runs. -/
theorem after_aside (h : Changes panel' panel'') (hsame : Same panel panel')
    (htask : panel'.refreshTask = panel.refreshTask)
    (hpending : panel'.pendingModelKey = panel.pendingModelKey) : Changes panel panel'' :=
  (aside hsame htask hpending).trans h

theorem cleared (h : Same panel panel') (hpending : panel'.pendingModelKey = none) :
    Changes panel panel' := of (.cleared h hpending)

end Changes

/-! ## Handlers -/

section Handlers

variable {panel panel' : PanelState} {app : App}

theorem same_scheduleRefresh : Same panel panel.scheduleRefresh := by
  unfold PanelState.scheduleRefresh
  split <;> exact ⟨rfl, rfl, rfl, rfl⟩

theorem same_scheduleWorkspaceGuide : Same panel panel.scheduleWorkspaceGuide := by
  unfold PanelState.scheduleWorkspaceGuide
  split <;> exact ⟨rfl, rfl, rfl, rfl⟩

namespace Changes

theorem scheduleRefresh : Changes panel panel.scheduleRefresh := by
  unfold PanelState.scheduleRefresh
  split
  · exact refl
  · exact of (.scheduled ⟨rfl, rfl, rfl, rfl⟩ rfl)

theorem scheduleWorkspaceGuide : Changes panel panel.scheduleWorkspaceGuide := by
  unfold PanelState.scheduleWorkspaceGuide
  split
  · exact refl
  · exact aside ⟨rfl, rfl, rfl, rfl⟩ rfl rfl

theorem scheduleProblemScan : Changes panel panel.scheduleProblemScan :=
  aside ⟨rfl, rfl, rfl, rfl⟩ rfl rfl

theorem scanIfIdle : Changes panel
    (if panel.pendingProblemKey.isNone then panel.scheduleProblemScan else panel) := by
  split
  · exact scheduleProblemScan
  · exact refl

theorem invalidateAnalysisSession : Changes panel panel.invalidateAnalysisSession := by
  unfold PanelState.invalidateAnalysisSession
  dsimp only
  split <;> exact cleared ⟨rfl, rfl, rfl, rfl⟩ rfl

theorem observeActiveEditor : Changes panel (panel.observeActiveEditor app) := by
  unfold PanelState.observeActiveEditor
  split
  · exact refl
  · exact of (.dropped (.inl rfl) rfl (.dropped rfl) (.inr rfl))

theorem openForClue : Changes panel (panel.openForClue app) := by
  unfold PanelState.openForClue
  have hobserved : Changes panel (panel.observeActiveEditor app) := observeActiveEditor
  refine (hobserved.trans (of ?_)).trans (scheduleRefresh.trans scheduleProblemScan)
  exact .dropped (.inr rfl) rfl (.kept rfl rfl) (.inl rfl)

theorem selectProblemIndex (index : Nat) : Changes panel (panel.selectProblemIndex index) := by
  unfold PanelState.selectProblemIndex
  split
  · exact refl
  · split
    · refine trans ?_ scheduleWorkspaceGuide
      exact aside ⟨rfl, rfl, rfl, rfl⟩ rfl rfl
    · refine trans (of ?_) (scheduleRefresh.trans scheduleWorkspaceGuide)
      exact .dropped (.inl rfl) rfl (.dropped rfl) (.inl rfl)

theorem selectRelativeProblem (direction : Int) :
    Changes panel (panel.selectRelativeProblem direction) := by
  unfold PanelState.selectRelativeProblem
  split
  · exact refl
  · exact selectProblemIndex _

theorem cursorProblemSelection : Changes panel (panel.cursorProblemSelection app) := by
  unfold PanelState.cursorProblemSelection
  split
  · exact scanIfIdle
  · split
    · exact refl
    · split
      · exact selectProblemIndex _
      · exact refl

theorem ensureProblemScan : Changes panel (panel.ensureProblemScan app) := by
  unfold PanelState.ensureProblemScan
  dsimp only
  split
  · exact observeActiveEditor.trans scheduleProblemScan
  · exact observeActiveEditor

theorem deferredActivation : Changes panel (panel.deferredActivation app) := by
  unfold PanelState.deferredActivation
  split
  · dsimp only
    split
    · exact observeActiveEditor.trans scanIfIdle
    · exact observeActiveEditor.trans (aside ⟨rfl, rfl, rfl, rfl⟩ rfl rfl)
  · exact refl

/-- A scan that finds no source drops everything; any other leaves the request for the model
alone. -/
theorem scanProblems : Changes panel (panel.scanProblems app) := by
  unfold PanelState.scanProblems
  split
  · exact of (.dropped (.inl rfl) rfl (.dropped rfl) (.inr rfl))
  · split
    · exact of (.dropped (.inl rfl) rfl (.dropped rfl) (.inr rfl))
    · dsimp only
      split <;> exact aside ⟨rfl, rfl, rfl, rfl⟩ rfl rfl

theorem reselect (selectedId : Option String) : Changes panel (panel.reselect selectedId) := by
  unfold PanelState.reselect
  split
  · exact refl
  · exact of (.dropped (.inl rfl) rfl (.kept rfl rfl) (.inl rfl))

theorem refreshWorkspaceGuide : Changes panel (panel.refreshWorkspaceGuide app) := by
  unfold PanelState.refreshWorkspaceGuide
  split
  · dsimp only
    split
    · exact refl
    · exact aside ⟨rfl, rfl, rfl, rfl⟩ rfl rfl
  · exact refl

theorem guideResponse (request : GuideRequest) (result : Except String OwnershipWorkspaceGuide) :
    Changes panel (panel.guideResponse app request result) := by
  unfold PanelState.guideResponse
  split
  · exact refl
  · dsimp only
    split
    · exact aside ⟨rfl, rfl, rfl, rfl⟩ rfl rfl
    · cases result <;> exact aside ⟨rfl, rfl, rfl, rfl⟩ rfl rfl

theorem previewRepair (repairId : String) : Changes panel (panel.previewRepair repairId) := by
  unfold PanelState.previewRepair
  split
  · exact aside ⟨rfl, rfl, rfl, rfl⟩ rfl rfl
  · dsimp only
    split
    · exact aside ⟨rfl, rfl, rfl, rfl⟩ rfl rfl
    · repeat' split
      all_goals exact aside ⟨rfl, rfl, rfl, rfl⟩ rfl rfl

theorem validationResponse (request : ValidationRequest)
    (result : Except String OwnershipRepairValidationResult) :
    Changes panel (panel.validationResponse request result) := by
  unfold PanelState.validationResponse
  split
  · exact refl
  · cases result with
    | error error => exact aside ⟨rfl, rfl, rfl, rfl⟩ rfl rfl
    | ok result =>
      dsimp only
      split
      · exact aside ⟨rfl, rfl, rfl, rfl⟩ rfl rfl
      · exact refl

/-- An event of the editor other than an edit. -/
theorem editorEvent {event : EditorEvent} (h : event.sourceChanged ≠ true) :
    Changes panel (panel.editorEvent event) := by
  unfold PanelState.editorEvent
  rw [if_neg h]
  dsimp only
  split
  · exact aside ⟨rfl, rfl, rfl, rfl⟩ rfl rfl
  · exact refl

end Changes

theorem frame_refresh : Frame panel (panel.refresh app) := by
  unfold PanelState.refresh
  split
  · exact .refl
  · split
    · exact ⟨.emptied rfl, .kept rfl rfl⟩
    · split
      · exact .refl
      · rename_i buffer position _
        have hguide : Same panel { panel with
            activeBuffer := some buffer
            activePosition := some position }.scheduleWorkspaceGuide := by
          obtain ⟨hid, hmodel, hv, ht⟩ := @same_scheduleWorkspaceGuide
            { panel with activeBuffer := some buffer, activePosition := some position }
          exact ⟨hid, hmodel, hv, ht⟩
        dsimp only
        split
        · exact hguide.frame
        · exact hguide.frame.trans (Same.frame ⟨rfl, rfl, rfl, rfl⟩)

/-- A response is stored only if it answers the request for the locked problem, and names it. -/
theorem frame_modelResponse (request : ModelRequest) (result : Except String OwnershipModel) :
    Frame panel (panel.modelResponse app request result) := by
  unfold PanelState.modelResponse
  split
  · exact .refl
  · rename_i hcurrent
    have hlocked : panel.selectedProblemId = request.key.problemId := by
      simp only [modelResponseIsCurrent, Bool.not_eq_true', Bool.not_eq_false, Bool.and_eq_true,
        beq_iff_eq] at hcurrent
      exact hcurrent.2
    cases result with
    | error error =>
      dsimp only
      split
      · exact Same.frame ⟨rfl, rfl, rfl, rfl⟩
      · exact ⟨.emptied rfl, .kept rfl rfl⟩
    | ok model =>
      dsimp only
      split
      · exact Same.frame ⟨rfl, rfl, rfl, rfl⟩
      · split
        · rename_i haccepted
          refine ⟨.stored ?_, .kept rfl rfl⟩
          rw [hlocked]
          exact (Bool.and_eq_true_iff.mp haccepted).2
        · refine Frame.trans ?_ same_scheduleRefresh.frame
          exact Same.frame ⟨rfl, rfl, rfl, rfl⟩

/-! ## Changes keep to the frame -/

theorem Change.frame (h : Change panel panel') : Frame panel panel' := by
  cases h with
  | aside h => exact h.frame
  | scheduled h => exact h.frame
  | cleared h => exact h.frame
  | dropped hfacts _ hrepair => exact ⟨hfacts.elim .emptied .unlocked, hrepair⟩

theorem Changes.frame (h : Changes panel panel') : Frame panel panel' :=
  h.minimal .refl .trans Change.frame

/-! ## Handlers that work on a repair -/

namespace Works

theorem refl : Works panel panel := Relation.ReflTransGen.refl

theorem trans {panel'' : PanelState} (h : Works panel panel') (h' : Works panel' panel'') :
    Works panel panel'' := Relation.ReflTransGen.trans h h'

theorem minimal {R : PanelState → PanelState → Prop} (hrefl : ∀ {panel}, R panel panel)
    (htrans : ∀ {panel panel' panel''}, R panel panel' → R panel' panel'' → R panel panel'')
    (hwork : ∀ {panel panel'}, Work panel panel' → R panel panel')
    (h : Works panel panel') : R panel panel' := Runs.reflTransGen_le hrefl htrans hwork h

/-- The locked problem, the model and the request for it are not touched. -/
theorem repair (hid : panel'.selectedProblemId = panel.selectedProblemId)
    (hmodel : panel'.model = panel.model) (htask : panel'.refreshTask = panel.refreshTask)
    (hpending : panel'.pendingModelKey = panel.pendingModelKey) : Works panel panel' :=
  Relation.ReflTransGen.single (.repair (.kept hid hmodel) htask (.inl hpending))

theorem after_repair {panel'' : PanelState} (h : Works panel' panel'')
    (hid : panel'.selectedProblemId = panel.selectedProblemId)
    (hmodel : panel'.model = panel.model) (htask : panel'.refreshTask = panel.refreshTask)
    (hpending : panel'.pendingModelKey = panel.pendingModelKey) : Works panel panel'' :=
  (repair hid hmodel htask hpending).trans h

/-- An edit moves a finished repair back to checking and drops the request for the model. -/
theorem editorEvent {event : EditorEvent} (h : event.sourceChanged = true) :
    Works panel (panel.editorEvent event) := by
  have hsource : Works panel panel.sourceChanged :=
    Relation.ReflTransGen.single (.repair (.kept rfl rfl) rfl (.inr rfl))
  unfold PanelState.editorEvent
  rw [if_pos h]
  dsimp only
  split
  · exact hsource.trans (repair rfl rfl rfl rfl)
  · exact hsource

theorem installProblems (key : ProblemRequestKey) (problems : OwnershipProblems) :
    Works panel (panel.installProblems app key problems) := by
  unfold PanelState.installProblems
  have hselect : ∀ id, Works panel ((panel.storeProblems key problems).reselect id) := fun id =>
    (Changes.reselect id).works.after_repair rfl rfl rfl rfl
  dsimp only
  split
  · exact (hselect _).trans (Changes.scheduleRefresh.trans .scheduleWorkspaceGuide).works
  · exact hselect _

theorem problemsResponse (request : ProblemRequest) (result : Except String OwnershipProblems) :
    Works panel (panel.problemsResponse app request result) := by
  unfold PanelState.problemsResponse
  split
  · exact refl
  · cases result with
    | error error => exact repair rfl rfl rfl rfl
    | ok problems =>
      dsimp only
      split
      · exact (installProblems request.key problems).after_repair rfl rfl rfl rfl
      · exact repair rfl rfl rfl rfl

theorem applyRepair (repairId title sourceHash : String) :
    Works panel (panel.applyRepair app repairId title sourceHash) := by
  unfold PanelState.applyRepair
  split
  · exact refl
  · split
    · dsimp only
      split
      · refine trans ?_ Changes.scheduleRefresh.works
        exact repair rfl rfl rfl rfl
      · exact repair rfl rfl rfl rfl
    · exact refl

theorem repairApplied (request : ApplyRequest) (result : Except String Unit) :
    Works panel (panel.repairApplied request result) := by
  unfold PanelState.repairApplied
  split
  · exact refl
  · cases result <;> exact repair rfl rfl rfl rfl

theorem repairActionResponse (request : ApplyRequest) (result : Except String (Option CodeAction)) :
    Works panel (panel.repairActionResponse request result) := by
  unfold PanelState.repairActionResponse
  split
  · exact repair rfl rfl rfl rfl
  · exact repairApplied _ _
  · exact repairApplied _ _

theorem moves (h : Works panel panel') : Moves panel panel' := by
  refine h.minimal .refl .trans fun hwork => ?_
  cases hwork with
  | change h => exact h.frame.facts
  | repair hfacts => exact hfacts

end Works

end Handlers

/-! ## Steps -/

/-- The steps that work on a repair: an edit of the source, a list of problems, and the stages of
an attempt to apply one. -/
inductive RepairStep (panel : PanelState) : App × Event → PanelState → Prop
  | edited {app : App} {event : EditorEvent} (hchanged : event.sourceChanged = true) :
      RepairStep panel (app, .editor event) (panel.editorEvent event)
  | answered {app : App} {request : ProblemRequest} {result : Except String OwnershipProblems}
      (htask : panel.problemScanTask = .request request) :
      RepairStep panel (app, .problemsResponse result)
        ({ panel with problemScanTask := .ready }.problemsResponse app request result)
  | started {app : App} {repairId title sourceHash : String} :
      RepairStep panel (app, .applyRepair repairId title sourceHash)
        (panel.applyRepair app repairId title sourceHash)
  | acted {app : App} {request : ApplyRequest} {result : Except String (Option CodeAction)}
      (htask : panel.repairApplyTask = .awaitingAction request) :
      RepairStep panel (app, .repairAction result)
        ({ panel with repairApplyTask := .ready }.repairActionResponse request result)
  | finished {app : App} {request : ApplyRequest} {result : Except String Unit}
      (htask : panel.repairApplyTask = .awaitingEdit request) :
      RepairStep panel (app, .repairEdit result)
        ({ panel with repairApplyTask := .ready }.repairApplied request result)

variable {panel panel' : PanelState} {action : App × Event}

theorem RepairStep.works (h : RepairStep panel action panel') : Works panel panel' := by
  cases h with
  | edited hchanged => exact .editorEvent hchanged
  | answered => exact (Works.problemsResponse _ _).after_repair rfl rfl rfl rfl
  | started => exact .applyRepair _ _ _
  | acted => exact (Works.repairActionResponse _ _).after_repair rfl rfl rfl rfl
  | finished => exact (Works.repairApplied _ _).after_repair rfl rfl rfl rfl

/-- The steps that issue the request for the model or answer it. -/
inductive ModelStep (panel : PanelState) : App × Event → PanelState → Prop
  | issued {app : App} : ModelStep panel (app, .refreshTimer)
      ({ panel with refreshTask := .ready }.refresh app)
  | answered {app : App} {request : ModelRequest} {result : Except String OwnershipModel} :
      ModelStep panel (app, .modelResponse result)
        ({ panel with refreshTask := .ready }.modelResponse app request result)

/-- **What a step is made of.** -/
theorem step_changes (h : step panel action = some panel') :
    Changes panel panel' ∨ ModelStep panel action panel' ∨ RepairStep panel action panel' := by
  obtain ⟨app, event⟩ := action
  cases steps_of_step h with
  | activeItemChanged =>
    unfold PanelState.activeItemChanged
    refine .inl (.trans (.trans ?_ .observeActiveEditor) .scheduleProblemScan)
    exact .cleared ⟨rfl, rfl, rfl, rfl⟩ rfl
  | ownershipModelChanged path =>
    unfold PanelState.ownershipModelChanged
    split
    · exact .inl (.cleared ⟨rfl, rfl, rfl, rfl⟩ rfl)
    · exact .inl .refl
  | diskBasedDiagnosticsFinished =>
    unfold PanelState.diskBasedDiagnosticsFinished
    split
    · exact .inl (.aside ⟨rfl, rfl, rfl, rfl⟩ rfl rfl)
    · exact .inl .refl
  | diagnosticsUpdated paths =>
    unfold PanelState.diagnosticsUpdated
    split
    · exact .inl (.aside ⟨rfl, rfl, rfl, rfl⟩ rfl rfl)
    · exact .inl .refl
  | languageServerAdded name =>
    unfold PanelState.languageServerAdded
    split
    · exact .inl .invalidateAnalysisSession
    · exact .inl .refl
  | languageServerRemoved => exact .inl .invalidateAnalysisSession
  | editor event =>
    by_cases hchanged : event.sourceChanged = true
    · exact .inr (.inr (.edited hchanged))
    · exact .inl (.editorEvent hchanged)
  | refreshAction => exact .inl .scheduleRefresh
  | refreshClicked => exact .inl (.cleared ⟨rfl, rfl, rfl, rfl⟩ rfl)
  | openForClue => exact .inl .openForClue
  | relativeIssue direction => exact .inl (.selectRelativeProblem direction)
  | focusProblem index => exact .inl (.selectProblemIndex index)
  | ensureProblemScan => exact .inl .ensureProblemScan
  | setActive active => exact .inl (.aside ⟨rfl, rfl, rfl, rfl⟩ rfl rfl)
  | deferredActivation =>
    exact .inl (Changes.deferredActivation.after_aside ⟨rfl, rfl, rfl, rfl⟩ rfl rfl)
  | previewRepair repairId => exact .inl (.previewRepair repairId)
  | applyRepair repairId title sourceHash => exact .inr (.inr .started)
  | scanTimer => exact .inl (Changes.scanProblems.after_aside ⟨rfl, rfl, rfl, rfl⟩ rfl rfl)
  | refreshTimer => exact .inr (.inl .issued)
  | guideTimer => exact .inl (Changes.refreshWorkspaceGuide.after_aside ⟨rfl, rfl, rfl, rfl⟩ rfl rfl)
  | selectionTimer => exact .inl (Changes.cursorProblemSelection.after_aside ⟨rfl, rfl, rfl, rfl⟩ rfl rfl)
  | problemsResponse result htask => exact .inr (.inr (.answered htask))
  | modelResponse result => exact .inr (.inl .answered)
  | guideResponse result =>
    exact .inl ((Changes.guideResponse _ result).after_aside ⟨rfl, rfl, rfl, rfl⟩ rfl rfl)
  | validationResponse result =>
    exact .inl ((Changes.validationResponse _ result).after_aside ⟨rfl, rfl, rfl, rfl⟩ rfl rfl)
  | repairAction result htask => exact .inr (.inr (.acted htask))
  | repairEdit result htask => exact .inr (.inr (.finished htask))

theorem ModelStep.frame (h : ModelStep panel action panel') : Frame panel panel' := by
  cases h with
  | issued => exact frame_refresh.after_same ⟨rfl, rfl, rfl, rfl⟩
  | answered => exact (frame_modelResponse _ _).after_same ⟨rfl, rfl, rfl, rfl⟩

/-- **Every step leaves the repair alone or works on it.** -/
theorem step_frame (h : step panel action = some panel') :
    Frame panel panel' ∨ RepairStep panel action panel' := by
  rcases step_changes h with hchanges | hmodel | hrepair
  · exact .inl hchanges.frame
  · exact .inl hmodel.frame
  · exact .inr hrepair

theorem moves_step (h : step panel action = some panel') : Moves panel panel' :=
  (step_frame h).elim Frame.facts fun hrepair => hrepair.works.moves

end RustWorkbench.Panel
