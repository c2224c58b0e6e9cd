import RustWorkbench.Panel.Verification

/-!
# A repair that is being applied

While the panel says that a repair is being applied, the task that applies it should be the one in
`repair_apply_task`; when the task ends, the panel should say something else.  The last update of the
task gives up if one of the two epochs has moved on.  Some handlers that advance an epoch drop the
repair with it; opening the panel for a clue, a list of problems that changes the selection, and a
restart of the analyzer do not.

* `applying_in_flight_iff` — the property along a run.
* `restart_leaves_applying` — the analyzer restarts while an edit is being applied.
-/

namespace RustWorkbench.Panel

open Runs (Run anyStep Always LastSince)

/-! ## The application of a repair -/

/-- A click that made the record of a repair and issued the request to apply it. -/
def StartedBy (verification : RepairVerification) (request : ApplyRequest)
    (click : PanelState × (App × Event)) : Prop :=
  ∃ app repairId title sourceHash, click.2 = (app, .applyRepair repairId title sourceHash)
    ∧ request.repairId = repairId ∧ verification.repairTitle = title
    ∧ (click.1.applyRepair app repairId title sourceHash).repairVerification = some verification
    ∧ (click.1.applyRepair app repairId title sourceHash).repairApplyTask = .awaitingAction request

def IsApplying (panel : PanelState) : Prop :=
  ∃ verification ∈ panel.repairVerification, verification.state = .applying

/-- A repair that is being applied has its own application in flight: the task in the field was
started by the click that made its record, and no other attempt has been started since. -/
def InFlight (history : List (PanelState × (App × Event))) (panel : PanelState) : Prop :=
  ∀ verification ∈ panel.repairVerification, verification.state = .applying →
    ∃ request, panel.repairApplyTask.WorksOn request
      ∧ LastSince (StartedBy verification request) (fun later => StartsAttempt later.1 later.2) history

/-! ## The end of a task -/

/-- The step ends the task that works on the request. -/
def Completes (panel : PanelState) : App × Event → ApplyRequest → Prop
  | (_, .repairEdit _), request => panel.repairApplyTask = .awaitingEdit request
  | (_, .repairAction (.ok (some _))), _ => False
  | (_, .repairAction _), request => panel.repairApplyTask = .awaitingAction request
  | _, _ => False

/-- No epoch has moved on since the request was issued. -/
def SameSession (panel : PanelState) (request : ApplyRequest) : Prop :=
  panel.selectionEpoch = request.selectionEpoch ∧ panel.analysisEpoch = request.analysisEpoch

/-- The step ends no task of an earlier session while the panel says that it is under way. -/
def EndsInTime (panel : PanelState) (action : App × Event) : Prop :=
  ∀ request, Completes panel action request → IsApplying panel → SameSession panel request

section Completion

variable {panel panel' : PanelState} {action : App × Event} {request : ApplyRequest}

theorem Completes.worksOn (h : Completes panel action request) :
    panel.repairApplyTask.WorksOn request := by
  unfold Completes at h
  split at h
  · exact .inr h
  · exact h.elim
  · exact .inl h
  · exact h.elim

theorem ApplyTask.WorksOn.unique {task : ApplyTask} {other : ApplyRequest} (h : task.WorksOn request)
    (hother : task.WorksOn other) : request = other := by
  rcases h with rfl | rfl <;> rcases hother with h | h <;> cases h <;> rfl

/-- A task that ends leaves a finished one in the field. -/
theorem Completes.eq_repairApplied (h : Completes panel action request)
    (hstep : step panel action = some panel') :
    ∃ result, panel' = { panel with repairApplyTask := .ready }.repairApplied request result := by
  obtain ⟨app, event⟩ := action
  cases steps_of_step hstep with
  | repairEdit result htask =>
    obtain rfl := h.worksOn.unique (.inr htask)
    exact ⟨result, rfl⟩
  | @repairAction result _ htask =>
    obtain rfl := h.worksOn.unique (.inl htask)
    match result with
    | .ok (some action) => exact h.elim
    | .ok none => exact ⟨.error "repair is stale or no longer available", rfl⟩
    | .error error => exact ⟨.error error, rfl⟩
  | _ => exact h.elim

theorem not_isApplying_setVerificationState {state : RepairVerificationState} (h : state ≠ .applying) :
    ¬ IsApplying (panel.setVerificationState state) := by
  rintro ⟨verification, hmem, hstate⟩
  obtain ⟨earlier, -, rfl⟩ := Option.map_eq_some_iff.mp hmem
  exact h hstate

/-- **The last update of a task gives up in another session**, and only then. -/
theorem isApplying_repairApplied (result : Except String Unit) :
    IsApplying (panel.repairApplied request result)
      ↔ IsApplying panel ∧ ¬ SameSession panel request := by
  unfold PanelState.repairApplied SameSession
  rw [not_and_or]
  split
  · rename_i hepochs
    exact (and_iff_left hepochs).symm
  · rename_i hepochs
    refine iff_of_false ?_ fun h => hepochs h.2
    cases result with
    | ok done => exact not_isApplying_setVerificationState nofun
    | error error => exact not_isApplying_setVerificationState nofun

theorem InFlight.not_applying {history : List (PanelState × (App × Event))}
    (h : InFlight history panel) (hready : panel.repairApplyTask = .ready) : ¬ IsApplying panel := by
  rintro ⟨verification, hmem, hstate⟩
  obtain ⟨request, htask, -⟩ := h verification hmem hstate
  rw [hready] at htask
  rcases htask with htask | htask <;> exact nomatch htask

/-- The end of a task keeps the property exactly if it is of this session. -/
theorem Completes.inFlight_iff {history : List (PanelState × (App × Event))}
    (h : Completes panel action request) (hstep : step panel action = some panel') :
    InFlight history panel' ↔ (IsApplying panel → SameSession panel request) := by
  obtain ⟨result, rfl⟩ := h.eq_repairApplied hstep
  have happlying : IsApplying ({ panel with repairApplyTask := .ready }.repairApplied request result)
      ↔ IsApplying panel ∧ ¬ SameSession panel request := isApplying_repairApplied result
  have hready := (@repairApplied_repair { panel with repairApplyTask := .ready } request result).1
  constructor
  · intro hinFlight hpanel
    by_contra hsession
    exact hinFlight.not_applying hready (happlying.mpr ⟨hpanel, hsession⟩)
  · intro hsession verification hmem hstate
    obtain ⟨hpanel, hother⟩ := happlying.mp ⟨verification, hmem, hstate⟩
    exact absurd (hsession hpanel) hother

end Completion

/-! ## The other steps -/

section Steps

variable {history : List (PanelState × (App × Event))} {panel panel' : PanelState}
  {action : App × Event}

/-- A step that starts nothing and changes no repair that is being applied. -/
theorem InFlight.kept (h : InFlight history panel) (hstart : ¬ StartsAttempt panel action)
    (hverification : ∀ verification ∈ panel'.repairVerification, verification.state = .applying →
      verification ∈ panel.repairVerification)
    (htask : ∀ request, panel.repairApplyTask.WorksOn request → panel'.repairApplyTask.WorksOn request) :
    InFlight (history ++ [(panel, action)]) panel' := by
  intro verification hmem hstate
  obtain ⟨request, hrequest, hlast⟩ := h verification (hverification verification hmem hstate) hstate
  exact ⟨request, htask request hrequest, hlast.snoc hstart⟩

/-- An update that does not touch a repair that is being applied, and makes none. -/
theorem mem_of_mem_map {update : RepairVerification → RepairVerification}
    (h : panel'.repairVerification = panel.repairVerification.map update)
    (hupdate : ∀ verification, (update verification).state = .applying →
      update verification = verification) :
    ∀ verification ∈ panel'.repairVerification, verification.state = .applying →
      verification ∈ panel.repairVerification := by
  intro verification hmem hstate
  rw [h] at hmem
  obtain ⟨earlier, hearlier, rfl⟩ := Option.map_eq_some_iff.mp hmem
  rw [hupdate earlier hstate]
  exact hearlier

variable {verification : RepairVerification}

theorem recheck_applying (h : (recheck verification).state = .applying) :
    recheck verification = verification := by
  unfold recheck at h ⊢
  split
  · rfl
  · rename_i hother
    rw [if_neg hother] at h
    exact nomatch h

theorem repairVerificationOutcome_ne_applying (verification : RepairVerification)
    (problems : OwnershipProblems) : repairVerificationOutcome verification problems ≠ .applying := by
  unfold repairVerificationOutcome
  dsimp only
  split
  · exact nofun
  · split <;> exact nofun

theorem decideOutcome_applying {problems : OwnershipProblems}
    (h : (decideOutcome problems verification).state = .applying) :
    decideOutcome problems verification = verification := by
  unfold decideOutcome at h ⊢
  split
  · rename_i hchecking
    rw [if_pos hchecking] at h
    exact absurd h (repairVerificationOutcome_ne_applying verification problems)
  · rfl

theorem checkFailed_applying {error : String}
    (h : (checkFailed error verification).state = .applying) :
    checkFailed error verification = verification := by
  unfold checkFailed at h ⊢
  split
  · rename_i hchecking
    rw [if_pos hchecking] at h
    exact nomatch h
  · rfl

/-- A click that starts an attempt puts its application in flight, unless the preview is stale. -/
theorem inFlight_started {app : App} {repairId title sourceHash : String}
    (h : StartsAttempt panel (app, .applyRepair repairId title sourceHash)) :
    InFlight (history ++ [(panel, (app, .applyRepair repairId title sourceHash))])
      (panel.applyRepair app repairId title sourceHash) := by
  intro verification hmem hstate
  suffices hclick : ∃ request, request.repairId = repairId ∧ verification.repairTitle = title
      ∧ (panel.applyRepair app repairId title sourceHash).repairApplyTask = .awaitingAction request by
    obtain ⟨request, hid, htitle, htask⟩ := hclick
    exact ⟨request, .inl htask, Runs.lastSince_last history
      ⟨app, repairId, title, sourceHash, rfl, hid, htitle, hmem, htask⟩⟩
  obtain ⟨hvalidated, hbuffer, hposition⟩ := h
  obtain ⟨buffer, hbuffer⟩ := Option.isSome_iff_exists.mp hbuffer
  obtain ⟨position, hposition⟩ := Option.isSome_iff_exists.mp hposition
  simp only [PanelState.applyRepair, hvalidated, hbuffer, hposition, Bool.not_true, Bool.false_eq_true,
    if_false] at hmem ⊢
  split at hmem
  · rw [same_scheduleRefresh.verification] at hmem
    exact absurd ⟨verification, hmem, hstate⟩ (not_isApplying_setVerificationState (by decide))
  · rename_i hfresh
    rw [if_neg hfresh]
    obtain ⟨problem, -, rfl⟩ := Option.map_eq_some_iff.mp hmem
    exact ⟨_, rfl, rfl, rfl⟩

theorem RepairStep.inFlight (h : RepairStep panel action panel')
    (hends : ∀ request, ¬ Completes panel action request) (hinFlight : InFlight history panel) :
    InFlight (history ++ [(panel, action)]) panel' := by
  cases h with
  | @edited app event hchanged =>
    obtain ⟨hverification, htask⟩ := @editorEvent_repair panel event hchanged
    refine hinFlight.kept id (mem_of_mem_map hverification fun _ => recheck_applying) ?_
    rw [htask]
    exact fun _ => id
  | @answered app request result hscan =>
    obtain ⟨htask, hverification⟩ :=
      @problemsResponse_repair { panel with problemScanTask := .ready } app request result
    refine hinFlight.kept id ?_ (by rw [htask]; exact fun _ => id)
    rcases hverification with hsame | ⟨problems, sorted, -, -, -, -, houtcome⟩ | ⟨error, hfailed⟩
    · exact fun verification hmem _ => hsame ▸ hmem
    · exact mem_of_mem_map houtcome fun _ => decideOutcome_applying
    · exact mem_of_mem_map hfailed fun _ => checkFailed_applying
  | @started app repairId title sourceHash =>
    by_cases hstart : StartsAttempt panel (app, .applyRepair repairId title sourceHash)
    · exact inFlight_started hstart
    · rw [(@applyRepair_repair panel app repairId title sourceHash).2 hstart]
      exact hinFlight.kept hstart (fun _ hmem _ => hmem) fun _ => id
  | @acted app request result hawaiting =>
    match result with
    | .ok (some codeAction) =>
      refine hinFlight.kept id (fun _ hmem _ => hmem) fun other hother => ?_
      obtain rfl := hother.unique (.inl hawaiting)
      exact .inr rfl
    | .ok none => exact absurd hawaiting (hends request)
    | .error error => exact absurd hawaiting (hends request)
  | @finished app request result hawaiting => exact absurd hawaiting (hends request)

/-- **A step keeps the application in flight unless it ends one of an earlier session.** -/
theorem inFlight_step_iff (hinFlight : InFlight history panel) (hstep : step panel action = some panel') :
    InFlight (history ++ [(panel, action)]) panel' ↔ EndsInTime panel action := by
  by_cases hends : ∃ request, Completes panel action request
  · obtain ⟨request, hcompletes⟩ := hends
    rw [hcompletes.inFlight_iff hstep]
    constructor
    · intro hsession other hother happlying
      obtain rfl := hcompletes.worksOn.unique hother.worksOn
      exact hsession happlying
    · exact fun htime => htime request hcompletes
  · rw [not_exists] at hends
    refine iff_of_true ?_ fun request hcompletes => absurd hcompletes (hends request)
    by_cases hstart : StartsAttempt panel action
    · exact (hstart.repairStep hstep).inFlight hends hinFlight
    rcases step_frame hstep with hframe | hrepair
    · cases hframe.repair with
      | kept hverification htask =>
        rw [InFlight, hverification, htask]
        exact hinFlight.kept hstart (fun _ hmem _ => hmem) fun _ => id
      | dropped hverification =>
        intro verification hmem
        rw [hverification] at hmem
        exact nomatch hmem
    · exact hrepair.inFlight hends hinFlight

end Steps

/-- **Applying is never left behind** in a run exactly if no step of the run ends the application of a
repair in another session while the panel says that it is being applied. -/
theorem applying_in_flight_iff {tr : List (PanelState × (App × Event))} {panel : PanelState}
    (h : Run system anyStep tr panel) :
    Always InFlight tr panel ↔ ∀ p ∈ tr, EndsInTime p.1 p.2 :=
  h.always_iff (fun _ hmem => nomatch hmem) fun _ _ _ _ hinFlight => inFlight_step_iff hinFlight

/-! ## Two ends of one application -/

/-- The task in the field is of this session. -/
def taskInSession (panel : PanelState) (_ : App × Event) : Bool :=
  match panel.repairApplyTask with
  | .ready => true
  | .awaitingAction request | .awaitingEdit request =>
    panel.selectionEpoch == request.selectionEpoch && panel.analysisEpoch == request.analysisEpoch

theorem endsInTime_of_taskInSession {panel : PanelState} {action : App × Event}
    (h : taskInSession panel action = true) : EndsInTime panel action := by
  intro request hcompletes _
  rcases hcompletes.worksOn with htask | htask
  all_goals
    simpa only [taskInSession, htask, Bool.and_eq_true, beq_iff_eq, SameSession] using h

/-- A repair is applied in one session, and is being checked. -/
theorem applied_in_session :
    ∃ tr panel, Run system anyStep tr panel
      ∧ panel.repairVerification.map (·.state) = some .checking ∧ Always InFlight tr panel := by
  have heval : (Runs.runActions system applyAndScan [] system.init).map (fun r =>
      (r.1.all fun p => taskInSession p.1 p.2, r.2.repairVerification.map (·.state)))
        = some (true, some .checking) := by decide +kernel
  obtain ⟨tr, panel, hrun, hstate⟩ := @Runs.exists_checked_run_of_runActions _ _ _ _ _ _
    (fun panel : PanelState => panel.repairVerification.map (·.state)) _ heval
  have hany : Run system anyStep tr panel := hrun.mono fun _ _ _ => trivial
  exact ⟨tr, panel, hany, hstate, (applying_in_flight_iff hany).mpr fun p hp =>
    endsInTime_of_taskInSession (hrun.met p hp)⟩

/-- Lock the problem and apply its repair; the analyzer restarts before the edit is reported. -/
def applyAndRestart : List (App × Event) :=
  (lockProblem.map fun event => (oneEditor, event))
    ++ [(oneEditor, .modelResponse (.ok (movedModel [cloneValue]))),
      (oneEditor, .applyRepair "clone-a" "Clone `a`" (stableSourceHash "")),
      (oneEditor, .repairAction (.ok (some ⟨"Clone `a`", none, none, none, none⟩))),
      (repairedEditor, .languageServerAdded RUST_ANALYZER_NAME),
      (repairedEditor, .repairEdit (.ok ()))]

/-- **The repair stays in applying** with no task left that could change it. -/
theorem restart_leaves_applying :
    ∃ tr panel, Run system anyStep tr panel ∧ IsApplying panel
      ∧ panel.repairApplyTask = .ready ∧ ¬ InFlight tr panel := by
  have heval : (Runs.runActions system applyAndRestart [] system.init).map (fun r =>
      (r.2.repairVerification.map (·.state), r.2.repairApplyTask))
        = some (some .applying, .ready) := by decide +kernel
  obtain ⟨tr, panel, hrun, hfields⟩ := @Runs.exists_run_of_runActions _ _ _ _ _
    (fun panel : PanelState => (panel.repairVerification.map (·.state), panel.repairApplyTask)) _ heval
  obtain ⟨hstate, hready⟩ := Prod.mk.inj hfields
  obtain ⟨verification, hmem, happlying⟩ := Option.map_eq_some_iff.mp hstate
  have hpanel : IsApplying panel := ⟨verification, hmem, happlying⟩
  exact ⟨tr, panel, hrun, hpanel, hready, fun hinFlight => hinFlight.not_applying hready hpanel⟩

end RustWorkbench.Panel
