import RustWorkbench.Panel.LateResponses

/-!
# Verifying a repair

The panel follows a repair through *applying* and *checking* to an outcome.  An outcome should rest
on two facts: the edit was applied, and a later list of problems of the edited source comes from the
compiler.  Three handlers lose one of them.  An edit of the source, and the end of an older attempt,
move a repair that failed to apply on to checking; a list of problems is taken for the compiler's
whatever its status says; and in a multibuffer the cursor takes the panel to another source.

* `VerificationSafe` — the steps that lose neither.
* `resolved_only_when_confirmed` — runs of such steps report success only when it is confirmed.
* `waiting_list_resolves_repair` — a run that reports success while the compiler is still awaited.
-/

namespace RustWorkbench.Panel

open Runs (Run anyStep)

/-! ## The history of an attempt -/

/-- The attempt ended without an edit. -/
def ApplyFailed (state : RepairVerificationState) : Prop :=
  state = .failed "The preview was stale, so no edit was applied."
    ∨ ∃ error, state = .failed ("The editor could not apply the rewrite: " ++ error)

/-- A click on a validated repair starts an attempt to apply it. -/
def StartsAttempt (panel : PanelState) : App × Event → Prop
  | (_, .applyRepair repairId _ _) =>
    (panel.model.repairs.any fun repair =>
      repair.id == repairId && repairIsCompilerValidated repair) = true
      ∧ panel.activeBuffer.isSome = true ∧ panel.activePosition.isSome = true
  | _ => False

/-- The edit of an attempt in its session. -/
def EndsInSession (panel : PanelState) (request : ApplyRequest) : Prop :=
  panel.repairApplyTask = .awaitingEdit request
    ∧ panel.selectionEpoch = request.selectionEpoch ∧ panel.analysisEpoch = request.analysisEpoch

/-- The editor reports that it applied, to the buffer, the edit the panel is waiting for. -/
def AppliesEdit (buffer : BufferId) (panel : PanelState) : App × Event → Prop
  | (_, .repairEdit (.ok ())) =>
    (∃ request, EndsInSession panel request ∧ request.buffer = buffer)
      ∧ ∃ verification, panel.repairVerification = some verification
        ∧ verification.state = .applying
  | _ => False

/-- The edit of the current attempt was applied to the buffer: no other attempt has been started
since. -/
def EditApplied (buffer : BufferId) (history : List (PanelState × (App × Event))) : Prop :=
  Runs.LastSince (fun applied => AppliesEdit buffer applied.1 applied.2)
    (fun later => StartsAttempt later.1 later.2) history

variable {panel : PanelState} {action : App × Event} {state : RepairVerificationState}

/-! ## Steps -/

/-- The steps that move no failed attempt on to checking, and take only the compiler's list for an
outcome. -/
def KeepsEvidence (panel : PanelState) : App × Event → Prop
  | (_, .editor event) => event.sourceChanged = true →
    ∀ verification ∈ panel.repairVerification, ¬ ApplyFailed verification.state
  | (_, .repairEdit (.ok ())) => (∃ request, EndsInSession panel request) →
    ∀ verification ∈ panel.repairVerification, ¬ ApplyFailed verification.state
  | (app, .problemsResponse (.ok problems)) => AnswersCurrentSource app panel problems →
    (∃ verification ∈ panel.repairVerification, verification.state = .checking) →
    problems.status = "ready"
  | _ => True

/-- Such a step, which besides does not make another buffer the active one and keep the repair. -/
structure VerificationSafe (panel : PanelState) (action : App × Event) : Prop where
  evidence : KeepsEvidence panel action
  buffer : ∀ panel', step panel action = some panel' → panel'.repairVerification.isSome = true →
    panel'.activeBuffer = panel.activeBuffer

section Handlers

variable {panel : PanelState} {app : App}

/-- What an edit of the source does to the repair. -/
def recheck (verification : RepairVerification) : RepairVerification :=
  if verification.state = .applying ∨ verification.state = .checking then verification
  else { verification with state := .checking }

theorem editorEvent_repair {event : EditorEvent} (h : event.sourceChanged = true) :
    (panel.editorEvent event).repairVerification = panel.repairVerification.map recheck
      ∧ (panel.editorEvent event).repairApplyTask = panel.repairApplyTask := by
  unfold PanelState.editorEvent
  rw [if_pos h]
  dsimp only
  split <;> exact ⟨rfl, rfl⟩

/-- What a list of problems does to the repair. -/
def decideOutcome (problems : OwnershipProblems) (verification : RepairVerification) :
    RepairVerification :=
  if verification.state = .checking then
    { verification with state := repairVerificationOutcome verification problems }
  else verification

/-- What a failed request for the problems does to the repair. -/
def checkFailed (error : String) (verification : RepairVerification) : RepairVerification :=
  if verification.state = .checking then
    { verification with state := .failed ("Cargo check could not verify this repair: " ++ error) }
  else verification

theorem reselect_repair (id : Option String) :
    (panel.reselect id).repairVerification = panel.repairVerification
      ∧ (panel.reselect id).repairApplyTask = panel.repairApplyTask := by
  unfold PanelState.reselect
  split <;> exact ⟨rfl, rfl⟩

theorem installProblems_repair (key : ProblemRequestKey) (problems : OwnershipProblems) :
    ∃ sorted, (panel.installProblems app key problems).repairVerification
        = panel.repairVerification.map (decideOutcome sorted)
      ∧ (panel.installProblems app key problems).repairApplyTask = panel.repairApplyTask := by
  refine ⟨{ problems with problems := problems.problems.insertionSort ownershipProblemSortLe }, ?_⟩
  have hstored := fun id => @reselect_repair (panel.storeProblems key problems) id
  unfold PanelState.installProblems
  dsimp only
  split
  · have hsame := fun p => @same_scheduleRefresh p
    have hguide := fun p => @same_scheduleWorkspaceGuide p
    exact ⟨(hguide _).verification.trans ((hsame _).verification.trans (hstored _).1),
      (hguide _).task.trans ((hsame _).task.trans (hstored _).2)⟩
  · exact hstored _

/-- **What a response to the request for the problems does to the repair.** -/
theorem problemsResponse_repair (request : ProblemRequest)
    (result : Except String OwnershipProblems) :
    (panel.problemsResponse app request result).repairApplyTask = panel.repairApplyTask
      ∧ ((panel.problemsResponse app request result).repairVerification = panel.repairVerification
        ∨ (∃ problems sorted, result = .ok problems
          ∧ panel.pendingProblemKey = some request.key
          ∧ panel.activeBuffer = some request.requestedBuffer
          ∧ ownershipProblemsMatchSource problems (app.text request.requestedBuffer) = true
          ∧ (panel.problemsResponse app request result).repairVerification
            = panel.repairVerification.map (decideOutcome sorted))
        ∨ ∃ error, (panel.problemsResponse app request result).repairVerification
          = panel.repairVerification.map (checkFailed error)) := by
  unfold PanelState.problemsResponse
  split
  · exact ⟨rfl, .inl rfl⟩
  · rename_i hpending
    cases result with
    | error error => exact ⟨rfl, .inr (.inr ⟨error, rfl⟩)⟩
    | ok problems =>
      dsimp only
      split
      · rename_i hcurrent
        obtain ⟨hbuffer, hmatch⟩ := filter_any_eq_true.mp hcurrent
        obtain ⟨sorted, hverification, htask⟩ := @installProblems_repair
          { panel with pendingProblemKey := none } app request.key problems
        exact ⟨htask, .inr (.inl ⟨problems, sorted, rfl, not_ne_iff.mp hpending, hbuffer, hmatch,
          hverification⟩)⟩
      · exact ⟨rfl, .inl rfl⟩

/-- An attempt that is started waits for its edit in the active buffer, or has failed already. -/
theorem applyRepair_repair (repairId title sourceHash : String) :
    (StartsAttempt panel (app, .applyRepair repairId title sourceHash) →
      ∀ verification ∈ (panel.applyRepair app repairId title sourceHash).repairVerification,
        ApplyFailed verification.state ∨ verification.state = .applying ∧
          ∃ request, panel.activeBuffer = some request.buffer ∧
            (panel.applyRepair app repairId title sourceHash).repairApplyTask
              = .awaitingAction request)
      ∧ (¬ StartsAttempt panel (app, .applyRepair repairId title sourceHash) →
        panel.applyRepair app repairId title sourceHash = panel) := by
  simp only [PanelState.applyRepair, StartsAttempt]
  cases hany : panel.model.repairs.any fun repair =>
      repair.id == repairId && repairIsCompilerValidated repair with
  | false => exact ⟨fun h => absurd h.1 Bool.false_ne_true, fun _ => rfl⟩
  | true =>
    cases hbuffer : panel.activeBuffer with
    | none => exact ⟨fun h => absurd h.2.1 Bool.false_ne_true, fun _ => rfl⟩
    | some buffer =>
      cases hposition : panel.activePosition with
      | none => exact ⟨fun h => absurd h.2.2 Bool.false_ne_true, fun _ => rfl⟩
      | some position =>
        refine ⟨fun _ verification hmem => ?_, fun h => absurd ⟨rfl, rfl, rfl⟩ h⟩
        simp only [Bool.not_true, Bool.false_eq_true, if_false] at hmem ⊢
        split at hmem
        · rw [same_scheduleRefresh.verification] at hmem
          obtain ⟨started, -, rfl⟩ := Option.map_eq_some_iff.mp hmem
          exact .inl (.inl rfl)
        · next hhash =>
          obtain ⟨problem, -, rfl⟩ := Option.map_eq_some_iff.mp hmem
          exact .inr ⟨rfl, _, rfl, by rw [if_neg hhash]⟩

theorem repairApplied_repair (request : ApplyRequest) (result : Except String Unit) :
    (panel.repairApplied request result).repairApplyTask = panel.repairApplyTask
      ∧ ((panel.repairApplied request result).repairVerification = panel.repairVerification
        ∨ (result = .ok () ∧ panel.selectionEpoch = request.selectionEpoch
          ∧ panel.analysisEpoch = request.analysisEpoch
          ∧ (panel.repairApplied request result).repairVerification
            = panel.repairVerification.map fun verification =>
              { verification with state := .checking })
        ∨ ∃ error, (panel.repairApplied request result).repairVerification
          = panel.repairVerification.map fun verification =>
            { verification with
              state := .failed ("The editor could not apply the rewrite: " ++ error) }) := by
  unfold PanelState.repairApplied
  split
  · exact ⟨rfl, .inl rfl⟩
  · rename_i hepochs
    rw [not_or, not_ne_iff, not_ne_iff] at hepochs
    cases result with
    | error error => exact ⟨rfl, .inr (.inr ⟨error, rfl⟩)⟩
    | ok done => exact ⟨rfl, .inr (.inl ⟨rfl, hepochs.1, hepochs.2, rfl⟩)⟩

/-- An answer for the action leaves the attempt waiting for its edit, or ends it. -/
theorem repairActionResponse_repair (request : ApplyRequest)
    (result : Except String (Option CodeAction)) :
    (panel.repairActionResponse request result).repairVerification = panel.repairVerification
        ∧ ((panel.repairActionResponse request result).repairApplyTask = panel.repairApplyTask
          ∨ (panel.repairActionResponse request result).repairApplyTask = .awaitingEdit request)
      ∨ (panel.repairActionResponse request result).repairApplyTask = panel.repairApplyTask
        ∧ ∃ error, (panel.repairActionResponse request result).repairVerification
          = panel.repairVerification.map fun verification =>
            { verification with
              state := .failed ("The editor could not apply the rewrite: " ++ error) } := by
  have hfailed : ∀ error,
      (panel.repairApplied request (.error error)).repairVerification = panel.repairVerification
          ∧ ((panel.repairApplied request (.error error)).repairApplyTask = panel.repairApplyTask
            ∨ (panel.repairApplied request (.error error)).repairApplyTask = .awaitingEdit request)
        ∨ (panel.repairApplied request (.error error)).repairApplyTask = panel.repairApplyTask
          ∧ ∃ error', (panel.repairApplied request (.error error)).repairVerification
            = panel.repairVerification.map fun verification =>
              { verification with
                state := .failed ("The editor could not apply the rewrite: " ++ error') } := by
    intro error
    obtain ⟨htask, hsame | ⟨hok, -⟩ | hfailed⟩ :=
      @repairApplied_repair panel request (.error error)
    · exact .inl ⟨hsame, .inl htask⟩
    · exact nomatch hok
    · exact .inr ⟨htask, hfailed⟩
  unfold PanelState.repairActionResponse
  split
  · exact .inl ⟨rfl, .inr rfl⟩
  · exact hfailed _
  · exact hfailed _

end Handlers

/-! ## What safe runs keep -/

/-- The attempt waits for its edit or ended without one. -/
def Unsettled (state : RepairVerificationState) : Prop := state = .applying ∨ ApplyFailed state

theorem ApplyFailed.ne_checking (h : ApplyFailed state) : state ≠ .checking := by
  rcases h with rfl | ⟨error, rfl⟩ <;> exact nofun

theorem Unsettled.ne_checking (h : Unsettled state) : state ≠ .checking := by
  rcases h with rfl | h
  · exact nofun
  · exact h.ne_checking

theorem Unsettled.ne_resolved (h : Unsettled state) (remaining : Nat) :
    state ≠ .resolved remaining := by
  rcases h with rfl | rfl | ⟨error, rfl⟩ <;> exact nofun

theorem decideOutcome_of_unsettled {verification : RepairVerification}
    (h : Unsettled verification.state) (problems : OwnershipProblems) :
    decideOutcome problems verification = verification := if_neg h.ne_checking

theorem checkFailed_of_unsettled {verification : RepairVerification}
    (h : Unsettled verification.state) (error : String) :
    checkFailed error verification = verification := if_neg h.ne_checking

/-- The task works on a request. -/
def ApplyTask.WorksOn (task : ApplyTask) (request : ApplyRequest) : Prop :=
  task = .awaitingAction request ∨ task = .awaitingEdit request

theorem ApplyTask.WorksOn.ne_ready {request : ApplyRequest} {task : ApplyTask}
    (h : task.WorksOn request) : task ≠ .ready := by
  rcases h with rfl | rfl <;> exact nofun

/-- A repair past its attempt was applied to the active buffer, none is past it while an attempt is
under way, and the attempt is one for the active buffer. -/
structure Tracks (history : List (PanelState × (App × Event))) (panel : PanelState) : Prop where
  verified : ∀ verification ∈ panel.repairVerification, Unsettled verification.state
    ∨ ∃ buffer, panel.activeBuffer = some buffer ∧ EditApplied buffer history
  inFlight : panel.repairApplyTask ≠ .ready →
    ∀ verification ∈ panel.repairVerification, Unsettled verification.state
  issued : ∀ request, panel.repairApplyTask.WorksOn request →
    ∀ verification ∈ panel.repairVerification, verification.state = .applying →
      panel.activeBuffer = some request.buffer

section Tracks

variable {history history' : List (PanelState × (App × Event))} {panel panel' : PanelState}

theorem Tracks.of_failed
    (h : ∀ verification ∈ panel.repairVerification, ApplyFailed verification.state) :
    Tracks history panel where
  verified verification hmem := .inl (.inr (h verification hmem))
  inFlight _ verification hmem := .inr (h verification hmem)
  issued _ _ verification hmem hstate := by
    have hfailed := h verification hmem
    rw [hstate] at hfailed
    rcases hfailed with hfailed | ⟨error, hfailed⟩ <;> exact nomatch hfailed

/-- An update that moves no unsettled repair on. -/
theorem Tracks.map (h : Tracks history panel)
    (hedit : ∀ {buffer}, EditApplied buffer history → EditApplied buffer history')
    (hbuffer : panel'.repairVerification.isSome = true → panel'.activeBuffer = panel.activeBuffer)
    {update : RepairVerification → RepairVerification}
    (hupdate : ∀ verification ∈ panel.repairVerification, Unsettled verification.state →
      update verification = verification)
    (hverification : panel'.repairVerification = panel.repairVerification.map update)
    (htask : panel'.repairApplyTask = panel.repairApplyTask) : Tracks history' panel' := by
  refine ⟨fun verification hmem => ?_, fun hne verification hmem => ?_,
    fun request hworks verification hmem happlying => ?_⟩
  all_goals
    have hsame := hbuffer (Option.isSome_of_mem hmem)
    rw [hverification] at hmem
    obtain ⟨earlier, hearlier, rfl⟩ := Option.map_eq_some_iff.mp hmem
  · rcases h.verified earlier hearlier with hstate | ⟨buffer, hactive, happlied⟩
    · rw [hupdate earlier hearlier hstate]
      exact .inl hstate
    · exact .inr ⟨buffer, hsame.trans hactive, hedit happlied⟩
  · have hstate := h.inFlight (htask ▸ hne) earlier hearlier
    rw [hupdate earlier hearlier hstate]
    exact hstate
  · rw [htask] at hworks
    have hstate := h.inFlight hworks.ne_ready earlier hearlier
    rw [hupdate earlier hearlier hstate] at happlying
    exact hsame.trans (h.issued request hworks earlier hearlier happlying)

theorem Tracks.kept (h : Tracks history panel)
    (hedit : ∀ {buffer}, EditApplied buffer history → EditApplied buffer history')
    (hbuffer : panel'.repairVerification.isSome = true → panel'.activeBuffer = panel.activeBuffer)
    (hverification : panel'.repairVerification = panel.repairVerification)
    (htask : panel'.repairApplyTask = panel.repairApplyTask) : Tracks history' panel' :=
  h.map hedit hbuffer (fun _ _ _ => rfl) (hverification.trans (congrFun Option.map_id _).symm) htask

theorem applyFailed_of_failed {error : String} {verification : RepairVerification}
    (h : panel'.repairVerification = panel.repairVerification.map fun earlier =>
      { earlier with state := .failed ("The editor could not apply the rewrite: " ++ error) })
    (hmem : verification ∈ panel'.repairVerification) : ApplyFailed verification.state := by
  rw [h] at hmem
  obtain ⟨earlier, -, rfl⟩ := Option.map_eq_some_iff.mp hmem
  exact .inr ⟨error, rfl⟩

variable {action : App × Event}

/-- **A safe step of the repair keeps the record.** -/
theorem RepairStep.tracks (h : RepairStep panel action panel') (hok : KeepsEvidence panel action)
    (hbuffer : panel'.repairVerification.isSome = true → panel'.activeBuffer = panel.activeBuffer)
    (htracks : Tracks history panel) : Tracks (history ++ [(panel, action)]) panel' := by
  have hkeeps : ¬ StartsAttempt panel action →
      ∀ {buffer}, EditApplied buffer history → EditApplied buffer (history ++ [(panel, action)]) :=
    fun hstart _ happlied => happlied.snoc hstart
  cases h with
  | @edited app event hchanged =>
    obtain ⟨hverification, htask⟩ := @editorEvent_repair panel event hchanged
    refine htracks.map (hkeeps id) hbuffer (fun verification hmem hstate => ?_) hverification htask
    rcases hstate with hstate | hstate
    · exact if_pos (.inl hstate)
    · exact absurd hstate (hok hchanged verification hmem)
  | @answered app request result hscan =>
    obtain ⟨htask, hsame | ⟨problems, sorted, -, -, -, -, houtcome⟩ | ⟨error, hfailed⟩⟩ :=
      @problemsResponse_repair { panel with problemScanTask := .ready } app request result
    · exact htracks.kept (hkeeps id) hbuffer hsame htask
    · exact htracks.map (hkeeps id) hbuffer
        (fun _ _ hstate => decideOutcome_of_unsettled hstate sorted) houtcome htask
    · exact htracks.map (hkeeps id) hbuffer
        (fun _ _ hstate => checkFailed_of_unsettled hstate error) hfailed htask
  | @started app repairId title sourceHash =>
    obtain ⟨hstarts, hidle⟩ := @applyRepair_repair panel app repairId title sourceHash
    by_cases hstart : StartsAttempt panel (app, .applyRepair repairId title sourceHash)
    · have hunsettled := fun verification hmem =>
        (hstarts hstart verification hmem).symm.imp_left And.left
      refine ⟨fun verification hmem => .inl (hunsettled verification hmem),
        fun _ => hunsettled, fun request hworks verification hmem happlying => ?_⟩
      -- A new attempt is one for the buffer that is active.
      rcases hstarts hstart verification hmem with hfailed | ⟨-, started, hactive, htask⟩
      · rw [happlying] at hfailed
        rcases hfailed with hfailed | ⟨error, hfailed⟩ <;> exact nomatch hfailed
      · rw [ApplyTask.WorksOn, htask, ApplyTask.awaitingAction.injEq] at hworks
        obtain rfl := hworks.resolve_right nofun
        exact (hbuffer (Option.isSome_of_mem hmem)).trans hactive
    · rw [hidle hstart]
      exact htracks.kept (hkeeps hstart) (fun _ => rfl) rfl rfl
  | @acted app request result hawaiting =>
    -- The attempt is under way, so nothing is past it yet.
    have hunsettled := htracks.inFlight (by rw [hawaiting]; exact nofun)
    obtain ⟨hsame, htask⟩ | ⟨-, error, hfailed⟩ :=
      @repairActionResponse_repair { panel with repairApplyTask := .ready } request result
    · have hback : ∀ {verification},
          verification ∈ ({ panel with repairApplyTask := .ready }.repairActionResponse request
            result).repairVerification → verification ∈ panel.repairVerification := by
        intro verification hmem
        rwa [hsame] at hmem
      refine ⟨fun verification hmem => .inl (hunsettled verification (hback hmem)),
        fun _ verification hmem => hunsettled verification (hback hmem),
        fun other hworks verification hmem happlying => ?_⟩
      rcases htask with htask | htask
      · exact absurd htask hworks.ne_ready
      · rw [ApplyTask.WorksOn, htask, ApplyTask.awaitingEdit.injEq] at hworks
        obtain rfl := hworks.resolve_left nofun
        exact (hbuffer (Option.isSome_of_mem hmem)).trans
          (htracks.issued request (.inl hawaiting) verification (hback hmem) happlying)
    · exact .of_failed fun verification hmem => @applyFailed_of_failed panel _ _ _ hfailed hmem
  | @finished app request result hawaiting =>
    have hunsettled := htracks.inFlight (by rw [hawaiting]; exact nofun)
    obtain ⟨htask, hsame | ⟨rfl, hselection, hanalysis, hchecking⟩ | ⟨error, hfailed⟩⟩ :=
      @repairApplied_repair { panel with repairApplyTask := .ready } request result
    · refine ⟨fun verification hmem => .inl ?_, fun hne => absurd htask hne,
        fun _ hworks => absurd htask hworks.ne_ready⟩
      rw [hsame] at hmem
      exact hunsettled verification hmem
    · have hsession : EndsInSession panel request := ⟨hawaiting, hselection, hanalysis⟩
      refine ⟨fun verification hmem => .inr ⟨request.buffer, ?_, ?_⟩, fun hne => absurd htask hne,
        fun _ hworks => absurd htask hworks.ne_ready⟩
      all_goals
        have hactive := hbuffer (Option.isSome_of_mem hmem)
        rw [hchecking] at hmem
        obtain ⟨earlier, hearlier, -⟩ := Option.map_eq_some_iff.mp hmem
        have happlying : earlier.state = .applying := (hunsettled earlier hearlier).resolve_right
          (hok ⟨request, hsession⟩ earlier hearlier)
      · exact hactive.trans (htracks.issued request (.inr hawaiting) earlier hearlier happlying)
      · exact Runs.lastSince_last history
          ⟨⟨request, hsession, rfl⟩, earlier, hearlier, happlying⟩
    · exact .of_failed fun verification hmem => @applyFailed_of_failed panel _ _ _ hfailed hmem

theorem LeavesRepair.tracks (h : LeavesRepair panel panel')
    (hedit : ∀ {buffer}, EditApplied buffer history → EditApplied buffer history')
    (hbuffer : panel'.repairVerification.isSome = true → panel'.activeBuffer = panel.activeBuffer)
    (htracks : Tracks history panel) : Tracks history' panel' := by
  cases h with
  | kept hverification htask => exact htracks.kept hedit hbuffer hverification htask
  | dropped hverification =>
    refine .of_failed fun verification hmem => ?_
    rw [hverification] at hmem
    exact nomatch hmem

theorem StartsAttempt.repairStep (h : StartsAttempt panel action)
    (hstep : step panel action = some panel') : RepairStep panel action panel' := by
  obtain ⟨app, event⟩ := action
  cases event with
  | applyRepair repairId title sourceHash =>
    cases hstep
    exact .started
  | _ => exact h.elim

end Tracks

/-- **Safe runs keep the record.** -/
theorem tracks_of_run {tr : List (PanelState × (App × Event))}
    (h : Run system VerificationSafe tr panel) : Tracks tr panel := by
  refine h.invariant_history (.of_failed nofun) ?_
  intro tr panel action panel' htracks hok hstep
  have hbuffer := hok.buffer panel' hstep
  by_cases hstart : StartsAttempt panel action
  · exact (hstart.repairStep hstep).tracks hok.evidence hbuffer htracks
  · rcases step_frame hstep with hframe | hrepair
    · exact hframe.repair.tracks (fun happlied => happlied.snoc hstart) hbuffer htracks
    · exact hrepair.tracks hok.evidence hbuffer htracks

/-! ## Reporting success -/

/-- The panel reports that the repair removed the problem. -/
def IsResolved (panel : PanelState) : Prop :=
  ∃ verification ∈ panel.repairVerification, ∃ remaining, verification.state = .resolved remaining

/-- The step delivers the compiler's problems of a source as it is now, after the edit of the
current attempt was applied to that source. -/
def Confirmed (history : List (PanelState × (App × Event))) (panel : PanelState)
    (action : App × Event) : Prop :=
  ∃ problems buffer, action.2 = .problemsResponse (.ok problems) ∧ problems.status = "ready"
    ∧ panel.activeBuffer = some buffer
    ∧ problems.sourceHash = stableSourceHash (action.1.text buffer) ∧ EditApplied buffer history

section Resolved

variable {panel panel' : PanelState} {action : App × Event}

/-- An update after which no repair is reported resolved that was not before. -/
theorem not_isResolved_map {update : RepairVerification → RepairVerification}
    (h : panel'.repairVerification = panel.repairVerification.map update)
    (hupdate : ∀ verification remaining, (update verification).state = .resolved remaining →
      verification.state = .resolved remaining) (hnot : ¬ IsResolved panel) :
    ¬ IsResolved panel' := by
  rintro ⟨verification, hmem, remaining, hstate⟩
  rw [h] at hmem
  obtain ⟨earlier, hearlier, rfl⟩ := Option.map_eq_some_iff.mp hmem
  exact hnot ⟨earlier, hearlier, remaining, hupdate earlier remaining hstate⟩

theorem not_isResolved_kept (h : panel'.repairVerification = panel.repairVerification)
    (hnot : ¬ IsResolved panel) : ¬ IsResolved panel' := by
  rintro ⟨verification, hmem, hstate⟩
  rw [h] at hmem
  exact hnot ⟨verification, hmem, hstate⟩

/-- **Only an accepted list of problems reports success**, for a repair that was being checked. -/
theorem RepairStep.resolves (h : RepairStep panel action panel') (hnot : ¬ IsResolved panel)
    (hresolved : IsResolved panel') :
    ∃ problems, action.2 = .problemsResponse (.ok problems)
      ∧ AnswersCurrentSource action.1 panel problems
      ∧ ∃ verification ∈ panel.repairVerification, verification.state = .checking := by
  cases h with
  | @edited app event hchanged =>
    obtain ⟨hverification, -⟩ := @editorEvent_repair panel event hchanged
    refine absurd hresolved (not_isResolved_map hverification ?_ hnot)
    intro verification remaining hstate
    unfold recheck at hstate
    split at hstate
    · exact hstate
    · exact nomatch hstate
  | @answered app request result hscan =>
    obtain ⟨-, hsame | ⟨problems, sorted, rfl, hpending, hbuffer, hmatch, houtcome⟩
      | ⟨error, hfailed⟩⟩ :=
      @problemsResponse_repair { panel with problemScanTask := .ready } app request result
    · exact absurd hresolved (not_isResolved_kept hsame hnot)
    · refine ⟨problems, rfl, ⟨request, hscan, hpending, hbuffer, hmatch⟩, ?_⟩
      obtain ⟨verification, hmem, remaining, hstate⟩ := hresolved
      rw [houtcome] at hmem
      obtain ⟨earlier, hearlier, rfl⟩ := Option.map_eq_some_iff.mp hmem
      refine ⟨earlier, hearlier, by_contra fun hchecking => ?_⟩
      rw [decideOutcome, if_neg hchecking] at hstate
      exact hnot ⟨earlier, hearlier, remaining, hstate⟩
    · refine absurd hresolved (not_isResolved_map hfailed ?_ hnot)
      intro verification remaining hstate
      unfold checkFailed at hstate
      split at hstate
      · exact nomatch hstate
      · exact hstate
  | @started app repairId title sourceHash =>
    obtain ⟨hstarts, hidle⟩ := @applyRepair_repair panel app repairId title sourceHash
    by_cases hstart : StartsAttempt panel (app, .applyRepair repairId title sourceHash)
    · obtain ⟨verification, hmem, remaining, hstate⟩ := hresolved
      have hunsettled : Unsettled verification.state :=
        (hstarts hstart verification hmem).symm.imp_left And.left
      exact absurd hstate (hunsettled.ne_resolved remaining)
    · rw [hidle hstart] at hresolved
      exact absurd hresolved hnot
  | @acted app request result hawaiting =>
    obtain ⟨hsame, -⟩ | ⟨-, error, hfailed⟩ :=
      @repairActionResponse_repair { panel with repairApplyTask := .ready } request result
    · exact absurd hresolved (not_isResolved_kept hsame hnot)
    · exact absurd hresolved (not_isResolved_map hfailed (fun _ _ hstate => nomatch hstate) hnot)
  | @finished app request result hawaiting =>
    obtain ⟨-, hsame | ⟨-, -, -, hchecking⟩ | ⟨error, hfailed⟩⟩ :=
      @repairApplied_repair { panel with repairApplyTask := .ready } request result
    · exact absurd hresolved (not_isResolved_kept hsame hnot)
    · exact absurd hresolved (not_isResolved_map hchecking (fun _ _ hstate => nomatch hstate) hnot)
    · exact absurd hresolved (not_isResolved_map hfailed (fun _ _ hstate => nomatch hstate) hnot)

theorem step_resolves (hstep : step panel action = some panel') (hnot : ¬ IsResolved panel)
    (hresolved : IsResolved panel') :
    ∃ problems, action.2 = .problemsResponse (.ok problems)
      ∧ AnswersCurrentSource action.1 panel problems
      ∧ ∃ verification ∈ panel.repairVerification, verification.state = .checking := by
  rcases step_frame hstep with hframe | hrepair
  · cases hframe.repair with
    | kept hverification htask => exact absurd hresolved (not_isResolved_kept hverification hnot)
    | dropped hverification =>
      obtain ⟨verification, hmem, -⟩ := hresolved
      rw [hverification] at hmem
      exact nomatch hmem
  · exact hrepair.resolves hnot hresolved

end Resolved

/-- **A repair is reported resolved only when the compiler has confirmed it**, in every run of
steps that move no failed attempt on to checking, take no list of problems for the compiler's that is
not, and make no other buffer active while they keep the repair. -/
theorem resolved_only_when_confirmed {tr : List (PanelState × (App × Event))}
    {panel panel' : PanelState} {action : App × Event} (h : Run system VerificationSafe tr panel)
    (hok : VerificationSafe panel action) (hstep : step panel action = some panel')
    (hnot : ¬ IsResolved panel) (hresolved : IsResolved panel') : Confirmed tr panel action := by
  obtain ⟨problems, hevent, hanswers, hchecking⟩ := step_resolves hstep hnot hresolved
  obtain ⟨app, event⟩ := action
  obtain rfl : event = .problemsResponse (.ok problems) := hevent
  have hready : problems.status = "ready" := hok.evidence hanswers hchecking
  obtain ⟨request, -, -, hbuffer, hmatch⟩ := hanswers
  obtain ⟨verification, hmem, hstate⟩ := hchecking
  obtain ⟨buffer, hactive, happlied⟩ := ((tracks_of_run h).verified verification hmem).resolve_left
    fun hunsettled => hunsettled.ne_checking hstate
  obtain rfl := Option.some.inj (hactive.symm.trans hbuffer)
  refine ⟨problems, request.requestedBuffer, rfl, hready, hbuffer, ?_, happlied⟩
  -- The panel accepts a ready list by its hash only.
  simpa [ownershipProblemsMatchSource, hready] using hmatch

/-! ## Two ends of one attempt -/

/-- A validated repair of the moved value. -/
def cloneValue : OwnershipRepair where
  id := "clone-a"
  title := "Clone `a`"
  strategy := "clone"
  semantics := "copies the value"
  diff := ""
  affectedFiles := []
  previewComplete := true
  compilerValidated := true
  validationState := "validated"
  effects := {}
  previewGraph := none

/-- The editor once the repair is applied. -/
def repairedEditor : App := { oneEditor with text := fun _ => "a.clone()" }

/-- Lock the problem, apply its repair and request the problems of the new source. -/
def applyAndScan : List (App × Event) :=
  (lockProblem.map fun event => (oneEditor, event))
    ++ [(oneEditor, .modelResponse (.ok (movedModel [cloneValue]))),
      (oneEditor, .applyRepair "clone-a" "Clone `a`" (stableSourceHash "")),
      (oneEditor, .repairAction (.ok (some ⟨"Clone `a`", none, none, none, none⟩))),
      (repairedEditor, .editor .edited), (repairedEditor, .repairEdit (.ok ())),
      (repairedEditor, .scanTimer)]

/-- An empty list of problems for the new source. -/
def noProblems (status : String) : App × Event :=
  (repairedEditor, .problemsResponse (.ok
    { status, sourceHash := stableSourceHash "a.clone()", problems := [] }))

/-- A step that is easily seen to be safe. -/
def underWay (panel : PanelState) (action : App × Event) : Bool :=
  (match action with
    | (_, .problemsResponse (.ok problems)) => problems.status == "ready"
    | _ => panel.repairVerification.all fun verification =>
      verification.state == .applying || verification.state == .checking)
  && (step panel action).all fun panel' =>
    panel'.repairVerification.isNone || panel'.activeBuffer == panel.activeBuffer

theorem verificationSafe_of_underWay (h : underWay panel action = true) :
    VerificationSafe panel action := by
  obtain ⟨h, hbuffer⟩ := Bool.and_eq_true_iff.mp h
  have hfailed : (panel.repairVerification.all fun verification =>
      verification.state == .applying || verification.state == .checking) = true →
      ∀ verification ∈ panel.repairVerification, ¬ ApplyFailed verification.state := by
    intro hall verification hmem hfailed
    rw [Option.mem_def.mp hmem, Option.all_some, Bool.or_eq_true, beq_iff_eq, beq_iff_eq] at hall
    rcases hall with hstate | hstate
    · rcases hfailed with hfailed | ⟨error, hfailed⟩ <;> exact nomatch hstate.symm.trans hfailed
    · exact hfailed.ne_checking hstate
  refine ⟨?_, fun panel' hstep hsome => ?_⟩
  · unfold KeepsEvidence
    split
    · exact fun _ => hfailed h
    · exact fun _ => hfailed h
    · exact fun _ _ => beq_iff_eq.mp h
    · trivial
  · rw [hstep, Option.all_some, Bool.or_eq_true, beq_iff_eq] at hbuffer
    exact hbuffer.resolve_left fun hnone => by simp [Option.isNone_iff_eq_none.mp hnone] at hsome

/-- The state of the repair before and after a step. -/
def checkedState (action : App × Event) (panel : PanelState) :
    Option RepairVerificationState × Option (Option RepairVerificationState) :=
  (panel.repairVerification.map (·.state),
    (step panel action).map fun panel' => panel'.repairVerification.map (·.state))

theorem resolves_of_checkedState {remaining : Nat}
    (h : checkedState action panel = (some .checking, some (some (.resolved remaining)))) :
    ∃ panel', step panel action = some panel' ∧ ¬ IsResolved panel ∧ IsResolved panel' := by
  obtain ⟨hchecking, hstate⟩ := Prod.mk.inj h
  obtain ⟨panel', hstep, hstate'⟩ := Option.map_eq_some_iff.mp hstate
  obtain ⟨verification, hmem, hresolved⟩ := Option.map_eq_some_iff.mp hstate'
  refine ⟨panel', hstep, ?_, verification, hmem, remaining, hresolved⟩
  rintro ⟨earlier, hearlier, earlierRemaining, hremaining⟩
  rw [Option.mem_def.mp hearlier, Option.map_some, hremaining] at hchecking
  exact nomatch hchecking

/-- The repair is applied, and the compiler's list for the new source is empty. -/
theorem ready_list_resolves_repair :
    ∃ tr panel panel', Run system VerificationSafe tr panel
      ∧ step panel (noProblems "ready") = some panel' ∧ IsResolved panel'
      ∧ Confirmed tr panel (noProblems "ready") := by
  have heval : (Runs.runActions system applyAndScan [] system.init).map (fun r =>
      (r.1.all fun p => underWay p.1 p.2, underWay r.2 (noProblems "ready"),
        checkedState (noProblems "ready") r.2))
        = some (true, true, some .checking, some (some (.resolved 0))) := by decide +kernel
  obtain ⟨tr, panel, hrun, hfields⟩ := Runs.exists_checked_run_of_runActions
    (f := fun panel => (underWay panel (noProblems "ready"), checkedState (noProblems "ready") panel))
    heval
  obtain ⟨hlast, hfields⟩ := Prod.mk.inj hfields
  obtain ⟨panel', hstep, hnot, hdone⟩ := resolves_of_checkedState hfields
  have hsafe := hrun.mono fun _ _ => verificationSafe_of_underWay
  exact ⟨tr, panel, panel', hsafe, hstep, hdone,
    resolved_only_when_confirmed hsafe (verificationSafe_of_underWay hlast) hstep hnot hdone⟩

/-- **Success is reported while the compiler is awaited.**  The same repair is applied, and the list
says that the compiler has not answered yet. -/
theorem waiting_list_resolves_repair :
    ¬ ∀ tr panel panel' action, Run system anyStep tr panel → step panel action = some panel' →
      ¬ IsResolved panel → IsResolved panel' → Confirmed tr panel action := by
  have heval : (Runs.runActions system applyAndScan [] system.init).map (fun r =>
      checkedState (noProblems "waiting_for_compiler") r.2)
        = some (some .checking, some (some (.resolved 0))) := by decide +kernel
  obtain ⟨tr, panel, hrun, hfields⟩ := Runs.exists_run_of_runActions heval
  obtain ⟨panel', hstep, hnot, hdone⟩ := resolves_of_checkedState hfields
  intro hall
  obtain ⟨problems, buffer, hevent, hready, -⟩ :=
    hall tr panel panel' _ hrun hstep hnot hdone
  cases hevent
  exact absurd hready (by decide)

end RustWorkbench.Panel
