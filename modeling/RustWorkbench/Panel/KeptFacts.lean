import RustWorkbench.Panel.Applying

/-!
# Facts that are kept when a request fails

When the request for a model fails, or no analyzer is there to answer it, the panel goes on showing the
model it has if that was made for the text the request was about.  The request was about the active
buffer, and an edit since then would have cancelled it; but a scan for problems moves the active buffer
along with the cursor of a multibuffer and leaves the request pending.

* `kept_facts_iff` — after a failure the stored model describes the buffer exactly if the failure was
  handled in place.
* `other_excerpt_kept` — the cursor moves to another excerpt while a model is requested.
-/

namespace RustWorkbench.Panel

open Runs (Run anyStep LastSince)

/-! ## Statement -/

/-- The stored model is the empty one, says that no analyzer was there, or was made for the text of the
active buffer. -/
def DescribesBuffer (app : App) (panel : PanelState) : Prop :=
  panel.model = {} ∨ panel.model.status = "rust_analyzer_unavailable"
    ∨ ∃ buffer, panel.activeBuffer = some buffer
      ∧ panel.model.sourceHash = stableSourceHash (app.text buffer)

/-- The request failed, or there was no analyzer to answer it. -/
def IsFailure : Except String OwnershipModel → Prop
  | .error _ => True
  | .ok model => model.status = "rust_analyzer_unavailable"

/-- The editor reports a change of the source. -/
def ReportsEdit (entry : PanelState × (App × Event)) : Prop :=
  ∃ event, entry.2.2 = .editor event ∧ event.sourceChanged = true

/-- A buffer whose text is not what it was at an earlier step has been reported as edited since. -/
def EditsDelivered (history : List (PanelState × (App × Event))) (app : App) : Prop :=
  ∀ before earlier after, history = before ++ earlier :: after →
    (∀ later ∈ after, ¬ ReportsEdit later) → ∀ buffer, earlier.2.1.text buffer = app.text buffer

/-! ## Pending requests -/

/-- A request that is pending and in flight was so before. -/
def KeepsRequest (panel panel' : PanelState) : Prop :=
  ∀ request, panel'.refreshTask = .request request → panel'.pendingModelKey = some request.key →
    panel.refreshTask = .request request ∧ panel.pendingModelKey = some request.key

section Handlers

variable {panel panel' panel'' : PanelState} {app : App}

namespace KeepsRequest

theorem of_same (htask : panel'.refreshTask = panel.refreshTask)
    (hpending : panel'.pendingModelKey = panel.pendingModelKey) : KeepsRequest panel panel' := by
  intro request hrequest hkey
  exact ⟨htask ▸ hrequest, hpending ▸ hkey⟩

theorem of_none (h : panel'.pendingModelKey = none) : KeepsRequest panel panel' := by
  intro request _ hkey
  rw [h] at hkey
  exact nomatch hkey

theorem of_idle (h : ∀ request, panel'.refreshTask ≠ .request request) : KeepsRequest panel panel' :=
  fun request hrequest => absurd hrequest (h request)

theorem trans (h : KeepsRequest panel panel') (h' : KeepsRequest panel' panel'') :
    KeepsRequest panel panel'' := by
  intro request hrequest hkey
  obtain ⟨hrequest, hkey⟩ := h' request hrequest hkey
  exact h request hrequest hkey

theorem refl : KeepsRequest panel panel := of_same rfl rfl

end KeepsRequest

theorem Work.keepsRequest (h : Work panel panel') : KeepsRequest panel panel' := by
  cases h with
  | change h =>
    cases h with
    | aside _ htask hpending => exact .of_same htask hpending
    | scheduled _ htask => exact .of_idle fun _ hrequest => nomatch htask.symm.trans hrequest
    | cleared _ hpending => exact .of_none hpending
    | dropped _ hpending => exact .of_none hpending
  | repair _ htask hpending => exact hpending.elim (.of_same htask) .of_none

theorem Works.keepsRequest (h : Works panel panel') : KeepsRequest panel panel' :=
  h.minimal .refl .trans Work.keepsRequest

/-- A response leaves no request in flight. -/
theorem KeepsRequest.modelResponse (request : ModelRequest) (result : Except String OwnershipModel)
    (hidle : panel.refreshTask = .ready) :
    KeepsRequest panel (panel.modelResponse app request result) := by
  have hready : ∀ {p : PanelState}, p.refreshTask = .ready → KeepsRequest panel p :=
    fun h => .of_idle fun request hrequest => nomatch h.symm.trans hrequest
  unfold PanelState.modelResponse
  split
  · exact .refl
  · cases result with
    | error error =>
      dsimp only
      split <;> exact hready hidle
    | ok model =>
      dsimp only
      split
      · exact hready hidle
      · split
        · exact hready hidle
        · refine .trans ?_ Changes.scheduleRefresh.works.keepsRequest
          exact hready hidle

/-- A report of an edit drops the pending request. -/
theorem editorEvent_pendingModelKey {event : EditorEvent} (h : event.sourceChanged = true) :
    (panel.editorEvent event).pendingModelKey = none := by
  unfold PanelState.editorEvent
  rw [if_pos h]
  dsimp only
  split <;> rfl

/-- A request that `refresh` issues is about the text of the buffer it names. -/
theorem refresh_request {request : ModelRequest} (hidle : panel.refreshTask = .ready)
    (h : (panel.refresh app).refreshTask = .request request) :
    request.key.sourceHash = stableSourceHash (app.text request.requestedBuffer) := by
  unfold PanelState.refresh at h
  split at h
  · exact nomatch hidle.symm.trans h
  split at h
  · exact nomatch hidle.symm.trans h
  split at h
  · exact nomatch hidle.symm.trans h
  dsimp only at h
  split at h
  · rw [scheduleWorkspaceGuide_model.1] at h
    exact nomatch hidle.symm.trans h
  · cases h
    rfl

/-- Only the timer of the channel issues a request. -/
theorem step_keepsRequest {event : Event} (hstep : step panel (app, event) = some panel')
    (hevent : event ≠ .refreshTimer) : KeepsRequest panel panel' := by
  rcases step_changes hstep with hchanges | hmodel | hrepair
  · exact hchanges.works.keepsRequest
  · cases hmodel with
    | issued => exact absurd rfl hevent
    | answered =>
      have hready : KeepsRequest panel { panel with refreshTask := .ready } :=
        .of_idle fun _ hrequest => nomatch hrequest
      exact hready.trans (.modelResponse _ _ rfl)
  · exact hrepair.works.keepsRequest

/-- **A pending request was issued by the step for the text that its buffer has, or it was pending before
and no edit has been reported.** -/
theorem step_modelRequest {event : Event} {request : ModelRequest}
    (hstep : step panel (app, event) = some panel') (htask : panel'.refreshTask = .request request)
    (hpending : panel'.pendingModelKey = some request.key) :
    request.key.sourceHash = stableSourceHash (app.text request.requestedBuffer)
      ∨ panel.refreshTask = .request request ∧ panel.pendingModelKey = some request.key
        ∧ ¬ ReportsEdit (panel, (app, event)) := by
  by_cases hevent : event = .refreshTimer
  · subst hevent
    cases steps_of_step hstep with
    | refreshTimer => exact .inl (refresh_request rfl htask)
  · obtain ⟨hearlier, hkey⟩ := step_keepsRequest hstep hevent request htask hpending
    refine .inr ⟨hearlier, hkey, ?_⟩
    rintro ⟨edit, rfl, hchanged⟩
    cases steps_of_step hstep with
    | editor => exact nomatch (editorEvent_pendingModelKey hchanged).symm.trans hpending

end Handlers

/-- A pending request is about the text that its buffer had at a step after which no edit has been
reported. -/
def PendingIsIssued (history : List (PanelState × (App × Event))) (panel : PanelState) : Prop :=
  ∀ request, panel.refreshTask = .request request → panel.pendingModelKey = some request.key →
    LastSince (fun entry => request.key.sourceHash
      = stableSourceHash (entry.2.1.text request.requestedBuffer)) ReportsEdit history

theorem issued_of_run {tr : List (PanelState × (App × Event))} {panel : PanelState}
    (hrun : Run system anyStep tr panel) : PendingIsIssued tr panel := by
  refine hrun.invariant_history (I := PendingIsIssued) ?_ ?_
  · intro request htask
    cases htask
  rintro tr panel ⟨app, event⟩ panel' hissued - hstep request htask hpending
  rcases step_modelRequest hstep htask hpending with hnow | ⟨hearlier, hkey, hquiet⟩
  · exact Runs.lastSince_last tr hnow
  · exact (hissued request hearlier hkey).snoc hquiet

/-- **A pending request is about the text that its buffer still has.** -/
theorem requested_text {tr : List (PanelState × (App × Event))} {panel : PanelState} {app : App}
    {request : ModelRequest} (hrun : Run system anyStep tr panel) (hedits : EditsDelivered tr app)
    (htask : panel.refreshTask = .request request)
    (hpending : panel.pendingModelKey = some request.key) :
    request.key.sourceHash = stableSourceHash (app.text request.requestedBuffer) := by
  obtain ⟨before, issued, after, htr, hhash, hquiet⟩ := issued_of_run hrun request htask hpending
  rw [hhash, hedits before issued after htr hquiet]

/-! ## Handling a failure -/

/-- The test by which the panel keeps the model it has. -/
structure Retains (panel : PanelState) (request : ModelRequest) : Prop where
  available : panel.model.status ≠ "rust_analyzer_unavailable"
  hash : panel.model.sourceHash = request.key.sourceHash

/-- The tests that an answer without facts passes: the active buffer is the one of the request, and the
problem is the requested one. -/
structure Accepts (panel : PanelState) (request : ModelRequest) (model : OwnershipModel) : Prop where
  buffer : panel.activeBuffer = some request.requestedBuffer
  problem : ownershipModelMatchesProblem model request.key.problemId = true

def IsCurrent (panel : PanelState) (request : ModelRequest) : Prop :=
  modelResponseIsCurrent panel.pendingModelKey request.key panel.selectedProblemId
    panel.selectionEpoch panel.analysisEpoch = true

/-- The response is the awaited one; a model that is kept meets the active buffer with the text of the
request; and an answer that comes instead of one is accepted. -/
structure HandledInPlace (app : App) (panel : PanelState) (request : ModelRequest)
    (result : Except String OwnershipModel) : Prop where
  current : IsCurrent panel request
  kept : Retains panel request → ∃ buffer, panel.activeBuffer = some buffer
    ∧ stableSourceHash (app.text buffer) = stableSourceHash (app.text request.requestedBuffer)
  accepted : ¬ Retains panel request → ∀ model, result = .ok model → Accepts panel request model

/-- The response is discarded, because it comes late or because its answer is refused. -/
def Discarded (panel : PanelState) (request : ModelRequest) (result : Except String OwnershipModel) :
    Prop :=
  ¬ IsCurrent panel request
    ∨ ¬ Retains panel request ∧ ∃ model, result = .ok model ∧ ¬ Accepts panel request model

section Failure

variable {app : App} {panel : PanelState} {request : ModelRequest}
  {result : Except String OwnershipModel}

/-- It is enough that the active buffer is still the one of the request. -/
theorem HandledInPlace.of_buffer (hcurrent : IsCurrent panel request)
    (hbuffer : panel.activeBuffer = some request.requestedBuffer)
    (hproblem : ∀ model, result = .ok model →
      ownershipModelMatchesProblem model request.key.problemId = true) :
    HandledInPlace app panel request result :=
  ⟨hcurrent, fun _ => ⟨_, hbuffer, rfl⟩, fun _ model hresult => ⟨hbuffer, hproblem model hresult⟩⟩

theorem describesBuffer_congr {panel' : PanelState} (hmodel : panel'.model = panel.model)
    (hbuffer : panel'.activeBuffer = panel.activeBuffer) :
    DescribesBuffer app panel' ↔ DescribesBuffer app panel := by
  rw [DescribesBuffer, DescribesBuffer, hmodel, hbuffer]

theorem IsCurrent.pending (h : IsCurrent panel request) :
    panel.pendingModelKey = some request.key := by
  simp only [IsCurrent, modelResponseIsCurrent, Bool.and_eq_true, beq_iff_eq] at h
  exact h.1.1.1

theorem retains_iff : Retains panel request ↔
    (panel.model.status != "rust_analyzer_unavailable"
      && panel.model.sourceHash == request.key.sourceHash) = true := by
  rw [Bool.and_eq_true, bne_iff_ne, beq_iff_eq]
  exact ⟨fun h => ⟨h.available, h.hash⟩, fun h => ⟨h.1, h.2⟩⟩

theorem accepts_iff {model : OwnershipModel} (hstatus : model.status = "rust_analyzer_unavailable") :
    Accepts panel request model ↔
      ((panel.activeBuffer.filter (· == request.requestedBuffer)).any (fun buffer =>
          ownershipModelMatchesSource model (app.text buffer))
        && ownershipModelMatchesProblem model request.key.problemId) = true := by
  rw [Bool.and_eq_true, filter_any_eq_true]
  constructor
  · exact fun h => ⟨⟨h.buffer, by simp [ownershipModelMatchesSource, hstatus]⟩, h.problem⟩
  · exact fun h => ⟨h.1.1, h.2⟩

/-- What becomes of the stored model when a request fails. -/
inductive FailureOutcome (panel : PanelState) (request : ModelRequest)
    (result : Except String OwnershipModel) (stored : OwnershipModel) : Prop
  | late (h : ¬ IsCurrent panel request) (hmodel : stored = panel.model)
  | kept (hcurrent : IsCurrent panel request) (h : Retains panel request) (hmodel : stored = panel.model)
  | emptied (hcurrent : IsCurrent panel request) (h : ¬ Retains panel request)
      (herror : ∀ model, result ≠ .ok model) (hmodel : stored = {})
  | accepted (hcurrent : IsCurrent panel request) (h : ¬ Retains panel request)
      (hresult : result = .ok stored) (haccepts : Accepts panel request stored)
      (hstatus : stored.status = "rust_analyzer_unavailable")
  | refused (hcurrent : IsCurrent panel request) (h : ¬ Retains panel request) (model : OwnershipModel)
      (hresult : result = .ok model) (hrefuses : ¬ Accepts panel request model)
      (hmodel : stored = panel.model)

theorem modelResponse_outcome (hfailure : IsFailure result) :
    ({ panel with refreshTask := .ready }.modelResponse app request result).activeBuffer
        = panel.activeBuffer
      ∧ FailureOutcome panel request result
        ({ panel with refreshTask := .ready }.modelResponse app request result).model := by
  unfold PanelState.modelResponse
  split
  · rename_i hlate
    exact ⟨rfl, .late (by simpa [IsCurrent] using hlate) rfl⟩
  rename_i hcurrent
  replace hcurrent : IsCurrent panel request := by simpa [IsCurrent] using hcurrent
  cases result with
  | error error =>
    dsimp only
    split
    · rename_i hretains
      exact ⟨rfl, .kept hcurrent (retains_iff.mpr hretains) rfl⟩
    · rename_i hretains
      exact ⟨rfl, .emptied hcurrent (mt retains_iff.mp hretains) (fun _ h => nomatch h) rfl⟩
  | ok model =>
    have hstatus : model.status = "rust_analyzer_unavailable" := hfailure
    simp only [hstatus, beq_self_eq_true, Bool.true_and]
    split
    · rename_i hretains
      exact ⟨rfl, .kept hcurrent (retains_iff.mpr hretains) rfl⟩
    rename_i hretains
    split
    · rename_i haccepts
      exact ⟨rfl, .accepted hcurrent (mt retains_iff.mp hretains) rfl
        ((accepts_iff hstatus).mpr haccepts) hstatus⟩
    · rename_i hrefuses
      refine ⟨?_, .refused hcurrent (mt retains_iff.mp hretains) model rfl
        (mt (accepts_iff hstatus).mp hrefuses) same_scheduleRefresh.model⟩
      unfold PanelState.scheduleRefresh
      split <;> rfl

/-- A model that is kept describes the buffer exactly if the buffer has the text of the request. -/
theorem Retains.describesBuffer_iff (h : Retains panel request)
    (hhash : request.key.sourceHash = stableSourceHash (app.text request.requestedBuffer)) :
    DescribesBuffer app panel ↔ ∃ buffer, panel.activeBuffer = some buffer
      ∧ stableSourceHash (app.text buffer) = stableSourceHash (app.text request.requestedBuffer) := by
  have hsource : panel.model.sourceHash = stableSourceHash (app.text request.requestedBuffer) :=
    h.hash.trans hhash
  constructor
  · rintro (hempty | hstatus | ⟨buffer, hbuffer, hdescribes⟩)
    · rw [hempty] at hsource
      exact absurd hsource.symm (stableSourceHash_ne_empty _)
    · exact absurd hstatus h.available
    · exact ⟨buffer, hbuffer, hdescribes.symm.trans hsource⟩
  · rintro ⟨buffer, hbuffer, hsame⟩
    exact .inr (.inr ⟨buffer, hbuffer, hsource.trans hsame.symm⟩)

end Failure

/-- **After a failure the stored model describes the active buffer** exactly if the failure is handled in
place, or is discarded and the model described the buffer before. -/
theorem kept_facts_iff {tr : List (PanelState × (App × Event))} {panel panel' : PanelState} {app : App}
    {request : ModelRequest} {result : Except String OwnershipModel}
    (hrun : Run system anyStep tr panel) (hedits : EditsDelivered tr app)
    (htask : panel.refreshTask = .request request) (hfailure : IsFailure result)
    (hstep : step panel (app, .modelResponse result) = some panel') :
    DescribesBuffer app panel' ↔ HandledInPlace app panel request result
      ∨ Discarded panel request result ∧ DescribesBuffer app panel := by
  obtain rfl : { panel with refreshTask := .ready }.modelResponse app request result = panel' := by
    simp only [step, htask] at hstep
    exact Option.some.inj hstep
  obtain ⟨hbuffer, houtcome⟩ := @modelResponse_outcome app panel request result hfailure
  cases houtcome with
  | late hlate hmodel =>
    rw [describesBuffer_congr hmodel hbuffer, or_iff_right fun h => hlate h.current]
    exact (and_iff_right (.inl hlate)).symm
  | kept hcurrent hretains hmodel =>
    have hnot : ¬ Discarded panel request result := by
      rintro (hlate | ⟨hlost, -⟩)
      · exact hlate hcurrent
      · exact hlost hretains
    rw [describesBuffer_congr hmodel hbuffer, or_iff_left fun h => hnot h.1,
      hretains.describesBuffer_iff (requested_text hrun hedits htask hcurrent.pending)]
    exact ⟨fun h => ⟨hcurrent, fun _ => h, fun hlost => absurd hretains hlost⟩,
      fun h => h.kept hretains⟩
  | emptied hcurrent hlost herror hmodel =>
    exact iff_of_true (.inl hmodel) (.inl ⟨hcurrent, fun h => absurd h hlost,
      fun _ model hresult => absurd hresult (herror model)⟩)
  | accepted hcurrent hlost hresult haccepts hstatus =>
    refine iff_of_true (.inr (.inl hstatus)) (.inl ⟨hcurrent, fun h => absurd h hlost, ?_⟩)
    intro _ model hmodel
    obtain rfl := Except.ok.inj (hresult.symm.trans hmodel)
    exact haccepts
  | refused hcurrent hlost model hresult hrefuses hmodel =>
    rw [describesBuffer_congr hmodel hbuffer,
      or_iff_right fun h => hrefuses (h.accepted hlost model hresult)]
    exact (and_iff_right (.inr ⟨hlost, model, hresult, hrefuses⟩)).symm

/-! ## A multibuffer with two excerpts -/

/-- An editor with the cursor in one of two buffers, the first of which is empty. -/
def twoExcerpts (cursor : BufferId) : App :=
  { oneEditor with
    newestHead := fun _ => some ⟨⟨0, 0⟩, some cursor⟩
    text := fun buffer => if buffer = 0 then "" else "fn main() {}" }

theorem editsDelivered_of_text {history : List (PanelState × (App × Event))} {app : App}
    (h : ∀ action ∈ history.map Prod.snd, action.1.text = app.text) : EditsDelivered history app := by
  rintro before earlier after rfl - buffer
  rw [h earlier.2 (List.mem_map_of_mem (List.mem_append_right _ List.mem_cons_self))]

/-- Show the model of the problem and request it again. -/
def requestAgain : List Event :=
  lockProblem ++ [.modelResponse (.ok (movedModel [])), .refreshClicked, .scanTimer,
    .problemsResponse (.ok (problemList "ready" [movedValue])), .refreshTimer]

/-- The request fails. -/
def connectionLost (app : App) : App × Event := (app, .modelResponse (.error "connection lost"))

/-- The buffer of an awaited response, and what is stored after the request has failed. -/
def afterFailure (app : App) (panel : PanelState) :
    Option (BufferId × Option BufferId) × Option (String × String × Option BufferId) :=
  (match panel.refreshTask with
    | .request request =>
      if modelResponseIsCurrent panel.pendingModelKey request.key panel.selectedProblemId
          panel.selectionEpoch panel.analysisEpoch then
        some (request.requestedBuffer, panel.activeBuffer)
      else none
    | _ => none,
    (step panel (connectionLost app)).map fun panel' =>
      (panel'.model.status, panel'.model.sourceHash, panel'.activeBuffer))

theorem handledInPlace_of_afterFailure {app : App} {panel : PanelState} {buffer : BufferId}
    (h : (afterFailure app panel).1 = some (buffer, some buffer)) (error : String) :
    ∃ request, panel.refreshTask = .request request
      ∧ HandledInPlace app panel request (.error error) := by
  unfold afterFailure at h
  dsimp only at h
  split at h
  · rename_i request htask
    obtain ⟨hcurrent, hbuffers⟩ := Option.ite_none_right_eq_some.mp h
    obtain ⟨hrequested, hactive⟩ := Prod.mk.inj (Option.some.inj hbuffers)
    exact ⟨request, htask, .of_buffer hcurrent (hrequested ▸ hactive) fun _ h => nomatch h⟩
  · cases h

/-- The request fails, and the model is kept for the buffer it describes. -/
theorem model_kept_in_place :
    ∃ tr panel panel', Run system anyStep tr panel ∧ EditsDelivered tr (twoExcerpts 0)
      ∧ step panel (connectionLost (twoExcerpts 0)) = some panel'
      ∧ panel'.model.status = "ready" ∧ DescribesBuffer (twoExcerpts 0) panel' := by
  have heval : (Runs.runActions system (requestAgain.map fun event => (twoExcerpts 0, event)) []
      system.init).map (fun r => afterFailure (twoExcerpts 0) r.2)
        = some (some (0, some 0), some ("ready", stableSourceHash "", some 0)) := by decide +kernel
  obtain ⟨tr, panel, hrun, hactions, hfields⟩ := Runs.exists_run_of_actions heval
  have hedits : EditsDelivered tr (twoExcerpts 0) := by
    refine editsDelivered_of_text fun action haction => ?_
    rw [hactions] at haction
    obtain ⟨event, -, rfl⟩ := List.mem_map.mp haction
    rfl
  obtain ⟨hbuffers, hstored⟩ := Prod.mk.inj hfields
  obtain ⟨panel', hstep, hmodel⟩ := Option.map_eq_some_iff.mp hstored
  obtain ⟨request, htask, hplace⟩ := handledInPlace_of_afterFailure hbuffers "connection lost"
  have hfailure : IsFailure (.error "connection lost") := trivial
  exact ⟨tr, panel, panel', hrun, hedits, hstep, (Prod.mk.inj hmodel).1,
    (kept_facts_iff hrun hedits htask hfailure hstep).mpr (.inl hplace)⟩

/-- **The model of one excerpt is kept for another.**  A scan moves the active buffer along with the
cursor before the request fails. -/
theorem other_excerpt_kept :
    ∃ tr panel panel', Run system anyStep tr panel ∧ EditsDelivered tr (twoExcerpts 1)
      ∧ step panel (connectionLost (twoExcerpts 1)) = some panel'
      ∧ ¬ DescribesBuffer (twoExcerpts 1) panel' := by
  have heval : (Runs.runActions system
      ((requestAgain.map fun event => (twoExcerpts 0, event))
        ++ [(twoExcerpts 0, .diskBasedDiagnosticsFinished), (twoExcerpts 1, .scanTimer)]) []
      system.init).map (fun r => afterFailure (twoExcerpts 1) r.2)
        = some (some (0, some 1), some ("ready", stableSourceHash "", some 1)) := by decide +kernel
  obtain ⟨tr, panel, hrun, hactions, hfields⟩ := Runs.exists_run_of_actions heval
  have hedits : EditsDelivered tr (twoExcerpts 1) := by
    refine editsDelivered_of_text fun action haction => ?_
    rw [hactions] at haction
    rcases List.mem_append.mp haction with haction | haction
    · obtain ⟨event, -, rfl⟩ := List.mem_map.mp haction
      rfl
    · rcases List.mem_cons.mp haction with rfl | haction
      · rfl
      · obtain rfl := List.mem_singleton.mp haction
        rfl
  obtain ⟨-, hstored⟩ := Prod.mk.inj hfields
  obtain ⟨panel', hstep, hmodel⟩ := Option.map_eq_some_iff.mp hstored
  simp only [Prod.mk.injEq] at hmodel
  obtain ⟨hstatus, hhash, hactive⟩ := hmodel
  refine ⟨tr, panel, panel', hrun, hedits, hstep, ?_⟩
  rintro (hempty | hunavailable | ⟨buffer, hbuffer, hsame⟩)
  · rw [hempty] at hstatus
    exact absurd hstatus (by decide)
  · rw [hunavailable] at hstatus
    exact absurd hstatus (by decide)
  · obtain rfl := Option.some.inj (hactive.symm.trans hbuffer)
    exact absurd (hhash.symm.trans hsame) (by decide +kernel)

end RustWorkbench.Panel
