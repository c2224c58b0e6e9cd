import RustWorkbench.Analyzer.Stale
import RustWorkbench.Panel.Verification

/-!
# The text a repair is applied to

A repair is previewed for one text and applied later, by three parties that run at the same time:
the user edits buffers, the panel checks the hash of the live buffer and asks the analyzer for the
code action, and the analyzer checks the hash of the text it has and answers.

## Protocol

* Every edit is sent to the analyzer as `didChange`; the request for the action travels on the same
  channel, so the analyzer sees them in the order they were made.
* `apply_repair` checks the hash of the buffer once, right before it sends the request.
* The task that awaits the answer calls `apply_code_action` as soon as an action arrives.

## Results

* `applied_to_previewed_text` — in a run that keeps to it, an action is applied to the previewed
  text only.
-/

namespace RustWorkbench.Panel

open Runs (Run anyStep)
open Analyzer (Snapshot OwnershipRepairParams handleOwnershipRepair)

/-! ## The request of a repair -/

/-- The request that `apply_repair` sends, if it comes to that. -/
def PanelState.repairRequest (app : App) (panel : PanelState) : Event → Option ApplyRequest
  | .applyRepair repairId _ sourceHash =>
    if panel.model.repairs.any fun repair =>
        repair.id == repairId && repairIsCompilerValidated repair then
      match panel.activeBuffer, panel.activePosition with
      | some buffer, some position =>
        if stableSourceHash (app.text buffer) = sourceHash then
          some
            { repairId := repairId
              sourceHash := sourceHash
              buffer := buffer
              position := position
              selectionEpoch := panel.selectionEpoch
              analysisEpoch := panel.analysisEpoch }
        else none
      | _, _ => none
    else none
  | _ => none

/-- A task that awaits an action awaited the same before. -/
def KeepsAwaited (panel panel' : PanelState) : Prop :=
  ∀ issued, panel'.repairApplyTask = .awaitingAction issued →
    panel.repairApplyTask = .awaitingAction issued

section Handlers

variable {panel panel' panel'' : PanelState} {app : App}

theorem KeepsAwaited.of_task (h : panel'.repairApplyTask = panel.repairApplyTask) :
    KeepsAwaited panel panel' := by
  intro issued hissued
  rw [← h]
  exact hissued

theorem KeepsAwaited.of_ready (h : panel'.repairApplyTask = .ready) : KeepsAwaited panel panel' := by
  intro issued hissued
  rw [h] at hissued
  cases hissued

theorem KeepsAwaited.trans (h : KeepsAwaited panel panel') (h' : KeepsAwaited panel' panel'') :
    KeepsAwaited panel panel'' := fun issued hissued => h issued (h' issued hissued)

theorem KeepsAwaited.refl : KeepsAwaited panel panel := .of_task rfl

theorem Change.keepsAwaited (h : Change panel panel') : KeepsAwaited panel panel' := by
  cases h with
  | aside h => exact .of_task h.task
  | scheduled h => exact .of_task h.task
  | cleared h => exact .of_task h.task
  | dropped _ _ _ htask => exact htask.elim .of_task .of_ready

theorem Changes.keepsAwaited (h : Changes panel panel') : KeepsAwaited panel panel' :=
  h.minimal .refl .trans Change.keepsAwaited

theorem refresh_task : (panel.refresh app).repairApplyTask = panel.repairApplyTask := by
  unfold PanelState.refresh
  split
  · rfl
  · split
    · rfl
    · split
      · rfl
      · dsimp only
        split
        · rw [same_scheduleWorkspaceGuide.task]
        · exact same_scheduleWorkspaceGuide.task

theorem modelResponse_task (request : ModelRequest) (result : Except String OwnershipModel) :
    (panel.modelResponse app request result).repairApplyTask = panel.repairApplyTask := by
  unfold PanelState.modelResponse
  split
  · rfl
  · cases result with
    | error error =>
      dsimp only
      split <;> rfl
    | ok model =>
      dsimp only
      split
      · rfl
      · split
        · rfl
        · rw [same_scheduleRefresh.task]

theorem ModelStep.keepsAwaited {action : App × Event} (h : ModelStep panel action panel') :
    KeepsAwaited panel panel' := by
  cases h with
  | issued => exact .of_task refresh_task
  | answered => exact .of_task (modelResponse_task _ _)

theorem keepsAwaited_repairActionResponse (request : ApplyRequest)
    (result : Except String (Option CodeAction)) :
    KeepsAwaited panel
      ({ panel with repairApplyTask := .ready }.repairActionResponse request result) := by
  have hfailed : ∀ error, KeepsAwaited panel
      ({ panel with repairApplyTask := .ready }.repairApplied request (.error error)) :=
    fun error => .of_ready (repairApplied_repair request (.error error)).1
  unfold PanelState.repairActionResponse
  split
  · intro issued hissued
    cases hissued
  · exact hfailed _
  · exact hfailed _

/-- A click that sends a request stores the task that awaits it; any other click leaves the task
alone. -/
theorem applyRepair_task (repairId title sourceHash : String) :
    (panel.applyRepair app repairId title sourceHash).repairApplyTask
      = match panel.repairRequest app (.applyRepair repairId title sourceHash) with
        | some request => .awaitingAction request
        | none => panel.repairApplyTask := by
  simp only [PanelState.applyRepair, PanelState.repairRequest]
  cases hany : panel.model.repairs.any fun repair =>
      repair.id == repairId && repairIsCompilerValidated repair with
  | false => rfl
  | true =>
    cases hbuffer : panel.activeBuffer with
    | none => rfl
    | some buffer =>
      cases hposition : panel.activePosition with
      | none => rfl
      | some position =>
        by_cases hhash : stableSourceHash (app.text buffer) = sourceHash
        · simp [hhash]
        · simp only [Bool.not_true, Bool.false_eq_true, if_false, if_true, ne_eq, hhash,
            not_false_eq_true]
          exact same_scheduleRefresh.task

/-- **What a step does to the awaited action**: it sends the request and awaits the answer, or it
awaits nothing that was not awaited before. -/
theorem step_awaiting {event : Event} (h : step panel (app, event) = some panel') :
    match panel.repairRequest app event with
    | some request => panel'.repairApplyTask = .awaitingAction request
    | none => KeepsAwaited panel panel' := by
  by_cases hclick : ∃ repairId title sourceHash, event = .applyRepair repairId title sourceHash
  · obtain ⟨repairId, title, sourceHash, rfl⟩ := hclick
    cases steps_of_step h
    have htask := @applyRepair_task panel app repairId title sourceHash
    split
    · rename_i request hrequest
      rw [hrequest] at htask
      exact htask
    · rename_i hrequest
      rw [hrequest] at htask
      exact .of_task htask
  · -- Any other event sends no request.
    have hnone : panel.repairRequest app event = none := by
      unfold PanelState.repairRequest
      split
      · exact absurd ⟨_, _, _, rfl⟩ hclick
      · rfl
    rw [hnone]
    rcases step_changes h with hchanges | hmodel | hrepair
    · exact hchanges.keepsAwaited
    · exact hmodel.keepsAwaited
    · cases hrepair with
      | edited hchanged => exact .of_task (editorEvent_repair hchanged).2
      | answered => exact .of_task (problemsResponse_repair _ _).1
      | started => exact absurd ⟨_, _, _, rfl⟩ hclick
      | acted => exact keepsAwaited_repairActionResponse _ _
      | finished => exact .of_ready (repairApplied_repair _ _).1

end Handlers

/-! ## The session -/

/-- What the handlers read through `cx` beside the texts, and whether a rust-analyzer is running
for a buffer. -/
structure Env where
  app : App
  serverFor : BufferId → Bool

/-- What the editor sends to the analyzer. -/
inductive Message
  | didChange (buffer : BufferId) (text : String)
  | ownershipRepair (id : Nat) (buffer : BufferId) (params : OwnershipRepairParams)

/-- What a message does to the texts the analyzer has. -/
def Message.deliver (known : BufferId → String) : Message → BufferId → String
  | .didChange buffer text => Function.update known buffer text
  | .ownershipRepair .. => known

/-- The message is the request with the given id. -/
def Message.isRequest (id : Nat) : Message → Bool
  | .didChange .. => false
  | .ownershipRepair id' .. => id' == id

structure Session where
  panel : PanelState := {}
  /-- The buffers of the editor. -/
  texts : BufferId → String := fun _ => ""
  /-- The texts the analyzer has for them. -/
  known : BufferId → String := fun _ => ""
  /-- Messages to the analyzer, oldest first. -/
  channel : List Message := []
  /-- The id of the last request for an action.  The request of a replaced task is dropped, so
  this is the one whose answer the stored task awaits. -/
  lastRequest : Nat := 0
  /-- The action that the last request was answered with, while it is on its way. -/
  reply : Option CodeAction := none

/-- What the parties do.  A handler of the analyzer reads a snapshot of its state. -/
inductive Move
  | edit (buffer : BufferId) (text : String)
  | panel (env : Env) (event : Event)
  | analyze (snap : Snapshot)

namespace Session

/-- The application as a handler of the panel finds it. -/
def app (session : Session) (env : Env) : App := { env.app with text := session.texts }

/-- An action reaches the panel only from the analyzer; without one the request can fail at any
time, and it is answered with nothing when no analyzer is there. -/
def canArrive (session : Session) : Event → Bool
  | .repairAction (.ok (some action)) => session.reply == some action
  | _ => true

/-- `ownership_repair`: the request is sent if a server is running for a buffer with a local
file. -/
def ownershipRepair (session : Session) (env : Env) (request : ApplyRequest) : List Message :=
  match env.serverFor request.buffer, env.app.absPath request.buffer with
  | true, some path =>
    [.ownershipRepair (session.lastRequest + 1) request.buffer
      ⟨path, request.position, request.repairId, request.sourceHash⟩]
  | _, _ => []

/-- The snapshot has the text of a document that the analyzer was told last. -/
def seesText (session : Session) (snap : Snapshot) (buffer : BufferId) (uri : String) : Bool :=
  match snap.urlToFileId uri with
  | .ok (some fileId) => snap.fileText fileId == session.known buffer
  | _ => true

/-- `handle_ownership_repair`, with its answer kept if someone still waits for it. -/
def answered (session : Session) (snap : Snapshot) (id : Nat) (params : OwnershipRepairParams) :
    Option CodeAction :=
  if id = session.lastRequest then (handleOwnershipRepair snap params).toOption.join
  else session.reply

/-- One move; `none` when it cannot happen. -/
def step (session : Session) : Move → Option Session
  | .edit buffer text =>
    some
      { session with
        texts := Function.update session.texts buffer text
        channel := session.channel ++ [.didChange buffer text] }
  | .panel env event =>
    if session.canArrive event then
      (Panel.step session.panel (session.app env, event)).map fun panel =>
        match session.panel.repairRequest (session.app env) event with
        | some request =>
          { session with
            panel
            channel := session.channel ++ session.ownershipRepair env request
            lastRequest := session.lastRequest + 1
            reply := none }
        | none => { session with panel }
    else none
  | .analyze snap =>
    match session.channel with
    | [] => none
    | .didChange buffer text :: rest =>
      some { session with known := Function.update session.known buffer text, channel := rest }
    | .ownershipRepair id buffer params :: rest =>
      if session.seesText snap buffer params.uri then
        some { session with channel := rest, reply := session.answered snap id params }
      else none

end Session

/-- The editor with its panel and the analyzer, before a file is opened. -/
def session : Runs.System Session Move where
  init := {}
  step := Session.step

theorem repairRequest_hash {panel : PanelState} {app : App} {event : Event}
    {request : ApplyRequest} (h : panel.repairRequest app event = some request) :
    stableSourceHash (app.text request.buffer) = request.sourceHash := by
  unfold PanelState.repairRequest at h
  split at h
  · split at h
    · split at h
      · split at h
        · rename_i hhash
          cases h
          exact hhash
        · cases h
      · cases h
    · cases h
  · cases h

namespace Session

variable {s s' : Session} {env : Env} {event : Event} {snap : Snapshot}

@[simp] theorem app_text : (s.app env).text = s.texts := rfl

/-- **What a move of the panel does**: it sends no request and touches the panel alone, or it sends
one for the text of its buffer. -/
theorem step_panel (h : s.step (.panel env event) = some s') :
    s.canArrive event = true ∧ ∃ panel, Panel.step s.panel (s.app env, event) = some panel ∧
      (KeepsAwaited s.panel panel ∧ s' = { s with panel } ∨
        ∃ request, panel.repairApplyTask = .awaitingAction request ∧
          stableSourceHash (s.texts request.buffer) = request.sourceHash ∧
          s' = { s with
            panel
            channel := s.channel ++ s.ownershipRepair env request
            lastRequest := s.lastRequest + 1
            reply := none }) := by
  simp only [step] at h
  obtain ⟨harrive, hmap⟩ := Option.ite_none_right_eq_some.mp h
  obtain ⟨panel, hstep, hs⟩ := Option.map_eq_some_iff.mp hmap
  refine ⟨harrive, panel, hstep, ?_⟩
  have hawaiting := step_awaiting hstep
  cases hrequest : s.panel.repairRequest (s.app env) event with
  | none =>
    rw [hrequest] at hs hawaiting
    exact .inl ⟨hawaiting, hs.symm⟩
  | some request =>
    rw [hrequest] at hs hawaiting
    have hhash := repairRequest_hash hrequest
    rw [app_text] at hhash
    exact .inr ⟨request, hawaiting, hhash, hs.symm⟩

/-- **What a move of the analyzer does**: it takes the oldest message, an edit into its texts or a
request that it answers. -/
theorem step_analyze (h : s.step (.analyze snap) = some s') :
    (∃ buffer text rest, s.channel = .didChange buffer text :: rest ∧
      s' = { s with known := Function.update s.known buffer text, channel := rest }) ∨
    ∃ id buffer params rest, s.channel = .ownershipRepair id buffer params :: rest ∧
      s.seesText snap buffer params.uri = true ∧
      s' = { s with channel := rest, reply := s.answered snap id params } := by
  simp only [step] at h
  split at h
  · cases h
  · rename_i buffer text rest hchannel
    exact .inl ⟨buffer, text, rest, hchannel, (Option.some.inj h).symm⟩
  · rename_i id buffer params rest hchannel
    obtain ⟨hsees, hs⟩ := Option.ite_none_right_eq_some.mp h
    exact .inr ⟨id, buffer, params, rest, hchannel, hsees, (Option.some.inj hs).symm⟩

/-! ## What the analyzer's check sees -/

/-- The analyzer will have the buffers of the editor once it has read its messages, and every
request finds the text with the hash it names. -/
structure Synced (s : Session) : Prop where
  texts : s.channel.foldl Message.deliver s.known = s.texts
  requests : ∀ earlier id buffer params later,
    s.channel = earlier ++ .ownershipRepair id buffer params :: later →
      stableSourceHash (earlier.foldl Message.deliver s.known buffer) = params.sourceHash

/-- A last message that meets its own condition keeps the others'. -/
theorem synced_snoc {channel : List Message} {known : BufferId → String} {message : Message}
    (h : ∀ earlier id buffer params later,
      channel = earlier ++ .ownershipRepair id buffer params :: later →
        stableSourceHash (earlier.foldl Message.deliver known buffer) = params.sourceHash)
    (hlast : ∀ id buffer params, message = .ownershipRepair id buffer params →
      stableSourceHash (channel.foldl Message.deliver known buffer) = params.sourceHash) :
    ∀ earlier id buffer params later,
      channel ++ [message] = earlier ++ .ownershipRepair id buffer params :: later →
        stableSourceHash (earlier.foldl Message.deliver known buffer) = params.sourceHash := by
  intro earlier id buffer params later heq
  rcases List.eq_nil_or_concat' later with rfl | ⟨init, last, rfl⟩
  · obtain ⟨rfl, hmessage⟩ := List.append_inj' heq rfl
    exact hlast id buffer params (List.cons.inj hmessage).1
  · refine h earlier id buffer params init ?_
    rw [← List.cons_append, ← List.append_assoc] at heq
    exact (List.append_inj' heq rfl).1

theorem Synced.edit (h : Synced s) (buffer : BufferId) (text : String) :
    Synced { s with
      texts := Function.update s.texts buffer text
      channel := s.channel ++ [.didChange buffer text] } := by
  refine ⟨?_, synced_snoc h.requests fun _ _ _ hmessage => nomatch hmessage⟩
  rw [List.foldl_append, h.texts]
  rfl

theorem Synced.panel (h : Synced s) (hstep : s.step (.panel env event) = some s') : Synced s' := by
  obtain ⟨-, panel, -, ⟨-, rfl⟩ | ⟨request, -, hhash, rfl⟩⟩ := step_panel hstep
  · exact ⟨h.texts, h.requests⟩
  · simp only [ownershipRepair]
    split
    · refine ⟨?_, synced_snoc h.requests ?_⟩
      · rw [List.foldl_append, h.texts]
        rfl
      · intro id buffer params hmessage
        cases hmessage
        rw [h.texts]
        exact hhash
    · rw [List.append_nil]
      exact ⟨h.texts, h.requests⟩

theorem Synced.analyze (h : Synced s) (hstep : s.step (.analyze snap) = some s') : Synced s' := by
  rcases step_analyze hstep with ⟨buffer, text, rest, hchannel, rfl⟩ |
    ⟨id, buffer, params, rest, hchannel, -, rfl⟩
  all_goals
    have htexts := h.texts
    rw [hchannel, List.foldl_cons] at htexts
    refine ⟨htexts, fun earlier id' buffer' params' later hrest => ?_⟩
    have hfound := h.requests (_ :: earlier) id' buffer' params' later
      (hchannel.trans (congrArg (List.cons _) hrest))
    rw [List.foldl_cons] at hfound
    exact hfound

variable {tr : List (Session × Move)}

theorem synced_of_run (h : Run session anyStep tr s) : Synced s := by
  refine h.invariant (I := Synced) ⟨rfl, ?_⟩ ?_
  · intro earlier id buffer params later heq
    cases earlier <;> cases heq
  · intro s move s' hsynced _ hstep
    cases move with
    | edit buffer text =>
      cases hstep
      exact hsynced.edit buffer text
    | panel env event => exact hsynced.panel hstep
    | analyze snap => exact hsynced.analyze hstep

/-- **The analyzer handles a request with the text the panel checked**, whatever was typed since
the request was sent: its own check of the hash passes. -/
theorem analyzer_has_previewed_text (h : Run session anyStep tr s) {id : Nat} {buffer : BufferId}
    {params : OwnershipRepairParams} {rest : List Message}
    (hchannel : s.channel = .ownershipRepair id buffer params :: rest) :
    Analyzer.ownershipRepairSourceIsCurrent (s.known buffer) params.sourceHash = true := by
  have hhash := (synced_of_run h).requests [] id buffer params rest hchannel
  exact beq_iff_eq.mpr hhash

/-! ## What the panel's check is worth -/

/-- An action for the last request is on its way, or the analyzer can still send one. -/
def answerable (s : Session) : Bool :=
  s.reply.isSome || s.channel.any (Message.isRequest s.lastRequest)

/-- While an action may arrive, the buffer it is for has the text of the preview. -/
def HasAwaitedText (s : Session) : Prop :=
  ∀ issued, s.panel.repairApplyTask = .awaitingAction issued → s.answerable = true →
    stableSourceHash (s.texts issued.buffer) = issued.sourceHash

/-- No edit changes the hash of a buffer whose action may still arrive. -/
def KeepsAwaitedText (s : Session) : Move → Prop
  | .edit buffer text => ∀ issued, s.panel.repairApplyTask = .awaitingAction issued →
      issued.buffer = buffer → s.answerable = true → stableSourceHash text = issued.sourceHash
  | _ => True

theorem answerable_of_analyze (hstep : s.step (.analyze snap) = some s')
    (h : s'.answerable = true) : s.answerable = true := by
  unfold answerable at h ⊢
  rw [Bool.or_eq_true] at h ⊢
  rcases step_analyze hstep with ⟨buffer, text, rest, hchannel, rfl⟩ |
    ⟨id, buffer, params, rest, hchannel, -, rfl⟩
  · refine h.imp_right fun hrest => ?_
    rw [hchannel, List.any_cons]
    exact Bool.or_eq_true_iff.mpr (.inr hrest)
  · rw [hchannel, List.any_cons, Bool.or_eq_true]
    rcases h with hreply | hrest
    · -- The answer is kept only for the last request, which was the message just read.
      simp only [answered] at hreply
      split at hreply
      · rename_i hid
        exact .inr (.inl (beq_iff_eq.mpr hid))
      · exact .inl hreply
    · exact .inr (.inr hrest)

theorem HasAwaitedText.edit (h : HasAwaitedText s) {buffer : BufferId} {text : String}
    (hok : KeepsAwaitedText s (.edit buffer text)) :
    HasAwaitedText { s with
      texts := Function.update s.texts buffer text
      channel := s.channel ++ [.didChange buffer text] } := by
  intro issued htask hanswerable
  have hbefore : s.answerable = true := by
    simpa [answerable, Message.isRequest] using hanswerable
  dsimp only
  by_cases hbuffer : issued.buffer = buffer
  · rw [hbuffer, Function.update_self]
    exact hok issued htask hbuffer hbefore
  · rw [Function.update_of_ne hbuffer]
    exact h issued htask hbefore

theorem HasAwaitedText.panel (h : HasAwaitedText s)
    (hstep : s.step (.panel env event) = some s') : HasAwaitedText s' := by
  obtain ⟨-, panel, -, ⟨hkeeps, rfl⟩ | ⟨request, htask, hhash, rfl⟩⟩ := step_panel hstep
  · intro issued hissued hanswerable
    exact h issued (hkeeps issued hissued) hanswerable
  · intro issued hissued _
    obtain rfl : request = issued := ApplyTask.awaitingAction.inj (htask.symm.trans hissued)
    exact hhash

theorem HasAwaitedText.analyze (h : HasAwaitedText s)
    (hstep : s.step (.analyze snap) = some s') : HasAwaitedText s' := by
  have hsame : s'.panel = s.panel ∧ s'.texts = s.texts := by
    rcases step_analyze hstep with ⟨_, _, _, _, rfl⟩ | ⟨_, _, _, _, _, _, rfl⟩
    all_goals exact ⟨rfl, rfl⟩
  intro issued htask hanswerable
  rw [hsame.1] at htask
  rw [hsame.2]
  exact h issued htask (answerable_of_analyze hstep hanswerable)

theorem hasAwaitedText_of_run (h : Run session KeepsAwaitedText tr s) : HasAwaitedText s := by
  refine h.invariant (I := HasAwaitedText) ?_ ?_
  · intro issued htask
    cases htask
  · intro s move s' hawaited hok hstep
    cases move with
    | edit buffer text =>
      cases hstep
      exact hawaited.edit hok
    | panel env event => exact hawaited.panel hstep
    | analyze snap => exact hawaited.analyze hstep

/-- The request whose action the move hands to `apply_code_action`. -/
def applies (s : Session) : Move → Option ApplyRequest
  | .panel _ (.repairAction (.ok (some _))) =>
    match s.panel.repairApplyTask with
    | .awaitingAction issued => some issued
    | _ => none
  | _ => none

/-- **A repair is applied to the previewed text only**, in every run in which no edit changes the
hash of a buffer while its action may still arrive. -/
theorem applied_to_previewed_text {tr : List (Session × Move)}
    (h : Run session KeepsAwaitedText tr s) {move : Move} {issued : ApplyRequest}
    (hstep : s.step move = some s') (happlies : s.applies move = some issued) :
    stableSourceHash (s.texts issued.buffer) = issued.sourceHash := by
  unfold applies at happlies
  split at happlies
  · rename_i env action
    split at happlies
    · rename_i issued' htask
      cases happlies
      obtain ⟨harrive, -⟩ := step_panel hstep
      have hreply : s.reply = some action := beq_iff_eq.mp harrive
      refine hasAwaitedText_of_run h issued htask ?_
      simp [answerable, hreply]
    · cases happlies
  · cases happlies

/-! ## An edit between the check and the application -/

/-- One editor with one file, and its analyzer. -/
def oneFile : Env where
  app := { oneEditor with absPath := fun _ => some "main.rs" }
  serverFor _ := true

/-- The text is opened, the problem is selected, its repair is previewed and validated; the user
applies it and the analyzer answers with the action. -/
def applyRc : List Move :=
  let hash := stableSourceHash "let b = a;"
  let problem := { movedValue with modelPosition := ⟨0, 8⟩ }
  let repair := { cloneValue with id := "rc-0", title := "Use Rc" }
  [.edit 0 "let b = a;", .analyze (Analyzer.plainSnapshot Analyzer.checked)]
    ++ ([.activeItemChanged, .setActive true, .scanTimer,
        .problemsResponse (.ok { problemList "ready" [problem] with sourceHash := hash }),
        .refreshTimer, .modelResponse (.ok { movedModel [repair] with sourceHash := hash }),
        .applyRepair "rc-0" "Use Rc" hash].map (Move.panel oneFile))
    ++ [.analyze (Analyzer.plainSnapshot Analyzer.checked)]

/-- The answer arrives. -/
def rcArrives : Move := .panel oneFile (.repairAction (.ok (some Analyzer.rcFix.action)))

/-- Whether the answer is taken, and whether its buffer then has the text of the preview. -/
def rcOutcome (s : Session) : Bool × Option Bool :=
  ((s.step rcArrives).isSome, (s.applies rcArrives).map fun issued =>
    stableSourceHash (s.texts issued.buffer) == issued.sourceHash)

theorem applies_of_rcOutcome {same : Bool} (h : rcOutcome s = (true, some same)) :
    ∃ s' issued, s.step rcArrives = some s' ∧ s.applies rcArrives = some issued ∧
      (stableSourceHash (s.texts issued.buffer) == issued.sourceHash) = same := by
  obtain ⟨hstep, happlies⟩ := Prod.mk.inj h
  obtain ⟨s', hs'⟩ := Option.isSome_iff_exists.mp hstep
  obtain ⟨issued, hissued, hsame⟩ := Option.map_eq_some_iff.mp happlies
  exact ⟨s', issued, hs', hissued, hsame⟩

/-- An edit made while no repair is under way. -/
def editsIdle (s : Session) : Move → Bool
  | .edit .. => s.panel.repairApplyTask == .ready
  | _ => true

theorem keepsAwaitedText_of_editsIdle {move : Move} (h : s.editsIdle move = true) :
    KeepsAwaitedText s move := by
  cases move with
  | edit buffer text =>
    intro issued htask
    have hready : s.panel.repairApplyTask = .ready := beq_iff_eq.mp h
    rw [hready] at htask
    cases htask
  | panel env event => trivial
  | analyze snap => trivial

/-- Nothing is typed meanwhile, and the rewrite is applied to its text. -/
theorem rc_applied_to_previewed_text :
    ∃ tr s s' issued, Run session KeepsAwaitedText tr s ∧ s.step rcArrives = some s' ∧
      s.applies rcArrives = some issued ∧
      stableSourceHash (s.texts issued.buffer) = issued.sourceHash := by
  have heval : (Runs.runActions session applyRc [] session.init).map (fun r =>
      (r.1.all fun p => editsIdle p.1 p.2, rcOutcome r.2)) = some (true, true, some true) := by
    decide +kernel
  obtain ⟨tr, s, hrun, houtcome⟩ := Runs.exists_checked_run_of_runActions heval
  obtain ⟨s', issued, hstep, happlies, -⟩ := applies_of_rcOutcome houtcome
  have hkeeps := hrun.mono fun _ _ => keepsAwaitedText_of_editsIdle
  exact ⟨tr, s, s', issued, hkeeps, hstep, happlies,
    applied_to_previewed_text hkeeps hstep happlies⟩

/-- The user types before the analyzer reads the request, which still finds its text. -/
theorem rc_request_finds_text :
    ∃ tr s id buffer params rest, Run session anyStep tr s ∧
      s.channel = .ownershipRepair id buffer params :: rest ∧
      Analyzer.ownershipRepairSourceIsCurrent (s.known buffer) params.sourceHash = true := by
  obtain ⟨tr, s, hrun, hrequest⟩ := @Runs.exists_run_of_runActions _ _ _ session
    (applyRc.dropLast ++ [.edit 0 "let bb = a;"])
    (fun s => s.channel.head?.any (Message.isRequest s.lastRequest)) true (by decide +kernel)
  cases hchannel : s.channel with
  | nil => simp [hchannel] at hrequest
  | cons message rest =>
    cases message with
    | didChange => simp [hchannel, Message.isRequest] at hrequest
    | ownershipRepair id buffer params =>
      exact ⟨tr, s, id, buffer, params, rest, hrun, hchannel,
        analyzer_has_previewed_text hrun hchannel⟩

/-- **A rewrite is applied to another text.**  The user types between the analyzer's answer and its
arrival, and the answer is applied all the same. -/
theorem rc_applied_to_edited_text :
    ¬ ∀ tr s s' move issued, Run session anyStep tr s → s.step move = some s' →
      s.applies move = some issued →
        stableSourceHash (s.texts issued.buffer) = issued.sourceHash := by
  have heval : (Runs.runActions session (applyRc ++ [.edit 0 "let bb = a;"]) []
      session.init).map (fun r => rcOutcome r.2) = some (true, some false) := by
    decide +kernel
  obtain ⟨tr, s, hrun, houtcome⟩ := Runs.exists_run_of_runActions heval
  obtain ⟨s', issued, hstep, happlies, hother⟩ := applies_of_rcOutcome houtcome
  intro hall
  have hsame := hall tr s s' rcArrives issued hrun hstep happlies
  rw [hsame, beq_self_eq_true] at hother
  cases hother

end Session

end RustWorkbench.Panel
