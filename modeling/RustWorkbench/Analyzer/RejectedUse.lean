import RustWorkbench.Analyzer.Commits
import RustWorkbench.Analyzer.CommitSafety
import RustWorkbench.Analyzer.LateMessages

/-!
# Rejected uses and artifacts

An error about a moved value is stored as an event of the file, next to the events that the
compiler's artifacts give.  Both are marked exact, and a commit replaces the exact events of a file:
so the artifacts of the very check that reported the error remove it.

* `rejected_use_stays` — the event stays through every run that neither edits nor clears the file,
  if what is committed for the file has the event too.
* `commit_removes_rejected_use` — the commit of an artifact removes it.
-/

namespace RustWorkbench.Analyzer

open Runs (Run System anyStep)

variable {Contents Hash : Type}

namespace GlobalState

/-- The server, from a state. -/
def serverFrom [DecidableEq Hash] (world : World Contents Hash)
    (start : GlobalState Contents Hash) : System (GlobalState Contents Hash) (Action Contents) where
  init := start
  step := step world

/-- An error about a moved value makes the server record an event for a file. -/
structure RecordsInvalidUse (world : World Contents Hash) (state : GlobalState Contents Hash)
    (message : DiagnosticMessage) (fileId : FileId) (event : OwnershipEvent) : Prop where
  enabled : world.ownershipEnabled = true
  code : message.diagnostic.code = some "E0382"
  mapped : ∃ mapped ∈ message.mapped, shouldRecordInvalidUse mapped.diagnostic.severity = true
    ∧ state.urlToFileId world mapped.url = some fileId
    ∧ event = invalidUseEvent message.diagnostic mapped.diagnostic.range

/-- The file is neither edited nor cleared: no change of it is processed, and no clear reaches a
place where it has the event. -/
def Undisturbed (fileId : FileId) (event : OwnershipEvent) (state : GlobalState Contents Hash) :
    Action Contents → Prop
  | .processChanges => fileId ∉ state.vfs.changes.keys
  | .clearCheckAll => False
  | .flycheck (.clearDiagnostics flycheckId kind) => ∀ place : Place, place.fileId = fileId →
    state.diagnostics.Stored place (.event event) → ¬ state.diagnostics.Reaches flycheckId place kind
  | _ => True

/-- A version of the file that the next commit installs has the event among its own. -/
def CommitKeeps [DecidableEq Hash] (fileId : FileId) (event : OwnershipEvent)
    (state : GlobalState Contents Hash) : Action Contents → Prop
  | .commit => ∀ batch ∈ state.tasks.head?, ∀ file ∈ batch.files, file.fileId = fileId →
    state.installs batch.sequence file = true → event ∈ file.events
  | _ => True

/-- The event is stored for the file. -/
def HasEvent (fileId : FileId) (event : OwnershipEvent) (collection : DiagnosticCollection) : Prop :=
  ∃ place : Place, place.fileId = fileId ∧ collection.Stored place (.event event)

section Steps

variable {world : World Contents Hash} {state state' : GlobalState Contents Hash} {fileId : FileId}
  {event : OwnershipEvent} {collection : DiagnosticCollection}

theorem HasEvent.mem_eventsForFile (h : HasEvent fileId event collection) :
    event ∈ ownershipEventsForFile collection.ownershipEvents fileId := by
  obtain ⟨place, rfl, hstored⟩ := h
  exact mem_ownershipEventsForFile.mpr (PerFlycheck.listed_mem_forFile hstored)

theorem RecordsInvalidUse.hasEvent {message : DiagnosticMessage}
    (h : RecordsInvalidUse world state message fileId event) :
    HasEvent fileId event (state.handleDiagnostic world message).diagnostics := by
  obtain ⟨mapped, hmapped, herror, hfile, rfl⟩ := h.mapped
  refine ⟨⟨message.flycheckId, message.packageId, fileId⟩, rfl, ?_⟩
  refine (reported_handleDiagnostic world state message _ _ rfl).mpr (.inr ⟨rfl, rfl, ?_⟩)
  have hmodel : message.isModel = false := by
    unfold DiagnosticMessage.isModel
    rw [h.code]
    decide
  have hevent : message.isEvent = false := by
    unfold DiagnosticMessage.isEvent
    rw [h.code]
    decide
  unfold ownershipFacts
  rw [hmodel, hevent, if_neg Bool.false_ne_true, if_neg Bool.false_ne_true]
  refine List.mem_flatMap.mpr ⟨mapped, hmapped, ?_⟩
  unfold diagnosticFacts
  rw [hfile]
  refine List.mem_map_of_mem ?_
  unfold mappedFacts
  rw [if_pos herror, h.enabled, h.code]
  exact List.mem_append_right _ (List.mem_singleton.mpr rfl)

/-! ## Messages -/

theorem HasEvent.handleDiagnostic (h : HasEvent fileId event state.diagnostics)
    (message : DiagnosticMessage) :
    HasEvent fileId event (state.handleDiagnostic world message).diagnostics := by
  obtain ⟨place, hfile, hstored⟩ := h
  exact ⟨place, hfile,
    (reported_handleDiagnostic world state message place _ rfl).mpr (.inl hstored)⟩

theorem HasEvent.handleFlycheckMsg (h : HasEvent fileId event state.diagnostics)
    (message : FlycheckMessage) (hok : Undisturbed fileId event state
      (.flycheck message : Action Contents)) :
    HasEvent fileId event (state.handleFlycheckMsg world message).diagnostics := by
  cases message with
  | addDiagnostic flycheckId generation packageId diagnostic mapped =>
    exact h.handleDiagnostic ⟨flycheckId, generation, packageId, diagnostic, mapped⟩
  | ownershipArtifacts flycheckId paths => exact h
  | clearDiagnostics flycheckId kind =>
    obtain ⟨place, hfile, hstored⟩ := h
    rw [GlobalState.handleFlycheckMsg, DiagnosticCollection.clearDiagnostics_eq]
    exact ⟨place, hfile, (state.diagnostics.stored_clear_iff flycheckId kind place _).mpr
      ⟨hstored, hok place hfile hstored⟩⟩
  | progress flycheckId progress =>
    rw [GlobalState.handleFlycheckMsg]
    obtain ⟨pending, hafter | ⟨sequence, paths, hafter⟩⟩ :=
      flycheckProgress_cases state flycheckId progress
    all_goals
      rw [hafter]
      exact h

/-! ## Edits and commits -/

theorem HasEvent.clearOwnershipFor (h : HasEvent fileId event collection) {edited : FileId}
    (hne : fileId ≠ edited) : HasEvent fileId event (collection.clearOwnershipFor edited) := by
  obtain ⟨place, rfl, hstored⟩ := h
  refine ⟨place, rfl, ?_⟩
  simp only [DiagnosticCollection.Stored, DiagnosticCollection.clearOwnershipFor,
    PerFlycheck.listed_eraseFile, if_neg hne]
  exact hstored

theorem HasEvent.processChanges (h : HasEvent fileId event state.diagnostics)
    (hunchanged : fileId ∉ state.vfs.changes.keys) :
    HasEvent fileId event (state.processChanges world).diagnostics := by
  have hfold : ∀ (changes : HashMap FileId (Change Contents Hash))
      (state' : GlobalState Contents Hash), fileId ∉ changes.keys →
      HasEvent fileId event state'.diagnostics →
      HasEvent fileId event (changes.foldl (applyChange world state.vfs) state').diagnostics := by
    intro changes
    induction changes with
    | nil => exact fun _ _ h => h
    | cons change changes ih =>
      intro state' hkeys h
      rw [Assoc.Map.keys_cons, List.mem_cons, not_or] at hkeys
      exact ih _ hkeys.2 (h.clearOwnershipFor hkeys.1)
  unfold GlobalState.processChanges
  split
  · exact h
  · exact hfold state.vfs.changes state hunchanged h

theorem HasEvent.install (h : HasEvent fileId event state.diagnostics)
    (batch : PreparedOwnershipBatch Hash) {file : PreparedOwnershipFile Hash}
    (hkeeps : file.fileId = fileId → event ∈ file.events) :
    HasEvent fileId event (state.install batch file).diagnostics := by
  have hlisted := fun place => state.diagnostics.mem_listed_replaceExact
    ⟨batch.flycheckId, batch.packageId, file.fileId⟩ place file.events event
  have hstored : ∀ place, (state.install batch file).diagnostics.Stored place (.event event)
      ↔ event ∈ (state.diagnostics.replaceExactOwnershipEvents batch.flycheckId batch.packageId
        file.fileId file.events).ownershipEvents.listed place := by
    intro place
    rw [DiagnosticCollection.Stored, ownershipEvents_install]
  by_cases hfile : file.fileId = fileId
  · -- The event goes where the batch stores the events of the file.
    exact ⟨⟨batch.flycheckId, batch.packageId, file.fileId⟩, hfile,
      (hstored _).mpr ((hlisted _).mpr (.inr ⟨rfl, hkeeps hfile⟩))⟩
  · obtain ⟨place, rfl, hmem⟩ := h
    exact ⟨place, rfl, (hstored place).mpr ((hlisted place).mpr
      (.inl ⟨hmem, fun heq => absurd heq.symm hfile⟩))⟩

variable [DecidableEq Hash]

/-- A file that passes the tests after another file of the batch passes them before it. -/
theorem installs_of_installs_commitFile {batch : PreparedOwnershipBatch Hash}
    {file earlier : PreparedOwnershipFile Hash}
    (h : (commitFile batch state earlier).installs batch.sequence file = true) :
    state.installs batch.sequence file = true := by
  unfold commitFile at h
  split at h
  · rename_i hearlier
    simp only [installs, install, Bool.and_eq_true] at h hearlier ⊢
    refine ⟨?_, h.2⟩
    by_cases hid : file.fileId = earlier.fileId
    · rw [hid]
      exact hearlier.1
    · have hsequence := h.1
      rw [Assoc.Map.get?_insert, if_neg hid] at hsequence
      exact hsequence
  · exact h

theorem HasEvent.foldl_commitFile (batch : PreparedOwnershipBatch Hash) :
    ∀ (files : List (PreparedOwnershipFile Hash)) (state : GlobalState Contents Hash),
      HasEvent fileId event state.diagnostics →
      (∀ file ∈ files, file.fileId = fileId → state.installs batch.sequence file = true →
        event ∈ file.events) →
      HasEvent fileId event (files.foldl (commitFile batch) state).diagnostics
  | [], _, h, _ => h
  | file :: files, state, h, hkeeps => by
    rw [List.foldl_cons]
    refine foldl_commitFile batch files _ ?_ fun next hnext hid hinstalls =>
      hkeeps next (List.mem_cons_of_mem _ hnext) hid (installs_of_installs_commitFile hinstalls)
    unfold commitFile
    split
    · rename_i hinstalls
      exact h.install batch fun hid => hkeeps file List.mem_cons_self hid hinstalls
    · exact h

/-! ## Steps -/

/-- **A step that disturbs the file in no way, and commits only versions that have the event, keeps
it.** -/
theorem HasEvent.step {action : Action Contents} (h : HasEvent fileId event state.diagnostics)
    (hundisturbed : Undisturbed fileId event state action)
    (hcommit : CommitKeeps fileId event state action)
    (hstep : state.step world action = some state') :
    HasEvent fileId event state'.diagnostics := by
  cases action with
  | setFileContents | insertExcludedFile =>
    cases hstep
    exact h
  | processChanges =>
    cases hstep
    exact h.processChanges hundisturbed
  | flycheck message =>
    cases hstep
    exact h.handleFlycheckMsg message hundisturbed
  | clearCheckAll => exact hundisturbed.elim
  | readArtifact | readText | readHash | readLineIndex =>
    rw [(diagnostics_updateWorker hstep).1]
    exact h
  | send index =>
    obtain ⟨_, _, _, -, -, rfl⟩ := sendBatch_eq_some hstep
    exact h
  | commit =>
    obtain ⟨batch, tasks, htasks, rfl⟩ := step_commit_eq_some hstep
    have hkeeps := hcommit batch (by rw [htasks]; rfl)
    exact HasEvent.foldl_commitFile batch batch.files _ h hkeeps

end Steps

/-- **A rejected use stays recorded**, in every run that neither edits nor clears the file, as long as
every version of the file that a commit installs has the event itself. -/
theorem rejected_use_stays [DecidableEq Hash] {world : World Contents Hash}
    {start state : GlobalState Contents Hash} {message : DiagnosticMessage} {fileId : FileId}
    {event : OwnershipEvent} (hrecorded : RecordsInvalidUse world start message fileId event)
    {history : List (GlobalState Contents Hash × Action Contents)}
    (h : Run (serverFrom world (start.handleDiagnostic world message))
      (fun state action => Undisturbed fileId event state action
        ∧ CommitKeeps fileId event state action) history state) :
    event ∈ ownershipEventsForFile state.diagnostics.ownershipEvents fileId := by
  let keeps : GlobalState Contents Hash → Prop := fun state => HasEvent fileId event state.diagnostics
  have hstart : keeps (serverFrom world (start.handleDiagnostic world message)).init :=
    hrecorded.hasEvent
  have hkept : keeps state := by
    refine h.invariant hstart ?_
    intro state action state' hevent hok hstep
    exact hevent.step hok.1 hok.2 hstep
  exact HasEvent.mem_eventsForFile hkept

/-! ## An artifact of the same check -/

/-- The event of the error. -/
def movedUseEvent : OwnershipEvent := invalidUseEvent (movedUse 1).diagnostic (columns 8 9)

theorem recordsInvalidUse_movedUse {state : GlobalState String String}
    (h : state.urlToFileId plainWorld "main.rs" = some 0) :
    RecordsInvalidUse plainWorld state (movedUse 1) 0 movedUseEvent where
  enabled := rfl
  code := rfl
  mapped := ⟨_, List.mem_singleton.mpr rfl, rfl, h, rfl⟩

/-- A worker has sent what it prepared from the artifact of the first text. -/
def artifactSent : List (Action String) :=
  artifactScheduled ++ [.readHash 0, .readLineIndex 0, .send 0]

/-- The next commit would install a file. -/
def nextInstalls (state : GlobalState String String) : Bool :=
  state.tasks.head?.any fun batch => batch.files.any fun file => state.installs batch.sequence file

theorem commitKeeps_of_refused {state : GlobalState String String} (h : nextInstalls state = false)
    (fileId : FileId) (event : OwnershipEvent) : CommitKeeps fileId event state .commit := by
  intro batch hbatch file hmem _ hinstalls
  have hinstalled : nextInstalls state = true := by
    unfold nextInstalls
    rw [Option.mem_def.mp hbatch]
    exact List.any_eq_true.mpr ⟨file, hmem, hinstalls⟩
  rw [h] at hinstalled
  exact nomatch hinstalled

/-- The error arrives and the next batch is committed: the file of the error, whether the batch is
installed, and whether the event is there in the end. -/
def commitOutcome (start : GlobalState String String) : Option FileId × Bool × Option Bool :=
  (start.urlToFileId plainWorld "main.rs",
    nextInstalls (start.handleDiagnostic plainWorld (movedUse 1)),
    (step plainWorld (start.handleDiagnostic plainWorld (movedUse 1)) .commit).map fun state =>
      decide (movedUseEvent ∈ ownershipEventsForFile state.diagnostics.ownershipEvents 0))

/-- After an edit the artifact is refused, and the error of the new text stays. -/
theorem refused_artifact_keeps_use : ∃ start history state,
    RecordsInvalidUse plainWorld start (movedUse 1) 0 movedUseEvent
      ∧ Run (serverFrom plainWorld (start.handleDiagnostic plainWorld (movedUse 1)))
        (fun state action => Undisturbed 0 movedUseEvent state action
          ∧ CommitKeeps 0 movedUseEvent state action) history state
      ∧ history.map (·.2) = [.commit]
      ∧ movedUseEvent ∈ ownershipEventsForFile state.diagnostics.ownershipEvents 0 := by
  have heval : (Runs.runActions (server plainWorld)
      (artifactSent ++ [.setFileContents 0 (some "let bb = a;"), .processChanges]) []
      (server plainWorld).init).map (fun r => commitOutcome r.2)
      = some (some 0, false, some true) := by decide +kernel
  obtain ⟨-, start, -, hstart⟩ := Runs.exists_run_of_runActions heval
  obtain ⟨hfile, hcommit⟩ := Prod.mk.inj hstart
  obtain ⟨hrefused, hcommit⟩ := Prod.mk.inj hcommit
  obtain ⟨state, hstep, -⟩ := Option.map_eq_some_iff.mp hcommit
  have hrecords := recordsInvalidUse_movedUse hfile
  have hrun : Run (serverFrom plainWorld (start.handleDiagnostic plainWorld (movedUse 1)))
      (fun state action => Undisturbed 0 movedUseEvent state action
        ∧ CommitKeeps 0 movedUseEvent state action)
      [(start.handleDiagnostic plainWorld (movedUse 1), .commit)] state :=
    .snoc .start ⟨trivial, commitKeeps_of_refused hrefused 0 movedUseEvent⟩ hstep
  exact ⟨start, _, state, hrecords, hrun, rfl, rejected_use_stays hrecords hrun⟩

/-- **The artifact of the check that reported the error removes it.** -/
theorem commit_removes_rejected_use : ∃ history start,
    Run (server plainWorld) anyStep history start
      ∧ RecordsInvalidUse plainWorld start (movedUse 1) 0 movedUseEvent
      ∧ ∃ history' state, Run (serverFrom plainWorld
          (start.handleDiagnostic plainWorld (movedUse 1))) (Undisturbed 0 movedUseEvent) history'
          state
        ∧ movedUseEvent ∉ ownershipEventsForFile state.diagnostics.ownershipEvents 0 := by
  have heval : (Runs.runActions (server plainWorld) artifactSent [] (server plainWorld).init).map
      (fun r => commitOutcome r.2) = some (some 0, true, some false) := by decide +kernel
  obtain ⟨history, start, hrun, hstart⟩ := Runs.exists_run_of_runActions heval
  obtain ⟨hfile, hcommit⟩ := Prod.mk.inj hstart
  obtain ⟨state, hstep, hremoved⟩ := Option.map_eq_some_iff.mp (Prod.mk.inj hcommit).2
  have hcommitted : Run (serverFrom plainWorld (start.handleDiagnostic plainWorld (movedUse 1)))
      (Undisturbed 0 movedUseEvent) [(start.handleDiagnostic plainWorld (movedUse 1), .commit)]
      state := .snoc .start trivial hstep
  exact ⟨history, start, hrun, recordsInvalidUse_movedUse hfile, _, state, hcommitted,
    of_decide_eq_false hremoved⟩

end GlobalState

end RustWorkbench.Analyzer
