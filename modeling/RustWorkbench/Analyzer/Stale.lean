import RustWorkbench.Analyzer.RoundTrip
import RustWorkbench.Analyzer.Server

/-!
# Fresh and stale repairs

A repair request names the hash of the text it is meant for, and `handle_ownership_repair` answers
only if that is the hash of the file's current text.  The edits of its answer, though, come from
`check_fixes`, and a fix stays there when the file changes: `clear_ownership_for` removes the
ownership facts of the file and not its fixes.

* `repair_is_fresh` — in a run in which no file with stored fixes gets another text, a returned
  action was carried by a message received while the file had the text the request asks for.
-/

namespace RustWorkbench.Analyzer

open Runs (Run anyStep)

/-! ## The request -/

structure OwnershipRepairParams where
  uri : String
  position : Position
  repairId : String
  sourceHash : String

def ownershipRepairSourceIsCurrent (source expectedHash : String) : Bool :=
  stableSourceHash source == expectedHash

/-- The rustc fix an id stands for, among the fixes of the selected diagnostic. -/
def languageRepairAction (fixes : List Fix) (repairId : String) : Option CodeAction :=
  fixes.zipIdx.findSome? fun (fix, index) =>
    if ownershipLanguageRepairId index = repairId then some fix.action else none

/-- The wrapper rewrite an id stands for, among the rewrites at the position. -/
def wrapperRepairAction (fixes : List Fix) (repairId : String) : Option CodeAction :=
  fixes.zipIdx.findSome? fun (fix, index) =>
    fix.ownershipWrapper.bind fun strategy =>
      if ownershipRepairId strategy index = repairId then some fix.action else none

def handleOwnershipRepair (snap : Snapshot) (params : OwnershipRepairParams) :
    Except String (Option CodeAction) :=
  let request : Range := ⟨params.position, params.position⟩
  match snap.fileRange params.uri request with
  | .error message => .error message
  | .ok none => .ok none
  | .ok (some (fileId, _)) =>
    if ownershipRepairSourceIsCurrent (snap.fileText fileId) params.sourceHash then
      let diagnostic := selectedDiagnosticAt
        (ownershipDiagnosticsForFile snap.ownershipDiagnostics fileId) request
      match languageRepairAction (ownershipLanguageFixesForDiagnostic snap fileId diagnostic)
        params.repairId with
      | some action => .ok (some action)
      | none =>
        let selected := selectedEventAt (ownershipEventsForFile snap.ownershipEvents fileId) request
        .ok (wrapperRepairAction (ownershipFixesAt snap fileId request selected) params.repairId)
    else .ok none

variable {action : CodeAction} {snap : Snapshot}

theorem mem_of_languageRepairAction {fixes : List Fix} {repairId : String}
    (h : languageRepairAction fixes repairId = some action) :
    ∃ fix ∈ fixes, fix.action = action := by
  obtain ⟨⟨fix, index⟩, hmem, hfix⟩ := List.exists_of_findSome?_eq_some h
  refine ⟨fix, List.fst_mem_of_mem_zipIdx hmem, ?_⟩
  dsimp only at hfix
  split at hfix
  · exact Option.some.inj hfix
  · cases hfix

theorem mem_of_wrapperRepairAction {fixes : List Fix} {repairId : String}
    (h : wrapperRepairAction fixes repairId = some action) :
    ∃ fix ∈ fixes, fix.action = action := by
  obtain ⟨⟨fix, index⟩, hmem, hfix⟩ := List.exists_of_findSome?_eq_some h
  refine ⟨fix, List.fst_mem_of_mem_zipIdx hmem, ?_⟩
  obtain ⟨strategy, -, hid⟩ := Option.bind_eq_some_iff.mp hfix
  split at hid
  · exact Option.some.inj hid
  · cases hid

theorem mem_storedFixes_of_language {fileId : FileId} {diagnostic : Option OwnershipDiagnostic}
    {fix : Fix} (h : fix ∈ ownershipLanguageFixesForDiagnostic snap fileId diagnostic) :
    fix ∈ storedFixes snap fileId := by
  unfold ownershipLanguageFixesForDiagnostic at h
  split at h
  · cases h
  · exact List.mem_of_mem_filter ((StableSort.mem_sortByKey _).mp h)

theorem mem_storedFixes_of_wrapper {fileId : FileId} {request : Range}
    {selected : Option OwnershipEvent} {fix : Fix}
    (h : fix ∈ ownershipFixesAt snap fileId request selected) : fix ∈ storedFixes snap fileId :=
  List.mem_of_mem_filter ((StableSort.mem_sortByKey _).mp h)

/-- An answer: the request's hash is that of the current text, and the action is stored. -/
theorem handleOwnershipRepair_some {params : OwnershipRepairParams}
    (h : handleOwnershipRepair snap params = .ok (some action)) :
    ∃ fileId, snap.urlToFileId params.uri = .ok (some fileId) ∧
      stableSourceHash (snap.fileText fileId) = params.sourceHash ∧
      ∃ fix ∈ storedFixes snap fileId, fix.action = action := by
  unfold handleOwnershipRepair at h
  dsimp only at h
  split at h
  · cases h
  · cases h
  · rename_i fileId textRange hrange
    have hfile : snap.urlToFileId params.uri = .ok (some fileId) := by
      unfold Snapshot.fileRange at hrange
      split at hrange
      · cases hrange
      · cases hrange
      · rename_i found hfound
        split at hrange
        · cases hrange
        · cases hrange
          exact hfound
    split at h
    · rename_i hcurrent
      refine ⟨fileId, hfile, by simpa [ownershipRepairSourceIsCurrent] using hcurrent, ?_⟩
      split at h
      · rename_i found hlanguage
        obtain rfl : found = action := by simpa using h
        obtain ⟨fix, hfix, haction⟩ := mem_of_languageRepairAction hlanguage
        exact ⟨fix, mem_storedFixes_of_language hfix, haction⟩
      · obtain ⟨fix, hfix, haction⟩ := mem_of_wrapperRepairAction (Except.ok.inj h)
        exact ⟨fix, mem_storedFixes_of_wrapper hfix, haction⟩
    · cases h

/-! ## The stored fixes -/

namespace DiagnosticCollection

/-- The fixes of a file. -/
def fixes (collection : DiagnosticCollection) (fileId : FileId) : List Fix :=
  (collection.checkFixes.forFile fileId).flatten

variable {collection : DiagnosticCollection} {fileId : FileId} {fix : Fix}

/-- Fixes that are all of stored lists were stored. -/
theorem mem_fixes_of_forFile {collection' : DiagnosticCollection}
    (hstored : ∀ list, list ∈ collection'.checkFixes.forFile fileId →
      list ∈ collection.checkFixes.forFile fileId)
    (h : fix ∈ collection'.fixes fileId) : fix ∈ collection.fixes fileId := by
  obtain ⟨list, hlist, hfix⟩ := List.mem_flatten.mp h
  exact List.mem_flatten.mpr ⟨list, hstored list hlist, hfix⟩

variable {flycheckId : Nat}

theorem mem_fixes_of_mem_clearCheck (h : fix ∈ (collection.clearCheck flycheckId).fixes fileId) :
    fix ∈ collection.fixes fileId := by
  unfold clearCheck at h
  split at h
  · exact h
  · exact mem_fixes_of_forFile (fun _ => PerFlycheck.mem_forFile_of_mem_clear) h

theorem mem_fixes_of_mem_clearCheckForPackage {packageId : PackageSpecifier}
    (h : fix ∈ (collection.clearCheckForPackage flycheckId packageId).fixes fileId) :
    fix ∈ collection.fixes fileId := by
  unfold clearCheckForPackage at h
  split at h
  · exact h
  · exact mem_fixes_of_forFile (fun _ => PerFlycheck.mem_forFile_of_mem_removePackages) h

theorem mem_fixes_of_mem_clearOlder {inScope : Option PackageSpecifier → Bool}
    {generation : DiagnosticsGeneration}
    (h : fix ∈ (collection.clearOlder flycheckId inScope generation).fixes fileId) :
    fix ∈ collection.fixes fileId := by
  unfold clearOlder at h
  split at h
  · exact h
  · dsimp only at h
    split at h
    · exact h
    · exact mem_fixes_of_forFile (fun _ => PerFlycheck.mem_forFile_of_mem_removePackages) h

/-- A check diagnostic adds at most its own fix, to its own file. -/
theorem mem_fixes_addCheckDiagnostic {generation : DiagnosticsGeneration}
    {packageId : Option PackageSpecifier} {fileId' : FileId} {diagnostic : Diagnostic}
    {carried : Option Fix}
    (h : fix ∈ (collection.addCheckDiagnostic flycheckId generation packageId fileId' diagnostic
      carried).fixes fileId) :
    fix ∈ collection.fixes fileId ∨
      fileId = fileId' ∧ ∃ original, carried = some original ∧ fix.action = original.action := by
  unfold addCheckDiagnostic at h
  dsimp only at h
  split at h
  · exact .inl h
  · split at h
    · exact .inl h
    · cases carried with
      | none => exact .inl h
      | some original =>
        obtain ⟨list, hlist, hfix⟩ := List.mem_flatten.mp h
        rcases PerFlycheck.mem_forFile_update hlist with hlist | ⟨hfile, old, rfl, hold⟩
        · exact .inl (List.mem_flatten.mpr ⟨list, hlist, hfix⟩)
        · rcases List.mem_append.mp hfix with hfix | hfix
          · rcases hold with rfl | hold
            · cases hfix
            · exact .inl (List.mem_flatten.mpr ⟨old, hfile ▸ hold, hfix⟩)
          · obtain rfl := List.mem_singleton.mp hfix
            exact .inr ⟨hfile, original, rfl, rfl⟩

end DiagnosticCollection

namespace GlobalState

variable {Contents Hash : Type} {world : World Contents Hash}
  {state : GlobalState Contents Hash} {fileId : FileId} {fix : Fix}

variable {state' : GlobalState Contents Hash} {action : Action Contents} {flycheckId : Nat}
  {packageId : Option PackageSpecifier}

theorem mem_fixes_addMapped {ownershipEnabled : Bool} {generation : DiagnosticsGeneration}
    {diagnostic : RustDiagnostic} {fileId' : FileId} {mapped : MappedRustDiagnostic}
    {collection : DiagnosticCollection}
    (h : fix ∈ (addMapped ownershipEnabled flycheckId generation packageId diagnostic fileId' mapped
      collection).fixes fileId) :
    fix ∈ collection.fixes fileId ∨
      fileId = fileId' ∧ ∃ original, mapped.fix = some original ∧ fix.action = original.action := by
  unfold addMapped at h
  dsimp only at h
  refine (DiagnosticCollection.mem_fixes_addCheckDiagnostic h).imp_left fun hold => ?_
  -- The ownership diagnostic and the event are stored elsewhere.
  split at hold
  all_goals
    split at hold
    · split at hold <;> exact hold
    · exact hold

/-- The message that `action` is carries `codeAction`, as the fix of a diagnostic of the file. -/
def Carries (world : World Contents Hash) (state : GlobalState Contents Hash)
    (action : Action Contents) (fileId : FileId) (codeAction : CodeAction) : Prop :=
  ∃ flycheckId generation packageId diagnostic mapped,
    action = .flycheck (.addDiagnostic flycheckId generation packageId diagnostic mapped) ∧
    ∃ entry ∈ mapped, state.urlToFileId world entry.url = some fileId ∧
      ∃ fix, entry.fix = some fix ∧ fix.action = codeAction

theorem mem_fixes_foldl_recordDiagnostic {generation : DiagnosticsGeneration}
    {diagnostic : RustDiagnostic} :
    ∀ {mapped : List MappedRustDiagnostic} {state : GlobalState Contents Hash},
      fix ∈ (mapped.foldl (recordDiagnostic world flycheckId generation packageId diagnostic)
        state).diagnostics.fixes fileId →
      fix ∈ state.diagnostics.fixes fileId ∨
        ∃ entry ∈ mapped, state.urlToFileId world entry.url = some fileId ∧
          ∃ original, entry.fix = some original ∧ original.action = fix.action
  | [], _, h => .inl h
  | entry :: mapped, state, h => by
    rw [List.foldl_cons] at h
    rcases mem_fixes_foldl_recordDiagnostic h with h | ⟨other, hother, hfile, hfix⟩
    · unfold recordDiagnostic at h
      split at h
      · exact .inl h
      · rename_i found hfound
        rcases mem_fixes_addMapped h with h | ⟨rfl, original, hfix, haction⟩
        · exact .inl h
        · exact .inr ⟨entry, List.mem_cons_self, hfound, original, hfix, haction.symm⟩
    · refine .inr ⟨other, List.mem_cons_of_mem _ hother, ?_, hfix⟩
      unfold urlToFileId at hfile ⊢
      rwa [(sameFiles_recordDiagnostic world state flycheckId generation packageId diagnostic
        entry).vfs] at hfile

/-- The store of all fixes. -/
def fixStore (state : GlobalState Contents Hash) : CheckFixes := state.diagnostics.checkFixes

theorem mem_fixes_of_fixStore (hstore : state'.fixStore = state.fixStore)
    (h : fix ∈ state'.diagnostics.fixes fileId) : fix ∈ state.diagnostics.fixes fileId := by
  have hsame : state'.diagnostics.checkFixes = state.diagnostics.checkFixes := hstore
  unfold DiagnosticCollection.fixes at h ⊢
  rwa [hsame] at h

theorem fixStore_recordLegacyEvent {payload : OwnershipEventPayload}
    (state : GlobalState Contents Hash) (entry : MappedRustDiagnostic) :
    (state.recordLegacyEvent world flycheckId packageId payload entry).fixStore
      = state.fixStore := by
  unfold recordLegacyEvent
  split <;> rfl

/-- A fix that is stored after a check message was stored before it, or the message carries it. -/
theorem mem_fixes_handleFlycheckMsg {message : FlycheckMessage}
    (h : fix ∈ (state.handleFlycheckMsg world message).diagnostics.fixes fileId) :
    fix ∈ state.diagnostics.fixes fileId ∨
      Carries world state (.flycheck message) fileId fix.action := by
  cases message with
  | addDiagnostic flycheckId generation packageId diagnostic mapped =>
    rw [handleFlycheckMsg] at h
    generalize hafter : state.addDiagnostic world flycheckId generation packageId diagnostic mapped
      = after at h
    cases addDiagnostic_effect hafter with
    | ignored | artifact => exact .inl h
    | events payload =>
      exact .inl (mem_fixes_of_fixStore
        (Runs.foldl_unchanged (g := fixStore) fixStore_recordLegacyEvent mapped state) h)
    | diagnostics =>
      exact (mem_fixes_foldl_recordDiagnostic h).imp_right fun hentry =>
        ⟨flycheckId, generation, packageId, diagnostic, mapped, rfl, hentry⟩
  | ownershipArtifacts flycheckId paths => exact .inl h
  | clearDiagnostics flycheckId kind =>
    refine .inl ?_
    rcases kind with ⟨_ | packageId⟩ | ⟨generation, _ | packageId⟩
    · exact DiagnosticCollection.mem_fixes_of_mem_clearCheck h
    · exact DiagnosticCollection.mem_fixes_of_mem_clearCheckForPackage h
    · exact DiagnosticCollection.mem_fixes_of_mem_clearOlder h
    · exact DiagnosticCollection.mem_fixes_of_mem_clearOlder h
  | progress flycheckId progress =>
    obtain ⟨pending, hafter | ⟨sequence, paths, hafter⟩⟩ :=
      flycheckProgress_cases state flycheckId progress
    all_goals
      rw [handleFlycheckMsg, hafter] at h
      exact .inl h

theorem fixStore_commitFile [DecidableEq Hash] (batch : PreparedOwnershipBatch Hash)
    (state : GlobalState Contents Hash) (file : PreparedOwnershipFile Hash) :
    (state.commitFile batch file).fixStore = state.fixStore := by
  unfold commitFile install
  split
  · cases file.model <;> rfl
  · rfl

theorem fixStore_commitOwnershipModelArtifacts [DecidableEq Hash]
    (state : GlobalState Contents Hash) (batch : PreparedOwnershipBatch Hash) :
    (state.commitOwnershipModelArtifacts batch).fixStore = state.fixStore :=
  Runs.foldl_unchanged (g := fixStore) (fixStore_commitFile batch) batch.files state

/-- `process_changes` leaves the fixes of the changed files alone. -/
theorem fixStore_processChanges (world : World Contents Hash)
    (state : GlobalState Contents Hash) :
    (state.processChanges world).fixStore = state.fixStore := by
  unfold processChanges
  split
  · rfl
  · exact Runs.foldl_unchanged (f := applyChange world state.vfs) (g := fixStore)
      (fun _ _ => rfl) state.vfs.changes state

theorem diagnostics_updateWorker {index : Nat} {f : Worker Hash → Option (Worker Hash)}
    (h : state.updateWorker index f = some state') :
    state'.diagnostics = state.diagnostics ∧ state'.texts = state.texts := by
  obtain ⟨worker, worker', -, -, rfl⟩ := updateWorker_eq_some h
  exact ⟨rfl, rfl⟩

/-- **Where fixes come from.**  A fix that is stored after a step was stored before it, or the
step is the message that carries it. -/
theorem mem_fixes_step [DecidableEq Hash] (hstep : state.step world action = some state')
    (h : fix ∈ state'.diagnostics.fixes fileId) :
    fix ∈ state.diagnostics.fixes fileId ∨ Carries world state action fileId fix.action := by
  cases action with
  | setFileContents | insertExcludedFile =>
    obtain rfl := Option.some.inj hstep
    exact .inl h
  | processChanges =>
    obtain rfl := Option.some.inj hstep
    exact .inl (mem_fixes_of_fixStore (fixStore_processChanges world state) h)
  | flycheck message =>
    obtain rfl := Option.some.inj hstep
    exact mem_fixes_handleFlycheckMsg h
  | clearCheckAll =>
    obtain rfl := Option.some.inj hstep
    cases h
  | readArtifact | readText | readHash | readLineIndex =>
    rw [(diagnostics_updateWorker hstep).1] at h
    exact .inl h
  | send index =>
    obtain ⟨_, _, _, -, -, rfl⟩ := sendBatch_eq_some hstep
    exact .inl h
  | commit =>
    obtain ⟨batch, tasks, -, rfl⟩ := step_commit_eq_some hstep
    exact .inl (mem_fixes_of_fixStore
      (fixStore_commitOwnershipModelArtifacts { state with tasks } batch) h :)

/-- Only `process_changes` changes a text. -/
theorem texts_step [DecidableEq Hash] (hstep : state.step world action = some state')
    (haction : action ≠ .processChanges) : state'.texts = state.texts := by
  cases action with
  | processChanges => exact absurd rfl haction
  | setFileContents | insertExcludedFile | clearCheckAll =>
    obtain rfl := Option.some.inj hstep
    rfl
  | flycheck message =>
    obtain rfl := Option.some.inj hstep
    exact (sameFiles_handleFlycheckMsg world state message).texts
  | readArtifact | readText | readHash | readLineIndex => exact (diagnostics_updateWorker hstep).2
  | send index =>
    obtain ⟨_, _, _, -, -, rfl⟩ := sendBatch_eq_some hstep
    rfl
  | commit =>
    obtain ⟨batch, tasks, -, rfl⟩ := step_commit_eq_some hstep
    exact (sameFiles_commitOwnershipModelArtifacts _ _).texts

/-! ## Freshness over a run -/

/-- `process_changes` gives no file that has stored fixes another text. -/
def KeepsFixedTexts (world : World Contents Hash) (state : GlobalState Contents Hash)
    (action : Action Contents) : Prop :=
  action = .processChanges → ∀ fileId change, state.vfs.changes.get? fileId = some change →
    state.diagnostics.fixes fileId ≠ [] →
      state.texts.get? fileId = some (world.text change.contents?)

/-- Every stored fix was carried by a message received while the file had its current text. -/
def FixesFresh (world : World Contents Hash)
    (history : List (GlobalState Contents Hash × Action Contents))
    (state : GlobalState Contents Hash) : Prop :=
  ∀ fileId, ∀ fix ∈ state.diagnostics.fixes fileId, ∃ received ∈ history,
    Carries world received.1 received.2 fileId fix.action ∧
      received.1.texts.get? fileId = state.texts.get? fileId

/-- A step that meets the condition leaves the text of a file with stored fixes as it is. -/
theorem texts_step_of_fix [DecidableEq Hash] (hok : KeepsFixedTexts world state action)
    (hstep : state.step world action = some state') (h : fix ∈ state.diagnostics.fixes fileId) :
    state'.texts.get? fileId = state.texts.get? fileId := by
  by_cases haction : action = .processChanges
  · subst haction
    obtain rfl := Option.some.inj hstep
    rw [(processChanges_spec world state fileId).1]
    cases hchange : state.vfs.changes.get? fileId with
    | none => rfl
    | some change => exact (hok rfl fileId change hchange (List.ne_nil_of_mem h)).symm
  · rw [texts_step hstep haction]

theorem fixesFresh_step [DecidableEq Hash]
    {history : List (GlobalState Contents Hash × Action Contents)}
    (h : FixesFresh world history state) (hok : KeepsFixedTexts world state action)
    (hstep : state.step world action = some state') :
    FixesFresh world (history ++ [(state, action)]) state' := by
  intro fileId fix hfix
  rcases mem_fixes_step hstep hfix with hold | hcarries
  · obtain ⟨received, hmem, hcarries, htext⟩ := h fileId fix hold
    exact ⟨received, List.mem_append_left _ hmem, hcarries,
      htext.trans (texts_step_of_fix hok hstep hold).symm⟩
  · refine ⟨(state, action), List.mem_append_right _ List.mem_cons_self, hcarries, ?_⟩
    obtain ⟨_, _, _, _, _, rfl, -⟩ := hcarries
    rw [texts_step hstep (by simp)]

end GlobalState

/-- A snapshot taken in a state.  A request for a file whose text the database does not have gets
no answer, so the text of every file it names is known. -/
structure TakenFrom {Contents Hash : Type} (snap : Snapshot) (state : GlobalState Contents Hash) :
    Prop where
  checkFixes : snap.checkFixes = state.diagnostics.checkFixes
  ownershipDiagnostics : snap.ownershipDiagnostics = state.diagnostics.ownershipDiagnostics
  ownershipEvents : snap.ownershipEvents = state.diagnostics.ownershipEvents
  texts : ∀ uri fileId, snap.urlToFileId uri = .ok (some fileId) →
    state.texts.get? fileId = some (snap.fileText fileId)

/-- **Repairs are fresh.**  In every run in which `process_changes` never gives a file with stored
fixes another text, the action that answers a repair request was carried by a check message that
was received while the file had exactly its current text, the one the request's hash is of. -/
theorem repair_is_fresh {Contents Hash : Type} [DecidableEq Hash] {world : World Contents Hash}
    {history : List (GlobalState Contents Hash × Action Contents)}
    {state : GlobalState Contents Hash}
    (hrun : Run (server world) (GlobalState.KeepsFixedTexts world) history state)
    {snap : Snapshot} (hsnap : TakenFrom snap state) {params : OwnershipRepairParams}
    {action : CodeAction} (h : handleOwnershipRepair snap params = .ok (some action)) :
    ∃ fileId, snap.urlToFileId params.uri = .ok (some fileId) ∧
      ∃ received ∈ history, GlobalState.Carries world received.1 received.2 fileId action ∧
        received.1.texts.get? fileId = some (snap.fileText fileId) ∧
        stableSourceHash (snap.fileText fileId) = params.sourceHash := by
  have hfresh : GlobalState.FixesFresh world history state :=
    hrun.invariant_history (fun _ _ h => nomatch h)
      fun _ _ _ _ h hok hstep => GlobalState.fixesFresh_step h hok hstep
  obtain ⟨fileId, hfile, hhash, fix, hfix, rfl⟩ := handleOwnershipRepair_some h
  have hstored : fix ∈ state.diagnostics.fixes fileId := by
    unfold storedFixes at hfix
    rwa [hsnap.checkFixes] at hfix
  obtain ⟨received, hmem, hcarries, htext⟩ := hfresh fileId fix hstored
  exact ⟨fileId, hfile, received, hmem, hcarries,
    htext.trans (hsnap.texts params.uri fileId hfile), hhash⟩

/-! ## A stale repair -/

/-- One file whose contents are texts and their own hashes. -/
def plainWorld : World String String where
  contentHash := id
  decode := some
  urlFileId _ := some 0
  pathUrl := some
  lineIndex _ := oneLine
  ownershipEnabled := true
  parseEventPayload _ := none
  parseModelPointer _ := none

/-- The only file is written. -/
def written (state : GlobalState String String) (text : String) : GlobalState String String :=
  { state with vfs := state.vfs.setFileContents id 0 (some text) }

/-- A rewrite of the moved `a` in `let b = a;`. -/
def rcFix : Fix where
  ranges := []
  action := ⟨"Use Rc", none, none,
    some ⟨some [("main.rs", [⟨columns 8 9, "std::rc::Rc::clone(&a)"⟩])], none⟩, none⟩
  ownershipWrapper := some .rc

def rcMessage : FlycheckMessage :=
  .addDiagnostic 0 0 none ⟨some "E0382", "use of moved value: `a`"⟩
    [⟨"main.rs", ⟨columns 8 9, some .error, none, "use of moved value: `a`", none⟩, some rcFix⟩]

/-- The file has a text, -/
def opened : GlobalState String String := (written {} "let b = a;").processChanges plainWorld

/-- a check has reported the moved value, -/
def checked : GlobalState String String := opened.handleFlycheckMsg plainWorld rcMessage

/-- and the text in front of it was edited. -/
def edited : GlobalState String String := (written checked "let bb = a;").processChanges plainWorld

/-- What a request sees of a state, if nothing else is known. -/
def plainSnapshot (state : GlobalState String String) : Snapshot :=
  { diagnosticsOnly [] with
    checkFixes := state.diagnostics.checkFixes
    ownershipDiagnostics := state.diagnostics.ownershipDiagnostics
    ownershipEvents := state.diagnostics.ownershipEvents
    fileText := fun fileId => (state.texts.get? fileId).getD "" }

theorem takenFrom_plainSnapshot {state : GlobalState String String} {text : String}
    (h : state.texts.get? 0 = some text) : TakenFrom (plainSnapshot state) state where
  checkFixes := rfl
  ownershipDiagnostics := rfl
  ownershipEvents := rfl
  texts uri fileId hfile := by
    obtain rfl : 0 = fileId := Option.some.inj (Except.ok.inj hfile)
    simp only [plainSnapshot, h, Option.getD_some]

/-- The first rewrite at the moved `a`, for the text with the given hash. -/
def rcRequest (text : String) : OwnershipRepairParams :=
  ⟨"main.rs", ⟨0, 8⟩, "rc-0", stableSourceHash text⟩

/-- The run up to the check, which changes the text of no file with stored fixes. -/
theorem run_checked : Run (server plainWorld) (GlobalState.KeepsFixedTexts plainWorld)
    [({}, .setFileContents 0 (some "let b = a;")), (written {} "let b = a;", .processChanges),
      (opened, .flycheck rcMessage)] checked := by
  have hwritten : Run (server plainWorld) (GlobalState.KeepsFixedTexts plainWorld)
      [({}, .setFileContents 0 (some "let b = a;"))] (written {} "let b = a;") :=
    .snoc .start (fun h => nomatch h) rfl
  have hopened : Run (server plainWorld) (GlobalState.KeepsFixedTexts plainWorld)
      [({}, .setFileContents 0 (some "let b = a;")), (written {} "let b = a;", .processChanges)]
      opened := .snoc hwritten (fun _ _ _ _ h => absurd rfl h) rfl
  exact .snoc hopened (fun h => nomatch h) rfl

/-- Without an edit the rewrite is fresh. -/
theorem unedited_repair_is_fresh :
    handleOwnershipRepair (plainSnapshot checked) (rcRequest "let b = a;")
      = .ok (some rcFix.action) ∧
    ∃ fileId, (plainSnapshot checked).urlToFileId "main.rs" = .ok (some fileId) ∧
      ∃ received ∈ [(({} : GlobalState String String),
            (.setFileContents 0 (some "let b = a;") : Action String)),
          (written {} "let b = a;", .processChanges), (opened, .flycheck rcMessage)],
        GlobalState.Carries plainWorld received.1 received.2 fileId rcFix.action ∧
        received.1.texts.get? fileId = some ((plainSnapshot checked).fileText fileId) ∧
        stableSourceHash ((plainSnapshot checked).fileText fileId)
          = stableSourceHash "let b = a;" := by
  have hanswer : handleOwnershipRepair (plainSnapshot checked) (rcRequest "let b = a;")
      = .ok (some rcFix.action) := by decide +kernel
  exact ⟨hanswer, repair_is_fresh run_checked (takenFrom_plainSnapshot rfl) hanswer⟩

/-- After the edit the rewrite is returned for the new text, though its only message came with the
old one: the edit of column 8 now replaces the blank before the `a`. -/
theorem edited_repair_is_stale : ∃ history, Run (server plainWorld) anyStep history edited ∧
    TakenFrom (plainSnapshot edited) edited ∧
    handleOwnershipRepair (plainSnapshot edited) (rcRequest "let bb = a;")
      = .ok (some rcFix.action) ∧
    ∀ received ∈ history, ∀ fileId,
      GlobalState.Carries plainWorld received.1 received.2 fileId rcFix.action →
        ∃ text, received.1.texts.get? fileId = some text ∧
          stableSourceHash text ≠ (rcRequest "let bb = a;").sourceHash := by
  have hchecked := run_checked.mono fun _ _ _ => trivial
  have hwritten : Run (server plainWorld) anyStep _ (written checked "let bb = a;") :=
    hchecked.snoc (a := .setFileContents 0 (some "let bb = a;")) trivial rfl
  have hedited : Run (server plainWorld) anyStep _ edited :=
    hwritten.snoc (a := .processChanges) trivial rfl
  refine ⟨_, hedited, takenFrom_plainSnapshot rfl, by decide +kernel, ?_⟩
  intro received hreceived fileId hcarries
  obtain ⟨_, _, _, _, _, haction, entry, -, hfile, -⟩ := hcarries
  obtain rfl : 0 = fileId := Option.some.inj (Option.filter_eq_some_iff.mp hfile).1
  simp only [List.cons_append, List.nil_append, List.mem_cons, List.not_mem_nil, or_false]
    at hreceived
  rcases hreceived with rfl | rfl | rfl | rfl | rfl
  · cases haction
  · cases haction
  · exact ⟨"let b = a;", rfl, by decide +kernel⟩
  · cases haction
  · cases haction

end RustWorkbench.Analyzer
