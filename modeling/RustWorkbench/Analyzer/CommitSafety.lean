import RustWorkbench.Analyzer.Stale

/-!
# What a commit installs

A worker reads the text of a file through its snapshot and the content hash of the file from the
shared file system, and the main loop installs what the worker prepared if that hash is the one it
last applied.  A write between the two reads makes the worker pair the old text with the new hash.

* `files_consistent` — whatever is interleaved, the hashes that a commit compares belong to the texts.
* `commit_installs_current` — in a run in which workers read hashes only of files without an
  unprocessed change, what a commit installs was prepared from the text that was last applied.
-/

namespace RustWorkbench.Analyzer

open Runs (Run anyStep)

variable {Contents Hash : Type}

/-- Contents with this hash have this text. -/
def World.HashOf (world : World Contents Hash) (hash : Hash) (text : String) : Prop :=
  ∃ contents, world.contentHash contents = hash ∧ world.text (some contents) = text

namespace GlobalState

/-! ## Texts and hashes -/

/-- Hashes and texts belong together.  A file with an unprocessed change has the hash of its new
contents; the others have the hash of contents with the text that was applied. -/
structure FilesOk (world : World Contents Hash) (state : GlobalState Contents Hash) : Prop where
  pending : ∀ fileId change hash, state.vfs.changes.get? fileId = some change →
    state.vfs.get fileId = .existing hash → ∃ contents, change.contents? = some contents ∧
      world.contentHash contents = hash
  settled : ∀ fileId hash, state.vfs.changes.get? fileId = none →
    state.vfs.get fileId = .existing hash → ∃ text, state.texts.get? fileId = some text ∧
      world.HashOf hash text
  hashes : ∀ fileId hash, state.ownershipFileHashes.get? fileId = some hash →
    ∃ text, state.texts.get? fileId = some text ∧ world.HashOf hash text

theorem filesOk_init (world : World Contents Hash) :
    FilesOk world ({} : GlobalState Contents Hash) where
  pending _ _ _ h := nomatch h
  settled _ _ _ h := nomatch h
  hashes _ _ h := nomatch h

theorem get_eq_existing {vfs : Vfs Contents Hash} {fileId : FileId} {hash : Hash}
    (h : vfs.fileContentHash fileId = some hash) : vfs.get fileId = .existing hash := by
  unfold Vfs.fileContentHash at h
  split at h
  · rename_i found hfound
    rw [hfound, Option.some.inj h]
  · cases h
  · cases h

variable {world : World Contents Hash} {state state' : GlobalState Contents Hash}

theorem FilesOk.congr (h : FilesOk world state) (hvfs : state'.vfs = state.vfs)
    (htexts : state'.texts = state.texts)
    (hhashes : state'.ownershipFileHashes = state.ownershipFileHashes) : FilesOk world state' := by
  refine ⟨?_, ?_, ?_⟩
  · rw [hvfs]
    exact h.pending
  · rw [hvfs, htexts]
    exact h.settled
  · rw [hhashes, htexts]
    exact h.hashes

theorem FilesOk.setFileContents [DecidableEq Hash] (h : FilesOk world state) (fileId : FileId)
    (contents : Option Contents) :
    FilesOk world
      { state with vfs := state.vfs.setFileContents world.contentHash fileId contents } := by
  rcases Vfs.setFileContents_spec world.contentHash state.vfs fileId contents
    with hsame | ⟨change, hcontents, hstate, hrecord⟩
  · rw [hsame]
    exact h
  · rw [hrecord]
    refine ⟨fun file pending hash hpending hfile => ?_, fun file hash hpending hfile => ?_,
      h.hashes⟩
    · rw [Vfs.get_record] at hfile
      rw [Vfs.record, Assoc.Map.get?_insert] at hpending
      split at hpending
      · rename_i heq
        obtain rfl := Option.some.inj hpending
        rw [if_pos heq, hstate] at hfile
        cases contents with
        | none => cases hfile
        | some contents => exact ⟨contents, hcontents, FileState.existing.inj hfile⟩
      · rename_i hne
        rw [if_neg hne] at hfile
        exact h.pending file pending hash hpending hfile
    · rw [Vfs.get_record] at hfile
      rw [Vfs.record, Assoc.Map.get?_insert] at hpending
      split at hpending
      · cases hpending
      · rename_i hne
        rw [if_neg hne] at hfile
        exact h.settled file hash hpending hfile

theorem FilesOk.insertExcludedFile (h : FilesOk world state) (fileId : FileId) :
    FilesOk world { state with vfs := state.vfs.insertExcludedFile fileId } := by
  refine ⟨fun file pending hash hpending hfile => ?_, fun file hash hpending hfile => ?_, h.hashes⟩
  all_goals
    rw [Vfs.get_insertExcludedFile] at hfile
    split at hfile
    · cases hfile
  · exact h.pending file pending hash hpending hfile
  · exact h.settled file hash hpending hfile

theorem FilesOk.processChanges (h : FilesOk world state) :
    FilesOk world (state.processChanges world) := by
  by_cases hempty : state.vfs.changes.isEmpty
  · rwa [GlobalState.processChanges, if_pos hempty]
  have hvfs : (state.processChanges world).vfs = state.vfs.takeChanges := by
    rw [GlobalState.processChanges, if_neg hempty]
  -- A changed file gets the text of its new contents, whose hash the file system has.
  have hchanged : ∀ fileId change hash, state.vfs.changes.get? fileId = some change →
      state.vfs.get fileId = .existing hash →
      ∃ text, (state.processChanges world).texts.get? fileId = some text ∧
        world.HashOf hash text := by
    intro fileId change hash hpending hfile
    obtain ⟨contents, hcontents, hhash⟩ := h.pending fileId change hash hpending hfile
    refine ⟨_, ?_, contents, hhash, rfl⟩
    rw [(processChanges_spec world state fileId).1, hpending]
    simp only [hcontents]
  refine ⟨fun fileId change hash hpending => ?_, fun fileId hash _ hfile => ?_,
    fun fileId hash hhash => ?_⟩
  · rw [hvfs] at hpending
    cases hpending
  · rw [hvfs] at hfile
    have hfile : state.vfs.get fileId = .existing hash := hfile
    cases hpending : state.vfs.changes.get? fileId with
    | some change => exact hchanged fileId change hash hpending hfile
    | none =>
      rw [(processChanges_spec world state fileId).1, hpending]
      exact h.settled fileId hash hpending hfile
  · rw [(processChanges_spec world state fileId).2] at hhash
    cases hpending : state.vfs.changes.get? fileId with
    | some change =>
      rw [hpending] at hhash
      exact hchanged fileId change hash hpending (get_eq_existing hhash)
    | none =>
      rw [hpending] at hhash
      rw [(processChanges_spec world state fileId).1, hpending]
      exact h.hashes fileId hash hhash

/-! ## Workers -/

abbrev History (Contents Hash : Type) := List (GlobalState Contents Hash × Action Contents)

/-- A worker has read the artifact. -/
def WasRead (history : History Contents Hash) (artifact : OwnershipModelArtifact) : Prop :=
  ∃ before index, (before, Action.readArtifact index (some artifact)) ∈ history

/-- The file was prepared for this text, from a source of an artifact that was read, and the
artifact gives the hash of this text for the source. -/
def PreparedFrom (world : World Contents Hash) (history : History Contents Hash)
    (file : PreparedOwnershipFile Hash) (text : String) : Prop :=
  ∃ artifact source, WasRead history artifact ∧ source ∈ artifact.sources ∧
    artifactSourceHash source = stableSourceHash text ∧
    file = Worker.preparedFile world artifact source file.uri file.fileId text file.vfsHash

/-- The content hash of a prepared file is the hash of the text it was prepared for. -/
def FileOk (world : World Contents Hash) (history : History Contents Hash)
    (file : PreparedOwnershipFile Hash) : Prop :=
  ∃ text, world.HashOf file.vfsHash text ∧ PreparedFrom world history file text

/-- What a worker has read, as far as its snapshot is still current. -/
structure WorkerOk (world : World Contents Hash) (history : History Contents Hash)
    (state : GlobalState Contents Hash) (worker : Worker Hash) : Prop where
  revision : worker.revision ≤ state.revision
  sources : ∀ entry ∈ worker.sources, WasRead history entry.1 ∧ entry.2 ∈ entry.1.sources
  text : ∀ uri fileId text, worker.read = .text uri fileId text →
    worker.revision = state.revision → state.texts.get? fileId = some text
  hash : ∀ uri fileId text vfsHash, worker.read = .hash uri fileId text vfsHash →
    worker.revision = state.revision → world.HashOf vfsHash text
  sourceHash : ∀ uri fileId text vfsHash, worker.read = .hash uri fileId text vfsHash →
    ∀ entry ∈ worker.sources.head?, artifactSourceHash entry.2 = stableSourceHash text
  prepared : ∀ file ∈ worker.prepared.values, FileOk world history file

section Workers

variable {history history' : History Contents Hash} {worker worker' : Worker Hash}

theorem FileOk.mono {file : PreparedOwnershipFile Hash} (h : FileOk world history file)
    (hhistory : history ⊆ history') : FileOk world history' file := by
  obtain ⟨text, hhash, artifact, source, ⟨before, index, hread⟩, hsource⟩ := h
  exact ⟨text, hhash, artifact, source, ⟨before, index, hhistory hread⟩, hsource⟩

/-- Nothing a worker knows changes with a longer history and the same texts. -/
theorem WorkerOk.mono (h : WorkerOk world history state worker) (hhistory : history ⊆ history')
    (htexts : state'.texts = state.texts) (hrevision : state'.revision = state.revision) :
    WorkerOk world history' state' worker where
  revision := hrevision ▸ h.revision
  sources entry hentry := by
    obtain ⟨⟨before, index, hread⟩, hsource⟩ := h.sources entry hentry
    exact ⟨⟨before, index, hhistory hread⟩, hsource⟩
  text := by
    rw [htexts, hrevision]
    exact h.text
  hash := by
    rw [hrevision]
    exact h.hash
  sourceHash := h.sourceHash
  prepared file hfile := (h.prepared file hfile).mono hhistory

/-- A change that is applied makes every snapshot out of date. -/
theorem WorkerOk.outdated (h : WorkerOk world history state worker) (hhistory : history ⊆ history')
    (hrevision : state'.revision = state.revision + 1) :
    WorkerOk world history' state' worker where
  revision := by
    have := h.revision
    omega
  sources entry hentry := by
    obtain ⟨⟨before, index, hread⟩, hsource⟩ := h.sources entry hentry
    exact ⟨⟨before, index, hhistory hread⟩, hsource⟩
  text _ _ _ _ hcurrent := by
    have := h.revision
    omega
  hash _ _ _ _ _ hcurrent := by
    have := h.revision
    omega
  sourceHash := h.sourceHash
  prepared file hfile := (h.prepared file hfile).mono hhistory

/-- A worker that has not read anything. -/
theorem workerOk_start (state : GlobalState Contents Hash) (flycheckId : Nat)
    (packageId : Option PackageSpecifier) (sequence : Nat) (paths : List String) :
    WorkerOk world history state
      { flycheckId, packageId, sequence, revision := state.revision, paths } where
  revision := Nat.le_refl _
  sources _ h := nomatch h
  text _ _ _ h := nomatch h
  hash _ _ _ _ h := nomatch h
  sourceHash _ _ _ _ h := nomatch h
  prepared _ h := nomatch h

theorem WorkerOk.skipSource (h : WorkerOk world history state worker) :
    WorkerOk world history state worker.skipSource where
  revision := h.revision
  sources entry hentry := h.sources entry (List.mem_of_mem_tail hentry)
  text _ _ _ hread := nomatch hread
  hash _ _ _ _ hread := nomatch hread
  sourceHash _ _ _ _ hread := nomatch hread
  prepared := h.prepared

theorem WorkerOk.readArtifact {artifact : Option OwnershipModelArtifact}
    (h : WorkerOk world history state worker)
    (hread : ∀ found, artifact = some found → WasRead history found)
    (hstep : worker.readArtifact artifact = some worker') :
    WorkerOk world history state worker' := by
  unfold Worker.readArtifact at hstep
  split at hstep
  · rename_i paths hnothing hsources _
    have hskip : WorkerOk world history state { worker with paths } :=
      ⟨h.revision, h.sources, h.text, h.hash, h.sourceHash, h.prepared⟩
    split at hstep
    · obtain rfl := Option.some.inj hstep
      exact hskip
    · rename_i found
      split at hstep
      · obtain rfl := Option.some.inj hstep
        refine ⟨h.revision, ?_, h.text, h.hash, ?_, h.prepared⟩
        · intro entry hentry
          obtain ⟨source, hsource, rfl⟩ := List.mem_map.mp hentry
          exact ⟨hread found rfl, hsource⟩
        · intro _ _ _ _ hhash
          rw [hnothing] at hhash
          cases hhash
      · obtain rfl := Option.some.inj hstep
        exact hskip
  · cases hstep

theorem WorkerOk.readText (h : WorkerOk world history state worker)
    (hstep : worker.readText world state = some worker') : WorkerOk world history state worker' := by
  unfold Worker.readText at hstep
  split at hstep
  · dsimp only at hstep
    split at hstep
    · obtain rfl := Option.some.inj hstep
      exact h.skipSource
    · rename_i read hfound
      obtain rfl := Option.some.inj hstep
      obtain ⟨uri, -, hfound⟩ := Option.bind_eq_some_iff.mp hfound
      obtain ⟨fileId, -, hfound⟩ := Option.bind_eq_some_iff.mp hfound
      obtain ⟨_, -, hfound⟩ := Option.bind_eq_some_iff.mp hfound
      split at hfound
      · cases hfound
      · obtain ⟨text, htext, hfound⟩ := Option.bind_eq_some_iff.mp hfound
        obtain rfl := Option.some.inj hfound
        refine ⟨h.revision, h.sources, ?_, ?_, ?_, h.prepared⟩
        · intro _ _ _ hread _
          cases hread
          exact htext
        · intro _ _ _ _ hread
          cases hread
        · intro _ _ _ _ hread
          cases hread
  · cases hstep

/-- No unprocessed change of the file changes its text. -/
def Settled (world : World Contents Hash) (state : GlobalState Contents Hash) (fileId : FileId) :
    Prop :=
  ∀ change, state.vfs.changes.get? fileId = some change →
    state.texts.get? fileId = some (world.text change.contents?)

/-- The content hash of a settled file is that of its applied text. -/
theorem FilesOk.hashOf_of_settled (h : FilesOk world state) {fileId : FileId} {hash : Hash}
    (hsettled : Settled world state fileId) (hhash : state.vfs.fileContentHash fileId = some hash) :
    ∃ text, state.texts.get? fileId = some text ∧ world.HashOf hash text := by
  have hfile := get_eq_existing hhash
  cases hpending : state.vfs.changes.get? fileId with
  | none => exact h.settled fileId hash hpending hfile
  | some change =>
    obtain ⟨contents, hcontents, hcontent⟩ := h.pending fileId change hash hpending hfile
    refine ⟨_, hsettled change hpending, contents, hcontent, ?_⟩
    rw [hcontents]

theorem WorkerOk.readHash (h : WorkerOk world history state worker) (hfiles : FilesOk world state)
    (hsettled : ∀ uri fileId text, worker.read = .text uri fileId text →
      Settled world state fileId)
    (hstep : worker.readHash state = some worker') : WorkerOk world history state worker' := by
  unfold Worker.readHash at hstep
  split at hstep
  · rename_i uri fileId text artifact source rest hread hsources
    split at hstep
    · obtain rfl := Option.some.inj hstep
      exact h.skipSource
    · rename_i vfsHash hhash
      split at hstep
      · obtain rfl := Option.some.inj hstep
        exact h.skipSource
      · rename_i heq
        obtain rfl := Option.some.inj hstep
        refine ⟨h.revision, h.sources, ?_, ?_, ?_, h.prepared⟩
        · intro _ _ _ hread
          cases hread
        · intro _ _ _ _ hread' hcurrent
          cases hread'
          -- The snapshot is current, so the text that was read is the applied one.
          obtain ⟨applied, happlied, hhashOf⟩ :=
            hfiles.hashOf_of_settled (hsettled _ _ _ hread) hhash
          have htext := h.text _ _ _ hread hcurrent
          rw [happlied] at htext
          exact Option.some.inj htext ▸ hhashOf
        · intro _ _ _ _ hread' entry hentry
          cases hread'
          have hhead : worker.sources.head? = some entry := hentry
          rw [hsources] at hhead
          obtain rfl := Option.some.inj hhead
          exact (not_ne_iff.mp heq).symm
  · cases hstep

theorem WorkerOk.readLineIndex (h : WorkerOk world history state worker)
    (hstep : worker.readLineIndex world state = some worker') :
    WorkerOk world history state worker' := by
  unfold Worker.readLineIndex at hstep
  split at hstep
  · rename_i uri fileId text vfsHash artifact source rest hread hsources
    split at hstep
    · obtain rfl := Option.some.inj hstep
      exact h.skipSource
    · rename_i hcurrent
      obtain rfl := Option.some.inj hstep
      have hskip := h.skipSource
      refine ⟨hskip.revision, hskip.sources, hskip.text, hskip.hash, hskip.sourceHash, ?_⟩
      intro file hfile
      rcases Assoc.Map.mem_values_modify hfile with hfile | rfl
      · exact h.prepared file hfile
      · have hsource := h.sources (artifact, source) (hsources ▸ List.mem_cons_self)
        have hhash := h.sourceHash _ _ _ _ hread (artifact, source) (by rw [hsources]; rfl)
        exact ⟨text, h.hash _ _ _ _ hread (not_ne_iff.mp hcurrent).symm, artifact, source,
          hsource.1, hsource.2, hhash, rfl⟩
  · cases hstep

theorem WorkerOk.send {batch : PreparedOwnershipBatch Hash}
    (h : WorkerOk world history state worker) (hstep : worker.send = some (worker', batch)) :
    WorkerOk world history state worker' ∧ ∀ file ∈ batch.files, FileOk world history file := by
  unfold Worker.send at hstep
  split at hstep
  · rename_i fileId file rest _ _ _ hprepared
    obtain ⟨rfl, rfl⟩ := Prod.mk.inj (Option.some.inj hstep)
    have hvalues : worker.prepared.values = file :: Assoc.Map.values rest := by
      rw [hprepared]
      rfl
    refine ⟨⟨h.revision, h.sources, h.text, h.hash, h.sourceHash, fun other hother => ?_⟩,
      fun other hother => ?_⟩
    · exact h.prepared other (hvalues ▸ List.mem_cons_of_mem _ hother)
    · obtain rfl := List.mem_singleton.mp hother
      exact h.prepared other (hvalues ▸ List.mem_cons_self)
  · cases hstep

end Workers

/-! ## Runs -/

/-- A worker reads a content hash only of a settled file. -/
def readsSettledHash (world : World Contents Hash) (state : GlobalState Contents Hash) :
    Action Contents → Bool
  | .readHash index =>
    match state.workers[index]?.map Worker.read with
    | some (.text _ fileId _) =>
      (state.vfs.changes.get? fileId).all fun change =>
        state.texts.get? fileId == some (world.text change.contents?)
    | _ => true
  | _ => true

theorem settled_of_readsSettledHash {index : Nat} {worker : Worker Hash}
    (h : state.readsSettledHash world (.readHash index) = true)
    (hworker : state.workers[index]? = some worker) {uri text : String} {fileId : FileId}
    (hread : worker.read = .text uri fileId text) : Settled world state fileId := by
  intro change hchange
  simpa [readsSettledHash, hworker, hread, hchange] using h

/-- The invariant of the server. -/
structure ServerOk (world : World Contents Hash) (history : History Contents Hash)
    (state : GlobalState Contents Hash) : Prop where
  files : FilesOk world state
  workers : ∀ worker ∈ state.workers, WorkerOk world history state worker
  tasks : ∀ batch ∈ state.tasks, ∀ file ∈ batch.files, FileOk world history file

theorem serverOk_init (world : World Contents Hash) :
    ServerOk world [] ({} : GlobalState Contents Hash) where
  files := filesOk_init world
  workers _ h := nomatch h
  tasks _ h := nomatch h

section Steps

variable {history : History Contents Hash} {action : Action Contents}

theorem ServerOk.tasks_mono (h : ServerOk world history state) :
    ∀ batch ∈ state.tasks, ∀ file ∈ batch.files,
      FileOk world (history ++ [(state, action)]) file :=
  fun batch hbatch file hfile => (h.tasks batch hbatch file hfile).mono
    (List.subset_append_left _ _)

/-- A step that leaves the files alone, with the workers and batches it may add. -/
theorem ServerOk.frame (h : ServerOk world history state) (hvfs : state'.vfs = state.vfs)
    (htexts : state'.texts = state.texts) (hrevision : state'.revision = state.revision)
    (hhashes : state'.ownershipFileHashes = state.ownershipFileHashes)
    (hworkers : ∀ worker ∈ state'.workers, worker ∈ state.workers ∨
      WorkerOk world (history ++ [(state, action)]) state worker)
    (htasks : ∀ batch ∈ state'.tasks, batch ∈ state.tasks ∨
      ∀ file ∈ batch.files, FileOk world (history ++ [(state, action)]) file) :
    ServerOk world (history ++ [(state, action)]) state' := by
  refine ⟨h.files.congr hvfs htexts hhashes, fun worker hworker => ?_, fun batch hbatch => ?_⟩
  · rcases hworkers worker hworker with hold | hnew
    · exact (h.workers worker hold).mono (List.subset_append_left _ _) htexts hrevision
    · exact hnew.mono (List.Subset.refl _) htexts hrevision
  · rcases htasks batch hbatch with hold | hnew
    · exact h.tasks_mono batch hold
    · exact hnew

/-- A step of the main loop that at most starts workers. -/
theorem ServerOk.of_sameFiles (h : ServerOk world history state) (hsame : SameFiles state state')
    (hworkers : ∀ worker ∈ state'.workers, worker ∈ state.workers ∨
      WorkerOk world (history ++ [(state, action)]) state worker) :
    ServerOk world (history ++ [(state, action)]) state' :=
  h.frame hsame.vfs hsame.texts hsame.revision hsame.hashes hworkers
    fun _ hbatch => .inl (hsame.tasks ▸ hbatch)

/-- A step of one worker. -/
theorem ServerOk.updateWorker (h : ServerOk world history state) {index : Nat}
    {f : Worker Hash → Option (Worker Hash)}
    (hf : ∀ worker worker', state.workers[index]? = some worker →
      WorkerOk world (history ++ [(state, action)]) state worker → f worker = some worker' →
      WorkerOk world (history ++ [(state, action)]) state worker')
    (hstep : state.updateWorker index f = some state') :
    ServerOk world (history ++ [(state, action)]) state' := by
  obtain ⟨worker, worker', hworker, hf', rfl⟩ := updateWorker_eq_some hstep
  refine h.of_sameFiles ⟨rfl, rfl, rfl, rfl, rfl⟩ fun other hother => ?_
  rcases List.mem_or_eq_of_mem_set hother with hold | rfl
  · exact .inl hold
  · exact .inr (hf worker other hworker ((h.workers worker (List.mem_of_getElem? hworker)).mono
      (List.subset_append_left _ _) rfl rfl) hf')

theorem workers_addDiagnostic (flycheckId : Nat) (generation : DiagnosticsGeneration)
    (packageId : Option PackageSpecifier) (diagnostic : RustDiagnostic)
    (mapped : List MappedRustDiagnostic) :
    (state.addDiagnostic world flycheckId generation packageId diagnostic mapped).workers
      = state.workers := by
  generalize hafter : state.addDiagnostic world flycheckId generation packageId diagnostic mapped
    = after
  cases addDiagnostic_effect hafter with
  | ignored | artifact => rfl
  | events payload =>
    refine Runs.foldl_unchanged (g := workers) (fun state entry => ?_) mapped state
    unfold recordLegacyEvent
    split <;> rfl
  | diagnostics =>
    refine Runs.foldl_unchanged (g := workers) (fun state entry => ?_) mapped state
    unfold recordDiagnostic
    split <;> rfl

/-- The workers after a check message: a finished run starts one. -/
theorem workers_handleFlycheckMsg {message : FlycheckMessage} {worker : Worker Hash}
    (h : worker ∈ (state.handleFlycheckMsg world message).workers) :
    worker ∈ state.workers ∨ WorkerOk world history state worker := by
  cases message with
  | addDiagnostic flycheckId generation packageId diagnostic mapped =>
    rw [handleFlycheckMsg, workers_addDiagnostic] at h
    exact .inl h
  | ownershipArtifacts flycheckId paths => exact .inl h
  | clearDiagnostics flycheckId kind =>
    rcases kind with ⟨_ | packageId⟩ | ⟨generation, _ | packageId⟩ <;> exact .inl h
  | progress flycheckId progress =>
    rw [handleFlycheckMsg] at h
    obtain ⟨pending, hafter | ⟨sequence, paths, hafter⟩⟩ :=
      flycheckProgress_cases state flycheckId progress
    · rw [hafter] at h
      exact .inl h
    · rw [hafter] at h
      rcases List.mem_append.mp h with h | h
      · exact .inl h
      · obtain rfl := List.mem_singleton.mp h
        exact .inr (workerOk_start state _ _ _ _)

theorem ServerOk.processChanges (h : ServerOk world history state) :
    ServerOk world (history ++ [(state, .processChanges)]) (state.processChanges world) := by
  by_cases hempty : state.vfs.changes.isEmpty
  · rw [GlobalState.processChanges, if_pos hempty]
    exact h.of_sameFiles (.refl state) fun _ => .inl
  · refine ⟨h.files.processChanges, ?_, ?_⟩
    · have hrevision : (state.processChanges world).revision = state.revision + 1 := by
        rw [GlobalState.processChanges, if_neg hempty]
      have hworkers : (state.processChanges world).workers = state.workers := by
        rw [GlobalState.processChanges, if_neg hempty]
        exact Runs.foldl_unchanged (f := applyChange world state.vfs) (g := GlobalState.workers)
          (fun _ _ => rfl) state.vfs.changes state
      rw [hworkers]
      exact fun worker hworker =>
        (h.workers worker hworker).outdated (List.subset_append_left _ _) hrevision
    · have htasks : (state.processChanges world).tasks = state.tasks := by
        rw [GlobalState.processChanges, if_neg hempty]
        exact Runs.foldl_unchanged (f := applyChange world state.vfs) (g := GlobalState.tasks)
          (fun _ _ => rfl) state.vfs.changes state
      rw [htasks]
      exact h.tasks_mono

theorem ServerOk.send (h : ServerOk world history state) {index : Nat}
    (hstep : state.sendBatch index = some state') :
    ServerOk world (history ++ [(state, action)]) state' := by
  obtain ⟨worker, worker', batch, hworker, hsend, rfl⟩ := sendBatch_eq_some hstep
  obtain ⟨hworker', hbatch⟩ := ((h.workers worker (List.mem_of_getElem? hworker)).mono
    (List.subset_append_left history [(state, action)]) rfl rfl).send hsend
  refine h.frame rfl rfl rfl rfl (fun other hother => ?_) fun other hother => ?_
  · rcases List.mem_or_eq_of_mem_set hother with hold | rfl
    · exact .inl hold
    · exact .inr hworker'
  · rcases List.mem_append.mp hother with hold | hnew
    · exact .inl hold
    · obtain rfl := List.mem_singleton.mp hnew
      exact .inr hbatch

theorem ServerOk.commit [DecidableEq Hash] (h : ServerOk world history state)
    {batch : PreparedOwnershipBatch Hash} {tasks : List (PreparedOwnershipBatch Hash)}
    (htasks : state.tasks = batch :: tasks) :
    ServerOk world (history ++ [(state, action)])
      ({ state with tasks }.commitOwnershipModelArtifacts batch) := by
  have hsame := sameFiles_commitOwnershipModelArtifacts { state with tasks } batch
  refine h.frame hsame.vfs hsame.texts hsame.revision hsame.hashes (fun worker hworker => ?_)
    fun other hother => .inl ?_
  · have hworkers : ({ state with tasks }.commitOwnershipModelArtifacts batch).workers
        = state.workers :=
      Runs.foldl_unchanged (f := commitFile batch) (g := GlobalState.workers)
        (fun state file => by unfold commitFile; split <;> rfl) batch.files { state with tasks }
    exact .inl (hworkers ▸ hworker)
  · rw [hsame.tasks] at hother
    exact htasks ▸ List.mem_cons_of_mem _ hother

theorem serverOk_step [DecidableEq Hash] (h : ServerOk world history state)
    (hok : state.readsSettledHash world action = true)
    (hstep : state.step world action = some state') :
    ServerOk world (history ++ [(state, action)]) state' := by
  cases action with
  | setFileContents fileId contents =>
    obtain rfl := Option.some.inj hstep
    exact ⟨h.files.setFileContents fileId contents, fun worker hworker =>
      (h.workers worker hworker).mono (List.subset_append_left _ _) rfl rfl, h.tasks_mono⟩
  | insertExcludedFile fileId =>
    obtain rfl := Option.some.inj hstep
    exact ⟨h.files.insertExcludedFile fileId, fun worker hworker =>
      (h.workers worker hworker).mono (List.subset_append_left _ _) rfl rfl, h.tasks_mono⟩
  | processChanges =>
    obtain rfl := Option.some.inj hstep
    exact h.processChanges
  | flycheck message =>
    obtain rfl := Option.some.inj hstep
    exact h.of_sameFiles (sameFiles_handleFlycheckMsg world state message)
      fun _ => workers_handleFlycheckMsg
  | clearCheckAll =>
    obtain rfl := Option.some.inj hstep
    exact h.of_sameFiles ⟨rfl, rfl, rfl, rfl, rfl⟩ fun _ => .inl
  | readArtifact index artifact =>
    refine h.updateWorker (fun _ _ _ hworker => hworker.readArtifact fun found hfound => ?_) hstep
    exact ⟨state, index, hfound ▸ List.mem_append_right _ List.mem_cons_self⟩
  | readText index => exact h.updateWorker (fun _ _ _ hworker => hworker.readText) hstep
  | readHash index =>
    exact h.updateWorker (fun _ _ hfound hworker => hworker.readHash h.files
      fun _ _ _ hread => settled_of_readsSettledHash hok hfound hread) hstep
  | readLineIndex index => exact h.updateWorker (fun _ _ _ hworker => hworker.readLineIndex) hstep
  | send index => exact h.send hstep
  | commit =>
    obtain ⟨batch, tasks, htasks, rfl⟩ := step_commit_eq_some hstep
    exact h.commit htasks

/-- Every step keeps hashes and texts together, whenever the workers read. -/
theorem filesOk_step [DecidableEq Hash] (h : FilesOk world state)
    (hstep : state.step world action = some state') : FilesOk world state' := by
  cases action with
  | setFileContents fileId contents =>
    obtain rfl := Option.some.inj hstep
    exact h.setFileContents fileId contents
  | insertExcludedFile fileId =>
    obtain rfl := Option.some.inj hstep
    exact h.insertExcludedFile fileId
  | processChanges =>
    obtain rfl := Option.some.inj hstep
    exact h.processChanges
  | flycheck message =>
    obtain rfl := Option.some.inj hstep
    have hsame := sameFiles_handleFlycheckMsg world state message
    exact h.congr hsame.vfs hsame.texts hsame.hashes
  | clearCheckAll =>
    obtain rfl := Option.some.inj hstep
    exact h.congr rfl rfl rfl
  | readArtifact | readText | readHash | readLineIndex =>
    obtain ⟨_, _, _, _, rfl⟩ := updateWorker_eq_some hstep
    exact h.congr rfl rfl rfl
  | send =>
    obtain ⟨_, _, _, _, _, rfl⟩ := sendBatch_eq_some hstep
    exact h.congr rfl rfl rfl
  | commit =>
    obtain ⟨batch, tasks, _, rfl⟩ := step_commit_eq_some hstep
    have hsame := sameFiles_commitOwnershipModelArtifacts { state with tasks } batch
    exact h.congr hsame.vfs hsame.texts hsame.hashes

end Steps

/-! ## What is installed -/

/-- The files of a batch that the commit installs, in order. -/
def installed [DecidableEq Hash] (batch : PreparedOwnershipBatch Hash) :
    List (PreparedOwnershipFile Hash) → GlobalState Contents Hash →
      List (PreparedOwnershipFile Hash)
  | [], _ => []
  | file :: files, state =>
    if state.installs batch.sequence file then file :: installed batch files (state.install batch file)
    else installed batch files state

/-- An installed file is of the batch, and its content hash is the one that was last applied. -/
theorem mem_installed [DecidableEq Hash] {batch : PreparedOwnershipBatch Hash}
    {file : PreparedOwnershipFile Hash} :
    ∀ {files : List (PreparedOwnershipFile Hash)} {state : GlobalState Contents Hash},
      file ∈ installed batch files state →
      file ∈ files ∧ state.ownershipFileHashes.get? file.fileId = some file.vfsHash
  | first :: files, state, h => by
    rw [installed] at h
    split at h
    · rename_i hinstalls
      rcases List.mem_cons.mp h with rfl | h
      · have hhash := (Bool.and_eq_true_iff.mp hinstalls).2
        exact ⟨List.mem_cons_self, by simpa using hhash⟩
      · obtain ⟨hmem, hhash⟩ := mem_installed h
        exact ⟨List.mem_cons_of_mem _ hmem, hhash⟩
    · obtain ⟨hmem, hhash⟩ := mem_installed h
      exact ⟨List.mem_cons_of_mem _ hmem, hhash⟩

/-- A prepared file whose content hash was last applied is for the applied text. -/
theorem ServerOk.preparedFrom {history : History Contents Hash}
    (h : ServerOk world history state) (hinj : Function.Injective world.contentHash)
    {file : PreparedOwnershipFile Hash} (hfile : FileOk world history file)
    (hhash : state.ownershipFileHashes.get? file.fileId = some file.vfsHash) :
    ∃ text, state.texts.get? file.fileId = some text ∧ PreparedFrom world history file text := by
  obtain ⟨text, ⟨contents, hcontents, rfl⟩, hprepared⟩ := hfile
  obtain ⟨applied, happlied, contents', hcontents', rfl⟩ := h.files.hashes _ _ hhash
  obtain rfl := hinj (hcontents.trans hcontents'.symm)
  exact ⟨_, happlied, hprepared⟩

end GlobalState

open GlobalState

/-- **Hashes and texts stay together** in every interleaving of edits, check messages, workers and
commits; so a file that a commit installs has the content hash of the text last applied to it. -/
theorem files_consistent [DecidableEq Hash] {world : World Contents Hash}
    {history : History Contents Hash} {state : GlobalState Contents Hash}
    (hrun : Run (server world) anyStep history state) :
    FilesOk world state ∧ ∀ batch tasks, state.tasks = batch :: tasks →
      ∀ file ∈ installed batch batch.files { state with tasks },
        ∃ text, state.texts.get? file.fileId = some text ∧ world.HashOf file.vfsHash text := by
  have hfiles : FilesOk world state :=
    hrun.invariant (I := FilesOk world) (filesOk_init world)
      fun _ _ _ h _ hstep => filesOk_step h hstep
  exact ⟨hfiles, fun _ _ _ _ hfile => hfiles.hashes _ _ (mem_installed hfile).2⟩

/-- A file that was opened. -/
theorem opened_files_consistent : ∃ history state, Run (server plainWorld) anyStep history state ∧
    state.texts.get? 0 = some "let b = a;" ∧ FilesOk plainWorld state := by
  obtain ⟨history, state, hrun, htext⟩ :=
    @Runs.exists_run_of_runActions _ _ _ (server plainWorld)
      [.setFileContents 0 (some "let b = a;"), .processChanges]
      (fun state => state.texts.get? 0) (some "let b = a;") (by decide +kernel)
  exact ⟨history, state, hrun, htext, (files_consistent hrun).1⟩

/-- **Commits install current facts.**  If a content hash determines the contents, then in every
run in which workers read content hashes only of settled files, every file a commit installs was
prepared from an artifact that gives, for its source, the hash of the text last applied to the
file. -/
theorem commit_installs_current [DecidableEq Hash] {world : World Contents Hash}
    (hinj : Function.Injective world.contentHash) {history : History Contents Hash}
    {state : GlobalState Contents Hash}
    (hrun : Run (server world) (fun state action => state.readsSettledHash world action = true)
      history state)
    {batch : PreparedOwnershipBatch Hash} {tasks : List (PreparedOwnershipBatch Hash)}
    (hbatch : state.tasks = batch :: tasks) {file : PreparedOwnershipFile Hash}
    (hfile : file ∈ installed batch batch.files { state with tasks }) :
    ∃ text, state.texts.get? file.fileId = some text ∧ PreparedFrom world history file text := by
  have hok : ServerOk world history state :=
    hrun.invariant_history (serverOk_init world)
      fun _ _ _ _ h hsettled hstep => serverOk_step h hsettled hstep
  obtain ⟨hmem, hhash⟩ := mem_installed hfile
  exact hok.preparedFrom hinj (hok.tasks batch (hbatch ▸ List.mem_cons_self) file hmem) hhash

/-! ## A stale artifact -/

/-- An artifact of `let b = a;` with the event of the move. -/
def moveArtifact : OwnershipModelArtifact where
  schemaVersion := 7
  sources := [{ path := "main.rs", source := some "let b = a;" }]
  ownershipEvents := [{
    eventId := "move-a", bodyId := 1, basicBlock := 0, statementIndex := 0, kind := .move
    state := .moved, path := "main.rs", byteStart := 8, byteEnd := 9
    binding := ⟨"main.rs", 8, "a"⟩, place := "a", loanId := none, detail := none
    destination := none }]

/-- A check run of the first text ends, and a worker reads its artifact and the text. -/
def artifactScheduled : List (Action String) :=
  [.setFileContents 0 (some "let b = a;"), .processChanges,
    .flycheck (.ownershipArtifacts 0 ["model.json"]), .flycheck (.progress 0 .didFinish),
    .readArtifact 0 (some moveArtifact), .readText 0]

/-- The ids and source hashes of what the next commit installs, and the applied text. -/
def nextCommit (state : GlobalState String String) : List (FileId × String) × Option String :=
  match state.tasks with
  | [] => ([], state.texts.get? 0)
  | batch :: tasks =>
    ((installed batch batch.files { state with tasks }).map fun file =>
      (file.fileId, file.sourceHash), state.texts.get? 0)

theorem exists_installed {state : GlobalState String String} {sourceHash text : String}
    (h : nextCommit state = ([(0, sourceHash)], some text)) :
    state.texts.get? 0 = some text ∧ ∃ batch tasks file, state.tasks = batch :: tasks ∧
      file ∈ installed batch batch.files { state with tasks } ∧ file.fileId = 0 ∧
        file.sourceHash = sourceHash := by
  unfold nextCommit at h
  split at h
  · cases h
  · rename_i batch tasks htasks
    obtain ⟨hinstalled, htext⟩ := Prod.mk.inj h
    have hmem : (0, sourceHash) ∈ (installed batch batch.files { state with tasks }).map
        fun file => (file.fileId, file.sourceHash) := hinstalled ▸ List.mem_cons_self
    obtain ⟨file, hfile, hentry⟩ := List.mem_map.mp hmem
    obtain ⟨hid, hhash⟩ := Prod.mk.inj hentry
    exact ⟨htext, batch, tasks, file, htasks, hfile, hid, hhash⟩

/-- Without a write the worker's file is installed, for the text it was prepared for. -/
theorem unedited_commit_is_current : ∃ history state batch tasks file,
    Run (server plainWorld) (fun state action => state.readsSettledHash plainWorld action = true)
      history state ∧
    state.tasks = batch :: tasks ∧ file ∈ installed batch batch.files { state with tasks } ∧
    ∃ text, state.texts.get? file.fileId = some text ∧
      PreparedFrom plainWorld history file text := by
  obtain ⟨history, state, hrun, hcommit⟩ :=
    @Runs.exists_checked_run_of_runActions _ _ _ (server plainWorld)
      (fun state action => state.readsSettledHash plainWorld action)
      (artifactScheduled ++ [.readHash 0, .readLineIndex 0, .send 0]) nextCommit
      ([(0, stableSourceHash "let b = a;")], some "let b = a;") (by decide +kernel)
  obtain ⟨-, batch, tasks, file, htasks, hfile, -⟩ := exists_installed hcommit
  exact ⟨history, state, batch, tasks, file, hrun, htasks, hfile,
    commit_installs_current Function.injective_id hrun htasks hfile⟩

/-- A write between the two reads: the commit installs the move of the old text. -/
theorem edited_commit_is_stale : Function.Injective plainWorld.contentHash ∧
    ∃ history state batch tasks file, Run (server plainWorld) anyStep history state ∧
      state.tasks = batch :: tasks ∧ file ∈ installed batch batch.files { state with tasks } ∧
      ¬ ∃ text, state.texts.get? file.fileId = some text ∧
        PreparedFrom plainWorld history file text := by
  refine ⟨Function.injective_id, ?_⟩
  obtain ⟨history, state, hrun, hcommit⟩ :=
    @Runs.exists_run_of_runActions _ _ _ (server plainWorld)
      (artifactScheduled ++ [.setFileContents 0 (some "let bb = a;"), .readHash 0,
        .readLineIndex 0, .send 0, .processChanges]) nextCommit
      ([(0, stableSourceHash "let b = a;")], some "let bb = a;") (by decide +kernel)
  obtain ⟨htext, batch, tasks, file, htasks, hfile, hid, hhash⟩ := exists_installed hcommit
  refine ⟨history, state, batch, tasks, file, hrun, htasks, hfile, ?_⟩
  rintro ⟨text, happlied, artifact, source, -, -, -, hprepared⟩
  rw [hid, htext] at happlied
  obtain rfl := Option.some.inj happlied
  have hsource : file.sourceHash = stableSourceHash "let bb = a;" := by
    rw [hprepared]
    rfl
  exact absurd (hhash.symm.trans hsource) (by decide +kernel)

end RustWorkbench.Analyzer
