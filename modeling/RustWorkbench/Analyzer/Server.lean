import RustWorkbench.Analyzer.Flycheck
import RustWorkbench.Library.Runs

/-!
# Runs of the server

The main loop, the editor and file watcher that write into the virtual file system, and the
background workers, as one transition system.  Every action is one atomic step, and the steps of
different parties interleave in any order; only the task queue is first in, first out.
-/

namespace RustWorkbench.Analyzer

open Runs (System)

inductive Action (Contents : Type)
  | setFileContents (fileId : FileId) (contents : Option Contents)
  | insertExcludedFile (fileId : FileId)
  | processChanges
  | flycheck (message : FlycheckMessage)
  /-- A workspace was fetched, or the client asked for it. -/
  | clearCheckAll
  /-- Worker `worker` reads its next artifact file and finds `artifact` in it. -/
  | readArtifact (worker : Nat) (artifact : Option OwnershipModelArtifact)
  | readText (worker : Nat)
  | readHash (worker : Nat)
  | readLineIndex (worker : Nat)
  | send (worker : Nat)
  | commit

variable {Contents Hash : Type}

namespace GlobalState

/-- A step of one worker. -/
def updateWorker (state : GlobalState Contents Hash) (index : Nat)
    (f : Worker Hash → Option (Worker Hash)) : Option (GlobalState Contents Hash) := do
  let worker ← state.workers[index]?
  let worker ← f worker
  return { state with workers := state.workers.set index worker }

/-- The batch a worker sends goes to the end of the task queue. -/
def sendBatch (state : GlobalState Contents Hash) (index : Nat) :
    Option (GlobalState Contents Hash) := do
  let worker ← state.workers[index]?
  let (worker, batch) ← worker.send
  return { state with
    workers := state.workers.set index worker
    tasks := state.tasks ++ [batch] }

def step [DecidableEq Hash] (world : World Contents Hash) (state : GlobalState Contents Hash) :
    Action Contents → Option (GlobalState Contents Hash)
  | .setFileContents fileId contents =>
    some { state with vfs := state.vfs.setFileContents world.contentHash fileId contents }
  | .insertExcludedFile fileId => some { state with vfs := state.vfs.insertExcludedFile fileId }
  | .processChanges => some (state.processChanges world)
  | .flycheck message => some (state.handleFlycheckMsg world message)
  | .clearCheckAll => some { state with diagnostics := state.diagnostics.clearCheckAll }
  | .readArtifact index artifact => state.updateWorker index (·.readArtifact artifact)
  | .readText index => state.updateWorker index (·.readText world state)
  | .readHash index => state.updateWorker index (·.readHash state)
  | .readLineIndex index => state.updateWorker index (·.readLineIndex world state)
  | .send index => state.sendBatch index
  | .commit =>
    match state.tasks with
    | [] => none
    | batch :: tasks => some ({ state with tasks }.commitOwnershipModelArtifacts batch)

end GlobalState

/-- The server, from start-up. -/
def server [DecidableEq Hash] (world : World Contents Hash) :
    System (GlobalState Contents Hash) (Action Contents) where
  init := {}
  step := GlobalState.step world

namespace GlobalState

/-! ## Steps -/

section

variable {state state' : GlobalState Contents Hash} {index : Nat}

theorem updateWorker_eq_some {f : Worker Hash → Option (Worker Hash)}
    (h : state.updateWorker index f = some state') :
    ∃ worker worker', state.workers[index]? = some worker ∧ f worker = some worker' ∧
      state' = { state with workers := state.workers.set index worker' } := by
  obtain ⟨worker, hworker, h⟩ := Option.bind_eq_some_iff.mp h
  obtain ⟨worker', hstep, h⟩ := Option.bind_eq_some_iff.mp h
  exact ⟨worker, worker', hworker, hstep, (Option.some.inj h).symm⟩

theorem sendBatch_eq_some (h : state.sendBatch index = some state') :
    ∃ worker worker' batch, state.workers[index]? = some worker ∧
      worker.send = some (worker', batch) ∧
      state' = { state with
        workers := state.workers.set index worker'
        tasks := state.tasks ++ [batch] } := by
  obtain ⟨worker, hworker, h⟩ := Option.bind_eq_some_iff.mp h
  obtain ⟨⟨worker', batch⟩, hsend, h⟩ := Option.bind_eq_some_iff.mp h
  exact ⟨worker, worker', batch, hworker, hsend, (Option.some.inj h).symm⟩

/-- A commit takes the batch at the front of the queue. -/
theorem step_commit_eq_some [DecidableEq Hash] {world : World Contents Hash}
    (h : state.step world .commit = some state') :
    ∃ batch tasks, state.tasks = batch :: tasks ∧
      state' = { state with tasks }.commitOwnershipModelArtifacts batch := by
  simp only [step] at h
  split at h
  · cases h
  · rename_i batch tasks htasks
    exact ⟨batch, tasks, htasks, (Option.some.inj h).symm⟩

end

/-! ## What the main loop leaves alone -/

/-- Everything but the collected facts, the pending artifacts and the workers. -/
structure SameFiles (state state' : GlobalState Contents Hash) : Prop where
  vfs : state'.vfs = state.vfs
  texts : state'.texts = state.texts
  revision : state'.revision = state.revision
  hashes : state'.ownershipFileHashes = state.ownershipFileHashes
  tasks : state'.tasks = state.tasks

namespace SameFiles

variable {state state' state'' : GlobalState Contents Hash}

theorem refl (state : GlobalState Contents Hash) : SameFiles state state :=
  ⟨rfl, rfl, rfl, rfl, rfl⟩

theorem trans (h : SameFiles state state') (h' : SameFiles state' state'') :
    SameFiles state state'' :=
  ⟨h'.vfs.trans h.vfs, h'.texts.trans h.texts, h'.revision.trans h.revision,
    h'.hashes.trans h.hashes, h'.tasks.trans h.tasks⟩

/-- A loop over steps that leave the files alone. -/
theorem foldl {α : Type} {f : GlobalState Contents Hash → α → GlobalState Contents Hash}
    (hf : ∀ state a, SameFiles state (f state a)) : ∀ (l : List α)
      (state : GlobalState Contents Hash), SameFiles state (l.foldl f state)
  | [], state => refl state
  | a :: l, state => (hf state a).trans (foldl hf l (f state a))

end SameFiles

variable (world : World Contents Hash) (state : GlobalState Contents Hash)

theorem sameFiles_recordLegacyEvent (flycheckId : Nat) (packageId : Option PackageSpecifier)
    (payload : OwnershipEventPayload) (mapped : MappedRustDiagnostic) :
    SameFiles state (state.recordLegacyEvent world flycheckId packageId payload mapped) := by
  unfold recordLegacyEvent
  split
  · exact .refl state
  · exact ⟨rfl, rfl, rfl, rfl, rfl⟩

theorem sameFiles_recordDiagnostic (flycheckId : Nat) (generation : DiagnosticsGeneration)
    (packageId : Option PackageSpecifier) (diagnostic : RustDiagnostic)
    (mapped : MappedRustDiagnostic) :
    SameFiles state
      (state.recordDiagnostic world flycheckId generation packageId diagnostic mapped) := by
  unfold recordDiagnostic
  split
  · exact .refl state
  · exact ⟨rfl, rfl, rfl, rfl, rfl⟩

theorem sameFiles_addDiagnostic (flycheckId : Nat) (generation : DiagnosticsGeneration)
    (packageId : Option PackageSpecifier) (diagnostic : RustDiagnostic)
    (mapped : List MappedRustDiagnostic) :
    SameFiles state
      (state.addDiagnostic world flycheckId generation packageId diagnostic mapped) := by
  generalize hafter : state.addDiagnostic world flycheckId generation packageId diagnostic mapped
    = after
  cases addDiagnostic_effect hafter with
  | ignored => exact .refl state
  | artifact path => exact ⟨rfl, rfl, rfl, rfl, rfl⟩
  | events payload =>
    exact .foldl (fun state => sameFiles_recordLegacyEvent world state flycheckId packageId
      payload) mapped state
  | diagnostics =>
    exact .foldl (fun state => sameFiles_recordDiagnostic world state flycheckId generation
      packageId diagnostic) mapped state

/-- A message of a check run changes no file. -/
theorem sameFiles_handleFlycheckMsg (message : FlycheckMessage) :
    SameFiles state (state.handleFlycheckMsg world message) := by
  cases message with
  | addDiagnostic flycheckId generation packageId diagnostic mapped =>
    exact sameFiles_addDiagnostic world state flycheckId generation packageId diagnostic mapped
  | ownershipArtifacts flycheckId paths => exact ⟨rfl, rfl, rfl, rfl, rfl⟩
  | clearDiagnostics flycheckId kind =>
    rcases kind with ⟨_ | _⟩ | ⟨_, _ | _⟩ <;> exact ⟨rfl, rfl, rfl, rfl, rfl⟩
  | progress flycheckId progress =>
    rw [handleFlycheckMsg]
    obtain ⟨pending, h | ⟨sequence, paths, h⟩⟩ := flycheckProgress_cases state flycheckId progress
    all_goals
      rw [h]
      exact ⟨rfl, rfl, rfl, rfl, rfl⟩

theorem sameFiles_commitFile [DecidableEq Hash] (batch : PreparedOwnershipBatch Hash)
    (file : PreparedOwnershipFile Hash) : SameFiles state (state.commitFile batch file) := by
  unfold commitFile
  split
  · exact ⟨rfl, rfl, rfl, rfl, rfl⟩
  · exact .refl state

theorem sameFiles_commitOwnershipModelArtifacts [DecidableEq Hash]
    (batch : PreparedOwnershipBatch Hash) :
    SameFiles state (state.commitOwnershipModelArtifacts batch) :=
  .foldl (fun state => sameFiles_commitFile state batch) batch.files state

/-! ## Processing changes -/

section Changes

variable {world : World Contents Hash} {vfs : Vfs Contents Hash} (fileId : FileId)

theorem texts_applyChange (state : GlobalState Contents Hash)
    (change : FileId × Change Contents Hash) :
    (applyChange world vfs state change).texts.get? fileId
      = if fileId = change.1 then some (world.text change.2.contents?)
        else state.texts.get? fileId :=
  Assoc.Map.get?_insert ..

theorem hashes_applyChange (state : GlobalState Contents Hash)
    (change : FileId × Change Contents Hash) :
    (applyChange world vfs state change).ownershipFileHashes.get? fileId
      = if fileId = change.1 then vfs.fileContentHash fileId
        else state.ownershipFileHashes.get? fileId := by
  unfold applyChange
  cases hhash : vfs.fileContentHash change.1 with
  | none =>
    rw [Assoc.Map.get?_erase]
    split
    · rename_i heq
      rw [heq, hhash]
    · rfl
  | some hash =>
    rw [Assoc.Map.get?_insert]
    split
    · rename_i heq
      rw [heq, hhash]
    · rfl

/-- The loop over the changed files: each changed file gets the text of its new contents and the
hash the file system has for it. -/
theorem foldl_applyChange_spec : ∀ {changes : HashMap FileId (Change Contents Hash)}
    {state : GlobalState Contents Hash}, changes.keys.Nodup →
    ((changes.foldl (applyChange world vfs) state).texts.get? fileId
      = match changes.get? fileId with
        | some change => some (world.text change.contents?)
        | none => state.texts.get? fileId) ∧
    ((changes.foldl (applyChange world vfs) state).ownershipFileHashes.get? fileId
      = match changes.get? fileId with
        | some _ => vfs.fileContentHash fileId
        | none => state.ownershipFileHashes.get? fileId)
  | [], _, _ => ⟨rfl, rfl⟩
  | change :: changes, state, hnodup => by
    rw [Assoc.Map.keys_cons, List.nodup_cons] at hnodup
    obtain ⟨htexts, hhashes⟩ := @foldl_applyChange_spec changes
      (applyChange world vfs state change) hnodup.2
    rw [List.foldl_cons, htexts, hhashes, texts_applyChange, hashes_applyChange,
      Assoc.Map.get?_cons]
    by_cases hfile : change.1 = fileId
    · subst hfile
      rw [Assoc.Map.get?_eq_none hnodup.1]
      simp
    · simp [hfile, Ne.symm hfile]

end Changes

/-- **`process_changes`.** -/
theorem processChanges_spec (world : World Contents Hash) (state : GlobalState Contents Hash)
    (fileId : FileId) :
    ((state.processChanges world).texts.get? fileId
      = match state.vfs.changes.get? fileId with
        | some change => some (world.text change.contents?)
        | none => state.texts.get? fileId) ∧
    ((state.processChanges world).ownershipFileHashes.get? fileId
      = match state.vfs.changes.get? fileId with
        | some _ => state.vfs.fileContentHash fileId
        | none => state.ownershipFileHashes.get? fileId) := by
  unfold processChanges
  split
  · rename_i hempty
    rw [List.isEmpty_iff.mp hempty]
    exact ⟨rfl, rfl⟩
  · exact foldl_applyChange_spec fileId state.vfs.changes_nodup

end GlobalState

end RustWorkbench.Analyzer
