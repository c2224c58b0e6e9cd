import RustWorkbench.Analyzer.Artifact
import RustWorkbench.Analyzer.Collection
import RustWorkbench.Analyzer.Vfs

/-!
# The state of the main loop

`GlobalState`, with the background workers that prepare compiler artifacts and the task queue
through which their batches come back.  A worker holds a snapshot of the analysis database,
which is a revision number here: a read through the snapshot fails once a change has been applied
since.  The virtual file system is shared and always read as it is.

A read of a text the database does not have, which is a panic in the source, is a failed read.
Progress reports, configuration reloads and the publication of diagnostics are left out.
-/

namespace RustWorkbench.Analyzer

/-- What the rest of the server answers, the same in every state. -/
structure World (Contents Hash : Type) where
  contentHash : Contents → Hash
  /-- `String::from_utf8` and `LineEndings::normalize`. -/
  decode : Contents → Option String
  /-- The file id of the path of a URL. -/
  urlFileId : String → Option FileId
  /-- `Uri::from_file_path`. -/
  pathUrl : String → Option String
  lineIndex : String → LineIndex
  ownershipEnabled : Bool
  /-- `serde_json::from_str` on the message of an event diagnostic. -/
  parseEventPayload : String → Option OwnershipEventPayload
  /-- `serde_json::from_str` on the message of a model diagnostic. -/
  parseModelPointer : String → Option OwnershipModelPointer

/-- The text a file gets from its contents; without any, or if they are no text, it is empty. -/
def World.text {Contents Hash : Type} (world : World Contents Hash) (contents : Option Contents) :
    String :=
  (contents.bind world.decode).getD ""

structure PreparedOwnershipFile (Hash : Type) where
  uri : String
  fileId : FileId
  vfsHash : Hash
  sourceHash : String
  schemaVersion : Nat
  events : List OwnershipEvent
  model : Option OwnershipTutorialModel

structure PreparedOwnershipBatch (Hash : Type) where
  flycheckId : Nat
  packageId : Option PackageSpecifier
  sequence : Nat
  files : List (PreparedOwnershipFile Hash)

/-- What a worker has read for the source at hand. -/
inductive WorkerRead (Hash : Type)
  | nothing
  | text (uri : String) (fileId : FileId) (text : String)
  | hash (uri : String) (fileId : FileId) (text : String) (vfsHash : Hash)

/-- A run of `prepare_ownership_model_artifacts` with the sending loop after it. -/
structure Worker (Hash : Type) where
  flycheckId : Nat
  packageId : Option PackageSpecifier
  sequence : Nat
  /-- The revision of the snapshot. -/
  revision : Nat
  /-- The artifacts still to be read. -/
  paths : List String
  /-- The sources still to be prepared, the one at hand first. -/
  sources : List (OwnershipModelArtifact × OwnershipModelSource) := []
  read : WorkerRead Hash := .nothing
  prepared : HashMap FileId (PreparedOwnershipFile Hash) := []

structure GlobalState (Contents Hash : Type) where
  vfs : Vfs Contents Hash := .empty
  /-- The file texts of the analysis database. -/
  texts : HashMap FileId String := []
  /-- How often a change was applied to the analysis database. -/
  revision : Nat := 0
  diagnostics : DiagnosticCollection := {}
  ownershipFileHashes : HashMap FileId Hash := []
  ownershipFileSequences : HashMap FileId Nat := []
  ownershipArtifactSequence : Nat := 0
  pendingOwnershipArtifactPaths : HashMap Nat (List String) := []
  workers : List (Worker Hash) := []
  tasks : List (PreparedOwnershipBatch Hash) := []

variable {Contents Hash : Type}

/-! ## Preparing artifacts -/

namespace Worker

/-- Leave the source at hand. -/
def skipSource (worker : Worker Hash) : Worker Hash :=
  { worker with sources := worker.sources.tail, read := .nothing }

/-- Read the next artifact; `none` for one that cannot be read or decoded. -/
def readArtifact (worker : Worker Hash) (artifact : Option OwnershipModelArtifact) :
    Option (Worker Hash) :=
  match worker.read, worker.sources, worker.paths with
  | .nothing, [], _ :: paths =>
    match artifact with
    | none => some { worker with paths }
    | some artifact =>
      if 2 ≤ artifact.schemaVersion ∧ artifact.schemaVersion ≤ 7 then
        some { worker with paths, sources := artifact.sources.map fun source => (artifact, source) }
      else some { worker with paths }
  | _, _, _ => none

/-- `snap.url_to_file_id`, then `snap.analysis.file_text`. -/
def readText (world : World Contents Hash) (state : GlobalState Contents Hash)
    (worker : Worker Hash) : Option (Worker Hash) :=
  match worker.read, worker.sources with
  | .nothing, (_, source) :: _ =>
    let found : Option (WorkerRead Hash) := do
      let uri ← world.pathUrl source.path
      let fileId ← world.urlFileId uri
      -- The file has to exist in the shared file system, and its text in the snapshot.
      let _ ← state.vfs.fileContentHash fileId
      if state.revision ≠ worker.revision then none
      else
        let text ← state.texts.get? fileId
        return .text uri fileId text
    match found with
    | none => some worker.skipSource
    | some read => some { worker with read }
  | _, _ => none

/-- `snap.file_content_hash`, then the comparison of the source hashes. -/
def readHash (state : GlobalState Contents Hash) (worker : Worker Hash) : Option (Worker Hash) :=
  match worker.read, worker.sources with
  | .text uri fileId text, (_, source) :: _ =>
    match state.vfs.fileContentHash fileId with
    | none => some worker.skipSource
    | some vfsHash =>
      if stableSourceHash text ≠ artifactSourceHash source then some worker.skipSource
      else some { worker with read := .hash uri fileId text vfsHash }
  | _, _ => none

/-- The prepared file of one source, from the text and the hash that were read for it. -/
def preparedFile (world : World Contents Hash) (artifact : OwnershipModelArtifact)
    (source : OwnershipModelSource) (uri : String) (fileId : FileId) (text : String)
    (vfsHash : Hash) : PreparedOwnershipFile Hash where
  uri := uri
  fileId := fileId
  vfsHash := vfsHash
  sourceHash := stableSourceHash text
  schemaVersion := artifact.schemaVersion
  events := preparedEvents (world.lineIndex text) source (source.source.getD text) artifact
  model := preparedModel (world.lineIndex text) source (source.source.getD text) artifact

/-- `snap.file_line_index`, then the events and the model.  The last artifact that has a file
wins. -/
def readLineIndex (world : World Contents Hash) (state : GlobalState Contents Hash)
    (worker : Worker Hash) : Option (Worker Hash) :=
  match worker.read, worker.sources with
  | .hash uri fileId text vfsHash, (artifact, source) :: _ =>
    if state.revision ≠ worker.revision then some worker.skipSource
    else
      let file := preparedFile world artifact source uri fileId text vfsHash
      some { worker.skipSource with prepared := worker.prepared.insert fileId file }
  | _, _ => none

/-- Send one prepared file, when every artifact has been read. -/
def send (worker : Worker Hash) : Option (Worker Hash × PreparedOwnershipBatch Hash) :=
  match worker.read, worker.sources, worker.paths, worker.prepared with
  | .nothing, [], [], (_, file) :: rest =>
    some ({ worker with prepared := rest },
      { flycheckId := worker.flycheckId
        packageId := worker.packageId
        sequence := worker.sequence
        files := [file] })
  | _, _, _, _ => none

end Worker

namespace GlobalState

/-! ## Main loop -/

/-- `url_to_file_id`: only a file that exists, and is not excluded, has one. -/
def urlToFileId (world : World Contents Hash) (state : GlobalState Contents Hash) (url : String) :
    Option FileId :=
  (world.urlFileId url).filter fun fileId => (state.vfs.fileContentHash fileId).isSome

/-- One changed file of `process_changes`. -/
def applyChange (world : World Contents Hash) (vfs : Vfs Contents Hash)
    (state : GlobalState Contents Hash) (change : FileId × Change Contents Hash) :
    GlobalState Contents Hash :=
  { state with
    ownershipFileHashes :=
      match vfs.fileContentHash change.1 with
      | some hash => state.ownershipFileHashes.insert change.1 hash
      | none => state.ownershipFileHashes.erase change.1
    diagnostics := state.diagnostics.clearOwnershipFor change.1
    texts := state.texts.insert change.1 (world.text change.2.contents?) }

/-- `process_changes`. -/
def processChanges (world : World Contents Hash) (state : GlobalState Contents Hash) :
    GlobalState Contents Hash :=
  if state.vfs.changes.isEmpty then state
  else
    let applied := state.vfs.changes.foldl (applyChange world state.vfs) state
    { applied with vfs := state.vfs.takeChanges, revision := state.revision + 1 }

/-- `schedule_ownership_model_artifacts`. -/
def scheduleOwnershipModelArtifacts (state : GlobalState Contents Hash) (flycheckId : Nat)
    (packageId : Option PackageSpecifier) (paths : List String) : GlobalState Contents Hash :=
  if paths.isEmpty then state
  else
    let sequence := (state.ownershipArtifactSequence + 1) % 2 ^ 64
    { state with
      ownershipArtifactSequence := sequence
      workers := state.workers
        ++ [{ flycheckId, packageId, sequence, revision := state.revision, paths }] }

/-- The two tests a prepared file has to pass to be installed. -/
def installs [DecidableEq Hash] (state : GlobalState Contents Hash) (sequence : Nat)
    (file : PreparedOwnershipFile Hash) : Bool :=
  !(state.ownershipFileSequences.get? file.fileId).any (· > sequence)
    && state.ownershipFileHashes.get? file.fileId == some file.vfsHash

/-- Install the events and the model of a prepared file. -/
def install (batch : PreparedOwnershipBatch Hash) (state : GlobalState Contents Hash)
    (file : PreparedOwnershipFile Hash) : GlobalState Contents Hash :=
  let diagnostics := state.diagnostics.replaceExactOwnershipEvents batch.flycheckId
    batch.packageId file.fileId file.events
  { state with
    diagnostics :=
      match file.model with
      | some model => diagnostics.setOwnershipTutorialModel file.fileId model
      | none => diagnostics
    ownershipFileSequences := state.ownershipFileSequences.insert file.fileId batch.sequence }

/-- One file of `commit_ownership_model_artifacts`. -/
def commitFile [DecidableEq Hash] (batch : PreparedOwnershipBatch Hash)
    (state : GlobalState Contents Hash) (file : PreparedOwnershipFile Hash) :
    GlobalState Contents Hash :=
  if state.installs batch.sequence file then state.install batch file else state

/-- `commit_ownership_model_artifacts`. -/
def commitOwnershipModelArtifacts [DecidableEq Hash] (state : GlobalState Contents Hash)
    (batch : PreparedOwnershipBatch Hash) : GlobalState Contents Hash :=
  batch.files.foldl (commitFile batch) state

end GlobalState

end RustWorkbench.Analyzer
