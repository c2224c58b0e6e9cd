import RustWorkbench.Analyzer.GlobalState

/-!
# Messages of the check runs

`handle_flycheck_msg`.  A diagnostic of rustc arrives with the editor diagnostics that
`map_rust_diagnostic_to_lsp` makes of it; they are part of the message here.

* `addDiagnostic_effect`, `flycheckProgress_cases` — what a message does, said once.
* `handleFlycheckMsg` — one message.
-/

namespace RustWorkbench.Analyzer

/-- `MappedRustDiagnostic`. -/
structure MappedRustDiagnostic where
  url : String
  diagnostic : Diagnostic
  fix : Option Fix

/-- A rustc diagnostic, as far as it is read before it is mapped. -/
structure RustDiagnostic where
  code : Option String
  message : String

inductive ClearScope
  | workspace
  | package (packageId : PackageSpecifier)

inductive ClearDiagnosticsKind
  | all (scope : ClearScope)
  | olderThan (generation : DiagnosticsGeneration) (scope : ClearScope)

inductive FlycheckProgress
  | didStart | didCheckCrate | didFinish | didCancel | didFailToRestart

inductive FlycheckMessage
  | addDiagnostic (flycheckId : Nat) (generation : DiagnosticsGeneration)
      (packageId : Option PackageSpecifier) (diagnostic : RustDiagnostic)
      (mapped : List MappedRustDiagnostic)
  | ownershipArtifacts (flycheckId : Nat) (paths : List String)
  | clearDiagnostics (flycheckId : Nat) (kind : ClearDiagnosticsKind)
  | progress (flycheckId : Nat) (progress : FlycheckProgress)

/-! ## Classification -/

def ownershipStateForKind : OwnershipEventKind → OwnershipState
  | .borrowActivate | .borrowMutable => .mutablyBorrowed
  | .borrowShared => .sharedBorrowed
  | .clone | .copy => .available
  | .drop => .dropped
  | .invalidUse | .move => .moved
  | .partialMove => .partiallyMoved
  | .borrowEnd | .lastUse | OwnershipEventKind.reinitialize => .available

def shouldRecordInvalidUse (severity : Option DiagnosticSeverity) : Bool :=
  severity = some .error

def isTeachableRustDiagnostic (code : String) : Bool :=
  code ∈ ["E0106", "E0277", "E0308", "E0373", "E0382", "E0499", "E0502", "E0503", "E0505", "E0506",
    "E0507", "E0515", "E0521", "E0594", "E0596", "E0597", "E0599", "E0716", "E0728", "E0733"]

/-- `message.rsplit('`').nth(1).unwrap_or("value")`. -/
def invalidUseName (message : String) : String :=
  (((splitOnChar '`' message.toList).reverse[1]?).map String.ofList).getD "value"

namespace GlobalState

variable {Contents Hash : Type}

/-! ## Diagnostics -/

/-- The file of an event of schema version 1 and the range of its binding, if the event was
computed from the text the file has. -/
def legacyBinding (world : World Contents Hash) (state : GlobalState Contents Hash)
    (payload : OwnershipEventPayload) (url : String) : Option (FileId × Range) := do
  let fileId ← state.urlToFileId world url
  let text ← state.texts.get? fileId
  if stableSourceHash text ≠ payload.sourceHash then none
  else
    let bindingStart ← textSize payload.bindingByteStart
    let bindingLen ← textSize (byteLen payload.name)
    let bindingEnd := (bindingStart + bindingLen) % 2 ^ 32
    if bindingEnd > byteLen text then none
    else
      let lineIndex := world.lineIndex text
      return (fileId, ⟨lineIndex.position bindingStart, lineIndex.position bindingEnd⟩)

def legacyEvent (payload : OwnershipEventPayload) (range bindingRange : Range) :
    OwnershipEvent where
  eventId := "legacy-" ++ toString payload.bindingByteStart ++ "-" ++ toString range.start.line
  bodyId := 0
  basicBlock := 0
  statementIndex := 0
  kind := payload.kind
  state := ownershipStateForKind payload.kind
  range := range
  bindingRange := bindingRange
  name := payload.name
  place := payload.name
  loanId := none
  exact := true
  detail := payload.detail
  destination := none

/-- One mapped diagnostic of an event of schema version 1.  It is kept only for the text it was
computed from. -/
def recordLegacyEvent (world : World Contents Hash) (flycheckId : Nat)
    (packageId : Option PackageSpecifier) (payload : OwnershipEventPayload)
    (state : GlobalState Contents Hash) (mapped : MappedRustDiagnostic) :
    GlobalState Contents Hash :=
  match state.legacyBinding world payload mapped.url with
  | none => state
  | some (fileId, bindingRange) =>
    { state with
      diagnostics := state.diagnostics.addOwnershipEvent flycheckId packageId fileId
        (legacyEvent payload mapped.diagnostic.range bindingRange) }

/-- The ownership diagnostic of an error, with the related places in the same file. -/
def mappedOwnershipDiagnostic (diagnostic : RustDiagnostic) (code : String)
    (mapped : MappedRustDiagnostic) : OwnershipDiagnostic where
  code := code
  message := diagnostic.message
  range := mapped.diagnostic.range
  related := ((mapped.diagnostic.relatedInformation.getD []).filter fun related =>
    related.uri = mapped.url).map fun related => ⟨related.message, related.range⟩

/-- The event of a use that rustc rejects because the value was moved. -/
def invalidUseEvent (diagnostic : RustDiagnostic) (range : Range) : OwnershipEvent where
  eventId := "invalid-use-" ++ invalidUseName diagnostic.message ++ "-" ++ toString range.start.line
  bodyId := 0
  basicBlock := 0
  statementIndex := 0
  kind := .invalidUse
  state := .moved
  range := range
  bindingRange := range
  name := invalidUseName diagnostic.message
  place := invalidUseName diagnostic.message
  loanId := none
  exact := true
  detail := some "rustc rejected this use because the value was already moved"
  destination := none

/-- What one mapped diagnostic of a file adds to the collection. -/
def addMapped (ownershipEnabled : Bool) (flycheckId : Nat) (generation : DiagnosticsGeneration)
    (packageId : Option PackageSpecifier) (diagnostic : RustDiagnostic) (fileId : FileId)
    (mapped : MappedRustDiagnostic) (collection : DiagnosticCollection) : DiagnosticCollection :=
  let isError := shouldRecordInvalidUse mapped.diagnostic.severity
  let collection :=
    match diagnostic.code.filter isTeachableRustDiagnostic with
    | some code =>
      if isError then
        collection.addOwnershipDiagnostic flycheckId packageId fileId
          (mappedOwnershipDiagnostic diagnostic code mapped)
      else collection
    | none => collection
  let collection :=
    if ownershipEnabled && diagnostic.code == some "E0382" && isError then
      collection.addOwnershipEvent flycheckId packageId fileId
        (invalidUseEvent diagnostic mapped.diagnostic.range)
    else collection
  collection.addCheckDiagnostic flycheckId generation packageId fileId mapped.diagnostic mapped.fix

/-- One mapped diagnostic of an ordinary message. -/
def recordDiagnostic (world : World Contents Hash) (flycheckId : Nat)
    (generation : DiagnosticsGeneration) (packageId : Option PackageSpecifier)
    (diagnostic : RustDiagnostic) (state : GlobalState Contents Hash)
    (mapped : MappedRustDiagnostic) : GlobalState Contents Hash :=
  match state.urlToFileId world mapped.url with
  | none => state
  | some fileId =>
    { state with
      diagnostics := addMapped world.ownershipEnabled flycheckId generation packageId diagnostic
        fileId mapped state.diagnostics }

/-- Artifacts that are scheduled when the check run finishes. -/
def addArtifactPaths (state : GlobalState Contents Hash) (flycheckId : Nat)
    (paths : List String) : GlobalState Contents Hash :=
  { state with
    pendingOwnershipArtifactPaths :=
      state.pendingOwnershipArtifactPaths.modify flycheckId [] (· ++ paths) }

/-- `FlycheckMessage::AddDiagnostic`. -/
def addDiagnostic (world : World Contents Hash) (state : GlobalState Contents Hash)
    (flycheckId : Nat) (generation : DiagnosticsGeneration) (packageId : Option PackageSpecifier)
    (diagnostic : RustDiagnostic) (mapped : List MappedRustDiagnostic) :
    GlobalState Contents Hash :=
  if diagnostic.code = some "borrowck_ownership_model" then
    match (world.parseModelPointer diagnostic.message).filter fun pointer =>
      2 ≤ pointer.version ∧ pointer.version ≤ 4 with
    | none => state
    | some pointer => state.addArtifactPaths flycheckId [pointer.path]
  else if diagnostic.code.any (startsWith · "borrowck_ownership_") then
    match (world.parseEventPayload diagnostic.message).filter (·.version = 1) with
    | none => state
    | some payload => mapped.foldl (recordLegacyEvent world flycheckId packageId payload) state
  else mapped.foldl (recordDiagnostic world flycheckId generation packageId diagnostic) state

/-! ## The other messages -/

def clearDiagnostics (state : GlobalState Contents Hash) (flycheckId : Nat) :
    ClearDiagnosticsKind → GlobalState Contents Hash
  | .all .workspace => { state with diagnostics := state.diagnostics.clearCheck flycheckId }
  | .all (.package packageId) =>
    { state with diagnostics := state.diagnostics.clearCheckForPackage flycheckId packageId }
  | .olderThan generation .workspace =>
    { state with diagnostics := state.diagnostics.clearCheckOlderThan flycheckId generation }
  | .olderThan generation (.package packageId) =>
    { state with
      diagnostics :=
        state.diagnostics.clearCheckOlderThanForPackage flycheckId packageId generation }

/-- The artifacts of a check run are dropped when it starts again or is given up, and scheduled
when it has finished. -/
def flycheckProgress (state : GlobalState Contents Hash) (flycheckId : Nat) :
    FlycheckProgress → GlobalState Contents Hash
  | .didCheckCrate => state
  | .didStart | .didCancel | .didFailToRestart =>
    { state with
      pendingOwnershipArtifactPaths := state.pendingOwnershipArtifactPaths.erase flycheckId }
  | .didFinish =>
    match state.pendingOwnershipArtifactPaths.get? flycheckId with
    | none => state
    | some paths =>
      { state with
        pendingOwnershipArtifactPaths := state.pendingOwnershipArtifactPaths.erase flycheckId
        }.scheduleOwnershipModelArtifacts flycheckId none paths

def handleFlycheckMsg (world : World Contents Hash) (state : GlobalState Contents Hash) :
    FlycheckMessage → GlobalState Contents Hash
  | .addDiagnostic flycheckId generation packageId diagnostic mapped =>
    state.addDiagnostic world flycheckId generation packageId diagnostic mapped
  | .ownershipArtifacts flycheckId paths => state.addArtifactPaths flycheckId paths
  | .clearDiagnostics flycheckId kind => state.clearDiagnostics flycheckId kind
  | .progress flycheckId progress => state.flycheckProgress flycheckId progress

/-! ## What a message does -/

/-- The effect of a diagnostic: it is ignored, names an artifact, or is recorded as the events or
the diagnostics it was mapped to. -/
inductive DiagnosticEffect (world : World Contents Hash) (state : GlobalState Contents Hash)
    (flycheckId : Nat) (generation : DiagnosticsGeneration) (packageId : Option PackageSpecifier)
    (diagnostic : RustDiagnostic) (mapped : List MappedRustDiagnostic) :
    GlobalState Contents Hash → Prop
  | ignored : DiagnosticEffect world state flycheckId generation packageId diagnostic mapped state
  | artifact (path : String) :
      DiagnosticEffect world state flycheckId generation packageId diagnostic mapped
        (state.addArtifactPaths flycheckId [path])
  | events (payload : OwnershipEventPayload) :
      DiagnosticEffect world state flycheckId generation packageId diagnostic mapped
        (mapped.foldl (recordLegacyEvent world flycheckId packageId payload) state)
  | diagnostics :
      DiagnosticEffect world state flycheckId generation packageId diagnostic mapped
        (mapped.foldl (recordDiagnostic world flycheckId generation packageId diagnostic) state)

theorem addDiagnostic_effect {world : World Contents Hash} {state after : GlobalState Contents Hash}
    {flycheckId : Nat} {generation : DiagnosticsGeneration} {packageId : Option PackageSpecifier}
    {diagnostic : RustDiagnostic} {mapped : List MappedRustDiagnostic}
    (h : state.addDiagnostic world flycheckId generation packageId diagnostic mapped = after) :
    DiagnosticEffect world state flycheckId generation packageId diagnostic mapped after := by
  subst h
  unfold addDiagnostic
  split
  · split
    · exact .ignored
    · exact .artifact _
  · split
    · split
      · exact .ignored
      · exact .events _
    · exact .diagnostics

/-- Progress of a check run changes the artifacts that are pending, and may start a worker. -/
theorem flycheckProgress_cases (state : GlobalState Contents Hash) (flycheckId : Nat)
    (progress : FlycheckProgress) :
    ∃ pending, state.flycheckProgress flycheckId progress
        = { state with pendingOwnershipArtifactPaths := pending } ∨
      ∃ sequence paths, state.flycheckProgress flycheckId progress
        = { state with
            pendingOwnershipArtifactPaths := pending
            ownershipArtifactSequence := sequence
            workers := state.workers ++ [{
              flycheckId, packageId := none, sequence, revision := state.revision, paths }] } := by
  cases progress with
  | didCheckCrate => exact ⟨_, .inl rfl⟩
  | didStart | didCancel | didFailToRestart => exact ⟨_, .inl rfl⟩
  | didFinish =>
    simp only [flycheckProgress]
    split
    · exact ⟨_, .inl rfl⟩
    · unfold scheduleOwnershipModelArtifacts
      split
      · exact ⟨_, .inl rfl⟩
      · exact ⟨_, .inr ⟨_, _, rfl⟩⟩

end GlobalState

end RustWorkbench.Analyzer
