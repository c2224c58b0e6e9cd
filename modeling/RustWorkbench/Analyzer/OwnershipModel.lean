import RustWorkbench.Analyzer.Explain
import RustWorkbench.Analyzer.Repairs

/-!
# The ownership model at a position

`handle_ownership_model`: the selection, the stored facts that belong to it, cut to the limits of
an interactive answer, and the explanations.
-/

namespace RustWorkbench.Analyzer

open PushNew (pushNew)

/-! ## The memory graph of the selection -/

/-- One pass over the edges: an edge with one end in the set brings in the other. -/
def growAlongEdges (edges : List OwnershipTutorialMemoryEdge) (ids : List String) :
    List String :=
  edges.foldl (fun ids edge =>
    let ids := if edge.edge.source ∈ ids then pushNew ids edge.edge.target else ids
    if edge.edge.target ∈ ids then pushNew ids edge.edge.source else ids) ids

/-- At most `rounds` passes, fewer if one adds nothing. -/
def growRounds (edges : List OwnershipTutorialMemoryEdge) : Nat → List String → List String
  | 0, ids => ids
  | rounds + 1, ids =>
    let grown := growAlongEdges edges ids
    if grown.length = ids.length then grown else growRounds edges rounds grown

/-- The ids of the nodes connected to the selected name in at most twelve passes; every node of
the body if no name is selected. -/
def relevantMemoryNodeIds (selection : Selection) (graph : OwnershipTutorialMemoryGraph) :
    List String :=
  let inBody := graph.nodes.filter fun node => selection.inBody node.node.bodyId
  let start := ((inBody.filter fun node => selection.overlapsPlace node.node.place).map
    (·.node.id)).foldl pushNew []
  if selection.name.isNone then (inBody.map (·.node.id)).foldl pushNew start
  else growRounds graph.edges 12 start

def contextMemoryNodes (selection : Selection) (graph : OwnershipTutorialMemoryGraph) :
    List OwnershipTutorialMemoryNode :=
  let ids := relevantMemoryNodeIds selection graph
  graph.nodes.filter fun node => selection.inBody node.node.bodyId && decide (node.node.id ∈ ids)

def keptMemoryNodes (selection : Selection) (graph : OwnershipTutorialMemoryGraph) :
    List OwnershipTutorialMemoryNode :=
  (contextMemoryNodes selection graph).take MAX_INTERACTIVE_MEMORY_NODES

/-- `memory_node_is_present`. -/
def memoryNodeIsPresent (selection : Selection) (graph : OwnershipTutorialMemoryGraph)
    (id : String) : Bool :=
  (keptMemoryNodes selection graph).any fun node => node.node.id == id

def contextMemoryEdges (selection : Selection) (graph : OwnershipTutorialMemoryGraph) :
    List OwnershipTutorialMemoryEdge :=
  graph.edges.filter fun edge =>
    memoryNodeIsPresent selection graph edge.edge.source
      && memoryNodeIsPresent selection graph edge.edge.target

def contextSnapshots (selection : Selection) (graph : OwnershipTutorialMemoryGraph) :
    List OwnershipTutorialSnapshot :=
  graph.snapshots.filter fun snapshot =>
    selection.inBody snapshot.snapshot.bodyId && selection.overlapsPlace snapshot.snapshot.place

def contextAccessPaths (selection : Selection) (graph : OwnershipTutorialMemoryGraph) :
    List OwnershipModelAccessPath :=
  graph.accessPaths.filter fun path => memoryNodeIsPresent selection graph path.nodeId

def memoryNodeToLsp (node : OwnershipTutorialMemoryNode) : OwnershipMemoryNode where
  id := node.node.id
  bodyId := node.node.bodyId
  place := node.node.place
  kind := node.node.kind
  storage := node.node.storage
  label := node.node.label
  typeName := node.node.typeName
  size := node.node.size
  align := node.node.align
  range := node.range
  state := ownershipStateCode node.node.state
  provenance := node.node.provenance
  physicalPlacementNote := node.node.physicalPlacementNote
  truncated := node.node.truncated

/-- The range of an edge: its own, or that of the listed event it belongs to. -/
def memoryEdgeRange (events : List RustWorkbench.OwnershipEvent)
    (edge : OwnershipTutorialMemoryEdge) : Option Range :=
  edge.range <|> (edge.edge.eventId.bind fun eventId =>
    (events.find? fun event => event.eventId == eventId).map (·.range))

def memoryEdgeToLsp (events : List RustWorkbench.OwnershipEvent)
    (edge : OwnershipTutorialMemoryEdge) : OwnershipMemoryEdge where
  id := edge.edge.id
  source := edge.edge.source
  target := edge.edge.target
  relation := edge.edge.relation
  eventId := edge.edge.eventId
  loanId := edge.edge.loanId
  range := memoryEdgeRange events edge
  provenance := edge.edge.provenance
  pathMarker := edge.edge.pathMarker

def snapshotToLsp (snapshot : OwnershipTutorialSnapshot) : OwnershipMemorySnapshot where
  id := snapshot.snapshot.id
  eventId := snapshot.snapshot.eventId
  bodyId := snapshot.snapshot.bodyId
  basicBlock := snapshot.snapshot.basicBlock
  statementIndex := snapshot.snapshot.statementIndex
  kind := snapshot.snapshot.kind
  range := snapshot.range
  place := snapshot.snapshot.place
  loanId := snapshot.snapshot.loanId
  pathMarker := snapshot.snapshot.pathMarker
  deltas := snapshot.snapshot.deltas.map fun delta =>
    { nodeId := delta.nodeId
      fromState := delta.fromState.map ownershipStateCode
      toState := ownershipStateCode delta.toState
      relationAdded := delta.relationAdded
      relationRemoved := delta.relationRemoved }
  provenance := snapshot.snapshot.provenance

def accessPathToLsp (path : OwnershipModelAccessPath) : OwnershipAccessPath where
  id := path.id
  bodyId := path.bodyId
  nodeId := path.nodeId
  place := path.place
  purpose := path.purpose
  steps := path.steps.map fun step =>
    { kind := step.kind
      startingType := step.startingType
      resultType := step.resultType
      mutability := step.mutability
      explicitness := step.explicitness
      fallible := step.fallible
      mayPanic := step.mayPanic
      requiresUnsafe := step.requiresUnsafe
      explanation := step.explanation
      provenance := step.provenance }
  provenance := path.provenance

def memoryGraphToLsp (selection : Selection) (graph : OwnershipTutorialMemoryGraph)
    (events : List RustWorkbench.OwnershipEvent) : OwnershipMemoryGraph where
  nodes := (keptMemoryNodes selection graph).map memoryNodeToLsp
  edges := ((contextMemoryEdges selection graph).take MAX_INTERACTIVE_MEMORY_EDGES).map
    (memoryEdgeToLsp events)
  snapshots := ((contextSnapshots selection graph).take MAX_INTERACTIVE_SNAPSHOTS).map
    snapshotToLsp
  accessPaths := ((contextAccessPaths selection graph).take MAX_INTERACTIVE_ACCESS_PATHS).map
    accessPathToLsp
  truncated := graph.truncated

/-! ## The model -/

/-- Whether anything of the context was left out. -/
def responseTruncated (selection : Selection) (events : List OwnershipEvent)
    (tutorial : OwnershipTutorialModel) (insights : List OwnershipCallInsight) : Bool :=
  (contextEvents selection events).length > MAX_INTERACTIVE_EVENTS
    || (contextBodies selection tutorial).any
      (fun body => body.blocks.length > MAX_INTERACTIVE_BLOCKS)
    || (contextBindings selection tutorial).length > MAX_INTERACTIVE_BINDINGS
    || (contextLoans selection tutorial).length > MAX_INTERACTIVE_LOANS
    || (contextLoans selection tutorial).any
      (fun loan => loan.livePoints.length > 512 || loan.endPoints.length > 64)
    || (contextMemoryNodes selection tutorial.memoryGraph).length > MAX_INTERACTIVE_MEMORY_NODES
    || (contextMemoryEdges selection tutorial.memoryGraph).length > MAX_INTERACTIVE_MEMORY_EDGES
    || (contextSnapshots selection tutorial.memoryGraph).length > MAX_INTERACTIVE_SNAPSHOTS
    || (contextAccessPaths selection tutorial.memoryGraph).length > MAX_INTERACTIVE_ACCESS_PATHS
    || tutorial.memoryGraph.truncated
    || insights.length > 64

/-- The model for a selection in a file, with its repairs. -/
def ownershipModelFor (snap : Snapshot) (fileId : FileId) (uri : String) (fileRange : TextRange)
    (selection : Selection) (allEvents : List OwnershipEvent) (tutorial : OwnershipTutorialModel)
    (repairs : List OwnershipRepair) : OwnershipModel :=
  let lineIndex := snap.fileLineIndex fileId
  let file := snap.parse fileId
  let kept := (contextEvents selection allEvents).take MAX_INTERACTIVE_EVENTS
  let events := kept.map eventToLsp
  let conflictGraph := selection.diagnostic.bind fun diagnostic => file.bind fun file =>
    ownershipConflictGraph diagnostic file lineIndex tutorial selection.bodyId
  let exactEvents := events.any fun event =>
    (allEvents.find? fun candidate => candidate.eventId == event.eventId).any (·.exact)
  let bodies := (contextBodies selection tutorial).map bodyToLsp
  let bindings :=
    ((contextBindings selection tutorial).take MAX_INTERACTIVE_BINDINGS).map bindingToLsp
  let loans :=
    ((contextLoans selection tutorial).take MAX_INTERACTIVE_LOANS).map ownershipLoanToLsp
  let memoryGraph := memoryGraphToLsp selection tutorial.memoryGraph events
  let hasTutorialFacts := !bodies.isEmpty || !bindings.isEmpty || !loans.isEmpty
    || !memoryGraph.nodes.isEmpty
  let exact := exactEvents || (tutorial.schemaVersion ≥ 3 && hasTutorialFacts)
  let insights := operationInsights
    (snap.callInsights fileId
      (operationPositions lineIndex fileRange selection.diagnostic events)) fileRange
  let operations := operationsToLsp lineIndex insights
  let mutationRequirement :=
    ownershipMutationRequirement selection.diagnostic file lineIndex operations
  let conflictTrace := (conflictGraph.map ownershipConflictValueTrace).getD []
  { schemaVersion := max tutorial.schemaVersion 14
    compilerSchemaVersion := tutorial.schemaVersion
    targetTriple := tutorial.targetTriple
    precision := if exact then "compiler_exact" else "estimated"
    status :=
      if events.isEmpty && !hasTutorialFacts && selection.diagnostic.isNone then
        "waiting_for_compiler"
      else "ready"
    truncated := responseTruncated selection allEvents tutorial insights
    sourceHash := stableSourceHash (snap.fileText fileId)
    selectedProblemId := selection.diagnostic.map fun diagnostic =>
      (ownershipProblemFromDiagnostic diagnostic allEvents tutorial).id
    selectedPlace := mutationRequirement.map (·.targetPlace)
      <|> selection.event.map (·.place)
      <|> selection.diagnostic.bind fun diagnostic => ownershipNameFromMessage diagnostic.message
    events
    valueTrace :=
      if conflictTrace.isEmpty then ownershipValueTrace events operations else conflictTrace
    repairs
    bodies
    bindings
    loans
    memoryGraph
    operations
    mutationRequirement
    conflictGraph
    sourceContext := file.map fun file =>
      ownershipSourceContext snap uri file lineIndex selection.request operations bindings
    cSketch := ownershipCSketch selection.name bindings events repairs }

/-- The selection of a request in a file of a snapshot. -/
def Snapshot.selectionAt (snap : Snapshot) (fileId : FileId) (position : Position) : Selection :=
  Analyzer.selectionAt (ownershipDiagnosticsForFile snap.ownershipDiagnostics fileId)
    (ownershipEventsForFile snap.ownershipEvents fileId)
    (ownershipTutorialForFile snap.ownershipTutorialModels fileId) (Range.point position)

/-- `handle_ownership_model`; an excluded file gets the default model. -/
def handleOwnershipModel (snap : Snapshot) (uri : String) (position : Position) :
    Except String OwnershipModel :=
  match snap.fileRange uri (Range.point position) with
  | .error message => .error message
  | .ok none => .ok {}
  | .ok (some (fileId, fileRange)) =>
    let allEvents := ownershipEventsForFile snap.ownershipEvents fileId
    let tutorial := ownershipTutorialForFile snap.ownershipTutorialModels fileId
    let selection := snap.selectionAt fileId position
    .ok (ownershipModelFor snap fileId uri fileRange selection allEvents tutorial
      (ownershipRepairs snap fileId uri fileRange tutorial selection))

/-- `handle_ownership_problems`; an excluded file gets the default list. -/
def handleOwnershipProblems (snap : Snapshot) (uri : String) : Except String OwnershipProblems :=
  match snap.urlToFileId uri with
  | .error message => .error message
  | .ok none => .ok {}
  | .ok (some fileId) =>
    .ok (ownershipProblemsOf (ownershipDiagnosticsForFile snap.ownershipDiagnostics fileId)
      (ownershipEventsForFile snap.ownershipEvents fileId)
      (ownershipTutorialForFile snap.ownershipTutorialModels fileId) (snap.fileText fileId))

end RustWorkbench.Analyzer
