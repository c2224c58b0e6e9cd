import RustWorkbench.Compiler.GraphPlaces
import RustWorkbench.Library.EdgeList
import Mathlib.Data.String.Basic

/-!
# Building the memory graph

`build_ownership_memory_graph`.  The four loops of the source, over the bindings, the clones read
off the source text, the loans and the events, are one list of steps, each of which changes the
graph; what is sorted, deduplicated and cut at the end is `finish`.

A clone is read off the text alone, so the steps are known before the first is taken; they are
`none` where reading one panics.
-/

namespace RustWorkbench.Compiler

open StableSort

/-! ## Allocations -/

/-- The relations by which a handle holds an allocation. -/
def GraphEdgeRelation.isAllocation : GraphEdgeRelation → Bool
  | owns | ownsBuffer | sharesAllocation | weakReference => true
  | _ => false

/-- The relations that lead from a value to its parts. -/
def GraphEdgeRelation.isContainment : GraphEdgeRelation → Bool
  | contains | guardsAccess | stores | wraps => true
  | _ => false

/-- The relations that a clone shares instead of making an allocation of its own. -/
def GraphEdgeRelation.isShared : GraphEdgeRelation → Bool
  | sharesAllocation | weakReference => true
  | _ => false

/-- What `allocation_link_for_root` returns. -/
structure AllocationLink where
  handle : String
  allocation : String
  relation : GraphEdgeRelation
deriving DecidableEq, Repr

/-- `allocation_link_for_root`: a depth-first search. -/
def allocationLinkForRoot (graph : MemoryGraph) (root : String) : Option AllocationLink :=
  (EdgeList.search MemoryEdge.source MemoryEdge.target (fun edge => edge.relation.isAllocation)
    (fun edge => edge.relation.isContainment) graph.edges root).map
      fun edge => ⟨edge.source, edge.target, edge.relation⟩

/-- `remove_duplicate_allocation`: whatever the allocation leads to goes with it. -/
def removeDuplicateAllocation (graph : MemoryGraph) (allocation : String) : MemoryGraph :=
  let duplicateNodes := EdgeList.closure MemoryEdge.source MemoryEdge.target graph.edges allocation
  { graph with
    nodes := graph.nodes.filter fun node => node.id ∉ duplicateNodes
    edges := graph.edges.filter fun edge =>
      edge.source ∉ duplicateNodes && edge.target ∉ duplicateNodes }

/-- The links of the place that is moved or cloned and of the place it goes to. -/
structure Transfer where
  source : AllocationLink
  destinationRoot : String
  destination : AllocationLink
deriving DecidableEq, Repr

def findTransfer (graph : MemoryGraph) (sourceRoot destinationRoot : String) : Option Transfer := do
  let source ← allocationLinkForRoot graph sourceRoot
  let destination ← allocationLinkForRoot graph destinationRoot
  return ⟨source, destinationRoot, destination⟩

/-- The allocation of the destination goes, and an edge to that of the source comes. -/
def relink (graph : MemoryGraph) (transfer : Transfer) (edge : MemoryEdge) : MemoryGraph :=
  (removeDuplicateAllocation graph transfer.destination.allocation).pushEdge edge

/-! ## Clones read off the source text -/

/-- The binding that is cloned and the transfer it makes. -/
def derivedTransfer (bindings : List OwnershipBinding) (graph : MemoryGraph)
    (destination : OwnershipBinding) (sourceName : Option String) :
    Option (OwnershipBinding × Transfer) := do
  let sourceName ← sourceName
  let source ← bindings.find? fun source =>
    source.bodyId = destination.bodyId && source.binding.name = sourceName
  let transfer ← findTransfer graph (bindingNodeId source bindings) (bindingNodeId destination bindings)
  if transfer.source.relation.isShared then return (source, transfer) else none

def derivedCloneId (source destination : OwnershipBinding) : String :=
  graphId "derived-clone" (toString destination.bodyId ++ ":" ++ destination.binding.path.display
    ++ ":" ++ source.binding.name ++ ":" ++ destination.binding.name)

def derivedEdge (source destination : OwnershipBinding) (transfer : Transfer) : MemoryEdge where
  id := graphId "edge" (transfer.destination.handle ++ ":" ++ transfer.source.relation.debug ++ ":"
    ++ transfer.source.allocation)
  source := transfer.destination.handle
  target := transfer.source.allocation
  relation := transfer.source.relation
  eventId := some (derivedCloneId source destination)
  loanId := none
  span := some (bindingSpan destination)
  provenance := .derived
  pathMarker := some "source_expression"

def derivedSnapshot (source destination : OwnershipBinding) (transfer : Transfer) :
    OwnershipSnapshot where
  id := graphId "snapshot" (derivedCloneId source destination)
  eventId := derivedCloneId source destination
  bodyId := destination.bodyId
  basicBlock := 0
  statementIndex := 0
  kind := .clone
  span := bindingSpan destination
  place := source.binding.name
  loanId := none
  pathMarker := some "source_expression"
  deltas := [⟨transfer.destinationRoot, none, .available, some transfer.source.relation, none⟩]
  provenance := .derived

/-- One round of the loop over the clones. -/
def addDerivedClone (bindings : List OwnershipBinding) (graph : MemoryGraph)
    (destination : OwnershipBinding) (sourceName : Option String) : MemoryGraph :=
  match derivedTransfer bindings graph destination sourceName with
  | none => graph
  | some (source, transfer) =>
    (relink graph transfer (derivedEdge source destination transfer)).pushSnapshot
      (derivedSnapshot source destination transfer)

/-! ## Loans -/

def loanNode (loan : OwnershipLoan) (viewId : String) : MemoryNode where
  id := viewId
  bodyId := loan.bodyId
  place := loan.place
  kind := .borrowedView
  storage := .conceptual
  label := match loan.kind with
    | .mutable => "exclusive borrowed view"
    | .shared => "shared borrowed view"
  typeName := "borrowed view"
  size := none
  align := none
  span := some loan.reserve.span
  state := match loan.kind with
    | .mutable => .mutablyBorrowed
    | .shared => .sharedBorrowed
  provenance := .exact
  physicalPlacementNote := "A MIR loan, not a claim that a separate runtime allocation exists."
  truncated := loan.truncated

def loanEdge (loan : OwnershipLoan) (viewId rootId : String) : MemoryEdge :=
  let relation : GraphEdgeRelation := match loan.kind with
    | .mutable => .borrowMutable
    | .shared => .borrowShared
  { id := graphId "edge" (rootId ++ ":" ++ relation.debug ++ ":" ++ viewId ++ ":"
      ++ toString loan.loanId)
    source := viewId
    target := rootId
    relation := relation
    eventId := none
    loanId := some loan.loanId
    span := some loan.reserve.span
    provenance := .exact
    pathMarker := some ("bb" ++ toString loan.reserve.basicBlock) }

/-- One round of the loop over the loans. -/
def addLoan (bindings : List OwnershipBinding) (graph : MemoryGraph) (loan : OwnershipLoan) :
    MemoryGraph :=
  match ensurePlaceNode bindings graph loan.bodyId loan.place (some loan.reserve.span) .exact with
  | none => graph
  | some (rootId, graph) =>
    let viewId := graphId "node" (toString loan.bodyId ++ ":" ++ loan.place ++ ":loan:"
      ++ toString loan.loanId)
    (graph.pushNode (loanNode loan viewId)).pushEdge (loanEdge loan viewId rootId)

/-! ## Events -/

def OwnershipEvent.span (event : OwnershipEvent) : Span :=
  ⟨event.path, event.byteStart, event.byteEnd⟩

def OwnershipEvent.marker (event : OwnershipEvent) : String := "bb" ++ toString event.basicBlock

/-- The node of the destination of an event. -/
def destinationNode (bindings : List OwnershipBinding) (graph : MemoryGraph)
    (event : OwnershipEvent) : Option (String × MemoryGraph) := do
  let destination ← event.destination
  let place ← destination.place
  ensurePlaceNode bindings graph event.bodyId place destination.span .exact

def movedToEdge (event : OwnershipEvent) (nodeId target : String) : MemoryEdge where
  id := graphId "edge" (event.eventId ++ ":moved_to:" ++ target)
  source := nodeId
  target := target
  relation := .movedTo
  eventId := some event.eventId
  loanId := event.loanId
  span := some event.span
  provenance := .exact
  pathMarker := some event.marker

/-- The edge to the allocation of the source, for a move and for a clone. -/
def eventEdge (event : OwnershipEvent) (transfer : Transfer) : MemoryEdge where
  id := graphId "edge" (event.eventId ++ ":" ++ transfer.source.relation.debug ++ ":"
    ++ transfer.source.allocation)
  source := transfer.destination.handle
  target := transfer.source.allocation
  relation := transfer.source.relation
  eventId := some event.eventId
  loanId := event.loanId
  span := some event.span
  provenance := .exact
  pathMarker := some event.marker

def applyMove (bindings : List OwnershipBinding) (graph : MemoryGraph) (event : OwnershipEvent)
    (nodeId : String) : MemoryGraph × List StateDelta :=
  if event.kind = .move ∨ event.kind = .partialMove then
    match destinationNode bindings graph event with
    | none => (graph, [])
    | some (target, graph) =>
      let graph := graph.pushEdge (movedToEdge event nodeId target)
      if event.kind = .move then
        match findTransfer graph nodeId target with
        | none => (graph, [])
        | some transfer =>
          (relink graph transfer (eventEdge event transfer),
            [⟨transfer.source.handle, none, .moved, none, some transfer.source.relation⟩])
      else (graph, [])
  else (graph, [])

def applyClone (bindings : List OwnershipBinding) (graph : MemoryGraph) (event : OwnershipEvent)
    (nodeId : String) : MemoryGraph :=
  if event.kind = .clone then
    match destinationNode bindings graph event with
    | none => graph
    | some (destinationRoot, graph) =>
      match findTransfer graph nodeId destinationRoot with
      | none => graph
      | some transfer =>
        if transfer.source.relation.isShared then
          relink graph transfer (eventEdge event transfer)
        else graph
  else graph

def eventRelation : OwnershipEventKind → Option GraphEdgeRelation
  | .move | .partialMove => some .movedTo
  | .borrowMutable => some .borrowMutable
  | .borrowShared => some .borrowShared
  | .clone => some .sharesAllocation
  | _ => none

def eventSnapshot (event : OwnershipEvent) (nodeId : String) (additionalDeltas : List StateDelta) :
    OwnershipSnapshot where
  id := graphId "snapshot" event.eventId
  eventId := event.eventId
  bodyId := event.bodyId
  basicBlock := event.basicBlock
  statementIndex := event.statementIndex
  kind := snapshotKind event.kind
  span := event.span
  place := event.place
  loanId := event.loanId
  pathMarker := some event.marker
  deltas := ⟨nodeId, none, event.state, eventRelation event.kind,
    if event.kind = .borrowEnd then some .borrowShared else none⟩ :: additionalDeltas
  provenance := .exact

/-- One round of the loop over the events. -/
def addEvent (bindings : List OwnershipBinding) (graph : MemoryGraph) (event : OwnershipEvent) :
    MemoryGraph :=
  match ensurePlaceNode bindings graph event.bodyId event.place (some event.span) .exact with
  | none => graph
  | some (nodeId, graph) =>
    let (graph, additionalDeltas) := applyMove bindings graph event nodeId
    (applyClone bindings graph event nodeId).pushSnapshot
      (eventSnapshot event nodeId additionalDeltas)

/-! ## The whole function -/

inductive BuildStep
  | binding (binding : OwnershipBinding)
  | derivedClone (destination : OwnershipBinding) (sourceName : Option String)
  | loan (loan : OwnershipLoan)
  | event (event : OwnershipEvent)
deriving DecidableEq, Repr

def buildStep (bindings : List OwnershipBinding) (graph : MemoryGraph) : BuildStep → MemoryGraph
  | .binding binding => addBinding bindings graph binding
  | .derivedClone destination sourceName => addDerivedClone bindings graph destination sourceName
  | .loan loan => addLoan bindings graph loan
  | .event event => addEvent bindings graph event

def buildSteps (isAlphanumeric : Char → Bool) (sources : Assoc.Map Path RepairSource)
    (bindings : List OwnershipBinding) (events : List OwnershipEvent) (loans : List OwnershipLoan) :
    Option (List BuildStep) := do
  let clones ← bindings.mapM fun destination =>
    (sharedCloneSource isAlphanumeric sources destination).map (BuildStep.derivedClone destination)
  return bindings.map .binding ++ clones ++ loans.map .loan ++ events.map .event

/-- The graph after some steps. -/
def graphAfter (bindings : List OwnershipBinding) (steps : List BuildStep) : MemoryGraph :=
  steps.foldl (buildStep bindings) {}

def maxGraphNodes : Nat := 512
def maxGraphEdges : Nat := 1024
def maxGraphSnapshots : Nat := 1024
def maxGraphAccessPaths : Nat := 256

/-- The order of the snapshots. -/
def snapshotKey (snapshot : OwnershipSnapshot) : ℕ ×ₗ ℕ ×ₗ ℕ ×ₗ String :=
  toLex (snapshot.bodyId, toLex (snapshot.basicBlock, toLex (snapshot.statementIndex, snapshot.id)))

/-- Sort, deduplicate and cut. -/
def finish (graph : MemoryGraph) : MemoryGraph :=
  let nodes := dedupBy (sameKey MemoryNode.id) (sortByKey MemoryNode.id graph.nodes)
  let edges := dedupBy (sameKey MemoryEdge.id) (sortByKey MemoryEdge.id graph.edges)
  let snapshots := sortByKey snapshotKey graph.snapshots
  let accessPaths := sortByKey AccessPath.id graph.accessPaths
  let retainedNodes := (nodes.take maxGraphNodes).map MemoryNode.id
  { nodes := nodes.take maxGraphNodes
    edges := (edges.filter fun edge =>
      edge.source ∈ retainedNodes && edge.target ∈ retainedNodes).take maxGraphEdges
    snapshots := snapshots.take maxGraphSnapshots
    accessPaths := accessPaths.take maxGraphAccessPaths
    truncated := graph.truncated || nodes.length > maxGraphNodes || edges.length > maxGraphEdges
      || snapshots.length > maxGraphSnapshots || accessPaths.length > maxGraphAccessPaths }

def buildOwnershipMemoryGraph (isAlphanumeric : Char → Bool)
    (sources : Assoc.Map Path RepairSource) (bindings : List OwnershipBinding)
    (events : List OwnershipEvent) (loans : List OwnershipLoan) : Option MemoryGraph :=
  (buildSteps isAlphanumeric sources bindings events loans).map
    fun steps => finish (graphAfter bindings steps)

end RustWorkbench.Compiler
