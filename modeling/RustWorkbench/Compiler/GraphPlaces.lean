import RustWorkbench.Compiler.CloneSource

/-!
# The nodes of bindings and places

The first part of the memory graph: a chain of nodes for the memory layers of every binding, and
the node that a place of a loan or an event gets below its binding.
-/

namespace RustWorkbench.Compiler

open StableSort

/-! ## Kinds -/

def layerNodeKind : MemoryKind → GraphNodeKind
  | .stackBinding => .binding
  | .arcHandle | .boxHandle | .rawPointer | .rcHandle | .referenceHandle | .weakHandle => .handle
  | .containerHeader | .pinConstraint | .stringHeader | .vecHeader => .wrapper
  | .aggregateValue | .cellState | .conditionalValue | .inlineValue | .unsafeCellState => .inlineValue
  | .boxAllocation => .heapAllocation
  | .rcAllocation | .arcAllocation | .weakAllocation => .controlBlock
  | .containerBuffer | .stringBuffer | .vecBuffer => .buffer
  | .refCellState => .borrowFlag
  | .guardState => .guard
  | .mutexState | .onceState | .rwLockState => .lockState
  | .fatPointerMetadata => .metadata

def graphStorage : MemoryStorage → GraphStorageRegion
  | .conceptual => .conceptual
  | .heap => .heap
  | .inline => .inline
  | .stack => .stack

def graphProvenance (layer : MemoryLayer) : OwnershipProvenance :=
  if layer.provenance = "target_layout" then .exact
  else if layer.provenance = "derived" then .derived
  else if layer.provenance = "conceptual" then .conceptual
  else .unknown

def topologyRelation : MemoryKind → MemoryKind → GraphEdgeRelation
  | .stackBinding, _ => .stores
  | .pinConstraint, _ => .wraps
  | .cellState, _ | .guardState, _ | .mutexState, _ | .onceState, _ | .refCellState, _
  | .rwLockState, _ | .unsafeCellState, _ => .guardsAccess
  | _, .boxAllocation => .owns
  | _, .rcAllocation | _, .arcAllocation => .sharesAllocation
  | _, .weakAllocation => .weakReference
  | _, .containerBuffer | _, .stringBuffer | _, .vecBuffer => .ownsBuffer
  | _, .conditionalValue => .conditional
  | _, .guardState => .guardsAccess
  | _, .pinConstraint => .wraps
  | _, _ => .contains

def snapshotKind : OwnershipEventKind → SnapshotKind
  | .borrowActivate => .borrowActivate
  | .borrowEnd => .borrowEnd
  | .borrowMutable | .borrowShared => .borrowReserve
  | .clone => .clone
  | .copy => .copy
  | .drop => .drop
  | .lastUse => .lastUse
  | .move => .move
  | .partialMove => .partialMove
  | OwnershipEventKind.reinitialize => SnapshotKind.reinitialize

/-! ## The graph under construction -/

namespace MemoryGraph

def pushNode (graph : MemoryGraph) (node : MemoryNode) : MemoryGraph :=
  { graph with nodes := graph.nodes ++ [node] }

def pushEdge (graph : MemoryGraph) (edge : MemoryEdge) : MemoryGraph :=
  { graph with edges := graph.edges ++ [edge] }

def pushSnapshot (graph : MemoryGraph) (snapshot : OwnershipSnapshot) : MemoryGraph :=
  { graph with snapshots := graph.snapshots ++ [snapshot] }

def nodeIds (graph : MemoryGraph) : List String := graph.nodes.map MemoryNode.id

end MemoryGraph

/-- `binding_node_id`: shadowed bindings of one name are numbered in source order. -/
def bindingNodeId (binding : OwnershipBinding) (bindings : List OwnershipBinding) : String :=
  let sameName := bindings.filter fun candidate =>
    candidate.bodyId = binding.bodyId && candidate.binding.path = binding.binding.path
      && candidate.binding.name = binding.binding.name
  let shadowOrdinal := ((sortByKey (fun candidate => candidate.binding.byteStart) sameName).findIdx?
    fun candidate => candidate.binding.byteStart = binding.binding.byteStart).getD 0
  graphId "node" (toString binding.bodyId ++ ":" ++ binding.binding.path.display ++ ":"
    ++ binding.binding.name ++ ":" ++ binding.typeName ++ ":" ++ toString shadowOrdinal ++ ":binding")

def bindingSpan (binding : OwnershipBinding) : Span :=
  ⟨binding.binding.path, binding.binding.byteStart,
    binding.binding.byteStart + byteLen binding.binding.name.toList⟩

/-! ## Bindings -/

def layerId (bindingId : String) (index : Nat) (layer : MemoryLayer) : String :=
  if index = 0 then bindingId
  else graphId "node" (bindingId ++ ":" ++ layer.kind.debug ++ ":" ++ layer.label ++ ":"
    ++ toString index)

def layerNode (binding : OwnershipBinding) (id : String) (index : Nat) (layer : MemoryLayer) :
    MemoryNode where
  id := id
  bodyId := binding.bodyId
  place := binding.binding.name
  kind := layerNodeKind layer.kind
  storage := graphStorage layer.storage
  label := layer.label
  typeName := layer.typeName
  size := layer.size
  align := layer.align
  span := some (bindingSpan binding)
  state := .available
  provenance := graphProvenance layer
  physicalPlacementNote := "Source-level model; optimized machine placement may differ."
  truncated := binding.memoryLayers.length > 12 && index = 11

def layerEdge (binding : OwnershipBinding) (source : String) (sourceKind : MemoryKind) (id : String)
    (layer : MemoryLayer) : MemoryEdge :=
  let relation := topologyRelation sourceKind layer.kind
  { id := graphId "edge" (source ++ ":" ++ relation.debug ++ ":" ++ id)
    source := source
    target := id
    relation := relation
    eventId := none
    loanId := none
    span := some (bindingSpan binding)
    provenance := graphProvenance layer
    pathMarker := none }

/-- The loop over the layers; `previous` is the layer above. -/
def pushLayers (binding : OwnershipBinding) (bindingId : String) :
    Nat → Option (String × MemoryKind) → List MemoryLayer → MemoryGraph → MemoryGraph
  | _, _, [], graph => graph
  | index, previous, layer :: layers, graph =>
    let id := layerId bindingId index layer
    let graph := graph.pushNode (layerNode binding id index layer)
    let graph :=
      match previous with
      | some (source, sourceKind) => graph.pushEdge (layerEdge binding source sourceKind id layer)
      | none => graph
    pushLayers binding bindingId (index + 1) (some (id, layer.kind)) layers graph

def initializationSnapshot (binding : OwnershipBinding) (bindingId : String) : OwnershipSnapshot :=
  let initializationId := graphId "initialize" bindingId
  { id := graphId "snapshot" initializationId
    eventId := initializationId
    bodyId := binding.bodyId
    basicBlock := 0
    statementIndex := 0
    kind := .initialization
    span := bindingSpan binding
    place := binding.binding.name
    loanId := none
    pathMarker := some "binding_initialization"
    deltas := [⟨bindingId, none, .available, none, none⟩]
    provenance := .derived }

/-- One round of the loop over the bindings. -/
def addBinding (bindings : List OwnershipBinding) (graph : MemoryGraph) (binding : OwnershipBinding) :
    MemoryGraph :=
  let bindingId := bindingNodeId binding bindings
  let graph := pushLayers binding bindingId 0 none (binding.memoryLayers.take 12) graph
  let graph := { graph with truncated := graph.truncated || binding.memoryLayers.length > 12 }
  let graph := graph.pushSnapshot (initializationSnapshot binding bindingId)
  { graph with accessPaths := graph.accessPaths ++ accessPathsForBinding binding bindingId }

/-! ## Places -/

/-- The local that a place starts from. -/
def rootName (place : String) : String :=
  String.ofList ((place.toList.dropWhile (· == '*')).takeWhile fun c => !(['.', '[', ':'].contains c))

def findBindingNodeId (bindings : List OwnershipBinding) (bodyId : Nat) (place : String) :
    Option String :=
  (bindings.find? fun binding =>
    binding.bodyId = bodyId && binding.binding.name = rootName place).map
      fun binding => bindingNodeId binding bindings

def placeNode (id : String) (bodyId : Nat) (place : String) (span : Option Span)
    (provenance : OwnershipProvenance) : MemoryNode where
  id := id
  bodyId := bodyId
  place := place
  kind := .projectedPlace
  storage := .inline
  label := place
  typeName := "projected place (type available from MIR owner)"
  size := none
  align := none
  span := span
  state := .available
  provenance := provenance
  physicalPlacementNote :=
    "A source/MIR subplace of its owner; optimized machine placement may differ."
  truncated := false

/-- `ensure_place_node`: the node of a place, and the graph with the node in it. -/
def ensurePlaceNode (bindings : List OwnershipBinding) (graph : MemoryGraph) (bodyId : Nat)
    (place : String) (span : Option Span) (provenance : OwnershipProvenance) :
    Option (String × MemoryGraph) := do
  let rootId ← findBindingNodeId bindings bodyId place
  if place = rootName place then
    return (rootId, graph)
  let id := graphId "place" (toString bodyId ++ ":" ++ place)
  if id ∈ graph.nodeIds then
    return (id, graph)
  return (id, (graph.pushNode (placeNode id bodyId place span provenance)).pushEdge
    { id := graphId "edge" (rootId ++ ":contains:" ++ id)
      source := rootId
      target := id
      relation := .contains
      eventId := none
      loanId := none
      span := span
      provenance := provenance
      pathMarker := none })

end RustWorkbench.Compiler
