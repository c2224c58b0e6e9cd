import RustWorkbench.Compiler.GraphTypes
import RustWorkbench.Wire.Model

/-!
# The compiler's memory graph on the wire

The words by which the compiler writes the enumerations of its memory graph, all in snake case,
and the graph as the panel receives it.  How a span becomes a range is up to the analyzer and is
a parameter; the access paths, which no replay reads, are left out.
-/

namespace RustWorkbench.Compiler

/-! ## Words -/

def GraphStorageRegion.word : GraphStorageRegion → String
  | stack => "stack"
  | inline => "inline"
  | heap => "heap"
  | static => "static"
  | threadLocal => "thread_local"
  | conceptual => "conceptual"
  | unknown => "unknown"

def GraphNodeKind.word : GraphNodeKind → String
  | binding => "binding"
  | handle => "handle"
  | wrapper => "wrapper"
  | inlineValue => "inline_value"
  | heapAllocation => "heap_allocation"
  | buffer => "buffer"
  | controlBlock => "control_block"
  | borrowFlag => "borrow_flag"
  | lockState => "lock_state"
  | borrowedView => "borrowed_view"
  | projectedPlace => "projected_place"
  | guard => "guard"
  | metadata => "metadata"
  | unknown => "unknown"

def GraphEdgeRelation.word : GraphEdgeRelation → String
  | stores => "stores"
  | wraps => "wraps"
  | owns => "owns"
  | contains => "contains"
  | ownsBuffer => "owns_buffer"
  | pointsTo => "points_to"
  | borrowShared => "borrow_shared"
  | borrowMutable => "borrow_mutable"
  | reborrow => "reborrow"
  | sharesAllocation => "shares_allocation"
  | weakReference => "weak_reference"
  | guardsAccess => "guards_access"
  | conditional => "conditional"
  | movedTo => "moved_to"
  | unknown => "unknown"

def OwnershipProvenance.word : OwnershipProvenance → String
  | exact => "exact"
  | derived => "derived"
  | conceptual => "conceptual"
  | unknown => "unknown"

def SnapshotKind.word : SnapshotKind → String
  | initialization => "initialize"
  | borrowReserve => "borrow_reserve"
  | borrowActivate => "borrow_activate"
  | move => "move"
  | copy => "copy"
  | clone => "clone"
  | reborrow => "reborrow"
  | lastUse => "last_use"
  | borrowEnd => "borrow_end"
  | conflict => "conflict"
  | reinitialize => "reinitialize"
  | drop => "drop"
  | partialMove => "partial_move"
  | unknown => "unknown"

def OwnershipState.word : OwnershipState → String
  | available => "available"
  | dropped => "dropped"
  | moved => "moved"
  | mutablyBorrowed => "mutably_borrowed"
  | partiallyMoved => "partially_moved"
  | sharedBorrowed => "shared_borrowed"
  | unknown => "unknown"

/-! ## Records -/

section Wire

variable (range : Span → Range)

def MemoryNode.toWire (node : MemoryNode) : OwnershipMemoryNode where
  id := node.id
  bodyId := node.bodyId
  place := node.place
  kind := node.kind.word
  storage := node.storage.word
  label := node.label
  typeName := node.typeName
  size := node.size
  align := node.align
  range := node.span.map range
  state := node.state.word
  provenance := node.provenance.word
  physicalPlacementNote := node.physicalPlacementNote
  truncated := node.truncated

def MemoryEdge.toWire (edge : MemoryEdge) : OwnershipMemoryEdge where
  id := edge.id
  source := edge.source
  target := edge.target
  relation := edge.relation.word
  eventId := edge.eventId
  loanId := edge.loanId
  range := edge.span.map range
  provenance := edge.provenance.word
  pathMarker := edge.pathMarker

def StateDelta.toWire (delta : StateDelta) : OwnershipStateDelta where
  nodeId := delta.nodeId
  fromState := delta.fromState.map OwnershipState.word
  toState := delta.toState.word
  relationAdded := delta.relationAdded.map GraphEdgeRelation.word
  relationRemoved := delta.relationRemoved.map GraphEdgeRelation.word

def OwnershipSnapshot.toWire (snapshot : OwnershipSnapshot) : OwnershipMemorySnapshot where
  id := snapshot.id
  eventId := snapshot.eventId
  bodyId := snapshot.bodyId
  basicBlock := snapshot.basicBlock
  statementIndex := snapshot.statementIndex
  kind := snapshot.kind.word
  range := range snapshot.span
  place := snapshot.place
  loanId := snapshot.loanId
  pathMarker := snapshot.pathMarker
  deltas := snapshot.deltas.map StateDelta.toWire
  provenance := snapshot.provenance.word

/-- A model with the graph of a crate. -/
def MemoryGraph.toModel (graph : MemoryGraph) : OwnershipModel where
  memoryGraph :=
    { nodes := graph.nodes.map (MemoryNode.toWire range)
      edges := graph.edges.map (MemoryEdge.toWire range)
      snapshots := graph.snapshots.map (OwnershipSnapshot.toWire range)
      truncated := graph.truncated }

end Wire

end RustWorkbench.Compiler
