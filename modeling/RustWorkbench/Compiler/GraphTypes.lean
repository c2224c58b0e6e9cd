import RustWorkbench.Compiler.Plan
import RustWorkbench.Hash

/-!
# The serialized ownership facts and the memory graph

What `borrowck_repair.rs` reads when it builds the memory graph of a crate (bindings with their
memory layers, loans, events) and what it writes.  Names drop the `SerializedBorrowck` prefix.
Machine integers are numbers: the builder only prints and compares them.  Of the loans, the
points after the reservation are left out, and of the events the binding and the detail, which
the builder does not read.
-/

namespace RustWorkbench.Compiler

/-! ## The facts -/

inductive MemoryKind
  | aggregateValue | arcAllocation | arcHandle | boxAllocation | boxHandle | cellState
  | conditionalValue | containerBuffer | containerHeader | fatPointerMetadata | guardState
  | inlineValue | mutexState | onceState | pinConstraint | rawPointer | rcAllocation | rcHandle
  | referenceHandle | refCellState | rwLockState | stackBinding | stringBuffer | stringHeader
  | unsafeCellState | vecBuffer | vecHeader | weakAllocation | weakHandle
deriving DecidableEq, Repr

/-- The derived `Debug` text, which goes into the node ids. -/
def MemoryKind.debug : MemoryKind → String
  | aggregateValue => "AggregateValue"
  | arcAllocation => "ArcAllocation"
  | arcHandle => "ArcHandle"
  | boxAllocation => "BoxAllocation"
  | boxHandle => "BoxHandle"
  | cellState => "CellState"
  | conditionalValue => "ConditionalValue"
  | containerBuffer => "ContainerBuffer"
  | containerHeader => "ContainerHeader"
  | fatPointerMetadata => "FatPointerMetadata"
  | guardState => "GuardState"
  | inlineValue => "InlineValue"
  | mutexState => "MutexState"
  | onceState => "OnceState"
  | pinConstraint => "PinConstraint"
  | rawPointer => "RawPointer"
  | rcAllocation => "RcAllocation"
  | rcHandle => "RcHandle"
  | referenceHandle => "ReferenceHandle"
  | refCellState => "RefCellState"
  | rwLockState => "RwLockState"
  | stackBinding => "StackBinding"
  | stringBuffer => "StringBuffer"
  | stringHeader => "StringHeader"
  | unsafeCellState => "UnsafeCellState"
  | vecBuffer => "VecBuffer"
  | vecHeader => "VecHeader"
  | weakAllocation => "WeakAllocation"
  | weakHandle => "WeakHandle"

inductive MemoryStorage
  | conceptual | heap | inline | stack
deriving DecidableEq, Repr

structure MemoryLayer where
  kind : MemoryKind
  storage : MemoryStorage
  label : String
  typeName : String
  size : Option Nat
  align : Option Nat
  provenance : String
deriving DecidableEq, Repr

structure OwnershipBinding where
  bodyId : Nat
  binding : Binding
  typeName : String
  memoryLayers : List MemoryLayer
deriving DecidableEq, Repr

structure Span where
  path : Path
  byteStart : Nat
  byteEnd : Nat
deriving DecidableEq, Repr

inductive LoanKind
  | mutable | shared
deriving DecidableEq, Repr

structure LoanPoint where
  basicBlock : Nat
  span : Span
deriving DecidableEq, Repr

structure OwnershipLoan where
  bodyId : Nat
  loanId : Nat
  kind : LoanKind
  place : String
  reserve : LoanPoint
  truncated : Bool
deriving DecidableEq, Repr

inductive OwnershipEventKind
  | borrowActivate | borrowEnd | borrowMutable | borrowShared | clone | copy | drop | lastUse
  | move | partialMove | reinitialize
deriving DecidableEq, Repr

inductive OwnershipState
  | available | dropped | moved | mutablyBorrowed | partiallyMoved | sharedBorrowed | unknown
deriving DecidableEq, Repr

structure OwnershipDestination where
  place : Option String
  span : Option Span
deriving DecidableEq, Repr

structure OwnershipEvent where
  eventId : String
  bodyId : Nat
  basicBlock : Nat
  statementIndex : Nat
  kind : OwnershipEventKind
  state : OwnershipState
  path : Path
  byteStart : Nat
  byteEnd : Nat
  place : String
  loanId : Option Nat
  destination : Option OwnershipDestination
deriving DecidableEq, Repr

/-! ## The graph -/

inductive GraphStorageRegion
  | stack | inline | heap | static | threadLocal | conceptual | unknown
deriving DecidableEq, Repr

inductive GraphNodeKind
  | binding | handle | wrapper | inlineValue | heapAllocation | buffer | controlBlock | borrowFlag
  | lockState | borrowedView | projectedPlace | guard | metadata | unknown
deriving DecidableEq, Repr

inductive GraphEdgeRelation
  | stores | wraps | owns | contains | ownsBuffer | pointsTo | borrowShared | borrowMutable
  | reborrow | sharesAllocation | weakReference | guardsAccess | conditional | movedTo | unknown
deriving DecidableEq, Repr

/-- The derived `Debug` text, which goes into the edge ids. -/
def GraphEdgeRelation.debug : GraphEdgeRelation → String
  | stores => "Stores"
  | wraps => "Wraps"
  | owns => "Owns"
  | contains => "Contains"
  | ownsBuffer => "OwnsBuffer"
  | pointsTo => "PointsTo"
  | borrowShared => "BorrowShared"
  | borrowMutable => "BorrowMutable"
  | reborrow => "Reborrow"
  | sharesAllocation => "SharesAllocation"
  | weakReference => "WeakReference"
  | guardsAccess => "GuardsAccess"
  | conditional => "Conditional"
  | movedTo => "MovedTo"
  | unknown => "Unknown"

inductive OwnershipProvenance
  | exact | derived | conceptual | unknown
deriving DecidableEq, Repr

/-- `Initialize` is `initialization` here. -/
inductive SnapshotKind
  | initialization | borrowReserve | borrowActivate | move | copy | clone | reborrow | lastUse
  | borrowEnd | conflict | reinitialize | drop | partialMove | unknown
deriving DecidableEq, Repr

inductive AccessKind
  | builtinDeref | traitDeref | traitDerefMut | autoBorrowShared | autoBorrowMutable
  | rawPointerDeref | wrapperBorrow | wrapperBorrowMut | guardDeref | weakUpgrade | optionExtract
  | resultExtract | lockAcquire | unknown
deriving DecidableEq, Repr

inductive AccessMutability
  | shared | mutable | notApplicable | unknown
deriving DecidableEq, Repr

inductive AccessExplicitness
  | automatic | explicit | either | unknown
deriving DecidableEq, Repr

structure MemoryNode where
  id : String
  bodyId : Nat
  place : String
  kind : GraphNodeKind
  storage : GraphStorageRegion
  label : String
  typeName : String
  size : Option Nat
  align : Option Nat
  span : Option Span
  state : OwnershipState
  provenance : OwnershipProvenance
  physicalPlacementNote : String
  truncated : Bool
deriving DecidableEq, Repr

structure MemoryEdge where
  id : String
  source : String
  target : String
  relation : GraphEdgeRelation
  eventId : Option String
  loanId : Option Nat
  span : Option Span
  provenance : OwnershipProvenance
  pathMarker : Option String
deriving DecidableEq, Repr

structure StateDelta where
  nodeId : String
  fromState : Option OwnershipState
  toState : OwnershipState
  relationAdded : Option GraphEdgeRelation
  relationRemoved : Option GraphEdgeRelation
deriving DecidableEq, Repr

structure OwnershipSnapshot where
  id : String
  eventId : String
  bodyId : Nat
  basicBlock : Nat
  statementIndex : Nat
  kind : SnapshotKind
  span : Span
  place : String
  loanId : Option Nat
  pathMarker : Option String
  deltas : List StateDelta
  provenance : OwnershipProvenance
deriving DecidableEq, Repr

structure AccessStep where
  kind : AccessKind
  startingType : String
  resultType : String
  mutability : AccessMutability
  explicitness : AccessExplicitness
  fallible : Bool
  mayPanic : Bool
  requiresUnsafe : Bool
  explanation : String
  provenance : OwnershipProvenance
deriving DecidableEq, Repr

structure AccessPath where
  id : String
  bodyId : Nat
  nodeId : String
  place : String
  purpose : String
  steps : List AccessStep
  provenance : OwnershipProvenance
deriving DecidableEq, Repr

structure MemoryGraph where
  nodes : List MemoryNode := []
  edges : List MemoryEdge := []
  snapshots : List OwnershipSnapshot := []
  accessPaths : List AccessPath := []
  truncated : Bool := false
deriving DecidableEq, Repr

/-- `graph_id`; `stable_bytes_hash` is the hash of `Hash`. -/
def graphId (kind identity : String) : String := kind ++ "-" ++ stableSourceHash identity

end RustWorkbench.Compiler
