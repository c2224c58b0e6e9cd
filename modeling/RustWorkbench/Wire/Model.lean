import RustWorkbench.Lsp

/-!
# The ownership model on the wire

The JSON value that `rust-analyzer/ownershipModel` returns.  As for the problem list, the
analyzer and the editor declare the same fields.  Field defaults are those of `Default`;
optional values without a default in the source are given explicitly where they are built.
-/

namespace RustWorkbench

structure OwnershipEventDestination where
  kind : String
  label : String
  place : Option String
  range : Option Range

structure OwnershipEvent where
  eventId : String
  bodyId : Nat
  basicBlock : Nat
  statementIndex : Nat
  kind : String
  state : String
  place : String
  loanId : Option Nat
  range : Range
  bindingRange : Range
  detail : Option String
  destination : Option OwnershipEventDestination

structure OwnershipValueTraceStep where
  id : String
  kind : String
  range : Range
  fromLabel : String
  toLabel : Option String
  sourceState : String
  destinationState : Option String
  allocationEffect : String
  explanation : String
  provenance : String
  controlFlow : Option String

structure OwnershipBlock where
  basicBlock : Nat
  range : Range
  successors : List Nat

structure OwnershipBody where
  bodyId : Nat
  name : String
  range : Range
  blocks : List OwnershipBlock
  provenance : String

structure OwnershipMemoryLayer where
  kind : String
  storage : String
  label : String
  typeName : String
  size : Option Nat
  align : Option Nat
  provenance : String

structure OwnershipBinding where
  id : String
  bodyId : Nat
  name : String
  range : Range
  typeName : String
  size : Option Nat
  align : Option Nat
  memoryLayers : List OwnershipMemoryLayer
  provenance : String

structure OwnershipLoanPoint where
  basicBlock : Nat
  statementIndex : Nat
  range : Range

structure OwnershipLoan where
  bodyId : Nat
  loanId : Nat
  kind : String
  name : String
  place : String
  reserve : OwnershipLoanPoint
  activation : Option OwnershipLoanPoint
  livePoints : List OwnershipLoanPoint
  endPoints : List OwnershipLoanPoint
  truncated : Bool
  provenance : String

structure OwnershipMemoryNode where
  id : String
  bodyId : Nat
  place : String
  kind : String
  storage : String
  label : String
  typeName : String
  size : Option Nat
  align : Option Nat
  range : Option Range
  state : String
  provenance : String
  physicalPlacementNote : String
  truncated : Bool

structure OwnershipMemoryEdge where
  id : String
  source : String
  target : String
  relation : String
  eventId : Option String
  loanId : Option Nat
  range : Option Range
  provenance : String
  pathMarker : Option String

structure OwnershipStateDelta where
  nodeId : String
  fromState : Option String
  toState : String
  relationAdded : Option String
  relationRemoved : Option String

structure OwnershipMemorySnapshot where
  id : String
  eventId : String
  bodyId : Nat
  basicBlock : Nat
  statementIndex : Nat
  kind : String
  range : Range
  place : String
  loanId : Option Nat
  pathMarker : Option String
  deltas : List OwnershipStateDelta
  provenance : String

structure OwnershipAccessStep where
  kind : String
  startingType : String
  resultType : String
  mutability : String
  explicitness : String
  fallible : Bool
  mayPanic : Bool
  requiresUnsafe : Bool
  explanation : String
  provenance : String

structure OwnershipAccessPath where
  id : String
  bodyId : Nat
  nodeId : String
  place : String
  purpose : String
  steps : List OwnershipAccessStep
  provenance : String

structure OwnershipMemoryGraph where
  nodes : List OwnershipMemoryNode := []
  edges : List OwnershipMemoryEdge := []
  snapshots : List OwnershipMemorySnapshot := []
  accessPaths : List OwnershipAccessPath := []
  truncated : Bool := false

structure OwnershipRepairEffects where
  ownership : String := ""
  mutation : String := ""
  threadSafety : String := ""
  runtimeRisk : String := ""
  cost : String := ""

structure OwnershipRepair where
  id : String
  title : String
  strategy : String
  semantics : String
  diff : String
  affectedFiles : List String
  previewComplete : Bool
  compilerValidated : Bool
  validationState : String
  effects : OwnershipRepairEffects
  previewGraph : Option OwnershipMemoryGraph

structure OwnershipOperationReceiver where
  expression : String
  range : Range
  transfer : String
  after : String
  provenance : String

structure OwnershipOperationArgument where
  index : Nat
  expression : String
  range : Range
  parameterType : String
  transfer : String
  after : String
  provenance : String

structure OwnershipOperationReturn where
  typeName : String
  kind : String
  borrowedFrom : Option String
  after : String
  provenance : String

structure OwnershipOperationEffect where
  kind : String
  summary : String
  certainty : String

structure OwnershipOperationAlternative where
  name : String
  signature : String
  access : String
  behavior : String
  difference : String

structure OwnershipOperationInsight where
  id : String
  range : Range
  name : String
  signature : String
  receiverType : Option String
  requiredAccess : String
  availableAccess : String
  whyRequired : String
  documentation : Option String
  effects : List String
  effectFacts : List OwnershipOperationEffect
  callChain : List String
  alternatives : List OwnershipOperationAlternative
  provenance : String
  truncated : Bool
  summary : String
  ownershipRelevant : Bool
  receiverFlow : Option OwnershipOperationReceiver
  argumentFlows : List OwnershipOperationArgument
  returnFlow : Option OwnershipOperationReturn

structure OwnershipMutationRequirement where
  targetPlace : String
  accessSource : String
  availableAccess : String
  requiredAccess : String
  operationId : String
  operationName : String
  explanation : String
  provenance : String

structure OwnershipConflictNode where
  id : String
  label : String
  typeName : Option String
  role : String
  memory : String
  range : Option Range

structure OwnershipConflictEdge where
  source : String
  target : String
  kind : String
  label : String
  provenance : String

structure OwnershipConflictNodeState where
  nodeId : String
  state : String
  explanation : String

structure OwnershipConflictSnapshot where
  phase : String
  title : String
  explanation : String
  range : Range
  states : List OwnershipConflictNodeState

structure OwnershipConflictGraph where
  title : String
  summary : String
  requestedAccess : String
  nodes : List OwnershipConflictNode
  edges : List OwnershipConflictEdge
  snapshots : List OwnershipConflictSnapshot
  provenance : String
  truncated : Bool

structure OwnershipContextItem where
  kind : String
  label : String
  range : Option Range

structure OwnershipSourceContext where
  file : String
  breadcrumbs : List OwnershipContextItem
  callPaths : List (List String)
  relatedTypes : List String
  provenance : String
  truncated : Bool

structure OwnershipCSketch where
  title : String
  code : String
  warning : String
  linkedEventIds : List String
  provenance : String

structure OwnershipModel where
  schemaVersion : Nat := 0
  compilerSchemaVersion : Nat := 0
  targetTriple : String := ""
  precision : String := ""
  status : String := ""
  truncated : Bool := false
  sourceHash : String := ""
  selectedProblemId : Option String := none
  selectedPlace : Option String := none
  events : List OwnershipEvent := []
  valueTrace : List OwnershipValueTraceStep := []
  repairs : List OwnershipRepair := []
  bodies : List OwnershipBody := []
  bindings : List OwnershipBinding := []
  loans : List OwnershipLoan := []
  memoryGraph : OwnershipMemoryGraph := {}
  operations : List OwnershipOperationInsight := []
  mutationRequirement : Option OwnershipMutationRequirement := none
  conflictGraph : Option OwnershipConflictGraph := none
  sourceContext : Option OwnershipSourceContext := none
  cSketch : Option OwnershipCSketch := none

end RustWorkbench
