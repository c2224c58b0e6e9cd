import RustWorkbench.Library.Assoc
import RustWorkbench.Wire.CodeAction

/-!
# What the analyzer stores

The data types of `diagnostics.rs`: the compiler artifact as it is decoded, the events,
diagnostics and tutorial models kept per file, and the fixes of check diagnostics.

Hash maps are lists of their entries, in whatever order the map iterates.  Machine integers
that are only stored and compared are natural numbers.
-/

namespace RustWorkbench.Analyzer

abbrev FileId := Nat
abbrev PackageSpecifier := String

/-- The entries of an `FxHashMap`. -/
abbrev HashMap := Assoc.Map

/-! ## Events and diagnostics -/

inductive OwnershipEventKind
  | borrowActivate | borrowEnd | borrowMutable | borrowShared | clone | copy | drop
  | invalidUse | lastUse | move | partialMove | reinitialize
  deriving DecidableEq, Repr

inductive OwnershipState
  | available | dropped | moved | mutablyBorrowed | partiallyMoved | sharedBorrowed
  deriving DecidableEq, Repr

structure OwnershipDiagnosticRelated where
  message : String
  range : Range
  deriving DecidableEq, Repr

structure OwnershipDiagnostic where
  code : String
  message : String
  range : Range
  related : List OwnershipDiagnosticRelated
  deriving DecidableEq, Repr

structure OwnershipDestination where
  kind : String
  label : String
  place : Option String
  range : Option Range
  deriving DecidableEq, Repr

structure OwnershipEvent where
  eventId : String
  bodyId : Nat
  basicBlock : Nat
  statementIndex : Nat
  kind : OwnershipEventKind
  state : OwnershipState
  range : Range
  bindingRange : Range
  name : String
  place : String
  loanId : Option Nat
  exact : Bool
  detail : Option String
  destination : Option OwnershipDestination
  deriving DecidableEq, Repr

/-! ## Tutorial models -/

structure OwnershipModelMemoryLayer where
  kind : String
  storage : String
  label : String
  typeName : String
  size : Option Nat
  align : Option Nat
  provenance : String

structure OwnershipModelMemoryNode where
  id : String
  bodyId : Nat
  place : String
  kind : String
  storage : String
  label : String
  typeName : String
  size : Option Nat
  align : Option Nat
  state : OwnershipState
  provenance : String
  physicalPlacementNote : String
  truncated : Bool

structure OwnershipModelMemoryEdge where
  id : String
  source : String
  target : String
  relation : String
  eventId : Option String
  loanId : Option Nat
  provenance : String
  pathMarker : Option String

structure OwnershipModelStateDelta where
  nodeId : String
  fromState : Option OwnershipState
  toState : OwnershipState
  relationAdded : Option String
  relationRemoved : Option String

structure OwnershipModelSnapshot where
  id : String
  eventId : String
  bodyId : Nat
  basicBlock : Nat
  statementIndex : Nat
  kind : String
  place : String
  loanId : Option Nat
  pathMarker : Option String
  deltas : List OwnershipModelStateDelta
  provenance : String

structure OwnershipModelAccessStep where
  kind : String
  startingType : String
  resultType : String
  mutability : String
  explicitness : String
  fallible : Bool
  mayPanic : Bool
  requiresUnsafe : Bool
  explanation : String
  provenance : String

structure OwnershipModelAccessPath where
  id : String
  bodyId : Nat
  nodeId : String
  place : String
  purpose : String
  steps : List OwnershipModelAccessStep
  provenance : String

structure OwnershipTutorialMemoryNode where
  node : OwnershipModelMemoryNode
  range : Option Range

structure OwnershipTutorialMemoryEdge where
  edge : OwnershipModelMemoryEdge
  range : Option Range

structure OwnershipTutorialSnapshot where
  snapshot : OwnershipModelSnapshot
  range : Range

structure OwnershipTutorialMemoryGraph where
  nodes : List OwnershipTutorialMemoryNode := []
  edges : List OwnershipTutorialMemoryEdge := []
  snapshots : List OwnershipTutorialSnapshot := []
  accessPaths : List OwnershipModelAccessPath := []
  truncated : Bool := false

structure OwnershipTutorialBlock where
  basicBlock : Nat
  range : Range
  successors : List Nat

structure OwnershipTutorialBody where
  bodyId : Nat
  name : String
  range : Range
  blocks : List OwnershipTutorialBlock

structure OwnershipTutorialBinding where
  bodyId : Nat
  name : String
  range : Range
  typeName : String
  size : Option Nat
  align : Option Nat
  memoryLayers : List OwnershipModelMemoryLayer

structure OwnershipTutorialLoanPoint where
  basicBlock : Nat
  statementIndex : Nat
  range : Range

structure OwnershipTutorialLoan where
  bodyId : Nat
  loanId : Nat
  kind : String
  name : String
  place : String
  reserve : OwnershipTutorialLoanPoint
  activation : Option OwnershipTutorialLoanPoint
  livePoints : List OwnershipTutorialLoanPoint
  endPoints : List OwnershipTutorialLoanPoint
  truncated : Bool

structure OwnershipTutorialModel where
  schemaVersion : Nat := 0
  targetTriple : String := ""
  bodies : List OwnershipTutorialBody := []
  bindings : List OwnershipTutorialBinding := []
  loans : List OwnershipTutorialLoan := []
  memoryGraph : OwnershipTutorialMemoryGraph := {}

/-! ## Fixes -/

inductive OwnershipWrapperFix
  | arc | arcMutex | arcRwLock | mutex | rc | refCell | rcRefCell | rwLock | all
  deriving DecidableEq, Repr

structure Fix where
  ranges : List Range
  action : CodeAction
  ownershipWrapper : Option OwnershipWrapperFix
  deriving DecidableEq, Repr

/-! ## The per-flycheck stores -/

/-- One map per flycheck, then per package, then per file. -/
abbrev PerFlycheck (ν : Type) := List (HashMap (Option PackageSpecifier) (HashMap FileId ν))

/-- Everything stored for a file, over all flychecks and packages. -/
def PerFlycheck.forFile {ν : Type} (store : PerFlycheck ν) (fileId : FileId) : List ν :=
  (store.flatMap fun flycheck => flycheck.values).filterMap fun package => package.get? fileId

abbrev CheckFixes := PerFlycheck (List Fix)
abbrev OwnershipEvents := PerFlycheck (List OwnershipEvent)
abbrev OwnershipDiagnostics := PerFlycheck (List OwnershipDiagnostic)
abbrev OwnershipTutorialModels := HashMap FileId OwnershipTutorialModel

end RustWorkbench.Analyzer
