import RustWorkbench.Lsp

/-!
# Problem lists and the workspace guide on the wire

The JSON values that `rust-analyzer/ownershipProblems`, `ownershipWorkspaceGuide` and
`ownershipValidateRepair` return.  The analyzer and the editor declare them with the same
fields, so one type stands for both ends.  Field defaults are those of `Default`.
-/

namespace RustWorkbench

structure OwnershipProblemRelated where
  message : String
  range : Range
  deriving DecidableEq, Repr

structure OwnershipProblem where
  id : String
  category : String
  diagnosticCode : Option String
  message : String
  bindingName : String
  primaryRange : Range
  bindingRange : Range
  relatedRanges : List Range
  related : List OwnershipProblemRelated
  modelPosition : Position
  precision : String
  deriving DecidableEq, Repr

structure OwnershipProblems where
  schemaVersion : Nat := 0
  status : String := ""
  sourceHash : String := ""
  problems : List OwnershipProblem := []
  deriving DecidableEq, Repr

structure OwnershipWorkspaceSite where
  problemId : Option String
  role : String
  location : Location
  label : String
  relationship : String
  precision : String
  selected : Bool
  deriving DecidableEq, Repr

structure OwnershipProblemCluster where
  id : String
  rootProblemId : String
  title : String
  summary : String
  category : String
  diagnosticCode : Option String
  root : OwnershipWorkspaceSite
  impacts : List OwnershipWorkspaceSite
  relatedConstraints : List OwnershipWorkspaceSite
  affectedFiles : Nat
  precision : String
  truncated : Bool
  deriving DecidableEq, Repr

structure OwnershipJourneyFrame where
  id : String
  kind : String
  location : Location
  label : String
  explanation : String
  transfer : String
  after : String
  provenance : String
  deriving DecidableEq, Repr

structure OwnershipIntentChoice where
  id : String
  label : String
  consequence : String
  deriving DecidableEq, Repr

structure OwnershipIntentQuestion where
  id : String
  prompt : String
  choices : List OwnershipIntentChoice
  deriving DecidableEq, Repr

structure OwnershipWorkspaceGuide where
  schemaVersion : Nat := 0
  status : String := ""
  revision : String := ""
  selectedClusterId : Option String := none
  clusters : List OwnershipProblemCluster := []
  journey : List OwnershipJourneyFrame := []
  intentQuestion : Option OwnershipIntentQuestion := none
  truncated : Bool := false
  deriving DecidableEq, Repr

structure OwnershipRepairValidationResult where
  status : String
  message : String
  deriving DecidableEq, Repr

end RustWorkbench
