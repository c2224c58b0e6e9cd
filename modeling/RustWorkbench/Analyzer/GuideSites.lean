import RustWorkbench.Analyzer.Selection
import Mathlib.Data.List.MinMax

/-!
# Causes, sites and journeys of the workspace guide

The guide groups the diagnostics of all local files by the compiler fact behind them.  Here are
the parts: the id of a cause, the sites and texts of a cluster, the journey of a value to the
rejected operation and the calls that a repair may have to change.
-/

namespace RustWorkbench.Analyzer

open StableSort (sortByKey)

structure WorkspaceOwnershipProblem where
  fileId : FileId
  uri : String
  problem : OwnershipProblem
  causeId : String
  deriving DecidableEq, Repr

/-! ## The cause of a problem -/

/-- The event touches the problem or its binding, or names the binding. -/
def eventMatchesProblem (problem : OwnershipProblem) (event : OwnershipEvent) : Bool :=
  rangesTouch event.range problem.primaryRange
    || rangesTouch event.bindingRange problem.bindingRange
    || ownershipNameRefersToBinding event.name problem.bindingName
    || ownershipNameRefersToBinding event.place problem.bindingName

/-- Moves and the starts of borrows. -/
def isCausalKind : OwnershipEventKind → Bool
  | .move | .partialMove | .borrowShared | .borrowMutable | .borrowActivate => true
  | _ => false

/-- The first move or borrow behind a problem. -/
def causalEvent (problem : OwnershipProblem) (events : List OwnershipEvent) :
    Option OwnershipEvent :=
  (events.filter fun event => eventMatchesProblem problem event && isCausalKind event.kind).argmin
    OwnershipEvent.range

def ownershipProblemFamily (category : String) : String :=
  match category with
  | "use_after_move" | "partial_move" | "move_while_borrowed"
  | "move_out_of_borrowed_content" => "move"
  | "multiple_mutable_borrows" | "mutable_while_shared" | "use_while_mutably_borrowed"
  | "assign_while_borrowed" => "loan"
  | "immutable_mutation" => "mutability"
  | "missing_lifetime" | "returning_local_reference" | "borrowed_value_too_short"
  | "temporary_dropped_while_borrowed" | "borrowed_data_escapes"
  | "closure_may_outlive_borrow" => "lifetime"
  | "trait_requirement" => "trait_boundary"
  | category => category

/-- `ownership_problem_cause_id`. -/
def ownershipProblemCauseId (uri : String) (problem : OwnershipProblem)
    (events : List OwnershipEvent) : String :=
  let matching := events.filter (eventMatchesProblem problem)
  let bodyId := ((matching.map (·.bodyId)).find? (· != 0)).getD 0
  let loanId := matching.findSome? (·.loanId)
  let causalRange := ((causalEvent problem events).map (·.range)).getD problem.bindingRange
  let material := uri ++ "|" ++ toString bodyId ++ "|" ++ ownershipProblemFamily problem.category
    ++ "|" ++ (loanId.map toString).getD "none"
    ++ "|" ++ toString causalRange.start.line ++ ":" ++ toString causalRange.start.character
    ++ "|" ++ ownershipRootName problem.bindingName
  "cluster-" ++ stableSourceHash material

/-! ## Sites -/

/-- `ownership_problem_site`. -/
def ownershipProblemSite (entry : WorkspaceOwnershipProblem) (role relationship : String)
    (selectedProblemId : Option String) : OwnershipWorkspaceSite where
  problemId := some entry.problem.id
  role := role
  location := ⟨entry.uri, entry.problem.primaryRange⟩
  label := entry.problem.message
  relationship := relationship
  precision := entry.problem.precision
  selected := selectedProblemId == some entry.problem.id

def causalLabel (event : OwnershipEvent) : String :=
  match event.kind with
  | .move | .partialMove =>
    match event.destination with
    | some destination => "`" ++ event.place ++ "` moves to " ++ destination.label
    | none => "ownership leaves `" ++ event.place ++ "` here"
  | .borrowShared => "a shared reference starts borrowing `" ++ event.place ++ "` here"
  | .borrowMutable | .borrowActivate => "exclusive access to `" ++ event.place ++ "` starts here"
  | _ => "the ownership constraint on `" ++ event.place ++ "` starts here"

def causalRelationship : OwnershipEventKind → String
  | .move | .partialMove =>
    "The destination now owns the value; the source binding is unavailable until reinitialized."
  | .borrowShared =>
    "This view must keep observing a valid value, so conflicting mutation waits until its last use."
  | .borrowMutable | .borrowActivate =>
    "Exclusive access blocks competing readers and writers for the active loan."
  | _ => "This compiler event establishes the constraint used by the later diagnostic."

/-- `ownership_problem_root_site`. -/
def ownershipProblemRootSite (entry : WorkspaceOwnershipProblem) (events : List OwnershipEvent)
    (selectedProblemId : Option String) : OwnershipWorkspaceSite :=
  match causalEvent entry.problem events with
  | none =>
    ownershipProblemSite entry "root" "rustc reported the ownership constraint here"
      selectedProblemId
  | some event =>
    { problemId := some entry.problem.id
      role := "root"
      location := ⟨entry.uri, event.range⟩
      label := causalLabel event
      relationship := causalRelationship event.kind
      precision := if event.exact then "compiler_exact" else "estimated"
      selected := selectedProblemId == some entry.problem.id
        && rangesTouch event.range entry.problem.primaryRange }

/-! ## Texts of a cluster -/

/-- `ownership_cluster_title`. -/
def ownershipClusterTitle (problem : OwnershipProblem) : String :=
  let target := problem.bindingName
  match problem.category with
  | "use_after_move" | "partial_move" => "`" ++ target ++ "` was transferred, then used again"
  | "multiple_mutable_borrows" => "`" ++ target ++ "` has two exclusive borrowers"
  | "mutable_while_shared" | "assign_while_borrowed" =>
    "`" ++ target ++ "` changes while an earlier view is still needed"
  | "move_while_borrowed" => "`" ++ target ++ "` moves while a view still points into it"
  | "immutable_mutation" => "`" ++ target ++ "` cannot provide mutable access"
  | "returning_local_reference" | "borrowed_value_too_short"
  | "temporary_dropped_while_borrowed" =>
    "A reference to `" ++ target ++ "` would outlive its value"
  | "trait_requirement" => "`" ++ target ++ "` cannot cross this ownership boundary"
  | _ => problem.message

/-- `ownership_cluster_summary`. -/
def ownershipClusterSummary (problem : OwnershipProblem) (diagnosticCount : Nat) : String :=
  let count :=
    if diagnosticCount == 1 then "This is the compiler's root ownership diagnostic."
    else toString diagnosticCount
      ++ " diagnostics share the same compiler ownership cause; fixing the root may clear the others."
  let explanation :=
    match problem.category with
    | "use_after_move" | "partial_move" =>
      "Ownership left the original binding, so Rust cannot use that binding as though it still contains the value."
    | "multiple_mutable_borrows" =>
      "Exclusive access already exists, so another mutable reference could create two writers to the same value."
    | "mutable_while_shared" | "assign_while_borrowed" =>
      "An earlier reference still needs the old value, while this operation would replace or mutate it."
    | "immutable_mutation" =>
      "The operation requires exclusive mutable access, but the path to the value only supplies immutable or shared access."
    | _ =>
      "The sites below are connected by compiler diagnostic, ownership-event, or resolved-call evidence."
  explanation ++ " " ++ count

/-! ## The journey -/

/-- `OwnershipEventKind::label`. -/
def OwnershipEventKind.label : OwnershipEventKind → String
  | .borrowActivate => "borrow activates"
  | .borrowEnd => "borrow ends"
  | .borrowMutable => "&mut borrow"
  | .borrowShared => "shared borrow"
  | .clone => "clone shared handle"
  | .copy => "copy"
  | .drop => "drop"
  | .invalidUse => "invalid use after move"
  | .lastUse => "last use"
  | .move => "move"
  | .partialMove => "partial move"
  | OwnershipEventKind.reinitialize => "reinitialized"

def journeyExplanation (kind : OwnershipEventKind) : String :=
  match kind with
  | .move | .partialMove =>
    "Ownership leaves the source place; the allocation is not implicitly duplicated."
  | .borrowShared =>
    "A shared view is created. Reads remain allowed, but incompatible mutation must wait until its last use."
  | .borrowMutable | .borrowActivate =>
    "Exclusive access is active, so no competing reader or writer may access the same place."
  | .borrowEnd =>
    "The borrow is no longer used on this control-flow path, so the blocked access becomes available again."
  | kind => "Compiler MIR records `" ++ ownershipKindCode kind ++ "` for this place."

def journeyBindingFrame (root : WorkspaceOwnershipProblem) : OwnershipJourneyFrame where
  id := root.problem.id ++ "-binding"
  kind := "binding"
  location := ⟨root.uri, root.problem.bindingRange⟩
  label := "`" ++ root.problem.bindingName ++ "` starts here"
  explanation :=
    "This binding is the source-level name whose ownership or access state Rust is tracking."
  transfer := "binding"
  after := "available"
  provenance := root.problem.precision

def journeyEventFrame (root : WorkspaceOwnershipProblem) (event : OwnershipEvent) :
    OwnershipJourneyFrame where
  id := event.eventId
  kind := ownershipKindCode event.kind
  location := ⟨root.uri, event.range⟩
  label :=
    match event.destination with
    | none => event.kind.label ++ " · `" ++ event.place ++ "`"
    | some destination => "`" ++ event.place ++ "` → " ++ destination.label
  explanation := event.detail.getD (journeyExplanation event.kind)
  transfer := ownershipKindCode event.kind
  after := ownershipStateCode event.state
  provenance := if event.exact then "compiler_exact" else "estimated"

def journeyDiagnosticFrame (root : WorkspaceOwnershipProblem) : OwnershipJourneyFrame where
  id := root.problem.id ++ "-diagnostic"
  kind := "rejected_operation"
  location := ⟨root.uri, root.problem.primaryRange⟩
  label := root.problem.message
  explanation := ownershipClusterSummary root.problem 1
  transfer := "conflict"
  after := "operation rejected; the value itself may still be alive"
  provenance := "compiler_diagnostic"

/-- The events of a journey: those that name the binding or touch a related range. -/
def journeyEvents (root : WorkspaceOwnershipProblem) (events : List OwnershipEvent) :
    List OwnershipEvent :=
  sortByKey OwnershipEvent.range (events.filter fun event =>
    ownershipNameRefersToBinding event.name root.problem.bindingName
      || ownershipNameRefersToBinding event.place root.problem.bindingName
      || root.problem.relatedRanges.any fun range => rangesTouch range event.range)

/-- The loop over the events: room is left for the last frame. -/
def pushJourneyFrames (root : WorkspaceOwnershipProblem) (limit : Nat) :
    List OwnershipJourneyFrame → List OwnershipEvent → List OwnershipJourneyFrame
  | result, [] => result
  | result, event :: events =>
    if result.length + 1 ≥ limit then result
    else pushJourneyFrames root limit (result ++ [journeyEventFrame root event]) events

/-- `ownership_workspace_journey`. -/
def ownershipWorkspaceJourney (snap : Snapshot) (root : WorkspaceOwnershipProblem)
    (limit : Nat) : List OwnershipJourneyFrame :=
  let events := journeyEvents root (ownershipEventsForFile snap.ownershipEvents root.fileId)
  let frames := pushJourneyFrames root limit [journeyBindingFrame root] events
  (frames ++ [journeyDiagnosticFrame root]).take limit

/-! ## Calls of the function around a problem -/

def callerSite (snap : Snapshot) (selectedProblemId : Option String)
    (call : String × FileId × TextRange) : OwnershipWorkspaceSite where
  problemId := selectedProblemId
  role := "caller_constraint"
  location := ⟨snap.fileUrl call.2.1, (snap.fileLineIndex call.2.1).range call.2.2⟩
  label := "Caller `" ++ call.1 ++ "` uses this function"
  relationship := "A signature or receiver repair may require this caller to change."
  precision := "resolved_call"
  selected := false

/-- The loop over the calls, which stops at the limit and skips calls outside the workspace. -/
def pushCallerSites (snap : Snapshot) (selectedProblemId : Option String) (limit : Nat) :
    List OwnershipWorkspaceSite → List (String × FileId × TextRange) →
    List OwnershipWorkspaceSite
  | result, [] => result
  | result, call :: calls =>
    if result.length ≥ limit then result
    else if !snap.isLocal call.2.1 then pushCallerSites snap selectedProblemId limit result calls
    else pushCallerSites snap selectedProblemId limit
      (result ++ [callerSite snap selectedProblemId call]) calls

/-- `ownership_incoming_call_constraints`; it fails for a diagnostic outside the file. -/
def ownershipIncomingCallConstraints (snap : Snapshot) (fileId : FileId)
    (diagnosticRange : Range) (selectedProblemId : Option String) (limit : Nat) :
    Except String (List OwnershipWorkspaceSite) :=
  match (snap.fileLineIndex fileId).offset diagnosticRange.start with
  | .error message => .error message
  | .ok offset =>
    match snap.parse fileId with
    | none => .error "canceled"
    | some file =>
      match file.functionNameAt offset with
      | none => .ok []
      | some functionName =>
        match snap.incomingCalls fileId functionName.start with
        | none => .ok []
        | some callers =>
          .ok (pushCallerSites snap selectedProblemId limit []
            (callers.flatMap fun caller => caller.ranges.map (caller.name, ·)))

end RustWorkbench.Analyzer
