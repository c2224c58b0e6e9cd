import RustWorkbench.Analyzer.Names
import RustWorkbench.Analyzer.Types
import RustWorkbench.Hash
import RustWorkbench.Library.PushNew
import RustWorkbench.Library.StableSort
import RustWorkbench.Wire.Problems

/-!
# The problem list of a file

`handle_ownership_problems` turns the stored diagnostics of a file into problems, adds one for
each rejected use that no problem covers yet, sorts by range and removes adjacent repeats.
-/

namespace RustWorkbench.Analyzer

open PushNew (pushNew)
open StableSort (sortByKey dedupBy sameKey)

/-! ## Facts stored for a file -/

def ownershipEventsForFile (events : OwnershipEvents) (fileId : FileId) : List OwnershipEvent :=
  sortByKey OwnershipEvent.range ((events.forFile fileId).flatten.foldl pushNew [])

def ownershipDiagnosticsForFile (diagnostics : OwnershipDiagnostics) (fileId : FileId) :
    List OwnershipDiagnostic :=
  sortByKey OwnershipDiagnostic.range ((diagnostics.forFile fileId).flatten.foldl pushNew [])

def ownershipTutorialForFile (models : OwnershipTutorialModels) (fileId : FileId) :
    OwnershipTutorialModel :=
  (models.get? fileId).getD {}

/-! ## One problem -/

/-- `ownership_events_for_binding`: a body id of zero is unknown and matches any body. -/
def ownershipEventsForBinding (events : List OwnershipEvent) (selected : OwnershipEvent) :
    List OwnershipEvent :=
  events.filter fun event =>
    (selected.bodyId == 0 || event.bodyId == 0 || event.bodyId == selected.bodyId)
      && (ownershipNameRefersToBinding event.name selected.name
        || ownershipNameRefersToBinding event.place selected.name
        || ownershipNameRefersToBinding selected.name event.name)

def ownershipProblemCategory (code : String) (events : List OwnershipEvent) : String :=
  match code with
  | "E0382" =>
    if events.any fun event => event.kind == .partialMove then "partial_move"
    else "use_after_move"
  | "E0499" => "multiple_mutable_borrows"
  | "E0502" => "mutable_while_shared"
  | "E0503" => "use_while_mutably_borrowed"
  | "E0505" => "move_while_borrowed"
  | "E0506" => "assign_while_borrowed"
  | "E0507" => "move_out_of_borrowed_content"
  | "E0594" | "E0596" => "immutable_mutation"
  | "E0106" => "missing_lifetime"
  | "E0515" => "returning_local_reference"
  | "E0597" => "borrowed_value_too_short"
  | "E0716" => "temporary_dropped_while_borrowed"
  | "E0277" => "trait_requirement"
  | "E0308" => "type_mismatch"
  | "E0599" => "method_or_trait_unavailable"
  | "E0373" => "closure_may_outlive_borrow"
  | "E0521" => "borrowed_data_escapes"
  | "E0728" => "await_outside_async"
  | "E0733" => "recursive_async_function"
  | _ => "generic_borrow_error"

/-- `sort_and_dedup_ranges`. -/
def sortAndDedupRanges (ranges : List Range) : List Range :=
  dedupBy (sameKey id) (sortByKey id ranges)

/-- The event `ownership_problem_from_diagnostic` explains a diagnostic by. -/
def selectedEventFor (diagnostic : OwnershipDiagnostic) (events : List OwnershipEvent) :
    Option OwnershipEvent :=
  let diagnosticName := (ownershipNameFromMessage diagnostic.message).getD "value"
  events.find? fun event =>
    rangesTouch event.range diagnostic.range
      || ownershipNameRefersToBinding event.name diagnosticName
      || ownershipNameRefersToBinding event.place diagnosticName
      || ownershipNameRefersToBinding diagnosticName event.name

/-- The binding a diagnostic is about.  Mutability errors name the exact place, which an event
on its root must not replace. -/
def diagnosticBindingName (diagnostic : OwnershipDiagnostic) (events : List OwnershipEvent) :
    String :=
  let diagnosticName := (ownershipNameFromMessage diagnostic.message).getD "value"
  if diagnostic.code == "E0594" || diagnostic.code == "E0596" then diagnosticName
  else ((selectedEventFor diagnostic events).map (·.name)).getD diagnosticName

def ownershipProblemFromDiagnostic (diagnostic : OwnershipDiagnostic)
    (events : List OwnershipEvent) (tutorial : OwnershipTutorialModel) : OwnershipProblem :=
  let selectedEvent := selectedEventFor diagnostic events
  let bindingName := diagnosticBindingName diagnostic events
  let relatedEvents := (selectedEvent.map (ownershipEventsForBinding events)).getD []
  let binding := tutorial.bindings.find? fun binding =>
    ownershipNameRefersToBinding bindingName binding.name
      || ownershipNameRefersToBinding binding.name bindingName
  let relatedRanges := diagnostic.related.map (·.range)
    ++ (relatedEvents.map (·.range)).filter (· != diagnostic.range)
  let exact := relatedEvents.any (·.exact) || tutorial.schemaVersion ≥ 3 && binding.isSome
  { id := ownershipProblemId diagnostic.code bindingName diagnostic.range
    category := ownershipProblemCategory diagnostic.code relatedEvents
    diagnosticCode := some diagnostic.code
    message := diagnostic.message
    bindingName := bindingName
    primaryRange := diagnostic.range
    bindingRange := (binding.map (·.range) <|> selectedEvent.map (·.bindingRange)).getD
      diagnostic.range
    relatedRanges := sortAndDedupRanges relatedRanges
    related := diagnostic.related.map fun related => ⟨related.message, related.range⟩
    modelPosition := diagnostic.range.start
    precision := if exact then "compiler_exact" else "estimated" }

/-- The problem pushed for a rejected use that no problem covers. -/
def ownershipProblemFromInvalidUse (events : List OwnershipEvent) (event : OwnershipEvent) :
    OwnershipProblem :=
  let relatedEvents := ownershipEventsForBinding events event
  { id := ownershipProblemId "E0382" event.name event.range
    category :=
      if relatedEvents.any fun related => related.kind == .partialMove then "partial_move"
      else "use_after_move"
    diagnosticCode := some "E0382"
    message := "borrow of moved value: `" ++ event.name ++ "`"
    bindingName := event.name
    primaryRange := event.range
    bindingRange := event.bindingRange
    relatedRanges :=
      sortAndDedupRanges ((relatedEvents.map (·.range)).filter (· != event.range))
    related := []
    modelPosition := event.range.start
    precision := if event.exact then "compiler_exact" else "estimated" }

/-! ## The list -/

/-- One round of the loop over the events. -/
def addInvalidUse (events : List OwnershipEvent) (problems : List OwnershipProblem)
    (event : OwnershipEvent) : List OwnershipProblem :=
  if event.kind != .invalidUse then problems
  else if problems.any fun problem => rangesTouch problem.primaryRange event.range then problems
  else problems ++ [ownershipProblemFromInvalidUse events event]

/-- Two problems with the same category, binding and range are one. -/
def problemKey (problem : OwnershipProblem) : String × String × Range :=
  (problem.category, problem.bindingName, problem.primaryRange)

/-- The problems of a file from its stored facts. -/
def ownershipProblemList (diagnostics : List OwnershipDiagnostic) (events : List OwnershipEvent)
    (tutorial : OwnershipTutorialModel) : List OwnershipProblem :=
  let problems := diagnostics.map fun diagnostic =>
    ownershipProblemFromDiagnostic diagnostic events tutorial
  let problems := events.foldl (addInvalidUse events) problems
  dedupBy (sameKey problemKey) (sortByKey OwnershipProblem.primaryRange problems)

def ownershipProblemsOf (diagnostics : List OwnershipDiagnostic) (events : List OwnershipEvent)
    (tutorial : OwnershipTutorialModel) (source : String) : OwnershipProblems :=
  { schemaVersion := max tutorial.schemaVersion 1
    status :=
      if diagnostics.isEmpty && events.isEmpty && tutorial.schemaVersion == 0 then
        "waiting_for_compiler"
      else "ready"
    sourceHash := stableSourceHash source
    problems := ownershipProblemList diagnostics events tutorial }

end RustWorkbench.Analyzer
