import RustWorkbench.Analyzer.Conflict
import Mathlib.Data.String.Basic
import Mathlib.Data.List.Lex

/-!
# Explanations added to a model

The resolved calls on the selected flow, why a mutation is refused, where the request stands in
the source, how the value travels, and the C-like sketch.
-/

namespace RustWorkbench.Analyzer

open StableSort (sortByKey dedupBy sameKey)

/-! ## Operations -/

/-- The offsets the calls are resolved at: the request, the ends of the diagnostic's ranges and
the starts of the events, at most 24. -/
def operationPositions (lineIndex : LineIndex) (fileRange : TextRange)
    (diagnostic : Option OwnershipDiagnostic) (events : List RustWorkbench.OwnershipEvent) :
    List Nat :=
  let diagnosticPositions := diagnostic.toList.flatMap fun diagnostic =>
    ([diagnostic.range.start, diagnostic.range.stop]
      ++ diagnostic.related.flatMap fun related => [related.range.start, related.range.stop])
  let eventPositions := (events.take MAX_INTERACTIVE_EVENTS).map fun event => event.range.start
  let positions := [fileRange.start]
    ++ (diagnosticPositions ++ eventPositions).filterMap fun position =>
      (lineIndex.offset position).toOption
  (dedupBy (sameKey id) (sortByKey id positions)).take 24

/-- The insights in the order they are listed: calls at the cursor first, then by range, each
range once. -/
def operationInsights (insights : List OwnershipCallInsight) (fileRange : TextRange) :
    List OwnershipCallInsight :=
  dedupBy (sameKey OwnershipCallInsight.range) (sortByKey (fun insight =>
    toLex ((if insight.range.start ≤ fileRange.start ∧ fileRange.start ≤ insight.range.stop
        then 0 else 1 : Nat),
      toLex (insight.range.start, insight.range.stop))) insights)

def operationToLsp (lineIndex : LineIndex) (operation : OwnershipCallInsight) (index : Nat) :
    OwnershipOperationInsight where
  id := "operation-" ++ toString index ++ "-" ++ toString operation.range.start ++ "-"
    ++ operation.name
  range := lineIndex.range operation.range
  name := operation.name
  signature := operation.signature
  receiverType := operation.receiverType
  requiredAccess := operation.requiredAccess
  availableAccess := operation.availableAccess
  whyRequired := operation.whyRequired
  documentation := operation.documentation
  effects := operation.effects
  effectFacts := operation.effectFacts
  callChain := operation.callChain
  alternatives := operation.alternatives
  provenance := operation.provenance
  truncated := operation.truncated
  summary := operation.summary
  ownershipRelevant := operation.ownershipRelevant
  receiverFlow := operation.receiverFlow.map fun receiver =>
    { expression := receiver.expression
      range := lineIndex.range receiver.range
      transfer := receiver.transfer
      after := receiver.after
      provenance := receiver.provenance }
  argumentFlows := operation.argumentFlows.map fun argument =>
    { index := argument.index
      expression := argument.expression
      range := lineIndex.range argument.range
      parameterType := argument.parameterType
      transfer := argument.transfer
      after := argument.after
      provenance := argument.provenance }
  returnFlow := some operation.returnFlow

def operationsToLsp (lineIndex : LineIndex) (insights : List OwnershipCallInsight) :
    List OwnershipOperationInsight :=
  (insights.take 64).zipIdx.map fun (operation, index) => operationToLsp lineIndex operation index

/-! ## Why a mutation is refused -/

/-- The operation responsible for a mutability error: the narrowest one at the diagnostic, or the
one closest to it. -/
def mutatingOperation (diagnostic : OwnershipDiagnostic)
    (operations : List OwnershipOperationInsight) : Option OwnershipOperationInsight :=
  let mutating := operations.filter fun operation => operation.requiredAccess == "mutable_borrow"
  ((mutating.filter fun operation => rangesTouch operation.range diagnostic.range).argmin
      fun operation => toLex (operation.range.stop.line - operation.range.start.line,
        operation.range.stop.character - operation.range.start.character))
  <|> mutating.argmin fun operation =>
    toLex (absDiff operation.range.start.line diagnostic.range.start.line,
      absDiff operation.range.start.character diagnostic.range.start.character)

/-- Access source, available access and explanation. -/
def mutationAccess (diagnostic : OwnershipDiagnostic) (file : Option SourceFile)
    (lineIndex : LineIndex) (operation : OwnershipOperationInsight) (targetPlace : String) :
    String × String × String :=
  let receiverType := operation.receiverType.getD ""
  let message := toAsciiLowercase diagnostic.message
  if startsWith receiverType "Rc<" || startsWith receiverType "Arc<" then
    (targetPlace ++ " through a shared-owner handle", "shared_owner",
      "`" ++ targetPlace ++ "` is reached through `" ++ receiverType
        ++ "`. Shared ownership permits reading through the handle, but it does not provide the "
        ++ "exclusive mutable access required by `" ++ operation.name ++ "`.")
  else if targetPlace == "self" || startsWith targetPlace "self." then
    let selfKind := file.bind fun file =>
      (lineIndex.textRange diagnostic.range).toOption.bind fun range =>
        file.selfParamAt range.start
    match selfKind with
    | some .ref =>
      ("&self", "shared_borrow",
        "`" ++ targetPlace ++ "` is reached through `&self`. That permits shared reads, but it "
          ++ "cannot create the exclusive mutable borrow required by `" ++ operation.name ++ "`.")
    | some .mutRef =>
      if containsText message "behind a `&`" then
        ("a shared reference inside " ++ targetPlace, "shared_borrow",
          "The method has `&mut self`, but `" ++ targetPlace ++ "` is still reached through a "
            ++ "shared reference. That inner reference cannot provide the exclusive mutable "
            ++ "borrow required by `" ++ operation.name ++ "`.")
      else ("&mut self", "mutable_receiver_with_blocked_path", diagnostic.message)
    | some .owned => ("self", "owned_receiver_with_blocked_path", diagnostic.message)
    | none => ("the path through self", "insufficient_mutable_access", diagnostic.message)
  else if containsText message "not declared as mutable" then
    let root := ownershipRootName targetPlace
    ("immutable binding " ++ root, "immutable_binding",
      "`" ++ root ++ "` was not declared with `mut`, so `" ++ targetPlace
        ++ "` cannot provide the exclusive mutable borrow required by `" ++ operation.name ++ "`.")
  else if containsText message "behind a `&`" then
    ("shared reference to " ++ targetPlace, "shared_borrow",
      "`" ++ targetPlace ++ "` is reached through a shared reference, which cannot provide the "
        ++ "exclusive mutable borrow required by `" ++ operation.name ++ "`.")
  else ("the path to " ++ targetPlace, "insufficient_mutable_access", diagnostic.message)

/-- `ownership_mutation_requirement`. -/
def ownershipMutationRequirement (diagnostic : Option OwnershipDiagnostic)
    (file : Option SourceFile) (lineIndex : LineIndex)
    (operations : List OwnershipOperationInsight) : Option OwnershipMutationRequirement := do
  let diagnostic ← diagnostic
  if diagnostic.code != "E0594" && diagnostic.code != "E0596" then none
  else
    let diagnosticTarget ← ownershipNameFromMessage diagnostic.message
    let operation ← mutatingOperation diagnostic operations
    let receiver := file.bind fun file =>
      (lineIndex.textRange operation.range).toOption.bind fun range =>
        (file.receiverAt range.start range).map boundedSourceLabel
    let targetPlace := receiver.getD diagnosticTarget
    let access := mutationAccess diagnostic file lineIndex operation targetPlace
    return {
      targetPlace
      accessSource := access.1
      availableAccess := access.2.1
      requiredAccess := operation.requiredAccess
      operationId := operation.id
      operationName := operation.name
      explanation := access.2.2
      provenance := "compiler_diagnostic_and_resolved_signature" }

/-! ## Where the request stands -/

def MAX_BREADCRUMBS : Nat := 8
def MAX_CALL_PATHS : Nat := 12
def MAX_RELATED_TYPES : Nat := 16

/-- `ownership_source_context`. -/
def ownershipSourceContext (snap : Snapshot) (uri : String) (file : SourceFile)
    (lineIndex : LineIndex) (request : Range) (operations : List OwnershipOperationInsight)
    (bindings : List OwnershipBinding) : OwnershipSourceContext :=
  let fileLabel := (snap.urlFileName uri).getD "Rust source file"
  let items := match lineIndex.offset request.start with
    | .error _ => []
    | .ok offset => ((file.itemsAt offset).reverse.take (MAX_BREADCRUMBS - 1)).map
        fun item => ⟨item.1, item.2.1, some (lineIndex.range item.2.2)⟩
  let callPaths := dedupBy (sameKey id) (sortByKey id
    ((operations.filter fun operation => !operation.callChain.isEmpty).map (·.callChain)))
  let relatedTypes := dedupBy (sameKey id) (sortByKey id
    (bindings.map (·.typeName) ++ operations.filterMap (·.receiverType)))
  { file := fileLabel
    breadcrumbs := ⟨"file", fileLabel, none⟩ :: items
    callPaths := callPaths.take MAX_CALL_PATHS
    relatedTypes := relatedTypes.take MAX_RELATED_TYPES
    provenance := "source_syntax_resolved_calls_and_compiler_types"
    truncated :=
      callPaths.length > MAX_CALL_PATHS || relatedTypes.length > MAX_RELATED_TYPES }

/-! ## How the value travels -/

def MAX_VALUE_TRACE_STEPS : Nat := 24

/-- Source state, destination state, allocation effect and explanation of an event; `none` for
the kinds that are no step of the trace. -/
def traceWords (event : RustWorkbench.OwnershipEvent) :
    Option (String × Option String × String × String) :=
  let target := (event.destination.map (·.label)).getD "the receiving operation"
  let transfer := fun (state : String) => some
    (state, some "owns the transferred value",
      "Ownership changes hands; the underlying allocation is not copied by the move.",
      "Ownership of `" ++ event.place ++ "` flows to " ++ target
        ++ ". The old name no longer owns that value on this path.")
  let exclusive := some
    ("mutably borrowed", some "temporary exclusive reference",
      "No ownership or allocation moves; access is exclusive for the loan's live range.",
      "An exclusive mutable reference temporarily accesses `" ++ event.place ++ "`.")
  match event.kind with
  | "move" => transfer "unavailable through this name"
  | "partial_move" => transfer "partially moved"
  | "copy" => some
    ("still available", some "receives a copied value",
      "Copy duplicates the value representation; it does not create shared ownership.",
      "`" ++ event.place ++ "` implements Copy, so using it leaves the source available.")
  | "clone" => some
    ("still available as one shared owner", some "new handle to the same allocation",
      "Clone duplicates the Rc/Arc handle and increments its symbolic strong count; the inner "
        ++ "allocation is shared, not copied.",
      "`" ++ event.place ++ "` remains usable while the destination becomes another owner of the "
        ++ "same allocation.")
  | "borrow_shared" => some
    ("shared-borrowed", some "temporary shared reference",
      "No ownership or allocation moves; a temporary non-owning reference is created.",
      "A shared reference temporarily reads `" ++ event.place ++ "`.")
  | "borrow_mutable" => exclusive
  | "borrow_activate" => exclusive
  | "borrow_end" => some
    ("available after this point", none, "No allocation changes; the compiler loan ends.",
      "The temporary borrow of `" ++ event.place ++ "` is no longer live.")
  | "invalid_use" => some
    ("unavailable", none, "No runtime operation occurs because rustc rejects the program.",
      "This use asks `" ++ event.place ++ "` for a value that this name no longer owns.")
  | "reinitialize" => some
    ("available with a new value", none,
      "A new value is assigned to the binding; this does not restore the old moved value.",
      "`" ++ event.place ++ "` receives a new value and becomes usable again.")
  | "drop" => some
    ("dropped", none,
      "The owned value is destroyed; owned resources are released according to Drop.",
      "`" ++ event.place ++ "` reaches its drop point.")
  | _ => none

def bindingStep (first : RustWorkbench.OwnershipEvent) : OwnershipValueTraceStep where
  id := "binding-" ++ first.eventId
  kind := "binding_introduced"
  range := first.bindingRange
  fromLabel := first.place
  toLabel := none
  sourceState := "available"
  destinationState := none
  allocationEffect := "No allocation claim: this marks where the source binding is introduced."
  explanation := "`" ++ first.place ++ "` is the name rustc tracks. A binding is a name for a "
    ++ "value; it is not necessarily the heap allocation itself."
  provenance := "compiler_exact"
  controlFlow := none

def eventStep (event : RustWorkbench.OwnershipEvent) : Option OwnershipValueTraceStep :=
  (traceWords event).map fun (sourceState, destinationState, allocationEffect, explanation) =>
    { id := event.eventId
      kind := event.kind
      range := event.range
      fromLabel := event.place
      toLabel := event.destination.map (·.label)
      sourceState
      destinationState
      allocationEffect
      explanation
      provenance := "compiler_exact"
      controlFlow := some ("MIR bb" ++ toString event.basicBlock ++ ", statement "
        ++ toString event.statementIndex) }

def cloneStep (operation : OwnershipOperationInsight) : OwnershipValueTraceStep :=
  let receiver := operation.receiverType.getD "the receiver"
  let sharedHandle := containsText receiver "Rc<" || containsText receiver "Arc<"
  { id := "clone-" ++ operation.id
    kind := "clone"
    range := operation.range
    fromLabel := receiver
    toLabel := some "the new clone result"
    sourceState := "still available"
    destinationState := some
      (if sharedHandle then "new handle to the same allocation" else "independent cloned value")
    allocationEffect :=
      if sharedHandle then
        "Rc::clone/Arc::clone keeps the allocation and increases the symbolic strong count by one."
      else "Clone behavior and allocation cost come from this type's Clone implementation."
    explanation := "Resolved `" ++ receiver ++ "::clone` returns another usable value."
    provenance := operation.provenance
    controlFlow := none }

/-- `ownership_value_trace`: the introduction of the binding, then events, then clone calls, until
the trace is full. -/
def ownershipValueTrace (events : List RustWorkbench.OwnershipEvent)
    (operations : List OwnershipOperationInsight) : List OwnershipValueTraceStep :=
  (events.head?.toList.map bindingStep ++ events.filterMap eventStep
    ++ (operations.filter fun operation => operation.name == "clone").map cloneStep).take
      MAX_VALUE_TRACE_STEPS

/-- One step of `ownership_conflict_value_trace`. -/
def conflictStep (graph : OwnershipConflictGraph) (borrower referent : OwnershipConflictNode)
    (snapshot : OwnershipConflictSnapshot) (index : Nat) : OwnershipValueTraceStep :=
  let borrowKind := ((graph.edges.find? fun edge =>
    edge.source == "borrower" && edge.target == "referent").map (·.kind)).getD "borrows_shared"
  let state := fun (nodeId : String) =>
    (snapshot.states.find? fun state => state.nodeId == nodeId).map (·.state)
  let rejected := snapshot.phase == "operation_rejected"
  { id := "conflict-" ++ toString index ++ "-" ++ snapshot.phase
    kind := match snapshot.phase with
      | "borrow_created" =>
        if borrowKind == "borrows_mutable" then "borrow_mutable" else "borrow_shared"
      | "operation_rejected" => "invalid_use"
      | "borrow_ended" => "borrow_end"
      | _ => "state"
    range := snapshot.range
    fromLabel := if rejected then referent.label else borrower.label
    toLabel := some (if rejected then borrower.label else referent.label)
    sourceState := (if rejected then state "referent" else state "borrower").getD "alive"
    destinationState := if rejected then state "borrower" else state "referent"
    allocationEffect := match snapshot.phase with
      | "borrow_created" => "A reference is created. Ownership and the underlying allocation stay "
          ++ "where they are."
      | "operation_rejected" => "No write, move, or allocation occurs because rustc rejects the "
          ++ "incompatible access."
      | "borrow_ended" => "The reference reaches its last use. Ownership is unchanged and the "
          ++ "blocked access becomes available afterward."
      | _ => "No ownership or allocation change is implied by this compiler snapshot."
    explanation := match graph.nodes.find? fun node => node.id == "owner" with
      | some owner => snapshot.explanation ++ " `" ++ owner.label
          ++ "` remains the owner path throughout this step."
      | none => snapshot.explanation
    provenance := graph.provenance
    controlFlow := none }

/-- `ownership_conflict_value_trace`. -/
def ownershipConflictValueTrace (graph : OwnershipConflictGraph) : List OwnershipValueTraceStep :=
  match graph.nodes.find? fun node => node.id == "borrower" with
  | none => []
  | some borrower =>
    match graph.nodes.find? fun node => node.id == "referent" with
    | none => []
    | some referent => graph.snapshots.zipIdx.map fun (snapshot, index) =>
        conflictStep graph borrower referent snapshot index

/-! ## The sketch -/

/-- The code of the sketch for a name and a type. -/
def sketchCode (name typeName : String) (strategy : Option String)
    (events : List RustWorkbench.OwnershipEvent) : String :=
  match strategy with
  | some "rc" | some "arc" =>
    "// Operational sketch: shared ownership, not Rust ABI\nShared *" ++ name
      ++ " = shared_new(value);   // count = 1\nShared *alias = shared_retain(" ++ name
      ++ "); // count += 1\nuse(alias->value);\nshared_release(alias);\nshared_release(" ++ name
      ++ ");                // free at count == 0"
  | some "ref_cell" | some "rc_ref_cell" =>
    "// Operational sketch: dynamic borrow checking\nCell " ++ name
      ++ " = cell_new(value);\nif (!cell_try_borrow_mut(&" ++ name
      ++ ")) panic_conflicting_borrow();\nmutate(" ++ name ++ ".value);\ncell_release_mut(&" ++ name
      ++ ");"
  | some "mutex" | some "arc_mutex" | some "rw_lock" | some "arc_rw_lock" =>
    "// Operational sketch: synchronized interior mutation\nLock " ++ name
      ++ " = lock_new(value);\nGuard guard = lock_acquire(&" ++ name
      ++ ");\nmutate(guard.value);\nlock_release(guard);"
  | _ =>
    if events.any fun event => event.kind == "move" then
      "// Operational sketch: Rust move as ownership transfer\n" ++ typeName
        ++ " *owner = make_value();\n" ++ typeName ++ " *new_owner = owner;\nowner = NULL;"
        ++ "              // old name must not be used\nuse(new_owner);\ndestroy(new_owner);"
    else
      "// Operational sketch: a borrow is a temporary non-owning view\n" ++ typeName ++ " *" ++ name
        ++ " = make_value();\nconst " ++ typeName ++ " *view = " ++ name
        ++ ";\nuse(view);                  // borrow ends after last use\ndestroy(" ++ name ++ ");"

/-- `ownership_c_sketch`. -/
def ownershipCSketch (selectedName : Option String) (bindings : List OwnershipBinding)
    (events : List RustWorkbench.OwnershipEvent) (repairs : List OwnershipRepair) :
    Option OwnershipCSketch :=
  selectedName.map fun name =>
    { title := "C-like intent sketch for `" ++ name ++ "`"
      code := sketchCode name ((bindings.head?.map (·.typeName)).getD "T")
        (repairs.head?.map (·.strategy)) events
      warning := "Explanatory pseudocode only: not Rust ABI-equivalent and not guaranteed to "
        ++ "compile as C."
      linkedEventIds := events.map (·.eventId)
      provenance := "conceptual" }

end RustWorkbench.Analyzer
