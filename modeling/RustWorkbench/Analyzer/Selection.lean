import RustWorkbench.Analyzer.Problems
import RustWorkbench.Analyzer.Snapshot

/-!
# What a position selects

`handle_ownership_model` first finds the diagnostic and the event at the request position and
the body and binding name they stand for; events, bodies, bindings, loans and memory are then
filtered by that context.
-/

namespace RustWorkbench.Analyzer

open RustWorkbench (Range)

/-! ## Codes -/

def ownershipKindCode : OwnershipEventKind → String
  | .borrowActivate => "borrow_activate"
  | .borrowEnd => "borrow_end"
  | .borrowMutable => "borrow_mutable"
  | .borrowShared => "borrow_shared"
  | .clone => "clone"
  | .copy => "copy"
  | .drop => "drop"
  | .invalidUse => "invalid_use"
  | .lastUse => "last_use"
  | .move => "move"
  | .partialMove => "partial_move"
  | OwnershipEventKind.reinitialize => "reinitialize"

def ownershipStateCode : OwnershipState → String
  | .available => "available"
  | .dropped => "dropped"
  | .moved => "moved"
  | .mutablyBorrowed => "mutably_borrowed"
  | .partiallyMoved => "partially_moved"
  | .sharedBorrowed => "shared_borrowed"

/-! ## The selection -/

/-- The first diagnostic at a range, by its own range or a related one. -/
def selectedDiagnosticAt (diagnostics : List OwnershipDiagnostic) (request : Range) :
    Option OwnershipDiagnostic :=
  diagnostics.find? fun diagnostic =>
    rangesTouch diagnostic.range request
      || diagnostic.related.any fun related => rangesTouch related.range request

/-- The first event at a range, by its own range or its binding's. -/
def selectedEventAt (events : List OwnershipEvent) (request : Range) : Option OwnershipEvent :=
  events.find? fun event =>
    rangesTouch event.range request || rangesTouch event.bindingRange request

/-- `ownership_selection_context`. -/
def ownershipSelectionContext (selected : Option OwnershipEvent)
    (tutorial : OwnershipTutorialModel) (request : Range) : Option Nat × Option String :=
  let selectedBinding :=
    (selected.bind fun event => tutorial.bindings.find? fun binding =>
      (event.bodyId == 0 || binding.bodyId == event.bodyId)
        && (ownershipNameRefersToBinding event.name binding.name
          || ownershipNameRefersToBinding event.place binding.name))
    <|> tutorial.bindings.find? fun binding => rangesTouch binding.range request
  let bodyId := ((selected.map (·.bodyId)).filter (· != 0))
    <|> selectedBinding.map (·.bodyId)
  let name := selectedBinding.map (·.name) <|> selected.map (·.name)
  (bodyId, name)

/-- The selection of a request. -/
structure Selection where
  request : Range
  diagnostic : Option OwnershipDiagnostic
  event : Option OwnershipEvent
  bodyId : Option Nat
  name : Option String

/-- The selection: without an event, the body at the position and the name in the diagnostic's
message stand in. -/
def selectionAt (diagnostics : List OwnershipDiagnostic) (events : List OwnershipEvent)
    (tutorial : OwnershipTutorialModel) (request : Range) : Selection :=
  let diagnostic := selectedDiagnosticAt diagnostics request
  let event := selectedEventAt events request
  let context := ownershipSelectionContext event tutorial request
  if event.isNone then
    { request, diagnostic, event
      bodyId := context.1
        <|> (tutorial.bodies.find? fun body => rangesTouch body.range request).map (·.bodyId)
      name := context.2
        <|> (diagnostic.bind fun diagnostic =>
          ownershipNameFromMessage diagnostic.message).map ownershipRootName }
  else { request, diagnostic, event, bodyId := context.1, name := context.2 }

namespace Selection

/-- `selected_body_id.is_none_or(|body_id| id == body_id)`. -/
def inBody (selection : Selection) (bodyId : Nat) : Bool :=
  selection.bodyId.all (bodyId == ·)

/-- `selected_name.is_none_or(|name| binding == name)`. -/
def isNamed (selection : Selection) (name : String) : Bool :=
  selection.name.all (name == ·)

/-- The selected name is the place, or one of the two is part of the other. -/
def overlapsPlace (selection : Selection) (place : String) : Bool :=
  selection.name.all fun name =>
    ownershipNameRefersToBinding name place || ownershipNameRefersToBinding place name

end Selection

/-- `ownership_event_in_context`. -/
def ownershipEventInContext (selection : Selection) (event : OwnershipEvent) : Bool :=
  match selection.event with
  | none =>
    selection.bodyId.all (fun bodyId => event.bodyId == 0 || event.bodyId == bodyId)
      && selection.name.all fun name =>
        ownershipNameRefersToBinding event.name name
          || ownershipNameRefersToBinding event.place name
          || ownershipNameRefersToBinding name event.name
  | some selected =>
    match selection.bodyId with
    | none => event.name == selected.name
    | some bodyId =>
      event.bodyId == bodyId
        || (event.bodyId == 0 && selection.name.any fun name =>
          ownershipNameRefersToBinding event.name name
            || ownershipNameRefersToBinding event.place name)

def MAX_INTERACTIVE_EVENTS : Nat := 256
def MAX_INTERACTIVE_BLOCKS : Nat := 512
def MAX_INTERACTIVE_BINDINGS : Nat := 64
def MAX_INTERACTIVE_LOANS : Nat := 64
def MAX_INTERACTIVE_MEMORY_NODES : Nat := 128
def MAX_INTERACTIVE_MEMORY_EDGES : Nat := 256
def MAX_INTERACTIVE_SNAPSHOTS : Nat := 256
def MAX_INTERACTIVE_ACCESS_PATHS : Nat := 64

/-! ## Events, bodies, bindings and loans in the context -/

def eventToLsp (event : OwnershipEvent) : RustWorkbench.OwnershipEvent where
  eventId := event.eventId
  bodyId := event.bodyId
  basicBlock := event.basicBlock
  statementIndex := event.statementIndex
  kind := ownershipKindCode event.kind
  state := ownershipStateCode event.state
  place := event.place
  loanId := event.loanId
  range := event.range
  bindingRange := event.bindingRange
  detail := event.detail
  destination := event.destination.map fun destination =>
    ⟨destination.kind, destination.label, destination.place, destination.range⟩

/-- The events of the context. -/
def contextEvents (selection : Selection) (events : List OwnershipEvent) : List OwnershipEvent :=
  events.filter (ownershipEventInContext selection)

def contextBodies (selection : Selection) (tutorial : OwnershipTutorialModel) :
    List OwnershipTutorialBody :=
  tutorial.bodies.filter fun body => selection.inBody body.bodyId

def bodyToLsp (body : OwnershipTutorialBody) : OwnershipBody where
  bodyId := body.bodyId
  name := body.name
  range := body.range
  blocks := (body.blocks.take MAX_INTERACTIVE_BLOCKS).map fun block =>
    ⟨block.basicBlock, block.range, block.successors⟩
  provenance := "compiler_exact"

def contextBindings (selection : Selection) (tutorial : OwnershipTutorialModel) :
    List OwnershipTutorialBinding :=
  tutorial.bindings.filter fun binding =>
    selection.inBody binding.bodyId && selection.isNamed binding.name

def bindingToLsp (binding : OwnershipTutorialBinding) : OwnershipBinding where
  id := hex16 binding.bodyId ++ "-" ++ binding.name
  bodyId := binding.bodyId
  name := binding.name
  range := binding.range
  typeName := binding.typeName
  size := binding.size
  align := binding.align
  memoryLayers := binding.memoryLayers.map fun layer =>
    { kind := layer.kind, storage := layer.storage, label := layer.label
      typeName := layer.typeName, size := layer.size, align := layer.align
      provenance := layer.provenance }
  provenance := "compiler_exact"

def contextLoans (selection : Selection) (tutorial : OwnershipTutorialModel) :
    List OwnershipTutorialLoan :=
  tutorial.loans.filter fun loan => selection.inBody loan.bodyId && selection.isNamed loan.name

def loanPointToLsp (point : OwnershipTutorialLoanPoint) : OwnershipLoanPoint :=
  ⟨point.basicBlock, point.statementIndex, point.range⟩

/-- `ownership_loan_to_lsp`. -/
def ownershipLoanToLsp (loan : OwnershipTutorialLoan) : OwnershipLoan where
  bodyId := loan.bodyId
  loanId := loan.loanId
  kind := loan.kind
  name := loan.name
  place := loan.place
  reserve := loanPointToLsp loan.reserve
  activation := loan.activation.map loanPointToLsp
  livePoints := (loan.livePoints.take 512).map loanPointToLsp
  endPoints := (loan.endPoints.take 64).map loanPointToLsp
  truncated := loan.truncated || loan.livePoints.length > 512 || loan.endPoints.length > 64
  provenance := "compiler_exact"

end RustWorkbench.Analyzer
