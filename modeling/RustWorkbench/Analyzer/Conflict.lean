import RustWorkbench.Analyzer.Selection
import Mathlib.Data.List.MinMax
import Mathlib.Data.Prod.Lex

/-!
# The picture of a borrow conflict

For the errors that a live borrow causes (E0499, E0502, E0505, E0506) the analyzer draws the
borrower, the borrowed value, the reference it is reached through and its owner, with their
states when the borrow starts, when the operation is rejected and when the borrow ends.
-/

namespace RustWorkbench.Analyzer

structure OwnershipSourcePlace where
  label : String
  range : Range

structure OwnershipBindingOwner where
  bindingRange : Range
  owner : OwnershipSourcePlace

/-- An expression as a source place. -/
def sourcePlace (lineIndex : LineIndex) (expression : Expr) : OwnershipSourcePlace :=
  ⟨boundedSourceLabel expression.text, lineIndex.range expression.range⟩

/-- `ownership_binding_at_range`: the first identifier of the `let` statement at a range. -/
def ownershipBindingAtRange (file : SourceFile) (lineIndex : LineIndex) (range : Range) :
    Option (String × Range × Option Expr) := do
  let textRange ← (lineIndex.textRange range).toOption
  let statement ← file.letAt textRange.start
  let (name, identifier) ← statement.first
  let name ← name
  return (name, lineIndex.range identifier, statement.initializer)

/-- `ownership_prior_binding_owner`: the last declaration of a name before a range. -/
def ownershipPriorBindingOwner (file : SourceFile) (lineIndex : LineIndex) (before : Range)
    (bindingName : String) : Option OwnershipBindingOwner := do
  let before ← (lineIndex.offset before.start).toOption
  let statements ← file.scopeAt before
  let declarations := ((statements.take 2048).filter fun statement => statement.start < before).filter
    fun statement => statement.identifiers.any fun identifier => identifier.1 = bindingName
  -- `max_by_key` returns the last of several maxima
  let declaration ← declarations.reverse.argmax fun statement => statement.start
  let identifier ← declaration.identifiers.find? fun identifier => identifier.1 = bindingName
  let expression ← declaration.initializer.bind ownershipRootPlace
  return ⟨lineIndex.range identifier.2, sourcePlace lineIndex expression⟩

/-- `u32::abs_diff`. -/
def absDiff (m n : Nat) : Nat := (m - n) + (n - m)

/-! ## Reading the diagnostic -/

/-- A related message that says where the borrow starts. -/
def isBorrowOrigin (related : OwnershipDiagnosticRelated) : Bool :=
  let message := toAsciiLowercase related.message
  containsText message "borrow" && !containsText message "later"
    && (containsText message "here" || containsText message "occurs")

/-- A related message that says where the borrow is used last. -/
def isBorrowLaterUse (related : OwnershipDiagnosticRelated) : Bool :=
  let message := toAsciiLowercase related.message
  containsText message "borrow" && containsText message "later" && containsText message "used"

def borrowOrigin (diagnostic : OwnershipDiagnostic) : Option OwnershipDiagnosticRelated :=
  diagnostic.related.find? isBorrowOrigin <|> diagnostic.related.head?

def borrowLastUse (diagnostic : OwnershipDiagnostic) : Option OwnershipDiagnosticRelated :=
  diagnostic.related.find? isBorrowLaterUse

def borrowOriginRange (diagnostic : OwnershipDiagnostic) : Range :=
  ((borrowOrigin diagnostic).map (·.range)).getD diagnostic.range

def borrowOriginIsMutable (diagnostic : OwnershipDiagnostic) : Bool :=
  (borrowOrigin diagnostic).any fun related =>
    let message := toAsciiLowercase related.message
    containsText message "mutable borrow" && !containsText message "immutable borrow"

/-- The place the rejected operation is about. -/
def attemptedPlace (diagnostic : OwnershipDiagnostic) : String :=
  (ownershipNameFromMessage diagnostic.message).getD "value"

/-- The reference that the attempted place dereferences. -/
def referenceBinding (diagnostic : OwnershipDiagnostic) : Option String :=
  ((stripPrefix (attemptedPlace diagnostic) "*").map fun place =>
    trim (String.ofList (place.toList.takeWhile fun c => !(['.', '['].contains c)))).filter (· != "")

/-- Requested access, the words for the operation, and the state it is blocked in. -/
def conflictWords : String → Option (String × String × String)
  | "E0499" => some ("second mutable borrow", "create another exclusive borrow of",
      "alive · exclusive access blocked")
  | "E0502" => some ("mutable borrow", "borrow mutably from", "alive · write access blocked")
  | "E0505" => some ("move", "move ownership out of", "alive · move blocked")
  | "E0506" => some ("replacement", "replace", "alive · replacement blocked")
  | _ => none

/-! ## Sources and types -/

/-- What the syntax tree says about a conflict. -/
structure ConflictSource where
  /-- Name, range and initializer of the binding that holds the borrow. -/
  origin : Option (String × Range × Option Expr)
  /-- The declaration of the dereferenced reference. -/
  referenceOwner : Option OwnershipBindingOwner

def conflictSource (diagnostic : OwnershipDiagnostic) (file : SourceFile)
    (lineIndex : LineIndex) : ConflictSource where
  origin := ownershipBindingAtRange file lineIndex (borrowOriginRange diagnostic)
  referenceOwner := (referenceBinding diagnostic).bind
    (ownershipPriorBindingOwner file lineIndex (borrowOriginRange diagnostic))

namespace ConflictSource

variable (source : ConflictSource) (lineIndex : LineIndex) (diagnostic : OwnershipDiagnostic)

def borrowerName : String := (source.origin.map (·.1)).getD "temporary reference"

def originPlace : Option OwnershipSourcePlace :=
  ((source.origin.bind (·.2.2)).bind ownershipRootPlace).map (sourcePlace lineIndex)

def borrowedLabel : String :=
  (((source.originPlace lineIndex).filter fun place =>
      !startsWith (attemptedPlace diagnostic) "*"
        && ownershipRootName place.label == ownershipRootName (attemptedPlace diagnostic)).map
    (·.label)).getD (attemptedPlace diagnostic)

def borrowedRange : Range :=
  ((source.originPlace lineIndex).map (·.range)).getD (borrowOriginRange diagnostic)

/-- The owner, if it is another place than the borrowed value. -/
def ownerPlace : Option OwnershipSourcePlace :=
  let borrowed := source.borrowedLabel lineIndex diagnostic
  let root := ownershipRootName borrowed
  let rootPlace : Option OwnershipSourcePlace :=
    if root != borrowed then some ⟨root, source.borrowedRange lineIndex diagnostic⟩ else none
  (source.referenceOwner.map OwnershipBindingOwner.owner <|> rootPlace).filter fun owner =>
    owner.label != borrowed

/-- The dereferenced reference, if it is another binding than the borrower. -/
def referenceName : Option String :=
  (referenceBinding diagnostic).filter (· != source.borrowerName)

end ConflictSource

/-- The stored binding of a name closest to the start of the borrow, in the selected body first. -/
def bindingForName (tutorial : OwnershipTutorialModel) (selectedBody : Option Nat)
    (origin : Range) (name : String) : Option OwnershipTutorialBinding :=
  (tutorial.bindings.filter fun binding => binding.name == name).argmin fun binding =>
    toLex ((if selectedBody.any (binding.bodyId != ·) then 1 else 0 : Nat),
      toLex (absDiff binding.range.start.line origin.start.line,
        absDiff binding.range.start.character origin.start.character))

/-! ## The graph -/

def conflictNodes (tutorial : OwnershipTutorialModel) (selectedBody : Option Nat)
    (lineIndex : LineIndex) (diagnostic : OwnershipDiagnostic) (source : ConflictSource) :
    List OwnershipConflictNode :=
  let binding := bindingForName tutorial selectedBody (borrowOriginRange diagnostic)
  let bindingType := fun name => (binding name).map (·.typeName)
  let borrowed := source.borrowedLabel lineIndex diagnostic
  let referenceType := (referenceBinding diagnostic).bind bindingType
  [{ id := "borrower"
     label := source.borrowerName
     typeName := bindingType source.borrowerName
     role := "borrower_reference"
     memory := "stack reference binding; it does not own the referenced value"
     range := some ((source.origin.map (·.2.1)).getD (borrowOriginRange diagnostic)) }]
  ++ (source.referenceName diagnostic).toList.map (fun name =>
    { id := "reference"
      label := name
      typeName := referenceType
      role := "reference_handle"
      memory := "stack reference handle pointing at the borrowed value"
      range := source.referenceOwner.map (·.bindingRange) <|> (binding name).map (·.range) })
  ++ [{ id := "referent"
        label := borrowed
        typeName := referenceType.bind referenceReferentType
        role := "borrowed_value"
        memory := "live borrowed value; its owner and storage remain intact"
        range := some (source.borrowedRange lineIndex diagnostic) }]
  ++ (source.ownerPlace lineIndex diagnostic).toList.map fun owner =>
    { id := "owner"
      label := owner.label
      typeName := bindingType (ownershipRootName owner.label)
      role := "owner_path"
      memory := "owner or container path that keeps the borrowed storage alive"
      range := some owner.range }

def conflictEdges (lineIndex : LineIndex) (diagnostic : OwnershipDiagnostic)
    (source : ConflictSource) : List OwnershipConflictEdge :=
  let isMutable := borrowOriginIsMutable diagnostic
  [{ source := "borrower"
     target := "referent"
     kind := if isMutable then "borrows_mutable" else "borrows_shared"
     label :=
      if isMutable then "holds a live exclusive borrow of" else "holds a live shared view into"
     provenance := "compiler_diagnostic" }]
  ++ (source.referenceName diagnostic).toList.map (fun _ =>
    { source := "reference"
      target := "referent"
      kind := "points_to"
      label := "is the reference handle for"
      provenance := "compiler_type_and_source" })
  ++ (source.ownerPlace lineIndex diagnostic).toList.map fun _ =>
    { source := "referent"
      target := "owner"
      kind := "stored_in"
      label := "is reached through storage owned by"
      provenance := "source_semantics" }

/-- The states of the nodes at one moment. -/
def conflictStates (nodes : List OwnershipConflictNode)
    (borrowerState referentState ownerState : String) : List OwnershipConflictNodeState :=
  [⟨"borrower", borrowerState, "The reference is alive and usable."⟩,
    ⟨"referent", referentState, "The value is alive; only incompatible access is restricted."⟩]
  ++ (if nodes.any fun node => node.id == "reference" then
      [⟨"reference", "alive · reference handle valid",
        "The reference variable and the value it points to are different places."⟩]
    else [])
  ++ if nodes.any fun node => node.id == "owner" then
      [⟨"owner", ownerState,
        "The owner remains alive while access to the overlapping path is restricted."⟩]
    else []

def conflictSnapshots (nodes : List OwnershipConflictNode) (diagnostic : OwnershipDiagnostic)
    (borrower borrowed requestedAccess operation blockedState : String) :
    List OwnershipConflictSnapshot :=
  let attempted := attemptedPlace diagnostic
  let lastUse := borrowLastUse diagnostic
  [{ phase := "borrow_created"
     title := "`" ++ borrower ++ "` starts borrowing"
     explanation := "`" ++ borrower ++ "` now points into `" ++ borrowed
      ++ "`. The value remains alive, but incompatible writes or moves must wait."
     range := borrowOriginRange diagnostic
     states := conflictStates nodes
      (if borrowOriginIsMutable diagnostic then "alive · holds exclusive borrow"
        else "alive · holds shared borrow")
      blockedState "alive · overlapping path restricted" },
    { phase := "operation_rejected"
      title := "Rust rejects the " ++ requestedAccess
      explanation := "This line tries to " ++ operation ++ " `" ++ attempted ++ "`, but `"
        ++ borrower ++ "` still needs its view of the existing value."
      range := diagnostic.range
      states := conflictStates nodes "alive · still needed later" blockedState
        "alive · overlapping path restricted" },
    { phase := "borrow_ended"
      title := "`" ++ borrower ++ "` reaches its last use"
      explanation :=
        if lastUse.isSome then
          "After this use, the borrow held by `" ++ borrower ++ "` ends and `" ++ borrowed
            ++ "` can grant the previously blocked access again."
        else
          "The compiler did not provide a source-level final-use span; the borrow ends at its "
            ++ "compiler-calculated endpoint."
      range := (lastUse.map (·.range)).getD diagnostic.range
      states := conflictStates nodes "last use · borrow ends afterward"
        "alive · blocked access available afterward"
        "alive · normal access available afterward" }]

/-- `ownership_conflict_graph`. -/
def ownershipConflictGraph (diagnostic : OwnershipDiagnostic) (file : SourceFile)
    (lineIndex : LineIndex) (tutorial : OwnershipTutorialModel) (selectedBody : Option Nat) :
    Option OwnershipConflictGraph :=
  (conflictWords diagnostic.code).map fun (requestedAccess, operation, blockedState) =>
    let source := conflictSource diagnostic file lineIndex
    let borrower := source.borrowerName
    let borrowed := source.borrowedLabel lineIndex diagnostic
    let nodes := conflictNodes tutorial selectedBody lineIndex diagnostic source
    { title := "Cannot " ++ operation ++ " `" ++ attemptedPlace diagnostic ++ "`: `" ++ borrower
        ++ "` still borrows from it"
      summary := "`" ++ borrower ++ "` is the borrower; `" ++ borrowed
        ++ "` is the borrowed value. Borrowing does not make either one dead."
      requestedAccess
      nodes
      edges := conflictEdges lineIndex diagnostic source
      snapshots :=
        conflictSnapshots nodes diagnostic borrower borrowed requestedAccess operation blockedState
      provenance :=
        if source.origin.isSome then "compiler_diagnostic_and_source_semantics"
        else "compiler_diagnostic"
      truncated := false }

end RustWorkbench.Analyzer
