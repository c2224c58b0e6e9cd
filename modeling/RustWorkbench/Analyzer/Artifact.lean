import RustWorkbench.Analyzer.Preview
import RustWorkbench.Hash

/-!
# Compiler artifacts

The artifact a compiler run leaves for the analyzer, and what `prepare_ownership_model_artifacts`
makes of it for one source file: events and a tutorial model whose byte spans have become editor
ranges of that file.

The stored graph entries of `Analyzer.Types` do not repeat the byte span of the artifact's, since
only the range made from it is read again; an artifact entry is the stored entry with its span.
-/

namespace RustWorkbench.Analyzer

/-! ## The artifact -/

/-- One event, sent as the message of a diagnostic by older compilers. -/
structure OwnershipEventPayload where
  version : Nat
  kind : OwnershipEventKind
  name : String
  sourceHash : String
  bindingByteStart : Nat
  detail : Option String

/-- Where a compiler run has left its artifact. -/
structure OwnershipModelPointer where
  version : Nat
  path : String

structure OwnershipModelSource where
  path : String
  sourceHash : String := ""
  source : Option String := none

structure OwnershipModelBinding where
  path : String
  byteStart : Nat
  name : String

structure OwnershipModelSpan where
  path : String
  byteStart : Nat
  byteEnd : Nat

structure OwnershipModelBlock where
  basicBlock : Nat
  span : OwnershipModelSpan
  successors : List Nat

structure OwnershipModelBody where
  bodyId : Nat
  name : String
  span : OwnershipModelSpan
  blocks : List OwnershipModelBlock

structure OwnershipModelBindingFact where
  bodyId : Nat
  binding : OwnershipModelBinding
  typeName : String
  size : Option Nat
  align : Option Nat
  memoryLayers : List OwnershipModelMemoryLayer

structure OwnershipModelLoanPoint where
  basicBlock : Nat
  statementIndex : Nat
  span : OwnershipModelSpan

structure OwnershipModelLoan where
  bodyId : Nat
  loanId : Nat
  kind : String
  binding : OwnershipModelBinding
  place : String
  reserve : OwnershipModelLoanPoint
  activation : Option OwnershipModelLoanPoint
  livePoints : List OwnershipModelLoanPoint
  endPoints : List OwnershipModelLoanPoint
  truncated : Bool

structure OwnershipModelDestination where
  kind : String
  label : String
  place : Option String
  span : Option OwnershipModelSpan

structure OwnershipModelEvent where
  eventId : String
  bodyId : Nat
  basicBlock : Nat
  statementIndex : Nat
  kind : OwnershipEventKind
  state : OwnershipState
  path : String
  byteStart : Nat
  byteEnd : Nat
  binding : OwnershipModelBinding
  place : String
  loanId : Option Nat
  detail : Option String
  destination : Option OwnershipModelDestination

/-- `OwnershipModelMemoryGraph`, each entry with its span. -/
structure OwnershipModelMemoryGraph where
  nodes : List (OwnershipModelMemoryNode × Option OwnershipModelSpan) := []
  edges : List (OwnershipModelMemoryEdge × Option OwnershipModelSpan) := []
  snapshots : List (OwnershipModelSnapshot × OwnershipModelSpan) := []
  accessPaths : List OwnershipModelAccessPath := []
  truncated : Bool := false

structure OwnershipModelArtifact where
  schemaVersion : Nat
  targetTriple : String := ""
  sources : List OwnershipModelSource
  ownershipEvents : List OwnershipModelEvent
  ownershipBodies : List OwnershipModelBody := []
  ownershipBindings : List OwnershipModelBindingFact := []
  ownershipLoans : List OwnershipModelLoan := []
  memoryGraph : OwnershipModelMemoryGraph := {}

/-- The hash an artifact gives for one of its sources: of the text it embeds, if it does. -/
def artifactSourceHash (source : OwnershipModelSource) : String :=
  (source.source.map stableSourceHash).getD source.sourceHash

/-! ## Byte spans -/

/-- `TextSize::try_from`. -/
def textSize (offset : Nat) : Option Nat := if offset < 2 ^ 32 then some offset else none

/-- `str::rfind`: the byte offset of the last occurrence. -/
def rfind (text pattern : Chars) : Option Nat :=
  ((text.inits.zip text.tails).filter fun split => pattern.isPrefixOf split.2).getLast?.map
    fun split => size split.1

/-- `ownership_model_byte_range`.  The checks before the conversion are those of `str::get`. -/
def ownershipModelByteRange (lineIndex : LineIndex) (source : String) (byteStart byteEnd : Nat) :
    Option Range := do
  let _ ← slice source.toList byteStart byteEnd
  let start ← textSize byteStart
  let stop ← textSize byteEnd
  return ⟨lineIndex.position start, lineIndex.position stop⟩

/-- `ownership_model_span_range`. -/
def ownershipModelSpanRange (lineIndex : LineIndex) (source : OwnershipModelSource)
    (sourceText : String) (span : OwnershipModelSpan) : Option Range :=
  if span.path ≠ source.path then none
  else ownershipModelByteRange lineIndex sourceText span.byteStart span.byteEnd

/-- `ownership_model_event_range`: the last mention of the binding in the span. -/
def ownershipModelEventRange (source : String) (byteStart byteEnd : Nat) (bindingName : String) :
    Option (Nat × Nat) := do
  let text ← slice source.toList byteStart byteEnd
  match rfind text bindingName.toList with
  | some relative => return (byteStart + relative, byteStart + relative + byteLen bindingName)
  | none => return (byteStart, byteEnd)

/-! ## Events -/

/-- The range of a destination.  Unlike the other spans it need not lie on characters. -/
def destinationRange (lineIndex : LineIndex) (source : OwnershipModelSource) (sourceText : String)
    (span : OwnershipModelSpan) : Option Range := do
  if span.path ≠ source.path ∨ span.byteEnd < span.byteStart
      ∨ byteLen sourceText < span.byteEnd then none
  else
    let start ← textSize span.byteStart
    let stop ← textSize span.byteEnd
    return ⟨lineIndex.position start, lineIndex.position stop⟩

/-- An event of the artifact, placed in the editor. -/
def preparedEvent (lineIndex : LineIndex) (source : OwnershipModelSource) (sourceText : String)
    (event : OwnershipModelEvent) : Option OwnershipEvent := do
  let (eventStart, eventEnd) ←
    ownershipModelEventRange sourceText event.byteStart event.byteEnd event.binding.name
  let bindingEnd := event.binding.byteStart + byteLen event.binding.name
  let _ ← slice sourceText.toList event.binding.byteStart bindingEnd
  let eventStart ← textSize eventStart
  let eventEnd ← textSize eventEnd
  let bindingStart ← textSize event.binding.byteStart
  let bindingEnd ← textSize bindingEnd
  return {
    eventId := event.eventId
    bodyId := event.bodyId
    basicBlock := event.basicBlock
    statementIndex := event.statementIndex
    kind := event.kind
    state := event.state
    range := ⟨lineIndex.position eventStart, lineIndex.position eventEnd⟩
    bindingRange := ⟨lineIndex.position bindingStart, lineIndex.position bindingEnd⟩
    name := event.binding.name
    place := event.place
    loanId := event.loanId
    exact := true
    detail := event.detail
    destination := event.destination.map fun destination =>
      { kind := destination.kind
        label := destination.label
        place := destination.place
        range := destination.span.bind (destinationRange lineIndex source sourceText) } }

/-- The events of an artifact for one of its sources. -/
def preparedEvents (lineIndex : LineIndex) (source : OwnershipModelSource) (sourceText : String)
    (artifact : OwnershipModelArtifact) : List OwnershipEvent :=
  (artifact.ownershipEvents.filter fun event => event.path = source.path).filterMap
    (preparedEvent lineIndex source sourceText)

/-! ## Tutorial models -/

section Tutorial

variable (range : OwnershipModelSpan → Option Range)

def tutorialLoanPoint (point : OwnershipModelLoanPoint) : Option OwnershipTutorialLoanPoint :=
  (range point.span).map fun range =>
    { basicBlock := point.basicBlock, statementIndex := point.statementIndex, range }

def tutorialBlock (block : OwnershipModelBlock) : Option OwnershipTutorialBlock :=
  (range block.span).map fun range =>
    { basicBlock := block.basicBlock, range, successors := block.successors }

def tutorialBody (body : OwnershipModelBody) : Option OwnershipTutorialBody :=
  (range body.span).map fun bodyRange =>
    { bodyId := body.bodyId
      name := body.name
      range := bodyRange
      blocks := body.blocks.filterMap (tutorialBlock range) }

def tutorialLoan (loan : OwnershipModelLoan) : Option OwnershipTutorialLoan :=
  (tutorialLoanPoint range loan.reserve).map fun reserve =>
    { bodyId := loan.bodyId
      loanId := loan.loanId
      kind := loan.kind
      name := loan.binding.name
      place := loan.place
      reserve
      activation := loan.activation.bind (tutorialLoanPoint range)
      livePoints := loan.livePoints.filterMap (tutorialLoanPoint range)
      endPoints := loan.endPoints.filterMap (tutorialLoanPoint range)
      truncated := loan.truncated }

/-- A node without a span stays without a range; one whose span has no range is dropped. -/
def tutorialMemoryNode (node : OwnershipModelMemoryNode × Option OwnershipModelSpan) :
    Option OwnershipTutorialMemoryNode :=
  match node.2 with
  | none => some ⟨node.1, none⟩
  | some span => (range span).map fun range => ⟨node.1, some range⟩

def tutorialMemoryGraph (graph : OwnershipModelMemoryGraph) : OwnershipTutorialMemoryGraph :=
  let nodes := graph.nodes.filterMap (tutorialMemoryNode range)
  let nodeIsPresent (id : String) : Bool := nodes.any fun node => node.node.id == id
  { nodes
    edges := (graph.edges.filter fun edge =>
      nodeIsPresent edge.1.source && nodeIsPresent edge.1.target).map fun edge =>
        ⟨edge.1, edge.2.bind range⟩
    snapshots := graph.snapshots.filterMap fun snapshot =>
      (range snapshot.2).map fun range => ⟨snapshot.1, range⟩
    accessPaths := graph.accessPaths.filter fun path => nodeIsPresent path.nodeId
    truncated := graph.truncated }

end Tutorial

def tutorialBinding (lineIndex : LineIndex) (sourceText : String)
    (binding : OwnershipModelBindingFact) : Option OwnershipTutorialBinding :=
  let byteEnd := binding.binding.byteStart + byteLen binding.binding.name
  (ownershipModelByteRange lineIndex sourceText binding.binding.byteStart byteEnd).map fun range =>
    { bodyId := binding.bodyId
      name := binding.binding.name
      range
      typeName := binding.typeName
      size := binding.size
      align := binding.align
      memoryLayers := binding.memoryLayers }

/-- `ownership_tutorial_model_for_source`. -/
def ownershipTutorialModelForSource (lineIndex : LineIndex) (source : OwnershipModelSource)
    (sourceText : String) (artifact : OwnershipModelArtifact) : OwnershipTutorialModel :=
  let range := ownershipModelSpanRange lineIndex source sourceText
  { schemaVersion := artifact.schemaVersion
    targetTriple := artifact.targetTriple
    bodies := artifact.ownershipBodies.filterMap (tutorialBody range)
    bindings := (artifact.ownershipBindings.filter fun binding =>
      binding.binding.path = source.path).filterMap (tutorialBinding lineIndex sourceText)
    loans := (artifact.ownershipLoans.filter fun loan =>
      loan.binding.path = source.path).filterMap (tutorialLoan range)
    memoryGraph := tutorialMemoryGraph range artifact.memoryGraph }

/-- The model that is sent to the main loop: none if the artifact has no facts of the source. -/
def preparedModel (lineIndex : LineIndex) (source : OwnershipModelSource) (sourceText : String)
    (artifact : OwnershipModelArtifact) : Option OwnershipTutorialModel :=
  let model := ownershipTutorialModelForSource lineIndex source sourceText artifact
  if model.bodies.isEmpty && model.bindings.isEmpty && model.loans.isEmpty
      && model.memoryGraph.nodes.isEmpty then none
  else some model

end RustWorkbench.Analyzer
