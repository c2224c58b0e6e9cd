import RustWorkbench.Library.Checks
import RustWorkbench.Wire.Model
import RustWorkbench.Wire.Problems

/-!
# The editor's validators

The bridge in the editor checks every answer of the analyzer before the panel sees it and drops
the whole answer on one violation.
-/

namespace RustWorkbench.Bridge

open Checks (Check ensure forEach uniqueIds)

def MAX_OWNERSHIP_PROBLEMS : Nat := 512
def MAX_OWNERSHIP_EVENTS : Nat := 256
def MAX_OWNERSHIP_BODIES : Nat := 512
def MAX_OWNERSHIP_BINDINGS : Nat := 64
def MAX_OWNERSHIP_LOANS : Nat := 64
def MAX_OWNERSHIP_OPERATIONS : Nat := 64
def MAX_OWNERSHIP_REPAIRS : Nat := 16
def MAX_OWNERSHIP_GRAPH_NODES : Nat := 128
def MAX_OWNERSHIP_GRAPH_EDGES : Nat := 256
def MAX_OWNERSHIP_SNAPSHOTS : Nat := 256
def MAX_OWNERSHIP_ACCESS_PATHS : Nat := 64
def MAX_OWNERSHIP_WORKSPACE_CLUSTERS : Nat := 64
def MAX_OWNERSHIP_TEXT_BYTES : Nat := 256 * 1024

/-- `str::len`. -/
def textBytes (text : String) : Nat := (text.toList.map Char.utf8Size).sum

def validateRange (label : String) (range : Range) : Check :=
  ensure (decide (range.start ≤ range.stop)) (label ++ " contains an inverted LSP range")

def validateOptionalRange (label : String) (range : Option Range) : Check :=
  forEach range.toList (validateRange label)

def validateText (label text : String) : Check :=
  ensure (textBytes text ≤ MAX_OWNERSHIP_TEXT_BYTES)
    (label ++ " exceeds the Rust Workbench text limit")

def validateSchema (label : String) (schemaVersion maximum : Nat) (unavailable : Bool) : Check :=
  if unavailable && schemaVersion == 0 then .ok ()
  else do
    ensure (schemaVersion > 0) (label ++ " omitted its schema version")
    ensure (schemaVersion ≤ maximum)
      (label ++ " schema " ++ toString schemaVersion ++ " is newer than supported schema "
        ++ toString maximum)

def validateMemoryGraph (label : String) (graph : OwnershipMemoryGraph) : Check := do
  ensure (graph.nodes.length ≤ MAX_OWNERSHIP_GRAPH_NODES)
    (label ++ " contains too many memory nodes")
  ensure (graph.edges.length ≤ MAX_OWNERSHIP_GRAPH_EDGES)
    (label ++ " contains too many memory edges")
  ensure (graph.snapshots.length ≤ MAX_OWNERSHIP_SNAPSHOTS)
    (label ++ " contains too many memory snapshots")
  ensure (graph.accessPaths.length ≤ MAX_OWNERSHIP_ACCESS_PATHS)
    (label ++ " contains too many access paths")
  uniqueIds (label ++ " nodes") (graph.nodes.map (·.id))
  uniqueIds (label ++ " edges") (graph.edges.map (·.id))
  uniqueIds (label ++ " snapshots") (graph.snapshots.map (·.id))
  uniqueIds (label ++ " access paths") (graph.accessPaths.map (·.id))
  forEach graph.nodes fun node => validateOptionalRange "ownership memory node" node.range
  forEach graph.edges fun edge => validateOptionalRange "ownership memory edge" edge.range
  forEach graph.snapshots fun snapshot => do
    validateRange "ownership memory snapshot" snapshot.range
    ensure (snapshot.deltas.length ≤ MAX_OWNERSHIP_GRAPH_NODES)
      (label ++ " snapshot contains too many state changes")
  forEach graph.accessPaths fun path =>
    ensure (path.steps.length ≤ 32) (label ++ " access path contains too many steps")

def validateOwnershipProblems (result : OwnershipProblems) : Check := do
  let unavailable := result.status == "rust_analyzer_unavailable"
  ensure (["ready", "waiting_for_compiler", "rust_analyzer_unavailable"].contains result.status)
    ("ownership problems returned unknown status `" ++ result.status ++ "`")
  validateSchema "ownership problems" result.schemaVersion 7 unavailable
  ensure (result.problems.length ≤ MAX_OWNERSHIP_PROBLEMS)
    "ownership problems response exceeds 512 items"
  uniqueIds "ownership problems" (result.problems.map (·.id))
  forEach result.problems fun problem => do
    validateRange "ownership problem" problem.primaryRange
    validateRange "ownership problem binding" problem.bindingRange
    ensure (problem.relatedRanges.length ≤ 64) "ownership problem has too many related ranges"
    ensure (problem.related.length ≤ 64) "ownership problem has too many related messages"
    forEach problem.relatedRanges (validateRange "ownership problem related site")
    forEach problem.related fun related => do
      validateRange "ownership problem related message" related.range
      validateText "ownership problem related message" related.message
    validateText "ownership problem message" problem.message

def validateWorkspaceGuide (result : OwnershipWorkspaceGuide) : Check := do
  let unavailable := result.status == "rust_analyzer_unavailable"
  ensure (["ready", "ready_empty", "refreshed", "rust_analyzer_unavailable"].contains
      result.status)
    ("workspace guide returned unknown status `" ++ result.status ++ "`")
  validateSchema "workspace guide" result.schemaVersion 1 unavailable
  ensure (result.clusters.length ≤ MAX_OWNERSHIP_WORKSPACE_CLUSTERS)
    "workspace guide contains too many clusters"
  ensure (result.journey.length ≤ 64) "workspace guide contains too many journey frames"
  uniqueIds "workspace guide clusters" (result.clusters.map (·.id))
  uniqueIds "workspace guide journey" (result.journey.map (·.id))
  forEach result.clusters fun cluster => do
    ensure (cluster.impacts.length ≤ 64) "workspace cluster contains too many impacts"
    ensure (cluster.relatedConstraints.length ≤ 64)
      "workspace cluster contains too many related constraints"
    validateRange "workspace cluster root" cluster.root.location.range
    forEach (cluster.impacts ++ cluster.relatedConstraints) fun site =>
      validateRange "workspace guide site" site.location.range
  forEach result.journey fun frame =>
    validateRange "workspace guide journey frame" frame.location.range
  forEach result.intentQuestion.toList fun question =>
    ensure (question.choices.length ≤ 16) "workspace guide contains too many intent choices"

def validateConflictGraph (graph : OwnershipConflictGraph) : Check := do
  ensure (graph.nodes.length ≤ 64) "ownership conflict graph contains too many nodes"
  ensure (graph.edges.length ≤ 96) "ownership conflict graph contains too many edges"
  ensure (graph.snapshots.length ≤ 64) "ownership conflict graph contains too many snapshots"
  uniqueIds "ownership conflict graph nodes" (graph.nodes.map (·.id))
  forEach graph.nodes fun node => validateOptionalRange "ownership conflict node" node.range
  forEach graph.snapshots fun snapshot => do
    validateRange "ownership conflict snapshot" snapshot.range
    ensure (snapshot.states.length ≤ 64) "ownership conflict snapshot contains too many states"

def validateSourceContext (context : OwnershipSourceContext) : Check := do
  ensure (context.breadcrumbs.length ≤ 64) "ownership source context has too many breadcrumbs"
  ensure (context.callPaths.length ≤ 64) "ownership source context has too many call paths"
  ensure (context.relatedTypes.length ≤ 64) "ownership source context has too many related types"
  forEach context.callPaths fun path =>
    ensure (path.length ≤ 32) "ownership source context call path is too deep"

/-- The bounds on the lists of a model. -/
def validateCounts (result : OwnershipModel) : Check := do
  ensure (result.events.length ≤ MAX_OWNERSHIP_EVENTS) "ownership model contains too many events"
  ensure (result.valueTrace.length ≤ 64) "ownership model contains too many value trace steps"
  ensure (result.bodies.length ≤ MAX_OWNERSHIP_BODIES) "ownership model contains too many bodies"
  ensure (result.bindings.length ≤ MAX_OWNERSHIP_BINDINGS)
    "ownership model contains too many bindings"
  ensure (result.loans.length ≤ MAX_OWNERSHIP_LOANS) "ownership model contains too many loans"
  ensure (result.operations.length ≤ MAX_OWNERSHIP_OPERATIONS)
    "ownership model contains too many operations"
  ensure (result.repairs.length ≤ MAX_OWNERSHIP_REPAIRS)
    "ownership model contains too many repairs"

def validateBody (body : OwnershipBody) : Check := do
  validateRange "ownership body" body.range
  ensure (body.blocks.length ≤ 512) "ownership body contains too many blocks"
  forEach body.blocks fun block => do
    validateRange "ownership block" block.range
    ensure (block.successors.length ≤ 32) "ownership block contains too many successors"

def validateBinding (binding : OwnershipBinding) : Check := do
  validateRange "ownership binding" binding.range
  ensure (binding.memoryLayers.length ≤ 32) "ownership binding contains too many storage layers"

def validateLoan (loan : OwnershipLoan) : Check := do
  validateRange "ownership loan reservation" loan.reserve.range
  validateOptionalRange "ownership loan activation" (loan.activation.map (·.range))
  ensure (loan.livePoints.length ≤ 512) "ownership loan contains too many live points"
  ensure (loan.endPoints.length ≤ 512) "ownership loan contains too many end points"

def validateOperation (operation : OwnershipOperationInsight) : Check := do
  validateRange "ownership operation" operation.range
  ensure (operation.argumentFlows.length ≤ 32) "ownership operation contains too many arguments"
  ensure (operation.effects.length ≤ 64) "ownership operation contains too many effects"
  ensure (operation.effectFacts.length ≤ 64) "ownership operation contains too many effect facts"
  ensure (operation.alternatives.length ≤ 32) "ownership operation contains too many alternatives"

def validateRepair (repair : OwnershipRepair) : Check := do
  validateText "ownership repair preview" repair.diff
  ensure (repair.affectedFiles.length ≤ 64) "ownership repair touches too many files"
  forEach repair.previewGraph.toList (validateMemoryGraph "ownership repair preview graph")

def validateOwnershipModel (result : OwnershipModel) : Check := do
  let unavailable := result.status == "rust_analyzer_unavailable"
  ensure (["ready", "waiting_for_compiler", "rust_analyzer_unavailable"].contains result.status)
    ("ownership model returned unknown status `" ++ result.status ++ "`")
  validateSchema "ownership model" result.schemaVersion 14 unavailable
  ensure (result.compilerSchemaVersion ≤ 7)
    ("compiler ownership schema " ++ toString result.compilerSchemaVersion
      ++ " is newer than supported schema 7")
  validateCounts result
  uniqueIds "ownership events" (result.events.map (·.eventId))
  uniqueIds "ownership repairs" (result.repairs.map (·.id))
  forEach result.events fun event => do
    validateRange "ownership event" event.range
    validateRange "ownership event binding" event.bindingRange
  forEach result.valueTrace fun step => validateRange "ownership value trace" step.range
  forEach result.bodies validateBody
  forEach result.bindings validateBinding
  forEach result.loans validateLoan
  forEach result.operations validateOperation
  forEach result.repairs validateRepair
  validateMemoryGraph "ownership memory graph" result.memoryGraph
  forEach result.conflictGraph.toList validateConflictGraph
  forEach result.sourceContext.toList validateSourceContext
  forEach result.cSketch.toList fun sketch =>
    validateText "ownership conceptual code sketch" sketch.code

/-! ## What the parts accept -/

@[simp] theorem validateRange_ok_iff {label : String} {range : Range} :
    validateRange label range = .ok () ↔ range.WellFormed := by
  unfold validateRange Range.WellFormed
  simp

@[simp] theorem validateOptionalRange_ok_iff {label : String} {range : Option Range} :
    validateOptionalRange label range = .ok () ↔ ∀ r, range = some r → r.WellFormed := by
  unfold validateOptionalRange
  simp

@[simp] theorem validateText_ok_iff {label text : String} :
    validateText label text = .ok () ↔ textBytes text ≤ MAX_OWNERSHIP_TEXT_BYTES := by
  unfold validateText
  simp

theorem validateSchema_ok_iff {label : String} {version maximum : Nat} :
    validateSchema label version maximum false = .ok () ↔ 0 < version ∧ version ≤ maximum := by
  unfold validateSchema
  simp

/-- Non-empty and pairwise different. -/
structure ValidIds (ids : List String) : Prop where
  nonempty : ∀ id ∈ ids, id ≠ ""
  nodup : ids.Nodup

theorem uniqueIds_ok_iff_validIds {label : String} {ids : List String} :
    Checks.uniqueIds label ids = .ok () ↔ ValidIds ids := by
  rw [Checks.uniqueIds_ok_iff]
  exact ⟨fun h => ⟨h.1, h.2⟩, fun h => ⟨h.1, h.2⟩⟩

/-- What the editor asks of a memory graph. -/
structure MemoryGraphOk (graph : OwnershipMemoryGraph) : Prop where
  nodeCount : graph.nodes.length ≤ MAX_OWNERSHIP_GRAPH_NODES
  edgeCount : graph.edges.length ≤ MAX_OWNERSHIP_GRAPH_EDGES
  snapshotCount : graph.snapshots.length ≤ MAX_OWNERSHIP_SNAPSHOTS
  accessPathCount : graph.accessPaths.length ≤ MAX_OWNERSHIP_ACCESS_PATHS
  nodeIds : ValidIds (graph.nodes.map (·.id))
  edgeIds : ValidIds (graph.edges.map (·.id))
  snapshotIds : ValidIds (graph.snapshots.map (·.id))
  accessPathIds : ValidIds (graph.accessPaths.map (·.id))
  nodeRange : ∀ node ∈ graph.nodes, ∀ range, node.range = some range → range.WellFormed
  edgeRange : ∀ edge ∈ graph.edges, ∀ range, edge.range = some range → range.WellFormed
  snapshots : ∀ snapshot ∈ graph.snapshots,
    snapshot.range.WellFormed ∧ snapshot.deltas.length ≤ MAX_OWNERSHIP_GRAPH_NODES
  steps : ∀ path ∈ graph.accessPaths, path.steps.length ≤ 32

theorem validateMemoryGraph_ok_iff {label : String} {graph : OwnershipMemoryGraph} :
    validateMemoryGraph label graph = .ok () ↔ MemoryGraphOk graph := by
  unfold validateMemoryGraph
  simp only [Checks.seq_ok_iff, Checks.ensure_ok_iff, Checks.forEach_ok_iff,
    uniqueIds_ok_iff_validIds, validateRange_ok_iff, validateOptionalRange_ok_iff,
    decide_eq_true_eq]
  constructor
  · rintro ⟨h₁, h₂, h₃, h₄, h₅, h₆, h₇, h₈, h₉, h₁₀, h₁₁, h₁₂⟩
    exact ⟨h₁, h₂, h₃, h₄, h₅, h₆, h₇, h₈, h₉, h₁₀, h₁₁, h₁₂⟩
  · rintro ⟨h₁, h₂, h₃, h₄, h₅, h₆, h₇, h₈, h₉, h₁₀, h₁₁, h₁₂⟩
    exact ⟨h₁, h₂, h₃, h₄, h₅, h₆, h₇, h₈, h₉, h₁₀, h₁₁, h₁₂⟩

/-- What the editor asks of a conflict graph. -/
structure ConflictGraphOk (graph : OwnershipConflictGraph) : Prop where
  nodeCount : graph.nodes.length ≤ 64
  edgeCount : graph.edges.length ≤ 96
  snapshotCount : graph.snapshots.length ≤ 64
  nodeIds : ValidIds (graph.nodes.map (·.id))
  nodeRange : ∀ node ∈ graph.nodes, ∀ range, node.range = some range → range.WellFormed
  snapshotRange : ∀ snapshot ∈ graph.snapshots, snapshot.range.WellFormed
  states : ∀ snapshot ∈ graph.snapshots, snapshot.states.length ≤ 64

theorem validateConflictGraph_ok_iff {graph : OwnershipConflictGraph} :
    validateConflictGraph graph = .ok () ↔ ConflictGraphOk graph := by
  unfold validateConflictGraph
  simp only [Checks.seq_ok_iff, Checks.ensure_ok_iff, Checks.forEach_ok_iff,
    uniqueIds_ok_iff_validIds, validateRange_ok_iff, validateOptionalRange_ok_iff,
    decide_eq_true_eq]
  constructor
  · rintro ⟨h₁, h₂, h₃, h₄, h₅, h₆⟩
    exact ⟨h₁, h₂, h₃, h₄, h₅, fun s hs => (h₆ s hs).1, fun s hs => (h₆ s hs).2⟩
  · rintro ⟨h₁, h₂, h₃, h₄, h₅, h₆, h₇⟩
    exact ⟨h₁, h₂, h₃, h₄, h₅, fun s hs => ⟨h₆ s hs, h₇ s hs⟩⟩

end RustWorkbench.Bridge
