import RustWorkbench.Compiler.GraphGrowth
import RustWorkbench.Library.Search
import Mathlib.Data.List.Induction

/-!
# What the steps record

Snapshots and access paths are only ever appended, and the mark of a cut layer stays.

* `buildStep_snapshots`, `buildStep_accessPaths`, `buildStep_truncated` — that this is all.
-/

namespace RustWorkbench.Compiler

/-- The part of the graph that nodes and edges do not touch. -/
def MemoryGraph.records (graph : MemoryGraph) : List OwnershipSnapshot × List AccessPath × Bool :=
  (graph.snapshots, graph.accessPaths, graph.truncated)

/-- The snapshots that a step appends. -/
def recorded (bindings : List OwnershipBinding) (graph : MemoryGraph) :
    BuildStep → List OwnershipSnapshot
  | .binding binding => [initializationSnapshot binding (bindingNodeId binding bindings)]
  | .derivedClone destination sourceName =>
    match derivedTransfer bindings graph destination sourceName with
    | none => []
    | some (source, transfer) => [derivedSnapshot source destination transfer]
  | .loan _ => []
  | .event event =>
    match ensurePlaceNode bindings graph event.bodyId event.place (some event.span) .exact with
    | none => []
    | some (nodeId, graph) =>
      [eventSnapshot event nodeId (applyMove bindings graph event nodeId).2]

/-- The access paths that a step appends. -/
def stepPaths (bindings : List OwnershipBinding) : BuildStep → List AccessPath
  | .binding binding => accessPathsForBinding binding (bindingNodeId binding bindings)
  | _ => []

/-- Whether a step drops a memory layer. -/
def stepCut : BuildStep → Bool
  | .binding binding => binding.memoryLayers.length > 12
  | _ => false

/-! ## Parts that record nothing -/

theorem pushLayers_records (binding : OwnershipBinding) (bindingId : String) :
    ∀ (layers : List MemoryLayer) (index : Nat) (previous : Option (String × MemoryKind))
      (graph : MemoryGraph),
      (pushLayers binding bindingId index previous layers graph).records = graph.records
  | [], _, _, _ => rfl
  | layer :: layers, index, previous, graph => by
    refine (pushLayers_records binding bindingId layers _ _ _).trans ?_
    cases previous <;> rfl

theorem ensurePlaceNode_records {bindings : List OwnershipBinding} {graph graph' : MemoryGraph}
    {bodyId : Nat} {place id : String} {span : Option Span} {provenance : OwnershipProvenance}
    (h : ensurePlaceNode bindings graph bodyId place span provenance = some (id, graph')) :
    graph'.records = graph.records := by
  obtain ⟨rootId, -, ⟨-, -, rfl⟩ | ⟨-, rfl⟩ | ⟨-, node, edge, -, -, -, rfl⟩⟩ :=
    ensurePlaceNode_cases h
  · rfl
  · rfl
  · rfl

theorem destinationNode_records {bindings : List OwnershipBinding} {graph graph' : MemoryGraph}
    {event : OwnershipEvent} {id : String}
    (h : destinationNode bindings graph event = some (id, graph')) :
    graph'.records = graph.records := by
  unfold destinationNode at h
  obtain ⟨destination, -, h⟩ := Option.bind_eq_some_iff.mp h
  obtain ⟨place, -, h⟩ := Option.bind_eq_some_iff.mp h
  exact ensurePlaceNode_records h

variable (bindings : List OwnershipBinding) (graph : MemoryGraph) (step : BuildStep)

theorem applyMove_records (event : OwnershipEvent) (nodeId : String) :
    (applyMove bindings graph event nodeId).1.records = graph.records := by
  unfold applyMove
  split
  · split
    · rfl
    · rename_i htarget
      have haimed := destinationNode_records htarget
      dsimp only
      split
      · split
        · exact haimed
        · exact haimed
      · exact haimed
  · rfl

theorem applyClone_records (event : OwnershipEvent) (nodeId : String) :
    (applyClone bindings graph event nodeId).records = graph.records := by
  unfold applyClone
  split
  · split
    · rfl
    · rename_i htarget
      have haimed := destinationNode_records htarget
      split
      · exact haimed
      · split
        · exact haimed
        · exact haimed
  · rfl

/-! ## Steps -/

/-- **A step appends what it records, and nothing else.** -/
theorem buildStep_records : (buildStep bindings graph step).records
      = (graph.snapshots ++ recorded bindings graph step,
        graph.accessPaths ++ stepPaths bindings step, graph.truncated || stepCut step) := by
  cases step with
  | binding binding =>
    have hlayers := pushLayers_records binding (bindingNodeId binding bindings)
      (binding.memoryLayers.take 12) 0 none graph
    simp only [MemoryGraph.records, Prod.mk.injEq] at hlayers
    simp [buildStep, addBinding, MemoryGraph.records, MemoryGraph.pushSnapshot, recorded, stepPaths,
      stepCut, hlayers]
  | derivedClone destination sourceName =>
    simp only [buildStep, addDerivedClone, recorded, stepPaths, stepCut]
    cases derivedTransfer bindings graph destination sourceName with
    | none => simp [MemoryGraph.records]
    | some found => simp [MemoryGraph.records, relink, removeDuplicateAllocation,
        MemoryGraph.pushEdge, MemoryGraph.pushSnapshot]
  | loan loan =>
    simp only [buildStep, addLoan, recorded, stepPaths, stepCut, List.append_nil, Bool.or_false]
    cases hplace : ensurePlaceNode bindings graph loan.bodyId loan.place
        (some loan.reserve.span) .exact with
    | none => rfl
    | some placed => exact (ensurePlaceNode_records hplace :)
  | event event =>
    simp only [buildStep, addEvent, recorded, stepPaths, stepCut, List.append_nil, Bool.or_false]
    cases hplace : ensurePlaceNode bindings graph event.bodyId event.place
        (some event.span) .exact with
    | none => simp [MemoryGraph.records]
    | some found =>
      obtain ⟨nodeId, placed⟩ := found
      have hrecords := (applyClone_records bindings (applyMove bindings placed event nodeId).1 event
        nodeId).trans ((applyMove_records bindings placed event nodeId).trans
          (ensurePlaceNode_records hplace))
      simp only [MemoryGraph.records, Prod.mk.injEq] at hrecords
      simp [MemoryGraph.records, MemoryGraph.pushSnapshot, hrecords]

theorem buildStep_snapshots : (buildStep bindings graph step).snapshots
      = graph.snapshots ++ recorded bindings graph step :=
  congrArg Prod.fst (buildStep_records bindings graph step)

theorem buildStep_accessPaths : (buildStep bindings graph step).accessPaths
      = graph.accessPaths ++ stepPaths bindings step :=
  congrArg (fun records => records.2.1) (buildStep_records bindings graph step)

theorem buildStep_truncated :
    (buildStep bindings graph step).truncated = (graph.truncated || stepCut step) :=
  congrArg (fun records => records.2.2) (buildStep_records bindings graph step)

/-! ## Runs -/

theorem graphAfter_snoc (done : List BuildStep) (step : BuildStep) :
    graphAfter bindings (done ++ [step]) = buildStep bindings (graphAfter bindings done) step := by
  rw [graphAfter, List.foldl_append]
  rfl

/-- A run is marked iff one of its steps drops a layer. -/
theorem graphAfter_truncated (steps : List BuildStep) :
    (graphAfter bindings steps).truncated = steps.any stepCut := by
  induction steps using List.reverseRecOn with
  | nil => rfl
  | append_singleton steps step ih =>
    rw [graphAfter_snoc, buildStep_truncated, ih, List.any_append]
    simp

/-- The steps after those of the bindings. -/
def IsLater (bindings : List OwnershipBinding) (loans : List OwnershipLoan) : BuildStep → Prop
  | .binding _ => False
  | .derivedClone destination _ => destination ∈ bindings
  | .loan loan => loan ∈ loans
  | .event _ => True

section BuildSteps

variable {isAlphanumeric : Char → Bool} {sources : Assoc.Map Path RepairSource}
  {bindings : List OwnershipBinding} {events : List OwnershipEvent} {loans : List OwnershipLoan}
  {steps : List BuildStep}
  (h : buildSteps isAlphanumeric sources bindings events loans = some steps)
include h

/-- The clones, the loans and the events come after the bindings. -/
theorem buildSteps_eq :
    ∃ later, steps = bindings.map .binding ++ later ∧
      ∀ step ∈ later, IsLater bindings loans step := by
  obtain ⟨clones, hclones, heq⟩ := Option.bind_eq_some_iff.mp h
  refine ⟨clones ++ loans.map .loan ++ events.map .event, ?_, fun step hstep => ?_⟩
  · rw [← Option.some.inj heq]
    simp
  · rcases List.mem_append.mp hstep with hstep | hstep
    · rcases List.mem_append.mp hstep with hstep | hstep
      · obtain ⟨destination, hdestination, hclone⟩ := (Search.mem_mapM_some hclones).1 step hstep
        obtain ⟨_, -, rfl⟩ := Option.map_eq_some_iff.mp hclone
        exact hdestination
      · obtain ⟨loan, hloan, rfl⟩ := List.mem_map.mp hstep
        exact hloan
    · obtain ⟨event, -, rfl⟩ := List.mem_map.mp hstep
      trivial

/-- The loops mark the graph just for the layers of a binding. -/
theorem graphAfter_truncated_iff : (graphAfter bindings steps).truncated = true ↔
    ∃ binding ∈ bindings, 12 < binding.memoryLayers.length := by
  obtain ⟨later, rfl, hlater⟩ := buildSteps_eq h
  rw [graphAfter_truncated, List.any_eq_true]
  constructor
  · rintro ⟨step, hstep, hcut⟩
    rcases List.mem_append.mp hstep with hstep | hstep
    · obtain ⟨binding, hbinding, rfl⟩ := List.mem_map.mp hstep
      exact ⟨binding, hbinding, of_decide_eq_true hcut⟩
    · cases step with
      | binding binding => exact (hlater _ hstep).elim
      | derivedClone destination sourceName => cases hcut
      | loan loan => cases hcut
      | event event => cases hcut
  · rintro ⟨binding, hbinding, hlayers⟩
    exact ⟨.binding binding, List.mem_append_left _ (List.mem_map_of_mem hbinding),
      decide_eq_true hlayers⟩

end BuildSteps

end RustWorkbench.Compiler
