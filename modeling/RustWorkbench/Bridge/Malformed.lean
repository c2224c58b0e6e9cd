import RustWorkbench.Bridge.Validate
import Mathlib.Algebra.BigOperators.Group.List.Basic

/-!
# What an accepted model can still hold

The bridge is the boundary that keeps malformed analyzer data out of the editor: it promises to
reject inverted ranges, empty or repeated ids and oversized text.  The checks are written field
by field, so this module lists the data of a whole model and compares the list with the checks.
-/

namespace RustWorkbench

/-! ## The ranges of a model -/

/-- The range of the place a value goes to, where the event names one. -/
def OwnershipEvent.destinationRanges (event : OwnershipEvent) : List Range :=
  (event.destination.bind (·.range)).toList

def OwnershipEvent.ranges (event : OwnershipEvent) : List Range :=
  event.range :: event.bindingRange :: event.destinationRanges

def OwnershipBody.ranges (body : OwnershipBody) : List Range :=
  body.range :: body.blocks.map (·.range)

/-- Where a loan is live and where it ends. -/
def OwnershipLoan.pointRanges (loan : OwnershipLoan) : List Range :=
  (loan.livePoints ++ loan.endPoints).map (·.range)

def OwnershipLoan.ranges (loan : OwnershipLoan) : List Range :=
  loan.reserve.range :: ((loan.activation.map (·.range)).toList ++ loan.pointRanges)

def OwnershipMemoryGraph.ranges (graph : OwnershipMemoryGraph) : List Range :=
  graph.nodes.filterMap (·.range) ++ graph.edges.filterMap (·.range)
    ++ graph.snapshots.map (·.range)

def OwnershipRepair.ranges (repair : OwnershipRepair) : List Range :=
  repair.previewGraph.toList.flatMap (·.ranges)

/-- The ranges of the receiver and of the arguments of a call. -/
def OwnershipOperationInsight.flowRanges (operation : OwnershipOperationInsight) : List Range :=
  (operation.receiverFlow.map (·.range)).toList ++ operation.argumentFlows.map (·.range)

def OwnershipOperationInsight.ranges (operation : OwnershipOperationInsight) : List Range :=
  operation.range :: operation.flowRanges

def OwnershipConflictGraph.ranges (graph : OwnershipConflictGraph) : List Range :=
  graph.nodes.filterMap (·.range) ++ graph.snapshots.map (·.range)

def OwnershipSourceContext.ranges (context : OwnershipSourceContext) : List Range :=
  context.breadcrumbs.filterMap (·.range)

/-- Every range that occurs anywhere in a model. -/
def OwnershipModel.ranges (model : OwnershipModel) : List Range :=
  model.events.flatMap (·.ranges) ++ model.valueTrace.map (·.range)
    ++ model.repairs.flatMap (·.ranges) ++ model.bodies.flatMap (·.ranges)
    ++ model.bindings.map (·.range) ++ model.loans.flatMap (·.ranges)
    ++ model.memoryGraph.ranges ++ model.operations.flatMap (·.ranges)
    ++ model.conflictGraph.toList.flatMap (·.ranges)
    ++ model.sourceContext.toList.flatMap (·.ranges)

/-- The ranges that no check looks at. -/
def OwnershipModel.uncheckedRanges (model : OwnershipModel) : List Range :=
  model.events.flatMap (·.destinationRanges) ++ model.loans.flatMap (·.pointRanges)
    ++ model.operations.flatMap (·.flowRanges) ++ model.sourceContext.toList.flatMap (·.ranges)

/-! ## The identified collections of a model -/

def OwnershipMemoryGraph.idCollections (graph : OwnershipMemoryGraph) : List (List String) :=
  [graph.nodes.map (·.id), graph.edges.map (·.id), graph.snapshots.map (·.id),
    graph.accessPaths.map (·.id)]

/-- The collections whose ids no check looks at. -/
def OwnershipModel.uncheckedIds (model : OwnershipModel) : List (List String) :=
  [model.valueTrace.map (·.id), model.bindings.map (·.id), model.operations.map (·.id)]

/-- The ids of every identified collection of a model. -/
def OwnershipModel.idCollections (model : OwnershipModel) : List (List String) :=
  [model.events.map (·.eventId), model.repairs.map (·.id)] ++ model.uncheckedIds
    ++ model.memoryGraph.idCollections
    ++ model.repairs.flatMap (fun repair => repair.previewGraph.toList.flatMap (·.idCollections))
    ++ model.conflictGraph.toList.map (fun graph => graph.nodes.map (·.id))

/-! ## The strings of a model -/

def OwnershipEventDestination.texts (destination : OwnershipEventDestination) : List String :=
  [destination.kind, destination.label] ++ destination.place.toList

def OwnershipEvent.texts (event : OwnershipEvent) : List String :=
  [event.eventId, event.kind, event.state, event.place] ++ event.detail.toList
    ++ event.destination.toList.flatMap (·.texts)

def OwnershipValueTraceStep.texts (step : OwnershipValueTraceStep) : List String :=
  [step.id, step.kind, step.fromLabel, step.sourceState, step.allocationEffect, step.explanation,
    step.provenance] ++ step.toLabel.toList ++ step.destinationState.toList
    ++ step.controlFlow.toList

def OwnershipBody.texts (body : OwnershipBody) : List String :=
  [body.name, body.provenance]

def OwnershipMemoryLayer.texts (layer : OwnershipMemoryLayer) : List String :=
  [layer.kind, layer.storage, layer.label, layer.typeName, layer.provenance]

def OwnershipBinding.texts (binding : OwnershipBinding) : List String :=
  [binding.id, binding.name, binding.typeName, binding.provenance]
    ++ binding.memoryLayers.flatMap (·.texts)

def OwnershipLoan.texts (loan : OwnershipLoan) : List String :=
  [loan.kind, loan.name, loan.place, loan.provenance]

def OwnershipMemoryNode.texts (node : OwnershipMemoryNode) : List String :=
  [node.id, node.place, node.kind, node.storage, node.label, node.typeName, node.state,
    node.provenance, node.physicalPlacementNote]

def OwnershipMemoryEdge.texts (edge : OwnershipMemoryEdge) : List String :=
  [edge.id, edge.source, edge.target, edge.relation, edge.provenance] ++ edge.eventId.toList
    ++ edge.pathMarker.toList

def OwnershipStateDelta.texts (delta : OwnershipStateDelta) : List String :=
  [delta.nodeId, delta.toState] ++ delta.fromState.toList ++ delta.relationAdded.toList
    ++ delta.relationRemoved.toList

def OwnershipMemorySnapshot.texts (snapshot : OwnershipMemorySnapshot) : List String :=
  [snapshot.id, snapshot.eventId, snapshot.kind, snapshot.place, snapshot.provenance]
    ++ snapshot.pathMarker.toList ++ snapshot.deltas.flatMap (·.texts)

def OwnershipAccessStep.texts (step : OwnershipAccessStep) : List String :=
  [step.kind, step.startingType, step.resultType, step.mutability, step.explicitness,
    step.explanation, step.provenance]

def OwnershipAccessPath.texts (path : OwnershipAccessPath) : List String :=
  [path.id, path.nodeId, path.place, path.purpose, path.provenance]
    ++ path.steps.flatMap (·.texts)

def OwnershipMemoryGraph.texts (graph : OwnershipMemoryGraph) : List String :=
  graph.nodes.flatMap (·.texts) ++ graph.edges.flatMap (·.texts)
    ++ graph.snapshots.flatMap (·.texts) ++ graph.accessPaths.flatMap (·.texts)

def OwnershipRepairEffects.texts (effects : OwnershipRepairEffects) : List String :=
  [effects.ownership, effects.mutation, effects.threadSafety, effects.runtimeRisk, effects.cost]

/-- The strings of a repair beside its diff. -/
def OwnershipRepair.uncheckedTexts (repair : OwnershipRepair) : List String :=
  [repair.id, repair.title, repair.strategy, repair.semantics, repair.validationState]
    ++ repair.affectedFiles ++ repair.effects.texts
    ++ repair.previewGraph.toList.flatMap (·.texts)

def OwnershipRepair.texts (repair : OwnershipRepair) : List String :=
  repair.diff :: repair.uncheckedTexts

def OwnershipOperationReceiver.texts (receiver : OwnershipOperationReceiver) : List String :=
  [receiver.expression, receiver.transfer, receiver.after, receiver.provenance]

def OwnershipOperationArgument.texts (argument : OwnershipOperationArgument) : List String :=
  [argument.expression, argument.parameterType, argument.transfer, argument.after,
    argument.provenance]

def OwnershipOperationReturn.texts (value : OwnershipOperationReturn) : List String :=
  [value.typeName, value.kind, value.after, value.provenance] ++ value.borrowedFrom.toList

def OwnershipOperationEffect.texts (effect : OwnershipOperationEffect) : List String :=
  [effect.kind, effect.summary, effect.certainty]

def OwnershipOperationAlternative.texts (alternative : OwnershipOperationAlternative) :
    List String :=
  [alternative.name, alternative.signature, alternative.access, alternative.behavior,
    alternative.difference]

def OwnershipOperationInsight.texts (operation : OwnershipOperationInsight) : List String :=
  [operation.id, operation.name, operation.signature, operation.requiredAccess,
    operation.availableAccess, operation.whyRequired, operation.provenance, operation.summary]
    ++ operation.receiverType.toList ++ operation.documentation.toList ++ operation.effects
    ++ operation.effectFacts.flatMap (·.texts) ++ operation.callChain
    ++ operation.alternatives.flatMap (·.texts)
    ++ operation.receiverFlow.toList.flatMap (·.texts)
    ++ operation.argumentFlows.flatMap (·.texts) ++ operation.returnFlow.toList.flatMap (·.texts)

def OwnershipMutationRequirement.texts (requirement : OwnershipMutationRequirement) :
    List String :=
  [requirement.targetPlace, requirement.accessSource, requirement.availableAccess,
    requirement.requiredAccess, requirement.operationId, requirement.operationName,
    requirement.explanation, requirement.provenance]

def OwnershipConflictNode.texts (node : OwnershipConflictNode) : List String :=
  [node.id, node.label, node.role, node.memory] ++ node.typeName.toList

def OwnershipConflictEdge.texts (edge : OwnershipConflictEdge) : List String :=
  [edge.source, edge.target, edge.kind, edge.label, edge.provenance]

def OwnershipConflictNodeState.texts (state : OwnershipConflictNodeState) : List String :=
  [state.nodeId, state.state, state.explanation]

def OwnershipConflictSnapshot.texts (snapshot : OwnershipConflictSnapshot) : List String :=
  [snapshot.phase, snapshot.title, snapshot.explanation] ++ snapshot.states.flatMap (·.texts)

def OwnershipConflictGraph.texts (graph : OwnershipConflictGraph) : List String :=
  [graph.title, graph.summary, graph.requestedAccess, graph.provenance]
    ++ graph.nodes.flatMap (·.texts) ++ graph.edges.flatMap (·.texts)
    ++ graph.snapshots.flatMap (·.texts)

def OwnershipContextItem.texts (item : OwnershipContextItem) : List String :=
  [item.kind, item.label]

def OwnershipSourceContext.texts (context : OwnershipSourceContext) : List String :=
  [context.file, context.provenance] ++ context.breadcrumbs.flatMap (·.texts)
    ++ context.callPaths.flatten ++ context.relatedTypes

/-- The strings of a sketch beside its code. -/
def OwnershipCSketch.uncheckedTexts (sketch : OwnershipCSketch) : List String :=
  [sketch.title, sketch.warning, sketch.provenance] ++ sketch.linkedEventIds

def OwnershipCSketch.texts (sketch : OwnershipCSketch) : List String :=
  sketch.code :: sketch.uncheckedTexts

/-- The strings whose length no check bounds and that are read alike by `texts` and
`uncheckedTexts`: everything outside the repairs, the sketch and the status. -/
def OwnershipModel.plainTexts (model : OwnershipModel) : List String :=
  [model.targetTriple, model.precision, model.sourceHash] ++ model.selectedProblemId.toList
    ++ model.selectedPlace.toList ++ model.events.flatMap (·.texts)
    ++ model.valueTrace.flatMap (·.texts) ++ model.bodies.flatMap (·.texts)
    ++ model.bindings.flatMap (·.texts) ++ model.loans.flatMap (·.texts)
    ++ model.memoryGraph.texts ++ model.operations.flatMap (·.texts)
    ++ model.mutationRequirement.toList.flatMap (·.texts)
    ++ model.conflictGraph.toList.flatMap (·.texts)
    ++ model.sourceContext.toList.flatMap (·.texts)

/-- Every string that occurs anywhere in a model. -/
def OwnershipModel.texts (model : OwnershipModel) : List String :=
  model.status :: (model.plainTexts ++ model.repairs.flatMap (·.texts)
    ++ model.cSketch.toList.flatMap (·.texts))

/-- The strings whose length no check bounds. -/
def OwnershipModel.uncheckedTexts (model : OwnershipModel) : List String :=
  model.plainTexts ++ model.repairs.flatMap (·.uncheckedTexts)
    ++ model.cSketch.toList.flatMap (·.uncheckedTexts)

end RustWorkbench

namespace RustWorkbench.Bridge

/-! ## The promise of the boundary -/

/-- A string within the bridge's limit. -/
def TextOk (text : String) : Prop := textBytes text ≤ MAX_OWNERSHIP_TEXT_BYTES

/-- **A model without malformed data**: no range anywhere is inverted, the ids of each identified
collection are non-empty and pairwise distinct, no string exceeds the limit. -/
structure WellFormedModel (model : OwnershipModel) : Prop where
  ranges : ∀ range ∈ model.ranges, range.WellFormed
  ids : ∀ ids ∈ model.idCollections, ValidIds ids
  texts : ∀ text ∈ model.texts, TextOk text

/-- The part of the promise that the validator has no check for. -/
structure UncheckedParts (model : OwnershipModel) : Prop where
  ranges : ∀ range ∈ model.uncheckedRanges, range.WellFormed
  ids : ∀ ids ∈ model.uncheckedIds, ValidIds ids
  texts : ∀ text ∈ model.uncheckedTexts, TextOk text

/-- The part of the promise that concerns one memory graph. -/
structure GraphParts (graph : OwnershipMemoryGraph) : Prop where
  ranges : ∀ range ∈ graph.ranges, range.WellFormed
  ids : ∀ ids ∈ graph.idCollections, ValidIds ids

/-- The part of the promise that the validator checks. -/
structure CheckedParts (model : OwnershipModel) : Prop where
  events : ∀ event ∈ model.events, event.range.WellFormed ∧ event.bindingRange.WellFormed
  trace : ∀ step ∈ model.valueTrace, step.range.WellFormed
  bodies : ∀ body ∈ model.bodies, ∀ range ∈ body.ranges, range.WellFormed
  bindings : ∀ binding ∈ model.bindings, binding.range.WellFormed
  loans : ∀ loan ∈ model.loans, loan.reserve.range.WellFormed ∧
    ∀ range ∈ loan.activation.map (·.range), range.WellFormed
  operations : ∀ operation ∈ model.operations, operation.range.WellFormed
  eventIds : ValidIds (model.events.map (·.eventId))
  repairIds : ValidIds (model.repairs.map (·.id))
  memory : GraphParts model.memoryGraph
  previews : ∀ repair ∈ model.repairs, ∀ graph ∈ repair.previewGraph, GraphParts graph
  conflict : ∀ graph ∈ model.conflictGraph,
    (∀ range ∈ graph.ranges, range.WellFormed) ∧ ValidIds (graph.nodes.map (·.id))
  status : TextOk model.status
  diffs : ∀ repair ∈ model.repairs, TextOk repair.diff
  sketch : ∀ sketch ∈ model.cSketch, TextOk sketch.code

/-! ## The checks and the rest make up the promise -/

variable {model : OwnershipModel}

theorem ranges_wellFormed_iff :
    (∀ range ∈ model.ranges, range.WellFormed) ↔
      ((∀ event ∈ model.events, event.range.WellFormed ∧ event.bindingRange.WellFormed) ∧
        (∀ step ∈ model.valueTrace, step.range.WellFormed) ∧
        (∀ repair ∈ model.repairs, ∀ graph ∈ repair.previewGraph,
          ∀ range ∈ graph.ranges, range.WellFormed) ∧
        (∀ body ∈ model.bodies, ∀ range ∈ body.ranges, range.WellFormed) ∧
        (∀ binding ∈ model.bindings, binding.range.WellFormed) ∧
        (∀ loan ∈ model.loans, loan.reserve.range.WellFormed ∧
          ∀ range ∈ loan.activation.map (·.range), range.WellFormed) ∧
        (∀ range ∈ model.memoryGraph.ranges, range.WellFormed) ∧
        (∀ operation ∈ model.operations, operation.range.WellFormed) ∧
        (∀ graph ∈ model.conflictGraph, ∀ range ∈ graph.ranges, range.WellFormed)) ∧
      ∀ range ∈ model.uncheckedRanges, range.WellFormed := by
  unfold OwnershipModel.ranges OwnershipModel.uncheckedRanges OwnershipEvent.ranges
    OwnershipLoan.ranges OwnershipOperationInsight.ranges OwnershipRepair.ranges
  simp only [List.forall_mem_append, List.forall_mem_flatMap, List.forall_mem_map,
    List.forall_mem_cons, Option.mem_toList, forall_and]
  tauto

theorem ids_valid_iff :
    (∀ ids ∈ model.idCollections, ValidIds ids) ↔
      (ValidIds (model.events.map (·.eventId)) ∧ ValidIds (model.repairs.map (·.id)) ∧
        (∀ ids ∈ model.memoryGraph.idCollections, ValidIds ids) ∧
        (∀ repair ∈ model.repairs, ∀ graph ∈ repair.previewGraph,
          ∀ ids ∈ graph.idCollections, ValidIds ids) ∧
        (∀ graph ∈ model.conflictGraph, ValidIds (graph.nodes.map (·.id)))) ∧
      ∀ ids ∈ model.uncheckedIds, ValidIds ids := by
  unfold OwnershipModel.idCollections
  simp only [List.forall_mem_append, List.forall_mem_flatMap, List.forall_mem_map,
    List.forall_mem_cons, Option.mem_toList, List.not_mem_nil]
  tauto

theorem texts_ok_iff :
    (∀ text ∈ model.texts, TextOk text) ↔
      (TextOk model.status ∧ (∀ repair ∈ model.repairs, TextOk repair.diff) ∧
        (∀ sketch ∈ model.cSketch, TextOk sketch.code)) ∧
      ∀ text ∈ model.uncheckedTexts, TextOk text := by
  unfold OwnershipModel.texts OwnershipModel.uncheckedTexts OwnershipRepair.texts
    OwnershipCSketch.texts
  simp only [List.forall_mem_append, List.forall_mem_flatMap, List.forall_mem_cons,
    Option.mem_toList, forall_and]
  tauto

/-- **The checks and the rest make up the promise.** -/
theorem wellFormedModel_iff :
    WellFormedModel model ↔ CheckedParts model ∧ UncheckedParts model := by
  constructor
  · intro h
    obtain ⟨⟨hevents, htrace, hpreviews, hbodies, hbindings, hloans, hmemory, hoperations,
      hconflict⟩, hrest⟩ := ranges_wellFormed_iff.mp h.ranges
    obtain ⟨⟨heventIds, hrepairIds, hmemoryIds, hpreviewIds, hconflictIds⟩, hrestIds⟩ :=
      ids_valid_iff.mp h.ids
    obtain ⟨⟨hstatus, hdiffs, hsketch⟩, hrestTexts⟩ := texts_ok_iff.mp h.texts
    refine ⟨⟨hevents, htrace, hbodies, hbindings, hloans, hoperations, heventIds, hrepairIds,
      ⟨hmemory, hmemoryIds⟩, ?_, ?_, hstatus, hdiffs, hsketch⟩, hrest, hrestIds, hrestTexts⟩
    · intro repair hrepair graph hgraph
      exact ⟨hpreviews repair hrepair graph hgraph, hpreviewIds repair hrepair graph hgraph⟩
    · intro graph hgraph
      exact ⟨hconflict graph hgraph, hconflictIds graph hgraph⟩
  · rintro ⟨hc, hu⟩
    refine ⟨ranges_wellFormed_iff.mpr ⟨⟨hc.events, hc.trace, ?_, hc.bodies, hc.bindings,
        hc.loans, hc.memory.ranges, hc.operations, ?_⟩, hu.ranges⟩,
      ids_valid_iff.mpr ⟨⟨hc.eventIds, hc.repairIds, hc.memory.ids, ?_, ?_⟩, hu.ids⟩,
      texts_ok_iff.mpr ⟨⟨hc.status, hc.diffs, hc.sketch⟩, hu.texts⟩⟩
    · intro repair hrepair graph hgraph
      exact (hc.previews repair hrepair graph hgraph).ranges
    · intro graph hgraph
      exact (hc.conflict graph hgraph).1
    · intro repair hrepair graph hgraph
      exact (hc.previews repair hrepair graph hgraph).ids
    · intro graph hgraph
      exact (hc.conflict graph hgraph).2

/-! ## What the checks give -/

theorem graphParts_of_ok {graph : OwnershipMemoryGraph} (h : MemoryGraphOk graph) :
    GraphParts graph := by
  constructor
  · intro range hrange
    simp only [OwnershipMemoryGraph.ranges, List.mem_append, List.mem_filterMap,
      List.mem_map] at hrange
    rcases hrange with (⟨node, hnode, heq⟩ | ⟨edge, hedge, heq⟩) | ⟨snapshot, hsnapshot, rfl⟩
    · exact h.nodeRange node hnode range heq
    · exact h.edgeRange edge hedge range heq
    · exact (h.snapshots snapshot hsnapshot).1
  · intro ids hids
    simp only [OwnershipMemoryGraph.idCollections, List.mem_cons, List.not_mem_nil,
      or_false] at hids
    rcases hids with rfl | rfl | rfl | rfl
    · exact h.nodeIds
    · exact h.edgeIds
    · exact h.snapshotIds
    · exact h.accessPathIds

theorem conflict_ranges_of_ok {graph : OwnershipConflictGraph} (h : ConflictGraphOk graph) :
    ∀ range ∈ graph.ranges, range.WellFormed := by
  intro range hrange
  simp only [OwnershipConflictGraph.ranges, List.mem_append, List.mem_filterMap,
    List.mem_map] at hrange
  rcases hrange with ⟨node, hnode, heq⟩ | ⟨snapshot, hsnapshot, rfl⟩
  · exact h.nodeRange node hnode range heq
  · exact h.snapshotRange snapshot hsnapshot

theorem body_ranges_of_ok {body : OwnershipBody} (h : validateBody body = .ok ()) :
    ∀ range ∈ body.ranges, range.WellFormed := by
  unfold validateBody at h
  simp only [Checks.seq_ok_iff, Checks.ensure_ok_iff, Checks.forEach_ok_iff,
    validateRange_ok_iff] at h
  intro range hrange
  simp only [OwnershipBody.ranges, List.mem_cons, List.mem_map] at hrange
  rcases hrange with rfl | ⟨block, hblock, rfl⟩
  · exact h.1
  · exact (h.2.2 block hblock).1

theorem loan_ranges_of_ok {loan : OwnershipLoan} (h : validateLoan loan = .ok ()) :
    loan.reserve.range.WellFormed ∧
      ∀ range ∈ loan.activation.map (·.range), range.WellFormed := by
  unfold validateLoan at h
  simp only [Checks.seq_ok_iff, validateRange_ok_iff, validateOptionalRange_ok_iff] at h
  exact ⟨h.1, fun range hrange => h.2.1 range hrange⟩

theorem repair_parts_of_ok {repair : OwnershipRepair} (h : validateRepair repair = .ok ()) :
    TextOk repair.diff ∧ ∀ graph ∈ repair.previewGraph, GraphParts graph := by
  unfold validateRepair at h
  simp only [Checks.seq_ok_iff, Checks.forEach_ok_iff, validateText_ok_iff,
    validateMemoryGraph_ok_iff, Option.mem_toList] at h
  exact ⟨h.1, fun graph hgraph => graphParts_of_ok (h.2.2 graph hgraph)⟩

/-- The three words of the protocol are short. -/
theorem status_textOk {status : String}
    (h : ["ready", "waiting_for_compiler", "rust_analyzer_unavailable"].contains status = true) :
    TextOk status := by
  simp only [List.contains_cons, List.contains_nil, Bool.or_eq_true, beq_iff_eq,
    Bool.or_false] at h
  unfold TextOk
  rcases h with rfl | rfl | rfl
  all_goals decide +kernel

/-- **What acceptance gives**: every part that some check looks at is well formed. -/
theorem checkedParts_of_accepted (h : validateOwnershipModel model = .ok ()) :
    CheckedParts model := by
  unfold validateOwnershipModel at h
  simp only [Checks.seq_ok_iff, Checks.ensure_ok_iff, Checks.forEach_ok_iff,
    uniqueIds_ok_iff_validIds, validateRange_ok_iff, validateText_ok_iff,
    validateMemoryGraph_ok_iff, validateConflictGraph_ok_iff, Option.mem_toList] at h
  obtain ⟨hstatus, -, -, -, heventIds, hrepairIds, hevents, htrace, hbodies, hbindings, hloans,
    hoperations, hrepairs, hmemory, hconflict, -, hsketch⟩ := h
  exact {
    events := hevents
    trace := htrace
    bodies := fun body hbody => body_ranges_of_ok (hbodies body hbody)
    bindings := by
      intro binding hbinding
      have hok := hbindings binding hbinding
      unfold validateBinding at hok
      simp only [Checks.seq_ok_iff, validateRange_ok_iff] at hok
      exact hok.1
    loans := fun loan hloan => loan_ranges_of_ok (hloans loan hloan)
    operations := by
      intro operation hoperation
      have hok := hoperations operation hoperation
      unfold validateOperation at hok
      simp only [Checks.seq_ok_iff, validateRange_ok_iff] at hok
      exact hok.1
    eventIds := heventIds
    repairIds := hrepairIds
    memory := graphParts_of_ok hmemory
    previews := fun repair hrepair => (repair_parts_of_ok (hrepairs repair hrepair)).2
    conflict := fun graph hgraph =>
      ⟨conflict_ranges_of_ok (hconflict graph hgraph), (hconflict graph hgraph).nodeIds⟩
    status := status_textOk hstatus
    diffs := fun repair hrepair => (repair_parts_of_ok (hrepairs repair hrepair)).1
    sketch := hsketch }

/-- **Which accepted models are free of malformed data**: exactly those whose destinations, live
and end points, call flows and breadcrumbs hold no inverted range, whose value-trace steps,
bindings and operations have non-empty distinct ids, and whose strings beside the diffs, the
sketch's code and the status are within the limit.  The validator has no check for any of
these. -/
theorem accepted_wellFormed_iff {model : OwnershipModel}
    (h : validateOwnershipModel model = .ok ()) :
    WellFormedModel model ↔ UncheckedParts model := by
  rw [wellFormedModel_iff]
  exact and_iff_right (checkedParts_of_accepted h)

/-- A ready model with one loan, live at one point, and two bindings. -/
def loanModel (live : Range) (second : String) (name : String) : OwnershipModel :=
  let site : Range := ⟨⟨1, 4⟩, ⟨1, 9⟩⟩
  let binding (id name : String) : OwnershipBinding :=
    ⟨id, 0, name, site, "String", none, none, [], "compiler"⟩
  { schemaVersion := 14
    status := "ready"
    bindings := [binding "binding:0" "value", binding second name]
    loans := [⟨0, 0, "shared", "value", "value", ⟨0, 0, site⟩, none, [⟨0, 1, live⟩], [], false,
      "compiler"⟩] }

theorem loan_model_accepted_wellFormed :
    validateOwnershipModel (loanModel ⟨⟨2, 0⟩, ⟨2, 5⟩⟩ "binding:1" "view") = .ok () ∧
      WellFormedModel (loanModel ⟨⟨2, 0⟩, ⟨2, 5⟩⟩ "binding:1" "view") := by
  have haccepted :
      validateOwnershipModel (loanModel ⟨⟨2, 0⟩, ⟨2, 5⟩⟩ "binding:1" "view") = .ok () := by
    decide +kernel
  refine ⟨haccepted, (accepted_wellFormed_iff haccepted).mpr ⟨?_, ?_, ?_⟩⟩
  · unfold Range.WellFormed
    decide +kernel
  · intro ids hids
    have hmem : ids ∈ [[], ["binding:0", "binding:1"], []] := hids
    simp only [List.mem_cons, List.not_mem_nil, or_false] at hmem
    rcases hmem with rfl | rfl | rfl
    all_goals exact ⟨by decide, by decide⟩
  · unfold TextOk
    decide +kernel

/-- A name one byte over the limit. -/
def oversizedName : String := String.ofList (List.replicate (MAX_OWNERSHIP_TEXT_BYTES + 1) 'a')

theorem textBytes_oversizedName : textBytes oversizedName = MAX_OWNERSHIP_TEXT_BYTES + 1 := by
  unfold textBytes oversizedName
  rw [String.toList_ofList, List.map_replicate, List.sum_replicate]
  simp [Char.utf8Size]

/-- **An accepted model with all three faults**: the live point of its loan ends before it starts,
its two bindings share one id, and the second binding's name is over the limit. -/
theorem malformed_model_accepted :
    validateOwnershipModel (loanModel ⟨⟨2, 5⟩, ⟨2, 0⟩⟩ "binding:0" oversizedName) = .ok () ∧
      (¬ ∀ range ∈ (loanModel ⟨⟨2, 5⟩, ⟨2, 0⟩⟩ "binding:0" oversizedName).ranges,
        range.WellFormed) ∧
      (¬ ∀ ids ∈ (loanModel ⟨⟨2, 5⟩, ⟨2, 0⟩⟩ "binding:0" oversizedName).idCollections,
        ValidIds ids) ∧
      ¬ ∀ text ∈ (loanModel ⟨⟨2, 5⟩, ⟨2, 0⟩⟩ "binding:0" oversizedName).texts, TextOk text := by
  refine ⟨rfl, ?_, ?_, ?_⟩
  · intro h
    have hlive : (⟨⟨2, 5⟩, ⟨2, 0⟩⟩ : Range).WellFormed := by
      apply h
      simp [loanModel, OwnershipModel.ranges, OwnershipLoan.ranges, OwnershipLoan.pointRanges]
    unfold Range.WellFormed at hlive
    exact absurd hlive (by decide)
  · intro h
    have hids : ValidIds ["binding:0", "binding:0"] := by
      apply h
      simp [loanModel, OwnershipModel.idCollections, OwnershipModel.uncheckedIds]
    exact absurd hids.2 (by decide)
  · intro h
    have hname : TextOk oversizedName := by
      apply h
      simp [loanModel, OwnershipModel.texts, OwnershipModel.plainTexts, OwnershipBinding.texts]
    unfold TextOk at hname
    rw [textBytes_oversizedName] at hname
    omega

end RustWorkbench.Bridge
