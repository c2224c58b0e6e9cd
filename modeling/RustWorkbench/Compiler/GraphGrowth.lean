import RustWorkbench.Compiler.MemoryGraph

/-!
# What the parts of a step do to the graph
-/

namespace RustWorkbench.Compiler

/-! ## Growing graphs -/

/-- Nodes and edges are only added. -/
structure Extends (before after : MemoryGraph) : Prop where
  nodes : before.nodes <+: after.nodes
  edges : before.edges <+: after.edges

namespace Extends

variable {first second third : MemoryGraph}

variable (graph : MemoryGraph)

theorem refl : Extends graph graph :=
  ⟨List.prefix_rfl, List.prefix_rfl⟩

theorem trans (h₁ : Extends first second) (h₂ : Extends second third) : Extends first third :=
  ⟨h₁.nodes.trans h₂.nodes, h₁.edges.trans h₂.edges⟩

theorem pushNode (node : MemoryNode) : Extends graph (graph.pushNode node) :=
  ⟨List.prefix_append _ _, List.prefix_rfl⟩

theorem pushEdge (edge : MemoryEdge) : Extends graph (graph.pushEdge edge) :=
  ⟨List.prefix_rfl, List.prefix_append _ _⟩

theorem mem_nodeIds (h : Extends first second) {id : String} (hid : id ∈ first.nodeIds) :
    id ∈ second.nodeIds := by
  obtain ⟨node, hnode, rfl⟩ := List.mem_map.mp hid
  exact List.mem_map_of_mem (h.nodes.subset hnode)

end Extends

theorem pushLayers_extends (binding : OwnershipBinding) (bindingId : String) :
    ∀ (layers : List MemoryLayer) (index : Nat) (previous : Option (String × MemoryKind))
      (graph : MemoryGraph), Extends graph (pushLayers binding bindingId index previous layers graph)
  | [], _, _, graph => .refl graph
  | layer :: layers, index, previous, graph => by
    refine .trans ?_ (pushLayers_extends binding bindingId layers _ _ _)
    cases previous with
    | none => exact .pushNode graph _
    | some previous => exact (Extends.pushNode graph _).trans (.pushEdge _ _)

theorem addBinding_extends (bindings : List OwnershipBinding) (graph : MemoryGraph)
    (binding : OwnershipBinding) : Extends graph (addBinding bindings graph binding) :=
  let h := pushLayers_extends binding (bindingNodeId binding bindings)
    (binding.memoryLayers.take 12) 0 none graph
  ⟨h.nodes, h.edges⟩

variable {bindings : List OwnershipBinding} {graph graph' : MemoryGraph} {bodyId : Nat}
  {place id : String} {span : Option Span} {provenance : OwnershipProvenance}

/-- A place is its binding, or has a node already, or gets one below its binding. -/
theorem ensurePlaceNode_cases
    (h : ensurePlaceNode bindings graph bodyId place span provenance = some (id, graph')) :
    ∃ rootId, findBindingNodeId bindings bodyId place = some rootId
      ∧ ((place = rootName place ∧ id = rootId ∧ graph' = graph)
        ∨ (id ∈ graph.nodeIds ∧ graph' = graph)
        ∨ (id ∉ graph.nodeIds ∧ ∃ node edge, node.id = id ∧ edge.source = rootId
          ∧ edge.target = id ∧ graph' = (graph.pushNode node).pushEdge edge)) := by
  unfold ensurePlaceNode at h
  obtain ⟨rootId, hroot, h⟩ := Option.bind_eq_some_iff.mp h
  refine ⟨rootId, hroot, ?_⟩
  split at h
  · rename_i hplace
    cases h
    exact .inl ⟨hplace, rfl, rfl⟩
  dsimp only at h
  split at h
  · rename_i hmem
    cases h
    exact .inr (.inl ⟨hmem, rfl⟩)
  · rename_i hmem
    cases h
    exact .inr (.inr ⟨hmem, _, _, rfl, rfl, rfl, rfl⟩)

theorem ensurePlaceNode_extends
    (h : ensurePlaceNode bindings graph bodyId place span provenance = some (id, graph')) :
    Extends graph graph' := by
  obtain ⟨rootId, -, ⟨-, -, rfl⟩ | ⟨-, rfl⟩ | ⟨-, node, edge, -, -, -, rfl⟩⟩ :=
    ensurePlaceNode_cases h
  · exact .refl _
  · exact .refl _
  · exact (Extends.pushNode graph node).trans (.pushEdge _ edge)

/-- The id of the node of a place.  It does not depend on the graph. -/
def placeNodeId (bindings : List OwnershipBinding) (bodyId : Nat) (place : String) : Option String :=
  (findBindingNodeId bindings bodyId place).map fun rootId =>
    if place = rootName place then rootId else graphId "place" (toString bodyId ++ ":" ++ place)

theorem ensurePlaceNode_id
    (h : ensurePlaceNode bindings graph bodyId place span provenance = some (id, graph')) :
    placeNodeId bindings bodyId place = some id := by
  unfold ensurePlaceNode at h
  obtain ⟨rootId, hroot, h⟩ := Option.bind_eq_some_iff.mp h
  rw [placeNodeId, hroot, Option.map_some]
  split at h
  · rename_i hplace
    cases h
    rw [if_pos hplace]
  · rename_i hplace
    rw [if_neg hplace]
    dsimp only at h
    split at h
    · cases h
      rfl
    · cases h
      rfl

/-- A place whose root is a binding has a node. -/
theorem exists_ensurePlaceNode {place rootId : String}
    (h : findBindingNodeId bindings bodyId place = some rootId) (graph : MemoryGraph)
    (span : Option Span) (provenance : OwnershipProvenance) :
    ∃ id placed, ensurePlaceNode bindings graph bodyId place span provenance = some (id, placed) := by
  unfold ensurePlaceNode
  rw [h, Option.bind_eq_bind, Option.bind_some]
  split
  · exact ⟨_, _, rfl⟩
  · dsimp only
    split
    · exact ⟨_, _, rfl⟩
    · exact ⟨_, _, rfl⟩

theorem destinationNode_extends {event : OwnershipEvent} {id : String}
    (h : destinationNode bindings graph event = some (id, graph')) : Extends graph graph' := by
  unfold destinationNode at h
  obtain ⟨destination, -, h⟩ := Option.bind_eq_some_iff.mp h
  obtain ⟨place, -, h⟩ := Option.bind_eq_some_iff.mp h
  exact ensurePlaceNode_extends h

theorem addLoan_extends (bindings : List OwnershipBinding) (graph : MemoryGraph)
    (loan : OwnershipLoan) : Extends graph (addLoan bindings graph loan) := by
  unfold addLoan
  split
  · exact .refl graph
  · rename_i h
    exact (ensurePlaceNode_extends h).trans ((Extends.pushNode _ _).trans (.pushEdge _ _))

/-! ## What is found -/

/-- The edges that contain one part of a value in another lead from one node to another. -/
abbrev MemoryGraph.Contains (graph : MemoryGraph) : String → String → Prop :=
  EdgeList.Reaches MemoryEdge.source MemoryEdge.target
    (graph.edges.filter fun edge => edge.relation.isContainment)

/-- The link of a root is an allocation edge of a part of it. -/
theorem allocationLinkForRoot_some {graph : MemoryGraph} {root : String} {link : AllocationLink}
    (h : allocationLinkForRoot graph root = some link) :
    ∃ edge ∈ graph.edges, edge.relation.isAllocation = true ∧ graph.Contains root edge.source ∧
      link = ⟨edge.source, edge.target, edge.relation⟩ := by
  obtain ⟨edge, hfound, rfl⟩ := Option.map_eq_some_iff.mp h
  obtain ⟨hmem, hhit, hreach⟩ := EdgeList.search_sound hfound
  exact ⟨edge, hmem, hhit, hreach, rfl⟩

/-! ## What is deleted -/

/-- The edges of the graph lead from one node to another. -/
abbrev MemoryGraph.Reaches (graph : MemoryGraph) : String → String → Prop :=
  EdgeList.Reaches MemoryEdge.source MemoryEdge.target graph.edges

/-- A node stays unless the deleted allocation leads to it. -/
theorem mem_nodeIds_removeDuplicateAllocation {graph : MemoryGraph} {allocation id : String} :
    id ∈ (removeDuplicateAllocation graph allocation).nodeIds
      ↔ id ∈ graph.nodeIds ∧ ¬ graph.Reaches allocation id := by
  unfold removeDuplicateAllocation MemoryGraph.nodeIds
  simp only [List.mem_map, List.mem_filter, decide_eq_true_eq, EdgeList.mem_closure_iff]
  constructor
  · rintro ⟨node, ⟨hnode, hreach⟩, rfl⟩
    exact ⟨⟨node, hnode, rfl⟩, hreach⟩
  · rintro ⟨⟨node, hnode, rfl⟩, hreach⟩
    exact ⟨node, ⟨hnode, hreach⟩, rfl⟩

end RustWorkbench.Compiler
