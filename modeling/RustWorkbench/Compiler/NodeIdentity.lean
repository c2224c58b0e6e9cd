import RustWorkbench.Compiler.GraphGrowth

/-!
# Identities of the nodes of a binding

The id of a binding's node is a hash of its body, path, name, type and *shadow ordinal*: the place
of the binding among those of its name, in source order.  The ids of its layers hang on that id.

* `shadowOrdinal_eq_countP` — the ordinal counts the bindings of the name that start earlier.
* `addBinding_nodeIds` — the ids of the nodes that a binding adds, one per layer.
* `node_ids_stable` — edits elsewhere and shifts that keep the order of the name change no id.
-/

namespace RustWorkbench.Compiler

open StableSort

/-! ## The ordinal -/

/-- The bindings among which a binding is numbered. -/
def sameNamed (binding : OwnershipBinding) (bindings : List OwnershipBinding) :
    List OwnershipBinding :=
  bindings.filter fun candidate =>
    candidate.bodyId = binding.bodyId && candidate.binding.path = binding.binding.path
      && candidate.binding.name = binding.binding.name

/-- The number of a binding in the id of its node. -/
def shadowOrdinal (binding : OwnershipBinding) (bindings : List OwnershipBinding) : Nat :=
  ((sortByKey (fun candidate => candidate.binding.byteStart) (sameNamed binding bindings)).findIdx?
    fun candidate => candidate.binding.byteStart = binding.binding.byteStart).getD 0

theorem bindingNodeId_eq (binding : OwnershipBinding) (bindings : List OwnershipBinding) :
    bindingNodeId binding bindings = graphId "node" (toString binding.bodyId ++ ":"
      ++ binding.binding.path.display ++ ":" ++ binding.binding.name ++ ":" ++ binding.typeName ++ ":"
      ++ toString (shadowOrdinal binding bindings) ++ ":binding") := rfl

theorem shadowOrdinal_eq_countP {binding : OwnershipBinding} {bindings : List OwnershipBinding}
    (h : binding ∈ sameNamed binding bindings) :
    shadowOrdinal binding bindings = (sameNamed binding bindings).countP fun candidate =>
      candidate.binding.byteStart < binding.binding.byteStart := by
  have hfound := findIdx?_sortByKey (fun candidate : OwnershipBinding => candidate.binding.byteStart)
    ⟨binding, h, rfl⟩
  rw [shadowOrdinal, hfound, Option.getD_some]

/-! ## Layers -/

/-- The ids of the nodes of a binding: its own and those of its layers. -/
def layerIds (bindingId : String) : Nat → List MemoryLayer → List String
  | _, [] => []
  | index, layer :: layers => layerId bindingId index layer :: layerIds bindingId (index + 1) layers

theorem pushLayers_nodeIds (binding : OwnershipBinding) (bindingId : String) :
    ∀ (layers : List MemoryLayer) (index : Nat) (previous : Option (String × MemoryKind))
      (graph : MemoryGraph),
      (pushLayers binding bindingId index previous layers graph).nodeIds
        = graph.nodeIds ++ layerIds bindingId index layers
  | [], _, _, graph => by simp [pushLayers, layerIds]
  | layer :: layers, index, previous, graph => by
    simp only [pushLayers, layerIds]
    rw [pushLayers_nodeIds binding bindingId layers]
    cases previous with
    | none => simp [MemoryGraph.nodeIds, MemoryGraph.pushNode, layerNode]
    | some previous =>
      simp [MemoryGraph.nodeIds, MemoryGraph.pushNode, MemoryGraph.pushEdge, layerNode]

theorem addBinding_nodeIds (bindings : List OwnershipBinding) (graph : MemoryGraph)
    (binding : OwnershipBinding) :
    (addBinding bindings graph binding).nodeIds = graph.nodeIds
      ++ layerIds (bindingNodeId binding bindings) 0 (binding.memoryLayers.take 12) :=
  pushLayers_nodeIds binding (bindingNodeId binding bindings) _ 0 none graph

/-! ## Two runs -/

/-- The binding at another byte offset, with nothing else changed. -/
def OwnershipBinding.shiftTo (binding : OwnershipBinding) (byteStart : Nat) : OwnershipBinding :=
  { binding with binding := { binding.binding with byteStart } }

/-- The second list differs from the first by bindings of another name, body or path and by the
offsets of those of the name: each entry of `moved` is a binding of the name and its new offset. -/
structure ShiftedRun (binding : OwnershipBinding) (bindings bindings' : List OwnershipBinding)
    (moved : List (OwnershipBinding × Nat)) : Prop where
  before : sameNamed binding bindings = moved.map Prod.fst
  after : (sameNamed binding bindings').Perm (moved.map fun entry => entry.1.shiftTo entry.2)
  order : ∀ entry ∈ moved, ∀ entry' ∈ moved,
    entry.1.binding.byteStart < entry'.1.binding.byteStart ↔ entry.2 < entry'.2

theorem sameNamed_shiftTo (binding : OwnershipBinding) (byteStart : Nat)
    (bindings : List OwnershipBinding) :
    sameNamed (binding.shiftTo byteStart) bindings = sameNamed binding bindings := rfl

/-- Shifts that keep the order keep the number of earlier bindings. -/
theorem ShiftedRun.shadowOrdinal_eq {binding : OwnershipBinding}
    {bindings bindings' : List OwnershipBinding} {moved : List (OwnershipBinding × Nat)}
    {byteStart : Nat} (h : ShiftedRun binding bindings bindings' moved)
    (hmoved : (binding, byteStart) ∈ moved) :
    shadowOrdinal (binding.shiftTo byteStart) bindings' = shadowOrdinal binding bindings := by
  have hbefore : binding ∈ sameNamed binding bindings := by
    rw [h.before]
    exact List.mem_map_of_mem hmoved
  have hafter : binding.shiftTo byteStart ∈ sameNamed (binding.shiftTo byteStart) bindings' := by
    rw [sameNamed_shiftTo, h.after.mem_iff]
    exact List.mem_map.mpr ⟨(binding, byteStart), hmoved, rfl⟩
  rw [shadowOrdinal_eq_countP hafter, shadowOrdinal_eq_countP hbefore, sameNamed_shiftTo,
    h.after.countP_eq, h.before, List.countP_map, List.countP_map]
  refine List.countP_congr fun entry hentry => ?_
  have horder := h.order entry hentry (binding, byteStart) hmoved
  simp only [Function.comp_apply, decide_eq_true_eq]
  exact horder.symm

/-- **Stable node identities.**  In two runs over lists that differ as above, the binding gets the
same node id and adds nodes with the same ids, whatever the graphs they are added to. -/
theorem node_ids_stable {binding : OwnershipBinding} {bindings bindings' : List OwnershipBinding}
    {moved : List (OwnershipBinding × Nat)} {byteStart : Nat}
    (h : ShiftedRun binding bindings bindings' moved) (hmoved : (binding, byteStart) ∈ moved) :
    bindingNodeId (binding.shiftTo byteStart) bindings' = bindingNodeId binding bindings
      ∧ ∃ ids, (∀ graph, (addBinding bindings graph binding).nodeIds = graph.nodeIds ++ ids)
        ∧ ∀ graph, (addBinding bindings' graph (binding.shiftTo byteStart)).nodeIds
          = graph.nodeIds ++ ids := by
  have hid : bindingNodeId (binding.shiftTo byteStart) bindings' = bindingNodeId binding bindings := by
    rw [bindingNodeId_eq, bindingNodeId_eq, h.shadowOrdinal_eq hmoved]
    rfl
  refine ⟨hid, _, fun graph => addBinding_nodeIds bindings graph binding, fun graph => ?_⟩
  rw [addBinding_nodeIds, hid]
  rfl

/-! ## A local moved down -/

def countBinding (name : String) (byteStart : Nat) : OwnershipBinding where
  bodyId := 0
  binding := ⟨["main.rs"], byteStart, name⟩
  typeName := "u32"
  memoryLayers := [⟨.stackBinding, .stack, name, "u32", some 4, some 4, "target_layout"⟩]

/-- A local `other` is added in front of two that shadow each other, which moves them down. -/
theorem second_count_id_stable :
    bindingNodeId (countBinding "count" 36)
        [countBinding "other" 4, countBinding "count" 36, countBinding "count" 20]
      = bindingNodeId (countBinding "count" 20) [countBinding "count" 4, countBinding "count" 20] := by
  have hrun : ShiftedRun (countBinding "count" 20) [countBinding "count" 4, countBinding "count" 20]
      [countBinding "other" 4, countBinding "count" 36, countBinding "count" 20]
      [(countBinding "count" 4, 20), (countBinding "count" 20, 36)] :=
    ⟨by decide, by decide, by decide⟩
  have hmoved : (countBinding "count" 20, 36)
      ∈ [(countBinding "count" 4, 20), (countBinding "count" 20, 36)] := by decide
  exact (node_ids_stable hrun hmoved).1

end RustWorkbench.Compiler
