import RustWorkbench.Compiler.GraphRecords
import RustWorkbench.Compiler.NodeIdentity

/-!
# Which binding a place belongs to

Every loan and event names its place by text.  The builder goes from the text to a binding node:
the node of the place itself if it is a local, else the one that the node of the place hangs from.

* `attached_to_own_binding_iff` — a loan or event is attached to its own binding exactly when that
  is the first binding of the body with the name.
-/

namespace RustWorkbench.Compiler

/-! ## Ids of places -/

def placeId (bodyId : Nat) (place : String) : String :=
  graphId "place" (toString bodyId ++ ":" ++ place)

theorem place_ne_node (identity identity' : String) :
    graphId "place" identity ≠ graphId "node" identity' := by
  intro h
  have hlist := congrArg String.toList h
  simp [graphId, String.toList_append] at hlist

theorem layerId_eq_node (binding : OwnershipBinding) (bindings : List OwnershipBinding)
    (index : Nat) (layer : MemoryLayer) :
    ∃ identity, layerId (bindingNodeId binding bindings) index layer = graphId "node" identity := by
  unfold layerId
  split
  · exact ⟨_, bindingNodeId_eq binding bindings⟩
  · exact ⟨_, rfl⟩

/-! ## Changes -/

/-- What the parts of a step do to nodes and edges: they push at most `n` nodes, and the places they
give a node are in `places`. -/
inductive Change (bindings : List OwnershipBinding) (places : List (Nat × String)) :
    Nat → MemoryGraph → MemoryGraph → Prop
  | node {graph : MemoryGraph} {node : MemoryNode} (identity : String) :
      node.id = graphId "node" identity → Change bindings places 1 graph (graph.pushNode node)
  | edge {graph : MemoryGraph} {edge : MemoryEdge} :
      (edge.relation = .contains → ∃ identity, edge.target = graphId "node" identity) →
      Change bindings places 0 graph (graph.pushEdge edge)
  | place {graph graph' : MemoryGraph} {bodyId : Nat} {place id : String} {span : Option Span}
      {provenance : OwnershipProvenance} : (bodyId, place) ∈ places →
      ensurePlaceNode bindings graph bodyId place span provenance = some (id, graph') →
      Change bindings places 1 graph graph'
  | delete (graph : MemoryGraph) (allocation : String) :
      Change bindings places 0 graph (removeDuplicateAllocation graph allocation)
  | record {n : Nat} {graph graph' : MemoryGraph} : graph'.nodes = graph.nodes →
      graph'.edges = graph.edges → Change bindings places n graph graph'
  | trans {m n : Nat} {first second third : MemoryGraph} : Change bindings places m first second →
      Change bindings places n second third → Change bindings places (m + n) first third

namespace Change

variable {bindings : List OwnershipBinding} {places : List (Nat × String)} {graph : MemoryGraph}

theorem refl {n : Nat} (graph : MemoryGraph) : Change bindings places n graph graph :=
  .record rfl rfl

theorem andRecord {n : Nat} {before after : MemoryGraph} (h : Change bindings places n graph before)
    (hnodes : after.nodes = before.nodes) (hedges : after.edges = before.edges) :
    Change bindings places n graph after :=
  h.trans (.record hnodes hedges : Change bindings places 0 before after)

theorem andEdge {n : Nat} {before : MemoryGraph} {edge : MemoryEdge}
    (h : Change bindings places n graph before)
    (hedge : edge.relation = .contains → ∃ identity, edge.target = graphId "node" identity) :
    Change bindings places n graph (before.pushEdge edge) :=
  h.trans (.edge hedge : Change bindings places 0 before _)

theorem pushLayers (binding : OwnershipBinding) :
    ∀ (layers : List MemoryLayer) (index : Nat) (previous : Option (String × MemoryKind))
      (graph : MemoryGraph), Change bindings places layers.length graph
        (pushLayers binding (bindingNodeId binding bindings) index previous layers graph)
  | [], _, _, graph => refl graph
  | layer :: layers, index, previous, graph => by
    obtain ⟨identity, hidentity⟩ := layerId_eq_node binding bindings index layer
    have hnode : Change bindings places 1 graph (graph.pushNode
        (layerNode binding (layerId (bindingNodeId binding bindings) index layer) index layer)) :=
      .node identity hidentity
    rw [List.length_cons, Nat.add_comm]
    refine .trans ?_ (pushLayers binding layers _ _ _)
    cases previous with
    | none => exact hnode
    | some previous => exact andEdge hnode fun _ => ⟨identity, hidentity⟩

variable {event : OwnershipEvent}

theorem destinationNode {target : String} {aimed : MemoryGraph}
    (hplaces : ∀ destination ∈ event.destination, ∀ place ∈ destination.place,
      (event.bodyId, place) ∈ places)
    (h : Compiler.destinationNode bindings graph event = some (target, aimed)) :
    Change bindings places 1 graph aimed := by
  unfold Compiler.destinationNode at h
  obtain ⟨destination, hdestination, h⟩ := Option.bind_eq_some_iff.mp h
  obtain ⟨place, hplace, h⟩ := Option.bind_eq_some_iff.mp h
  exact .place (hplaces destination hdestination place hplace) h

/-- The edge to an allocation is no containment. -/
theorem andRelink {n : Nat} {before : MemoryGraph} (h : Change bindings places n graph before)
    {edge : MemoryEdge} {transfer : Transfer} (hedge : edge.relation = transfer.source.relation)
    {sourceRoot destinationRoot : String}
    (htransfer : findTransfer before sourceRoot destinationRoot = some transfer) :
    Change bindings places n graph (relink before transfer edge) := by
  refine andEdge (h.trans (.delete before transfer.destination.allocation)) fun hcontains => ?_
  unfold findTransfer at htransfer
  obtain ⟨source, hsource, htransfer⟩ := Option.bind_eq_some_iff.mp htransfer
  obtain ⟨destination, -, htransfer⟩ := Option.bind_eq_some_iff.mp htransfer
  obtain rfl := Option.some.inj htransfer
  obtain ⟨link, -, hallocation, -, rfl⟩ := allocationLinkForRoot_some hsource
  have hrelation : link.relation = .contains := hedge.symm.trans hcontains
  rw [hrelation] at hallocation
  cases hallocation

theorem applyMove {nodeId : String}
    (hplaces : ∀ destination ∈ event.destination, ∀ place ∈ destination.place,
      (event.bodyId, place) ∈ places) :
    Change bindings places 1 graph (applyMove bindings graph event nodeId).1 := by
  unfold Compiler.applyMove
  split
  · split
    · exact refl graph
    · rename_i target aimed htarget
      have haimed : Change bindings places 1 graph (aimed.pushEdge (movedToEdge event nodeId target)) :=
        (destinationNode hplaces htarget).andEdge (fun h => nomatch h)
      dsimp only
      split
      · split
        · exact haimed
        · rename_i htransfer
          exact haimed.andRelink rfl htransfer
      · exact haimed
  · exact refl graph

theorem applyClone {nodeId : String}
    (hplaces : ∀ destination ∈ event.destination, ∀ place ∈ destination.place,
      (event.bodyId, place) ∈ places) :
    Change bindings places 1 graph (applyClone bindings graph event nodeId) := by
  unfold Compiler.applyClone
  split
  · split
    · exact refl graph
    · rename_i target aimed htarget
      have haimed : Change bindings places 1 graph aimed := destinationNode hplaces htarget
      split
      · exact haimed
      · rename_i htransfer
        split
        · exact haimed.andRelink rfl htransfer
        · exact haimed
  · exact refl graph

theorem length_nodeIds_le {n : Nat} {graph' : MemoryGraph}
    (h : Change bindings places n graph graph') :
    graph'.nodeIds.length ≤ graph.nodeIds.length + n := by
  induction h with
  | node _ _ => simp [MemoryGraph.nodeIds, MemoryGraph.pushNode]
  | edge _ => exact le_rfl
  | place _ hplace =>
    obtain ⟨_, -, ⟨-, -, rfl⟩ | ⟨-, rfl⟩ | ⟨-, _, _, -, -, -, rfl⟩⟩ := ensurePlaceNode_cases hplace
    · exact Nat.le_succ _
    · exact Nat.le_succ _
    · simp [MemoryGraph.nodeIds, MemoryGraph.pushNode, MemoryGraph.pushEdge]
  | delete graph allocation =>
    simp only [MemoryGraph.nodeIds, List.length_map]
    exact List.length_filter_le _ _
  | record hnodes _ =>
    rw [MemoryGraph.nodeIds, hnodes]
    exact Nat.le_add_right _ _
  | trans _ _ ih₁ ih₂ => omega

end Change

/-- How many nodes a step pushes at most. -/
def nodeCount : BuildStep → Nat
  | .binding binding => (binding.memoryLayers.take 12).length
  | .derivedClone _ _ => 0
  | .loan _ => 2
  | .event _ => 3

/-- The places that a step may give a node. -/
def stepPlaces : BuildStep → List (Nat × String)
  | .loan loan => [(loan.bodyId, loan.place)]
  | .event event => (event.bodyId, event.place)
    :: ((event.destination.bind OwnershipDestination.place).map fun place =>
      (event.bodyId, place)).toList
  | _ => []

variable {bindings : List OwnershipBinding} {places : List (Nat × String)} {bodyId : Nat}
  {step : BuildStep} {graph : MemoryGraph}

/-- **A step changes nodes and edges only so.** -/
theorem buildStep_change (hplaces : ∀ entry ∈ stepPlaces step, entry ∈ places)
    (graph : MemoryGraph) :
    Change bindings places (nodeCount step) graph (buildStep bindings graph step) := by
  cases step with
  | binding binding =>
    exact (Change.pushLayers binding (binding.memoryLayers.take 12) 0 none graph).andRecord rfl rfl
  | derivedClone destination sourceName =>
    simp only [buildStep, addDerivedClone]
    split
    · exact .refl graph
    · rename_i source transfer hderived
      unfold derivedTransfer at hderived
      obtain ⟨name, -, hderived⟩ := Option.bind_eq_some_iff.mp hderived
      obtain ⟨found, -, hderived⟩ := Option.bind_eq_some_iff.mp hderived
      obtain ⟨transfer', htransfer, hderived⟩ := Option.bind_eq_some_iff.mp hderived
      split at hderived
      · cases hderived
        exact ((Change.refl graph).andRelink rfl htransfer).andRecord rfl rfl
      · cases hderived
  | loan loan =>
    simp only [buildStep, addLoan]
    split
    · exact .refl graph
    · rename_i rootId placed hplace
      have hplaced : Change bindings places 1 graph placed :=
        .place (hplaces _ List.mem_cons_self) hplace
      refine Change.andEdge (hplaced.trans (.node _ rfl)) fun hcontains => ?_
      unfold loanEdge at hcontains
      cases hkind : loan.kind <;> rw [hkind] at hcontains <;> cases hcontains
  | event event =>
    have hdestination : ∀ destination ∈ event.destination, ∀ place ∈ destination.place,
        (event.bodyId, place) ∈ places := by
      intro destination hdestination place hplace
      apply hplaces
      rw [Option.mem_def] at hdestination hplace
      simp [stepPlaces, hdestination, hplace]
    simp only [buildStep, addEvent]
    split
    · exact .refl graph
    · rename_i nodeId placed hplace
      have hplaced : Change bindings places 1 graph placed :=
        .place (hplaces _ List.mem_cons_self) hplace
      exact Change.andRecord ((hplaced.trans (Change.applyMove hdestination)).trans
        (Change.applyClone hdestination)) rfl rfl

/-! ## Roots of places -/

/-- The edge holds the node of a place below another node. -/
def MemoryEdge.Holds (edge : MemoryEdge) (id : String) : Prop :=
  edge.relation = .contains ∧ edge.target = id

/-- The node of a place hangs from the binding node that the text of the place leads to. -/
structure Rooted (bindings : List OwnershipBinding) (places : List (Nat × String))
    (graph : MemoryGraph) : Prop where
  roots : ∀ edge ∈ graph.edges, ∀ identity, edge.Holds (graphId "place" identity) →
    ∃ entry ∈ places, graphId "place" identity = placeId entry.1 entry.2
      ∧ findBindingNodeId bindings entry.1 entry.2 = some edge.source
  held : ∀ identity, graphId "place" identity ∈ graph.nodeIds →
    ∃ edge ∈ graph.edges, edge.Holds (graphId "place" identity)

namespace Rooted

variable {bindings : List OwnershipBinding} {places : List (Nat × String)}
  {graph graph' : MemoryGraph}

theorem empty : Rooted bindings places {} := ⟨fun _ h => (List.not_mem_nil h).elim,
  fun _ h => (List.not_mem_nil h).elim⟩

theorem pushNode (h : Rooted bindings places graph) {node : MemoryNode} {identity : String}
    (hnode : node.id = graphId "node" identity) : Rooted bindings places (graph.pushNode node) := by
  refine ⟨h.roots, fun identity' hmem => h.held identity' ?_⟩
  simp only [MemoryGraph.nodeIds, MemoryGraph.pushNode, List.map_append, List.map_cons, List.map_nil,
    List.mem_append, List.mem_singleton] at hmem
  rcases hmem with hmem | hmem
  · exact hmem
  · exact absurd (hmem.trans hnode) (place_ne_node _ _)

theorem pushEdge (h : Rooted bindings places graph) {edge : MemoryEdge}
    (hedge : ∀ identity, edge.Holds (graphId "place" identity) →
      ∃ entry ∈ places, graphId "place" identity = placeId entry.1 entry.2
        ∧ findBindingNodeId bindings entry.1 entry.2 = some edge.source) :
    Rooted bindings places (graph.pushEdge edge) := by
  refine ⟨fun candidate hmem identity hholds => ?_, fun identity hmem => ?_⟩
  · rcases List.mem_append.mp hmem with hmem | hmem
    · exact h.roots candidate hmem identity hholds
    · obtain rfl := List.mem_singleton.mp hmem
      exact hedge identity hholds
  · obtain ⟨candidate, hcandidate, hholds⟩ := h.held identity hmem
    exact ⟨candidate, List.mem_append_left _ hcandidate, hholds⟩

theorem place (h : Rooted bindings places graph) {bodyId : Nat} {place id : String}
    {span : Option Span} {provenance : OwnershipProvenance} (hplaces : (bodyId, place) ∈ places)
    (hplace : ensurePlaceNode bindings graph bodyId place span provenance = some (id, graph')) :
    Rooted bindings places graph' := by
  unfold ensurePlaceNode at hplace
  obtain ⟨rootId, hroot, hplace⟩ := Option.bind_eq_some_iff.mp hplace
  split at hplace
  · cases hplace
    exact h
  dsimp only at hplace
  split at hplace
  · cases hplace
    exact h
  · cases hplace
    refine ⟨fun edge hmem identity hholds => ?_, fun identity hmem => ?_⟩
    · rcases List.mem_append.mp hmem with hmem | hmem
      · exact h.roots edge hmem identity hholds
      · obtain rfl := List.mem_singleton.mp hmem
        exact ⟨(bodyId, place), hplaces, hholds.2.symm, hroot⟩
    · simp only [MemoryGraph.nodeIds, MemoryGraph.pushNode, MemoryGraph.pushEdge, List.map_append,
        List.map_cons, List.map_nil, List.mem_append, List.mem_singleton] at hmem
      rcases hmem with hmem | hmem
      · obtain ⟨edge, hedge, hholds⟩ := h.held identity hmem
        exact ⟨edge, List.mem_append_left _ hedge, hholds⟩
      · exact ⟨_, List.mem_append_right _ List.mem_cons_self, rfl, hmem.symm⟩

/-- What the allocation leads to goes with the edges that hold it. -/
theorem delete (h : Rooted bindings places graph) (allocation : String) :
    Rooted bindings places (removeDuplicateAllocation graph allocation) := by
  refine ⟨fun edge hmem => h.roots edge (List.mem_filter.mp hmem).1, fun identity hmem => ?_⟩
  obtain ⟨hmem, hspared⟩ := mem_nodeIds_removeDuplicateAllocation.mp hmem
  obtain ⟨edge, hedge, hholds⟩ := h.held identity hmem
  refine ⟨edge, List.mem_filter.mpr ⟨hedge, ?_⟩, hholds⟩
  simp only [Bool.and_eq_true, decide_eq_true_eq, EdgeList.mem_closure_iff]
  refine ⟨fun hsource => hspared (hsource.tail ⟨edge, hedge, rfl, hholds.2⟩), fun htarget => ?_⟩
  exact hspared (hholds.2 ▸ htarget)

theorem change {n : Nat} (hchange : Change bindings places n graph graph') :
    Rooted bindings places graph → Rooted bindings places graph' := by
  induction hchange with
  | node identity hnode => exact fun h => h.pushNode hnode
  | edge hedge =>
    refine fun h => h.pushEdge fun identity hholds => ?_
    obtain ⟨identity', htarget⟩ := hedge hholds.1
    exact absurd (hholds.2.symm.trans htarget) (place_ne_node _ _)
  | place hplaces hplace => exact fun h => h.place hplaces hplace
  | delete graph allocation => exact fun h => h.delete allocation
  | record hnodes hedges =>
    intro h
    refine ⟨fun edge hmem => h.roots edge (hedges ▸ hmem), fun identity hmem => ?_⟩
    rw [MemoryGraph.nodeIds, hnodes] at hmem
    rw [hedges]
    exact h.held identity hmem
  | trans _ _ ih₁ ih₂ => exact fun h => ih₂ (ih₁ h)

end Rooted

/-- **Places hang from their roots in every run.** -/
theorem graphAfter_rooted {steps : List BuildStep}
    (hplaces : ∀ step ∈ steps, ∀ entry ∈ stepPlaces step, entry ∈ places) :
    Rooted bindings places (graphAfter bindings steps) := by
  induction steps using List.reverseRecOn with
  | nil => exact Rooted.empty
  | append_singleton done step ih =>
    rw [graphAfter_snoc]
    have hdone := ih fun step hstep => hplaces step (List.mem_append_left _ hstep)
    exact hdone.change (buildStep_change
      (hplaces step (List.mem_append_right _ List.mem_cons_self)) _)

/-- **In every state of the builder places hang from their roots**: the node of a place is held by
the binding that its text leads to, and by nothing else. -/
theorem places_hang_from_roots (bindings : List OwnershipBinding) (steps : List BuildStep) :
    Rooted bindings (steps.flatMap stepPlaces) (graphAfter bindings steps) :=
  graphAfter_rooted fun step hstep _ hentry => List.mem_flatMap.mpr ⟨step, hstep, hentry⟩

/-! ## Attachments -/

/-- The body and the place that a loan or an event names. -/
def namedPlace : BuildStep → Option (Nat × String)
  | .loan loan => some (loan.bodyId, loan.place)
  | .event event => some (event.bodyId, event.place)
  | _ => none

/-- The node of that place, and the graph in which it has one: the first thing that a round of
either loop asks for. -/
def attachment (bindings : List OwnershipBinding) (graph : MemoryGraph) :
    BuildStep → Option (String × MemoryGraph)
  | .loan loan => ensurePlaceNode bindings graph loan.bodyId loan.place (some loan.reserve.span) .exact
  | .event event => ensurePlaceNode bindings graph event.bodyId event.place (some event.span) .exact
  | _ => none

theorem attachment_eq {place : String} (h : namedPlace step = some (bodyId, place)) :
    ∃ span, attachment bindings graph step
      = ensurePlaceNode bindings graph bodyId place span .exact := by
  cases step with
  | binding => cases h
  | derivedClone => cases h
  | loan loan => cases h; exact ⟨_, rfl⟩
  | event event => cases h; exact ⟨_, rfl⟩

/-- The loan or event is attached to the node of the binding `own`: its place is that node, or has a
node that hangs from it and from nothing else. -/
def AttachedTo (bindings : List OwnershipBinding) (graph : MemoryGraph) (step : BuildStep)
    (own : OwnershipBinding) : Prop :=
  ∀ bodyId place id placed, namedPlace step = some (bodyId, place) →
    attachment bindings graph step = some (id, placed) →
    if place = rootName place then id = bindingNodeId own bindings
    else (∃ edge ∈ placed.edges, edge.Holds id)
      ∧ ∀ edge ∈ placed.edges, edge.Holds id → edge.source = bindingNodeId own bindings

/-- What the ids of two binding nodes tell about the bindings. -/
structure SameNode (binding binding' : OwnershipBinding) : Prop where
  body : binding.bodyId = binding'.bodyId
  path : binding.binding.path = binding'.binding.path
  byteStart : binding.binding.byteStart = binding'.binding.byteStart
  name : binding.binding.name = binding'.binding.name
  typeName : binding.typeName = binding'.typeName

theorem SameNode.bindingNodeId_eq {binding binding' : OwnershipBinding} (h : SameNode binding binding')
    (bindings : List OwnershipBinding) :
    bindingNodeId binding bindings = bindingNodeId binding' bindings := by
  simp only [Compiler.bindingNodeId_eq, shadowOrdinal, sameNamed, h.body, h.path, h.byteStart, h.name,
    h.typeName]

/-- The hashes of the ids do not collide on the bindings and places of the crate. -/
structure IdsTellApart (bindings : List OwnershipBinding) (places : List (Nat × String)) : Prop where
  bindings : ∀ binding ∈ bindings, ∀ binding' ∈ bindings, binding.bodyId = binding'.bodyId →
    bindingNodeId binding bindings = bindingNodeId binding' bindings → SameNode binding binding'
  places : ∀ entry ∈ places, ∀ entry' ∈ places,
    placeId entry.1 entry.2 = placeId entry'.1 entry'.2 → entry = entry'

/-- The first binding of the body with the name at the root of the place is `own`. -/
def FirstOfName (bindings : List OwnershipBinding) (bodyId : Nat) (place : String)
    (own : OwnershipBinding) : Prop :=
  ∀ first, bindings.find? (fun binding =>
    binding.bodyId = bodyId && binding.binding.name = rootName place) = some first → SameNode first own

/-- The attached node of a projected place is that of the place, and it is there. -/
theorem ensurePlaceNode_projected {graph placed : MemoryGraph} {place id : String}
    {span : Option Span} {provenance : OwnershipProvenance} (hplace : place ≠ rootName place)
    (h : ensurePlaceNode bindings graph bodyId place span provenance = some (id, placed)) :
    id = placeId bodyId place ∧ id ∈ placed.nodeIds := by
  have hid := ensurePlaceNode_id h
  obtain ⟨rootId, hroot, hcases⟩ := ensurePlaceNode_cases h
  rw [placeNodeId, hroot, Option.map_some, if_neg hplace] at hid
  refine ⟨(Option.some.inj hid).symm, ?_⟩
  rcases hcases with ⟨hplain, -, -⟩ | ⟨hmem, rfl⟩ | ⟨-, node, edge, rfl, -, -, rfl⟩
  · exact absurd hplain hplace
  · exact hmem
  · exact List.mem_map.mpr ⟨node, List.mem_append_right _ List.mem_cons_self, rfl⟩

/-- Whatever holds the node of a place is the binding that the lookup finds. -/
theorem Rooted.source_eq (h : Rooted bindings places graph) (hapart : IdsTellApart bindings places)
    {place : String} (hplaces : (bodyId, place) ∈ places) {edge : MemoryEdge} (hedge : edge ∈ graph.edges)
    (hholds : edge.Holds (placeId bodyId place)) :
    findBindingNodeId bindings bodyId place = some edge.source := by
  obtain ⟨entry, hentry, hid, hfound⟩ := h.roots edge hedge _ hholds
  obtain rfl : (bodyId, place) = entry := hapart.places _ hplaces _ hentry hid
  exact hfound

/-- What is attached is what the lookup finds, for a local and for what hangs from one. -/
theorem attachedTo_iff_found {place : String} (hrooted : Rooted bindings places graph)
    (hapart : IdsTellApart bindings places) (hnamed : namedPlace step = some (bodyId, place))
    (hplaces : (bodyId, place) ∈ places) (own : OwnershipBinding) :
    AttachedTo bindings graph step own ↔ ∀ rootId,
      findBindingNodeId bindings bodyId place = some rootId → rootId = bindingNodeId own bindings := by
  obtain ⟨span, hattachment⟩ : ∃ span, attachment bindings graph step
      = ensurePlaceNode bindings graph bodyId place span .exact := attachment_eq hnamed
  constructor
  · intro h rootId hroot
    obtain ⟨id, placed, hplace⟩ := exists_ensurePlaceNode hroot graph span .exact
    have hattached := h bodyId place id placed hnamed (hattachment.trans hplace)
    split at hattached
    · rename_i hplain
      have hid := ensurePlaceNode_id hplace
      rw [placeNodeId, hroot, Option.map_some, if_pos hplain] at hid
      exact (Option.some.inj hid).trans hattached
    · rename_i hprojected
      obtain ⟨⟨edge, hedge, hholds⟩, hsources⟩ := hattached
      obtain ⟨rfl, -⟩ := ensurePlaceNode_projected hprojected hplace
      have hsource := (hrooted.place hplaces hplace).source_eq hapart hplaces hedge hholds
      have hsame : rootId = edge.source := Option.some.inj (hroot.symm.trans hsource)
      exact hsame.trans (hsources edge hedge hholds)
  · intro h bodyId' place' id placed hnamed' hplace
    obtain ⟨rfl, rfl⟩ : bodyId = bodyId' ∧ place = place' := by
      simpa using hnamed.symm.trans hnamed'
    rw [hattachment] at hplace
    obtain ⟨rootId, hroot, -⟩ := ensurePlaceNode_cases hplace
    split
    · rename_i hplain
      have hid := ensurePlaceNode_id hplace
      rw [placeNodeId, hroot, Option.map_some, if_pos hplain] at hid
      exact (Option.some.inj hid).symm.trans (h rootId hroot)
    · rename_i hprojected
      have hplaced := hrooted.place hplaces hplace
      obtain ⟨rfl, hmem⟩ := ensurePlaceNode_projected hprojected hplace
      refine ⟨hplaced.held _ hmem, fun edge hedge hholds => ?_⟩
      exact h edge.source (hplaced.source_eq hapart hplaces hedge hholds)

/-- **Shadowed names.**  After any steps of the builder, a loan or event of `own`, the binding of the
body with its path and byte start, is attached to the node of `own` exactly when `own` is the first
binding of the body with the name: the lookup goes by the name alone. -/
theorem attached_to_own_binding_iff (bindings : List OwnershipBinding) (done : List BuildStep)
    (step : BuildStep) (bodyId : Nat) (place : String)
    (hnamed : namedPlace step = some (bodyId, place)) (own : OwnershipBinding) (hown : own ∈ bindings)
    (hbody : own.bodyId = bodyId)
    (hapart : IdsTellApart bindings ((done ++ [step]).flatMap stepPlaces)) :
    AttachedTo bindings (graphAfter bindings done) step own ↔
      FirstOfName bindings bodyId place own := by
  have hplaces : (bodyId, place) ∈ (done ++ [step]).flatMap stepPlaces := by
    refine List.mem_flatMap.mpr ⟨step, List.mem_append_right _ List.mem_cons_self, ?_⟩
    cases step with
    | binding => cases hnamed
    | derivedClone => cases hnamed
    | loan loan => cases hnamed; exact List.mem_cons_self
    | event event => cases hnamed; exact List.mem_cons_self
  have hrooted : Rooted bindings ((done ++ [step]).flatMap stepPlaces) (graphAfter bindings done) :=
    graphAfter_rooted fun step hstep entry hentry =>
      List.mem_flatMap.mpr ⟨step, List.mem_append_left _ hstep, hentry⟩
  rw [attachedTo_iff_found hrooted hapart hnamed hplaces own]
  constructor
  · intro h first hfirst
    have hfacts := List.find?_some hfirst
    rw [Bool.and_eq_true, decide_eq_true_eq] at hfacts
    have hid := h (bindingNodeId first bindings) (by rw [findBindingNodeId, hfirst, Option.map_some])
    exact hapart.bindings first (List.mem_of_find?_eq_some hfirst) own hown
      (hfacts.1.trans hbody.symm) hid
  · intro h rootId hroot
    obtain ⟨first, hfirst, rfl⟩ := Option.map_eq_some_iff.mp hroot
    exact (h first hfirst).bindingNodeId_eq bindings

/-! ## Two locals of one name -/

/-- `let count = 1; let count = 2;` -/
def shadowedCounts : List OwnershipBinding := [countBinding "count" 4, countBinding "count" 20]

def countEvent (place : String) : OwnershipEvent where
  eventId := "use"
  bodyId := 0
  basicBlock := 0
  statementIndex := 3
  kind := .copy
  state := .available
  path := ["main.rs"]
  byteStart := 40
  byteEnd := 45
  place := place
  loanId := none
  destination := none

/-- The steps before the event. -/
def countSteps : List BuildStep :=
  shadowedCounts.map .binding ++ shadowedCounts.map fun binding => .derivedClone binding none

theorem buildSteps_counts (place : String) :
    buildSteps Char.isAlphanum [] shadowedCounts [countEvent place] []
      = some (countSteps ++ [.event (countEvent place)]) := rfl

/-- An event of the first local is attached to it. -/
theorem first_count_attached :
    AttachedTo shadowedCounts (graphAfter shadowedCounts countSteps) (.event (countEvent "count.0"))
      (countBinding "count" 4) := by
  have hids : (shadowedCounts.map fun binding => bindingNodeId binding shadowedCounts).Nodup := by
    decide +kernel
  have hapart : IdsTellApart shadowedCounts
      ((countSteps ++ [BuildStep.event (countEvent "count.0")]).flatMap stepPlaces) := by
    refine ⟨fun binding hbinding binding' hbinding' _ heq => ?_, fun entry hentry entry' hentry' _ => ?_⟩
    · obtain rfl := List.inj_on_of_nodup_map hids hbinding hbinding' heq
      exact ⟨rfl, rfl, rfl, rfl, rfl⟩
    · have hone : (countSteps ++ [BuildStep.event (countEvent "count.0")]).flatMap stepPlaces
          = [(0, "count.0")] := rfl
      rw [hone] at hentry hentry'
      exact (List.mem_singleton.mp hentry).trans (List.mem_singleton.mp hentry').symm
  refine (attached_to_own_binding_iff shadowedCounts countSteps (.event (countEvent "count.0")) 0
    "count.0" rfl (countBinding "count" 4) (by decide) rfl hapart).mpr fun first hfirst => ?_
  have hfound : shadowedCounts.find? (fun binding => binding.bodyId = 0
      && binding.binding.name = rootName "count.0") = some (countBinding "count" 4) := by
    decide +kernel
  obtain rfl := Option.some.inj (hfound.symm.trans hfirst)
  exact ⟨rfl, rfl, rfl, rfl, rfl⟩

/-- An event of the second local is attached to the first. -/
theorem second_count_attached_to_first :
    buildSteps Char.isAlphanum [] shadowedCounts [countEvent "count"] []
        = some (countSteps ++ [.event (countEvent "count")])
      ∧ AttachedTo shadowedCounts (graphAfter shadowedCounts countSteps) (.event (countEvent "count"))
        (countBinding "count" 4)
      ∧ ¬ AttachedTo shadowedCounts (graphAfter shadowedCounts countSteps)
        (.event (countEvent "count")) (countBinding "count" 20) := by
  have hplace : attachment shadowedCounts (graphAfter shadowedCounts countSteps)
      (.event (countEvent "count")) = some (bindingNodeId (countBinding "count" 4) shadowedCounts,
        graphAfter shadowedCounts countSteps) := by decide +kernel
  have hids : bindingNodeId (countBinding "count" 4) shadowedCounts
      ≠ bindingNodeId (countBinding "count" 20) shadowedCounts := by decide +kernel
  have hroot : "count" = rootName "count" := by decide +kernel
  refine ⟨buildSteps_counts "count", fun bodyId place id placed hnamed hattached => ?_, fun h => ?_⟩
  · cases hnamed
    rw [hplace] at hattached
    cases hattached
    exact if_pos hroot ▸ rfl
  · have hattached := h 0 "count" _ _ rfl hplace
    rw [if_pos hroot] at hattached
    exact hids hattached

end RustWorkbench.Compiler
