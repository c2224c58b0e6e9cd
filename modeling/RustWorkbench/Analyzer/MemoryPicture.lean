import RustWorkbench.Analyzer.RoundTrip
import RustWorkbench.Library.Sweeps

/-!
# The memory picture of a name

The nodes of a selected name are grown along the edges of the stored graph, in twelve sweeps over the
list of edges.  The picture should be the whole component of the name, or be marked as cut.  Sweeps that
stop before the component is complete are not marked.

* `mem_relevantMemoryNodeIds` — the nodes that twelve sweeps find.
* `responseTruncated_iff` — the answer is marked exactly when one of its limits is exceeded.
* `memory_picture_iff` — the picture is whole or marked exactly if twelve sweeps are enough, or a limit
  is exceeded.
* `far_node_missing` — a chain of fourteen nodes whose edges are listed from its end.
-/

namespace RustWorkbench.Analyzer

open Sweeps PushNew

/-! ## The component of the selected name -/

/-- A node of the selected name. -/
structure IsNamedNode (selection : Selection) (node : OwnershipTutorialMemoryNode) : Prop where
  body : selection.inBody node.node.bodyId = true
  place : selection.overlapsPlace node.node.place = true

/-- A node of the body that edges in either direction connect to one of the name. -/
structure InComponent (selection : Selection) (graph : OwnershipTutorialMemoryGraph)
    (node : OwnershipTutorialMemoryNode) : Prop where
  body : selection.inBody node.node.bodyId = true
  reached : ∃ named ∈ graph.nodes, IsNamedNode selection named
    ∧ Connected (·.edge.source) (·.edge.target) graph.edges named.node.id node.node.id

/-- A node of the body that is reached from one of the name by at most twelve walks, each along the
list of edges. -/
structure InSweeps (selection : Selection) (graph : OwnershipTutorialMemoryGraph)
    (node : OwnershipTutorialMemoryNode) : Prop where
  body : selection.inBody node.node.bodyId = true
  reached : ∃ named ∈ graph.nodes, IsNamedNode selection named
    ∧ Within (·.edge.source) (·.edge.target) graph.edges 12 named.node.id node.node.id

variable {selection : Selection} {graph : OwnershipTutorialMemoryGraph}
  {node : OwnershipTutorialMemoryNode}

theorem InSweeps.inComponent (h : InSweeps selection graph node) :
    InComponent selection graph node := by
  obtain ⟨named, hmem, hnamed, hwithin⟩ := h.reached
  exact ⟨h.body, named, hmem, hnamed, hwithin.connected⟩

/-- Twelve sweeps find everything that is at most twelve edges away. -/
theorem InSweeps.of_walk {named : OwnershipTutorialMemoryNode}
    {path : List OwnershipTutorialMemoryEdge} (hbody : selection.inBody node.node.bodyId = true)
    (hmem : named ∈ graph.nodes) (hnamed : IsNamedNode selection named) (hpath : path ⊆ graph.edges)
    (hwalk : Walk (·.edge.source) (·.edge.target) path named.node.id node.node.id)
    (hshort : path.length ≤ 12) : InSweeps selection graph node :=
  ⟨hbody, named, hmem, hnamed, (hwalk.within hpath).mono hshort⟩

/-! ## The nodes that are found -/

theorem growRounds_eq (edges : List OwnershipTutorialMemoryEdge) : ∀ (rounds : Nat) (ids : List String),
    growRounds edges rounds ids = sweeps (·.edge.source) (·.edge.target) edges rounds ids
  | 0, _ => rfl
  | rounds + 1, ids => by
    rw [growRounds, sweeps, growRounds_eq edges rounds]
    rfl

theorem mem_relevantMemoryNodeIds (hmem : node ∈ graph.nodes)
    (hbody : selection.inBody node.node.bodyId = true) :
    node.node.id ∈ relevantMemoryNodeIds selection graph ↔ InSweeps selection graph node := by
  unfold relevantMemoryNodeIds
  dsimp only
  split
  · -- Without a name, every node of the body is one to start from.
    rename_i hname
    have hnamed : IsNamedNode selection node :=
      ⟨hbody, by rw [Selection.overlapsPlace, Option.isNone_iff_eq_none.mp hname]; rfl⟩
    refine iff_of_true ?_ ⟨hbody, node, hmem, hnamed, .refl _ 12⟩
    rw [mem_foldl_pushNew]
    exact .inr (List.mem_map_of_mem (List.mem_filter.mpr ⟨hmem, hbody⟩))
  · rw [growRounds_eq, mem_sweeps_iff]
    simp only [mem_foldl_pushNew, List.not_mem_nil, false_or, List.mem_map, List.mem_filter]
    constructor
    · rintro ⟨_, ⟨named, ⟨⟨hnode, hin⟩, hplace⟩, rfl⟩, hwithin⟩
      exact ⟨hbody, named, hnode, ⟨hin, hplace⟩, hwithin⟩
    · rintro ⟨-, named, hnode, ⟨hin, hplace⟩, hwithin⟩
      exact ⟨_, ⟨named, ⟨⟨hnode, hin⟩, hplace⟩, rfl⟩, hwithin⟩

section Limits

open Classical

/-- The nodes that twelve sweeps find. -/
noncomputable def pictureNodes (selection : Selection) (graph : OwnershipTutorialMemoryGraph) :
    List OwnershipTutorialMemoryNode :=
  graph.nodes.filter fun node => decide (InSweeps selection graph node)

theorem mem_pictureNodes :
    node ∈ pictureNodes selection graph ↔ node ∈ graph.nodes ∧ InSweeps selection graph node := by
  rw [pictureNodes, List.mem_filter, decide_eq_true_eq]

theorem contextMemoryNodes_eq (selection : Selection) (graph : OwnershipTutorialMemoryGraph) :
    contextMemoryNodes selection graph = pictureNodes selection graph := by
  unfold pictureNodes contextMemoryNodes
  refine List.filter_congr fun node hmem => ?_
  rw [Bool.eq_iff_iff, Bool.and_eq_true, decide_eq_true_eq, decide_eq_true_eq]
  constructor
  · rintro ⟨hbody, hid⟩
    exact (mem_relevantMemoryNodeIds hmem hbody).mp hid
  · intro h
    exact ⟨h.body, (mem_relevantMemoryNodeIds hmem h.body).mpr h⟩

/-- **Nothing else is shown.** -/
theorem kept_inComponent (h : node ∈ keptMemoryNodes selection graph) :
    InComponent selection graph node :=
  (mem_pictureNodes.mp (contextMemoryNodes_eq selection graph ▸ List.mem_of_mem_take h)).2.inComponent

/-! ## The limits of an answer -/

/-- A node that they find has the id. -/
def InPicture (selection : Selection) (graph : OwnershipTutorialMemoryGraph) (id : String) : Prop :=
  ∃ node ∈ graph.nodes, InSweeps selection graph node ∧ node.node.id = id

noncomputable def pictureEdges (selection : Selection) (graph : OwnershipTutorialMemoryGraph) :
    List OwnershipTutorialMemoryEdge :=
  graph.edges.filter fun edge => decide (InPicture selection graph edge.edge.source)
    && decide (InPicture selection graph edge.edge.target)

noncomputable def picturePaths (selection : Selection) (graph : OwnershipTutorialMemoryGraph) :
    List OwnershipModelAccessPath :=
  graph.accessPaths.filter fun path => decide (InPicture selection graph path.nodeId)

/-- Facts of the selection exceed a limit, or were cut when they were stored. -/
inductive OverLimit (selection : Selection) (events : List OwnershipEvent)
    (tutorial : OwnershipTutorialModel) (calls : List OwnershipCallInsight) : Prop
  | events (h : MAX_INTERACTIVE_EVENTS < (contextEvents selection events).length)
  | blocks (body : OwnershipTutorialBody) (hbody : body ∈ contextBodies selection tutorial)
      (h : MAX_INTERACTIVE_BLOCKS < body.blocks.length)
  | bindings (h : MAX_INTERACTIVE_BINDINGS < (contextBindings selection tutorial).length)
  | loans (h : MAX_INTERACTIVE_LOANS < (contextLoans selection tutorial).length)
  | points (loan : OwnershipTutorialLoan) (hloan : loan ∈ contextLoans selection tutorial)
      (h : 512 < loan.livePoints.length ∨ 64 < loan.endPoints.length)
  | nodes (h : MAX_INTERACTIVE_MEMORY_NODES < (pictureNodes selection tutorial.memoryGraph).length)
  | edges (h : MAX_INTERACTIVE_MEMORY_EDGES < (pictureEdges selection tutorial.memoryGraph).length)
  | snapshots (h : MAX_INTERACTIVE_SNAPSHOTS
      < (contextSnapshots selection tutorial.memoryGraph).length)
  | paths (h : MAX_INTERACTIVE_ACCESS_PATHS
      < (picturePaths selection tutorial.memoryGraph).length)
  | stored (h : tutorial.memoryGraph.truncated = true)
  | calls (h : 64 < calls.length)

/-- Below the limit on nodes, all of them are shown. -/
theorem keptMemoryNodes_eq
    (h : ¬ MAX_INTERACTIVE_MEMORY_NODES < (pictureNodes selection graph).length) :
    keptMemoryNodes selection graph = pictureNodes selection graph := by
  rw [keptMemoryNodes, contextMemoryNodes_eq, List.take_of_length_le (by omega)]

theorem memoryNodeIsPresent_eq
    (h : ¬ MAX_INTERACTIVE_MEMORY_NODES < (pictureNodes selection graph).length) (id : String) :
    memoryNodeIsPresent selection graph id = decide (InPicture selection graph id) := by
  rw [Bool.eq_iff_iff, memoryNodeIsPresent, keptMemoryNodes_eq h, List.any_eq_true, decide_eq_true_eq]
  simp only [pictureNodes, InPicture, List.mem_filter, decide_eq_true_eq, beq_iff_eq, and_assoc]

theorem responseTruncated_iff {events : List OwnershipEvent} {tutorial : OwnershipTutorialModel}
    {calls : List OwnershipCallInsight} :
    responseTruncated selection events tutorial calls = true
      ↔ OverLimit selection events tutorial calls := by
  unfold responseTruncated
  simp only [Bool.or_eq_true, decide_eq_true_eq, List.any_eq_true, contextMemoryNodes_eq, gt_iff_lt]
  by_cases hnodes :
      MAX_INTERACTIVE_MEMORY_NODES < (pictureNodes selection tutorial.memoryGraph).length
  · -- The counts of edges and paths do not matter any more.
    exact iff_of_true (by simp [hnodes]) (.nodes hnodes)
  have hedges : contextMemoryEdges selection tutorial.memoryGraph
      = pictureEdges selection tutorial.memoryGraph := by
    simp only [contextMemoryEdges, pictureEdges, memoryNodeIsPresent_eq hnodes]
  have hpaths : contextAccessPaths selection tutorial.memoryGraph
      = picturePaths selection tutorial.memoryGraph := by
    simp only [contextAccessPaths, picturePaths, memoryNodeIsPresent_eq hnodes]
  simp only [hedges, hpaths, or_assoc]
  constructor
  · rintro (h | ⟨body, hbody, h⟩ | h | h | ⟨loan, hloan, h⟩ | h | h | h | h | h | h)
    · exact .events h
    · exact .blocks body hbody h
    · exact .bindings h
    · exact .loans h
    · exact .points loan hloan h
    · exact .nodes h
    · exact .edges h
    · exact .snapshots h
    · exact .paths h
    · exact .stored h
    · exact .calls h
  · intro h
    cases h with
    | blocks body hbody h => exact .inr (.inl ⟨body, hbody, h⟩)
    | points loan hloan h => exact .inr (.inr (.inr (.inr (.inl ⟨loan, hloan, h⟩))))
    | _ h => simp only [h, true_or, or_true]

end Limits

/-! ## The picture -/

/-- The nodes are the whole component of the name, or the model is marked as cut; the edges are between
the nodes. -/
structure WholePicture (selection : Selection) (graph : OwnershipTutorialMemoryGraph)
    (model : OwnershipModel) : Prop where
  nodes : model.truncated = true ∨ ∀ node ∈ graph.nodes, InComponent selection graph node →
    memoryNodeToLsp node ∈ model.memoryGraph.nodes
  edges : ∀ edge ∈ model.memoryGraph.edges,
    (∃ node ∈ model.memoryGraph.nodes, node.id = edge.source)
      ∧ ∃ node ∈ model.memoryGraph.nodes, node.id = edge.target

/-- An edge is shown between nodes that are shown. -/
theorem edges_between {events : List RustWorkbench.OwnershipEvent} {edge : OwnershipMemoryEdge}
    (h : edge ∈ (memoryGraphToLsp selection graph events).edges) :
    (∃ node ∈ (memoryGraphToLsp selection graph events).nodes, node.id = edge.source)
      ∧ ∃ node ∈ (memoryGraphToLsp selection graph events).nodes, node.id = edge.target := by
  have hpresent : ∀ id, memoryNodeIsPresent selection graph id = true →
      ∃ node ∈ (memoryGraphToLsp selection graph events).nodes, node.id = id := by
    intro id hid
    obtain ⟨node, hnode, heq⟩ := List.any_eq_true.mp hid
    exact ⟨memoryNodeToLsp node, List.mem_map_of_mem hnode, eq_of_beq heq⟩
  obtain ⟨stored, hstored, rfl⟩ := List.mem_map.mp h
  obtain ⟨-, hends⟩ := List.mem_filter.mp (List.mem_of_mem_take hstored)
  rw [Bool.and_eq_true] at hends
  exact ⟨hpresent _ hends.1, hpresent _ hends.2⟩

/-- Below the limit on nodes, a node is shown exactly if the sweeps find it. -/
theorem shown_iff {events : List RustWorkbench.OwnershipEvent}
    (h : ¬ MAX_INTERACTIVE_MEMORY_NODES < (pictureNodes selection graph).length)
    (hmem : node ∈ graph.nodes) :
    memoryNodeToLsp node ∈ (memoryGraphToLsp selection graph events).nodes
      ↔ InSweeps selection graph node := by
  simp only [memoryGraphToLsp, keptMemoryNodes_eq h, List.mem_map, mem_pictureNodes]
  constructor
  · rintro ⟨other, ⟨-, hother⟩, heq⟩
    -- Another node that is shown alike has the same id and body.
    have hid : other.node.id = node.node.id := congrArg (·.id) heq
    have hbody : other.node.bodyId = node.node.bodyId := congrArg (·.bodyId) heq
    exact ⟨hbody ▸ hother.body, hid ▸ hother.reached⟩
  · exact fun hfound => ⟨node, ⟨hmem, hfound⟩, rfl⟩

/-- The calls that the model for a selection explains. -/
def callsFor (snap : Snapshot) (fileId : FileId) (fileRange : TextRange) (selection : Selection)
    (events : List OwnershipEvent) : List OwnershipCallInsight :=
  let shown := ((contextEvents selection events).take MAX_INTERACTIVE_EVENTS).map eventToLsp
  operationInsights
    (snap.callInsights fileId
      (operationPositions (snap.fileLineIndex fileId) fileRange selection.diagnostic shown)) fileRange

/-- The picture for any selection. -/
theorem wholePicture_iff (snap : Snapshot) (fileId : FileId) (uri : String) (fileRange : TextRange)
    (selection : Selection) (events : List OwnershipEvent) (tutorial : OwnershipTutorialModel)
    (repairs : List OwnershipRepair) :
    WholePicture selection tutorial.memoryGraph
        (ownershipModelFor snap fileId uri fileRange selection events tutorial repairs)
      ↔ OverLimit selection events tutorial (callsFor snap fileId fileRange selection events)
        ∨ ∀ node ∈ tutorial.memoryGraph.nodes, InComponent selection tutorial.memoryGraph node →
          InSweeps selection tutorial.memoryGraph node := by
  have htruncated : (ownershipModelFor snap fileId uri fileRange selection events tutorial
      repairs).truncated = true
      ↔ OverLimit selection events tutorial (callsFor snap fileId fileRange selection events) :=
    responseTruncated_iff
  by_cases hover : OverLimit selection events tutorial (callsFor snap fileId fileRange selection events)
  · exact iff_of_true ⟨.inl (htruncated.mpr hover), fun edge => edges_between⟩ (.inl hover)
  rw [or_iff_right hover]
  constructor
  · intro h node hmem hnode
    exact (shown_iff (fun hnodes => hover (.nodes hnodes)) hmem).mp
      (h.nodes.resolve_left (mt htruncated.mp hover) node hmem hnode)
  · intro h
    refine ⟨.inr fun node hmem hnode => ?_, fun edge => edges_between⟩
    exact (shown_iff (fun hnodes => hover (.nodes hnodes)) hmem).mpr (h node hmem hnode)

/-- **The memory picture of the selected name is its whole component, or is marked**, exactly if a
limit of the answer is exceeded or twelve sweeps over the edges find the component. -/
theorem memory_picture_iff {snap : Snapshot} {uri : String} {position : Position} {fileId : FileId}
    {fileRange : TextRange}
    (hfile : snap.fileRange uri (Range.point position) = .ok (some (fileId, fileRange))) :
    (∃ model, handleOwnershipModel snap uri position = .ok model
        ∧ WholePicture (snap.selectionAt fileId position) (snap.tutorialOf fileId).memoryGraph model)
      ↔ OverLimit (snap.selectionAt fileId position) (snap.eventsOf fileId) (snap.tutorialOf fileId)
          (callsFor snap fileId fileRange (snap.selectionAt fileId position) (snap.eventsOf fileId))
        ∨ ∀ node ∈ (snap.tutorialOf fileId).memoryGraph.nodes,
          InComponent (snap.selectionAt fileId position) (snap.tutorialOf fileId).memoryGraph node →
          InSweeps (snap.selectionAt fileId position) (snap.tutorialOf fileId).memoryGraph node := by
  have hmodel : handleOwnershipModel snap uri position = .ok (ownershipModelFor snap fileId uri fileRange
      (snap.selectionAt fileId position) (snap.eventsOf fileId) (snap.tutorialOf fileId)
      (ownershipRepairs snap fileId uri fileRange (snap.tutorialOf fileId)
        (snap.selectionAt fileId position))) := by
    rw [handleOwnershipModel, hfile]
  rw [hmodel]
  simp only [Except.ok.injEq, exists_eq_left']
  exact wholePicture_iff ..

/-! ## A chain -/

/-- A chain from the binding `x`. -/
def chainNode (i : Nat) : OwnershipTutorialMemoryNode where
  range := none
  node :=
    { id := toString i
      bodyId := 1
      place := if i = 0 then "x" else "y"
      kind := "stack_slot"
      storage := "stack"
      label := ""
      typeName := "&String"
      size := some 8
      align := some 8
      state := .available
      provenance := "compiler_exact"
      physicalPlacementNote := ""
      truncated := false }

def chainEdge (i : Nat) : OwnershipTutorialMemoryEdge where
  range := none
  edge :=
    { id := toString i
      source := toString i
      target := toString (i + 1)
      relation := "moved_to"
      eventId := none
      loanId := none
      provenance := "compiler_exact"
      pathMarker := none }

/-- The edges are listed from the end. -/
def chainGraph (length : Nat) : OwnershipTutorialMemoryGraph where
  nodes := (List.range (length + 1)).map chainNode
  edges := ((List.range length).map chainEdge).reverse

def chainBinding : OwnershipTutorialBinding where
  bodyId := 1
  name := "x"
  range := columns 0 1
  typeName := "&String"
  size := some 8
  align := some 8
  memoryLayers := []

def chainTutorial (length : Nat) : OwnershipTutorialModel where
  schemaVersion := 7
  bindings := [chainBinding]
  memoryGraph := chainGraph length

def chainFile (length : Nat) : Snapshot :=
  { diagnosticsOnly [] with ownershipTutorialModels := [(0, chainTutorial length)] }

/-- The chain is connected. -/
theorem chain_connected (length : Nat) : ∀ i ≤ length,
    Connected (·.edge.source) (·.edge.target) (chainGraph length).edges (toString 0) (toString i)
  | 0, _ => .refl _
  | i + 1, hi => by
    have hmem : chainEdge i ∈ (chainGraph length).edges :=
      List.mem_reverse.mpr (List.mem_map_of_mem (List.mem_range.mpr hi))
    exact .trans _ _ _ (chain_connected length i (by omega)) (.rel _ _ ⟨chainEdge i, hmem, rfl, rfl⟩)

theorem chain_named (length : Nat) :
    IsNamedNode ((chainFile length).selectionAt 0 ⟨0, 0⟩) (chainNode 0) := by
  refine ⟨rfl, ?_⟩
  show Selection.overlapsPlace ⟨Range.point ⟨0, 0⟩, none, none, some 1, some "x"⟩ "x" = true
  decide +kernel

/-- A chain of two nodes is shown. -/
theorem short_chain_whole :
    ∃ model, handleOwnershipModel (chainFile 1) "main.rs" ⟨0, 0⟩ = .ok model
      ∧ WholePicture ((chainFile 1).selectionAt 0 ⟨0, 0⟩) (chainGraph 1) model := by
  refine (@memory_picture_iff (chainFile 1) "main.rs" ⟨0, 0⟩ 0 ⟨0, 0, Nat.le_refl 0⟩ rfl).mpr (.inr ?_)
  intro node hmem hnode
  have hfirst : chainNode 0 ∈ ((chainFile 1).tutorialOf 0).memoryGraph.nodes := List.mem_cons_self
  obtain rfl | rfl : node = chainNode 0 ∨ node = chainNode 1 := by
    have hnodes : node ∈ [chainNode 0, chainNode 1] := hmem
    simpa using hnodes
  · exact .of_walk rfl hfirst (chain_named 1) (List.nil_subset _) (.nil _) (by decide)
  · exact .of_walk rfl hfirst (chain_named 1) (List.Subset.refl [chainEdge 0])
      (.cons (.inl ⟨rfl, rfl⟩) (.nil _)) (by decide)

/-- The second node of a chain. -/
theorem second_node_inComponent :
    InComponent ((chainFile 1).selectionAt 0 ⟨0, 0⟩) (chainGraph 1) (chainNode 1) :=
  kept_inComponent (List.mem_cons_of_mem _ (List.mem_singleton_self _))

/-- The last of fourteen nodes takes thirteen sweeps. -/
theorem far_node_missing :
    ∃ model, handleOwnershipModel (chainFile 13) "main.rs" ⟨0, 0⟩ = .ok model
      ∧ model.truncated = false
      ∧ model.memoryGraph.nodes.map (·.id) = (List.range 13).map toString
      ∧ ¬ WholePicture ((chainFile 13).selectionAt 0 ⟨0, 0⟩) (chainGraph 13) model := by
  refine ⟨_, rfl, by decide +kernel, ?_⟩
  refine (and_iff_left_of_imp fun hids h => ?_).mpr (by decide +kernel)
  have hshown := h.nodes.resolve_left (by decide +kernel) (chainNode 13)
    (List.mem_map_of_mem (List.mem_range.mpr (by decide)))
    ⟨rfl, chainNode 0, List.mem_map_of_mem (List.mem_range.mpr (by decide)), chain_named 13,
      chain_connected 13 13 (Nat.le_refl 13)⟩
  have hid : toString 13 ∈ (List.range 13).map toString := hids ▸ List.mem_map_of_mem hshown
  exact absurd hid (by decide +kernel)

end RustWorkbench.Analyzer
