import RustWorkbench.Compiler.MemoryGraph

/-!
# The finished graph

What sorting, deduplicating and cutting leaves of the graph that the loops have built, whatever
that is: distinct ids of nodes and edges, edges between nodes, and lists within the caps.  What is
cut is noted in the graph.
-/

namespace RustWorkbench.Compiler

open StableSort

variable {graph : MemoryGraph}

/-- The ids of the finished graph are the first of the distinct ids. -/
theorem finish_nodeIds (graph : MemoryGraph) : (finish graph).nodeIds
    = ((dedupBy (sameKey MemoryNode.id) (sortByKey MemoryNode.id graph.nodes)).map
        MemoryNode.id).take maxGraphNodes :=
  List.map_take

theorem finish_nodeIds_nodup (graph : MemoryGraph) : (finish graph).nodeIds.Nodup := by
  rw [finish_nodeIds]
  exact ((map_dedupBy_sortByKey_perm MemoryNode.id graph.nodes).nodup_iff.mpr
    (List.nodup_dedup _)).sublist (List.take_sublist _ _)

/-- A graph below the cap keeps its nodes. -/
theorem mem_finish_nodeIds (hcap : graph.nodeIds.dedup.length ≤ maxGraphNodes) {id : String} :
    id ∈ (finish graph).nodeIds ↔ id ∈ graph.nodeIds := by
  have hperm := map_dedupBy_sortByKey_perm MemoryNode.id graph.nodes
  rw [finish_nodeIds, List.take_of_length_le (by rw [hperm.length_eq]; exact hcap), hperm.mem_iff,
    List.mem_dedup, MemoryGraph.nodeIds]

theorem finish_snapshots_perm (hcap : graph.snapshots.length ≤ maxGraphSnapshots) :
    (finish graph).snapshots.Perm graph.snapshots := by
  have hperm := sortByKey_perm snapshotKey graph.snapshots
  have hall : (finish graph).snapshots = sortByKey snapshotKey graph.snapshots :=
    List.take_of_length_le (by rw [hperm.length_eq]; exact hcap)
  rw [hall]
  exact hperm

theorem finish_edgeIds_nodup (graph : MemoryGraph) :
    ((finish graph).edges.map MemoryEdge.id).Nodup := by
  have hnodup := (map_dedupBy_sortByKey_perm MemoryEdge.id graph.edges).nodup_iff.mpr
    (List.nodup_dedup _)
  exact hnodup.sublist (((List.take_sublist _ _).trans (List.filter_sublist)).map _)

/-- Both ends of an edge are nodes. -/
theorem finish_edge_ends {edge : MemoryEdge} (h : edge ∈ (finish graph).edges) :
    edge.source ∈ (finish graph).nodeIds ∧ edge.target ∈ (finish graph).nodeIds := by
  have hretained := (List.mem_filter.mp (List.mem_of_mem_take h)).2
  rw [Bool.and_eq_true, decide_eq_true_eq, decide_eq_true_eq] at hretained
  exact hretained

/-- The caps. -/
structure WithinCaps (graph : MemoryGraph) : Prop where
  nodes : graph.nodes.length ≤ maxGraphNodes
  edges : graph.edges.length ≤ maxGraphEdges
  snapshots : graph.snapshots.length ≤ maxGraphSnapshots
  accessPaths : graph.accessPaths.length ≤ maxGraphAccessPaths

theorem finish_withinCaps (graph : MemoryGraph) : WithinCaps (finish graph) :=
  ⟨List.length_take_le _ _, List.length_take_le _ _, List.length_take_le _ _,
    List.length_take_le _ _⟩

/-! ## What is cut -/

/-- The finished graph without the caps. -/
def settle (graph : MemoryGraph) : MemoryGraph :=
  let nodes := dedupBy (sameKey MemoryNode.id) (sortByKey MemoryNode.id graph.nodes)
  { nodes := nodes
    edges := (dedupBy (sameKey MemoryEdge.id) (sortByKey MemoryEdge.id graph.edges)).filter fun edge =>
      edge.source ∈ nodes.map MemoryNode.id && edge.target ∈ nodes.map MemoryNode.id
    snapshots := sortByKey snapshotKey graph.snapshots
    accessPaths := sortByKey AccessPath.id graph.accessPaths
    truncated := graph.truncated }

/-- A graph that is not marked as truncated has not lost anything. -/
theorem finish_eq_settle (h : (finish graph).truncated = false) : finish graph = settle graph := by
  have hflags := h
  simp only [finish, Bool.or_eq_false_iff, decide_eq_false_iff_not, not_lt] at hflags
  obtain ⟨⟨⟨⟨htruncated, hnodes⟩, hedges⟩, hsnapshots⟩, hpaths⟩ := hflags
  have hfiltered := (List.length_filter_le (fun edge : MemoryEdge =>
    edge.source ∈ (dedupBy (sameKey MemoryNode.id) (sortByKey MemoryNode.id graph.nodes)).map
        MemoryNode.id
      && edge.target ∈ (dedupBy (sameKey MemoryNode.id) (sortByKey MemoryNode.id graph.nodes)).map
        MemoryNode.id)
    (dedupBy (sameKey MemoryEdge.id) (sortByKey MemoryEdge.id graph.edges))).trans hedges
  simp only [finish, settle]
  rw [List.take_of_length_le hnodes, List.take_of_length_le hfiltered,
    List.take_of_length_le hsnapshots, List.take_of_length_le hpaths, htruncated]
  simp [hnodes, hedges, hsnapshots, hpaths]

end RustWorkbench.Compiler
