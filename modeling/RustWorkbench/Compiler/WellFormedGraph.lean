import RustWorkbench.Compiler.AllocationIdentity
import RustWorkbench.Library.Ids
import Mathlib.Data.Set.Function

/-!
# When the finished graph is well formed

Nodes and edges of the finished graph have distinct ids, edges join nodes, and the caps hold
whatever the loops have built (`GraphFinish`).  Snapshots and access paths are not deduplicated, and
they keep naming nodes that were cut.

* `WellFormed` — what the graph that is returned should be.
* `wellFormed_finish` — what the loops have to leave for that.
-/

namespace RustWorkbench.Compiler

open StableSort

/-! ## The property -/

structure WellFormed (graph : MemoryGraph) : Prop where
  nodeIds : graph.nodeIds.Nodup
  edgeIds : (graph.edges.map MemoryEdge.id).Nodup
  snapshotIds : (graph.snapshots.map OwnershipSnapshot.id).Nodup
  accessPathIds : (graph.accessPaths.map AccessPath.id).Nodup
  edges : ∀ edge ∈ graph.edges, edge.source ∈ graph.nodeIds ∧ edge.target ∈ graph.nodeIds
  deltas : ∀ snapshot ∈ graph.snapshots, ∀ delta ∈ snapshot.deltas, delta.nodeId ∈ graph.nodeIds
  accessPaths : ∀ path ∈ graph.accessPaths, path.nodeId ∈ graph.nodeIds
  caps : WithinCaps graph

/-- Something of the graph of the loops, or a memory layer of a binding, is not in the finished
graph because of its size. -/
def DroppedForSize (bindings : List OwnershipBinding) (built : MemoryGraph) : Prop :=
  (∃ binding ∈ bindings, 12 < binding.memoryLayers.length)
    ∨ (finish built).nodes ≠ (settle built).nodes
    ∨ (finish built).edges ≠ (settle built).edges
    ∨ (finish built).snapshots ≠ (settle built).snapshots
    ∨ (finish built).accessPaths ≠ (settle built).accessPaths

/-! ## What the loops have to leave -/

/-- The ids of snapshots and access paths are hashes of their identities. -/
structure IdsHashed (graph : MemoryGraph) : Prop where
  snapshots : ∀ snapshot ∈ graph.snapshots, snapshot.id = graphId "snapshot" snapshot.eventId
  accessPaths : ∀ path ∈ graph.accessPaths, path.id = graphId "access" path.identity

/-- The nodes that the snapshots and the access paths name. -/
def named (snapshots : List OwnershipSnapshot) (paths : List AccessPath) : List String :=
  snapshots.flatMap (fun snapshot => snapshot.deltas.map StateDelta.nodeId)
    ++ paths.map AccessPath.nodeId

theorem graphId_inj {kind identity identity' : String}
    (h : graphId kind identity = graphId kind identity') :
    stableSourceHash identity = stableSourceHash identity' := by
  have hlist := congrArg String.toList h
  simp only [graphId, String.toList_append, List.append_cancel_left_eq] at hlist
  exact String.toList_inj.mp hlist

/-- Ids are distinct if what they are the hashes of is. -/
theorem nodup_of_hashed {α : Type} {idOf identityOf : α → String} {kind : String} {s : Set String}
    (hinj : Set.InjOn stableSourceHash s) {l : List α}
    (hid : ∀ a ∈ l, idOf a = graphId kind (identityOf a)) (hmem : ∀ a ∈ l, identityOf a ∈ s)
    (h : (l.map identityOf).Nodup) : (l.map idOf).Nodup := by
  have hmap : l.map idOf = (l.map identityOf).map (graphId kind) := by
    rw [List.map_map]
    exact List.map_congr_left hid
  rw [hmap]
  refine h.map_on ?_
  intro x hx y hy hxy
  obtain ⟨a, ha, rfl⟩ := List.mem_map.mp hx
  obtain ⟨b, hb, rfl⟩ := List.mem_map.mp hy
  exact hinj (hmem a ha) (hmem b hb) (graphId_inj hxy)

/-- **The finished graph is well formed** if snapshots and access paths have distinct identities and
name nodes, and all nodes fit. -/
theorem wellFormed_finish {built : MemoryGraph} {s : Set String} (hids : IdsHashed built)
    (hinj : Set.InjOn stableSourceHash s)
    (hsnapshots : ∀ snapshot ∈ built.snapshots, snapshot.eventId ∈ s)
    (hpaths : ∀ path ∈ built.accessPaths, path.identity ∈ s)
    (hevents : (built.snapshots.map OwnershipSnapshot.eventId).Nodup)
    (hidentities : (built.accessPaths.map AccessPath.identity).Nodup)
    (hroom : built.nodeIds.dedup.length ≤ maxGraphNodes)
    (hnamed : ∀ node ∈ named built.snapshots built.accessPaths, node ∈ built.nodeIds) :
    WellFormed (finish built) := by
  have hkept : ∀ {node}, node ∈ named built.snapshots built.accessPaths →
      node ∈ (finish built).nodeIds := fun h => (mem_finish_nodeIds hroom).mpr (hnamed _ h)
  refine ⟨finish_nodeIds_nodup built, finish_edgeIds_nodup built, ?_, ?_, fun _ => finish_edge_ends,
    fun snapshot hsnapshot delta hdelta => hkept ?_, fun path hpath => hkept ?_,
    finish_withinCaps built⟩
  · have hnodup := nodup_of_hashed hinj hids.snapshots hsnapshots hevents
    exact (((sortByKey_perm _ _).map _).nodup_iff.mpr hnodup).sublist ((List.take_sublist _ _).map _)
  · have hnodup := nodup_of_hashed hinj hids.accessPaths hpaths hidentities
    exact (((sortByKey_perm _ _).map _).nodup_iff.mpr hnodup).sublist ((List.take_sublist _ _).map _)
  · have hmem : snapshot ∈ built.snapshots := (mem_sortByKey _).mp (List.mem_of_mem_take hsnapshot)
    exact List.mem_append_left _ (List.mem_flatMap.mpr ⟨snapshot, hmem, List.mem_map_of_mem hdelta⟩)
  · have hmem : path ∈ built.accessPaths := (mem_sortByKey _).mp (List.mem_of_mem_take hpath)
    exact List.mem_append_right _ (List.mem_map_of_mem hmem)

/-! ## What the steps record is hashed -/

theorem recorded_hashed {bindings : List OwnershipBinding} {graph : MemoryGraph} {step : BuildStep}
    {snapshot : OwnershipSnapshot} (h : snapshot ∈ recorded bindings graph step) :
    snapshot.id = graphId "snapshot" snapshot.eventId := by
  cases step with
  | binding binding =>
    obtain rfl := List.mem_singleton.mp h
    rfl
  | derivedClone destination sourceName =>
    simp only [recorded] at h
    split at h
    · cases h
    · obtain rfl := List.mem_singleton.mp h
      rfl
  | loan loan => cases h
  | event event =>
    simp only [recorded] at h
    split at h
    · cases h
    · obtain rfl := List.mem_singleton.mp h
      rfl

theorem stepPaths_hashed {bindings : List OwnershipBinding} {step : BuildStep} {path : AccessPath}
    (h : path ∈ stepPaths bindings step) : path.id = graphId "access" path.identity := by
  cases step with
  | binding binding => exact ((accessPathsForBinding_named binding _).1 path h).2.1
  | derivedClone destination sourceName => exact nomatch h
  | loan loan => exact nomatch h
  | event event => exact nomatch h

theorem graphAfter_idsHashed (bindings : List OwnershipBinding) (steps : List BuildStep) :
    IdsHashed (graphAfter bindings steps) := by
  induction steps using List.reverseRecOn with
  | nil => exact ⟨(fun _ h => nomatch h), (fun _ h => nomatch h)⟩
  | append_singleton steps step ih =>
    rw [graphAfter_snoc]
    constructor
    · intro snapshot h
      rw [buildStep_snapshots] at h
      exact (List.mem_append.mp h).elim (ih.snapshots snapshot) recorded_hashed
    · intro path h
      rw [buildStep_accessPaths] at h
      exact (List.mem_append.mp h).elim (ih.accessPaths path) stepPaths_hashed

end RustWorkbench.Compiler
