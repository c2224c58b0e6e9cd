import RustWorkbench.Library.BreadthFirst
import RustWorkbench.Library.Groups
import RustWorkbench.Panel.Scene
import Mathlib.Data.List.Pairwise
import Mathlib.Data.List.Perm.Basic
import Mathlib.Data.Prod.Lex
import Mathlib.Data.String.Basic

/-!
# The beginner's path through a scene

`derive_beginner_memory_path`: the nodes of a scene in stages, from the bindings along the edges.

* `distances` — a breadth-first search from the bindings, or from the first node.
* `stageDistance` — the number of a node; nodes with the same number share a stage.
* `ShortestPathLayering` — the stages as a layering by shortest paths.
* `beginner_path_layers` — the path of every scene is one.
-/

namespace RustWorkbench.Panel

open Assoc Assoc.Map StableSort BreadthFirst

structure BeginnerMemoryStage where
  relationFromPrevious : List String
  nodes : List TopologyNode
deriving DecidableEq

structure BeginnerMemoryPath where
  stages : List BeginnerMemoryStage := []
  truncated : Bool := false
deriving DecidableEq

def beginnerRelationLabel : String → String
  | "stores" => "holds this handle"
  | "wraps" => "wraps"
  | "owns" => "owns"
  | "shares_allocation" => "shares ownership of"
  | "weak_reference" => "weakly observes"
  | "contains" => "contains"
  | "guards_access" => "controls access to"
  | "owns_buffer" => "owns the element storage"
  | "points_to" => "points to"
  | "borrow_shared" => "temporarily reads"
  | "borrow_mutable" => "temporarily edits"
  | "reborrow" => "borrows again from"
  | "moved_to" => "transferred control to"
  | other => other.map fun c => if c = '_' then ' ' else c

section Path

variable (scene : OwnershipTopologyScene)

/-- The place of each node in the scene. -/
def nodeOrder : Map String Nat :=
  scene.nodes.zipIdx.foldl (fun order (node, index) => order.insert node.id index) []

/-- `node_order.get(id)`, ordered as an `Option`: an unknown id comes first. -/
def orderOf (id : String) : Nat := ((nodeOrder scene).get? id).elim 0 (· + 1)

/-- The bindings, or the first node if there is none. -/
def startIds : List String :=
  match (scene.nodes.filter (·.kind = "binding")).map (·.id) with
  | [] => (scene.nodes.head?.map (·.id)).toList
  | bindings => bindings

/-- The edges out of a node, the closest relations first. -/
def outgoing (source : String) : List TopologyEdge :=
  sortByKey (fun edge => toLex (relationPriority edge.label, orderOf scene edge.target))
    (scene.edges.filter (·.source = source))

def distances : Map String Nat :=
  search (fun source => (outgoing scene source).map (·.target))
    (scene.nodes.length + scene.edges.length) (startIds scene, atStart (startIds scene))

/-- Number the nodes that have no distance, from `next` on. -/
def numberRest (nodes : List TopologyNode) (state : Nat × Map String Nat) : Nat × Map String Nat :=
  nodes.foldl (fun (next, distance) node =>
    match distance.get? node.id with
    | some _ => (next, distance)
    | none => (next + 1, distance.insert node.id next)) state

/-- The first number behind the distances. -/
def nextDistance : Nat := (distances scene).values.max?.getD 0 + 1

def numbered : Map String Nat :=
  (numberRest scene.nodes (nextDistance scene, distances scene)).2

def stageDistance (node : TopologyNode) : Nat := ((numbered scene).get? node.id).getD (2 ^ 64 - 1)

def stage (distance : Nat) (nodes : List TopologyNode) : BeginnerMemoryStage :=
  let nodes := sortByKey (fun node => orderOf scene node.id) nodes
  let relations := (scene.edges.filter fun edge =>
    decide (edge.target ∈ nodes.map (·.id)) &&
      ((numbered scene).get? edge.source).any (· < distance)).map
    fun edge => beginnerRelationLabel edge.label
  ⟨dedupBy (fun a b => decide (a = b)) (sortByKey id relations), nodes⟩

def deriveBeginnerMemoryPath : BeginnerMemoryPath :=
  if scene.nodes.isEmpty then { truncated := scene.truncated }
  else
    { stages := (Groups.sorted (stageDistance scene) scene.nodes).map
        fun (distance, nodes) => stage scene distance nodes
      truncated := scene.truncated }

/-! ## What the stages should be -/

/-- An edge leads from one node to the other. -/
def Leads (a b : String) : Prop := ∃ edge ∈ scene.edges, edge.source = a ∧ edge.target = b

/-- The shortest path from the start to the node has so many edges. -/
def AtDistance (n : Nat) (node : TopologyNode) : Prop :=
  IsDistance (Leads scene) (startIds scene) n node.id

def Unreached (node : TopologyNode) : Prop :=
  ∀ n, ¬ Reached (Leads scene) (startIds scene) n node.id

/-- A node comes in an earlier stage than another. -/
inductive Precedes (x y : TopologyNode) : Prop
  | nearer {m n : Nat} : AtDistance scene m x → AtDistance scene n y → m < n → Precedes x y
  | reached {m : Nat} : AtDistance scene m x → Unreached scene y → Precedes x y
  | inScene : Unreached scene x → Unreached scene y → [x, y].Sublist scene.nodes → Precedes x y

structure ShortestPathLayering (stages : List (List TopologyNode)) : Prop where
  /-- Each node of the scene stands in the stages once. -/
  once : stages.flatten.Perm scene.nodes
  /-- A stage has all nodes of one distance, or a single node. -/
  shared : ∀ stage ∈ stages, ∀ x ∈ stage, ∀ y ∈ scene.nodes,
    y ∈ stage ↔ x = y ∨ ∃ n, AtDistance scene n x ∧ AtDistance scene n y
  ordered : stages.Pairwise fun earlier later =>
    ∀ x ∈ earlier, ∀ y ∈ later, Precedes scene x y

/-! ## The search -/

variable {scene}

theorem mem_outgoing {a b : String} :
    b ∈ (outgoing scene a).map (·.target) ↔ Leads scene a b := by
  simp only [outgoing, List.mem_map, mem_sortByKey, List.mem_filter, decide_eq_true_eq, Leads,
    and_assoc]

theorem length_startIds_le : (startIds scene).length ≤ scene.nodes.length := by
  unfold startIds
  split
  · cases scene.nodes <;> simp
  · rw [List.length_map]
    exact List.length_filter_le _ _

variable {id : String} {node : TopologyNode}

/-- **The search finds the shortest paths.** -/
theorem get?_distances {n : Nat} : (distances scene).get? id = some n ↔
    IsDistance (Leads scene) (startIds scene) n id := by
  have htargets : ∀ a, ∀ b ∈ (outgoing scene a).map (·.target),
      b ∈ scene.edges.map (·.target) := by
    intro a b hb
    obtain ⟨edge, hedge, -, rfl⟩ := mem_outgoing.mp hb
    exact List.mem_map_of_mem hedge
  refine get?_search_iff (fun _ _ => mem_outgoing) htargets ?_
  rw [List.length_map]
  exact Nat.add_le_add_right length_startIds_le _

theorem unreached_of_get? (h : (distances scene).get? node.id = none) : Unreached scene node := by
  intro n hn
  obtain ⟨m, hm⟩ := hn.exists_isDistance
  rw [get?_distances.mpr hm] at h
  cases h

theorem lt_nextDistance {n : Nat} (h : (distances scene).get? id = some n) :
    n < nextDistance scene := by
  have hmem : n ∈ (distances scene).values := List.mem_map_of_mem (mem_of_get? h)
  unfold nextDistance
  cases hmax : (distances scene).values.max? with
  | none => simp [List.max?_eq_none_iff.mp hmax] at hmem
  | some m =>
    have hle := (List.max?_eq_some_iff.mp hmax).2 n hmem
    rw [Option.getD_some]
    omega

/-! ## The nodes that are not reached -/

theorem numberRest_cons (node : TopologyNode) (nodes : List TopologyNode) (next : Nat)
    (distance : Map String Nat) :
    numberRest (node :: nodes) (next, distance) =
      match distance.get? node.id with
      | some _ => numberRest nodes (next, distance)
      | none => numberRest nodes (next + 1, distance.insert node.id next) := by
  unfold numberRest
  rw [List.foldl_cons]
  dsimp only
  cases distance.get? node.id <;> rfl

theorem get?_numberRest_of_some {n : Nat} : ∀ {nodes : List TopologyNode} {next : Nat}
    {distance : Map String Nat}, distance.get? id = some n →
      (numberRest nodes (next, distance)).2.get? id = some n
  | [], _, _, h => h
  | node :: nodes, next, distance, h => by
    rw [numberRest_cons]
    cases hnode : distance.get? node.id with
    | some _ => exact get?_numberRest_of_some h
    | none =>
      refine get?_numberRest_of_some ?_
      have hne : id ≠ node.id := by
        rintro rfl
        rw [hnode] at h
        cases h
      rw [get?_insert, if_neg hne, h]

/-- The numbers go on from `next`. -/
theorem exists_get?_numberRest : ∀ {nodes : List TopologyNode} (next : Nat)
    {distance : Map String Nat}, node ∈ nodes → distance.get? node.id = none →
      ∃ n ≥ next, (numberRest nodes (next, distance)).2.get? node.id = some n
  | other :: nodes, next, distance, hmem, h => by
    rw [numberRest_cons]
    cases hother : distance.get? other.id with
    | some _ =>
      rcases List.mem_cons.mp hmem with rfl | hmem
      · rw [hother] at h
        cases h
      · exact exists_get?_numberRest next hmem h
    | none =>
      by_cases hid : node.id = other.id
      · refine ⟨next, Nat.le_refl _, get?_numberRest_of_some ?_⟩
        rw [get?_insert, if_pos hid]
      · rcases List.mem_cons.mp hmem with rfl | hmem
        · exact absurd rfl hid
        · have hnone : (distance.insert other.id next).get? node.id = none := by
            rw [get?_insert, if_neg hid, h]
          obtain ⟨n, hn, hget⟩ := exists_get?_numberRest (next + 1) hmem hnone
          exact ⟨n, by omega, hget⟩

/-- They increase along the scene. -/
theorem numberRest_pairwise : ∀ {nodes : List TopologyNode} (next : Nat)
    (distance : Map String Nat), (nodes.map (·.id)).Nodup →
      nodes.Pairwise fun x y => distance.get? x.id = none → distance.get? y.id = none →
        ∃ m n, (numberRest nodes (next, distance)).2.get? x.id = some m ∧
          (numberRest nodes (next, distance)).2.get? y.id = some n ∧ m < n
  | [], _, _, _ => .nil
  | node :: nodes, next, distance, hids => by
    rw [List.map_cons, List.nodup_cons] at hids
    have hne : ∀ y ∈ nodes, y.id ≠ node.id := fun y hy heq =>
      hids.1 (heq ▸ List.mem_map_of_mem hy)
    rw [numberRest_cons, List.pairwise_cons]
    cases hnode : distance.get? node.id with
    | some _ => exact ⟨fun y _ hx => (nomatch hx), numberRest_pairwise next distance hids.2⟩
    | none =>
      have hinsert : ∀ y ∈ nodes, (distance.insert node.id next).get? y.id = distance.get? y.id :=
        fun y hy => by rw [get?_insert, if_neg (hne y hy)]
      refine ⟨fun y hy _ hnone => ?_, ?_⟩
      · obtain ⟨n, hn, hget⟩ := exists_get?_numberRest (next + 1) hy ((hinsert y hy).trans hnone)
        exact ⟨next, n, get?_numberRest_of_some (by rw [get?_insert, if_pos rfl]), hget, hn⟩
      · have hrest := numberRest_pairwise (next + 1) (distance.insert node.id next) hids.2
        refine hrest.imp_of_mem fun hx hy h hxnone hynone => ?_
        exact h ((hinsert _ hx).trans hxnone) ((hinsert _ hy).trans hynone)

/-! ## The numbers of the stages -/

section Numbers

variable {x y : TopologyNode}

theorem stageDistance_of_reached {n : Nat} (h : (distances scene).get? x.id = some n) :
    stageDistance scene x = n := by
  have hget : (numbered scene).get? x.id = some n := get?_numberRest_of_some h
  rw [stageDistance, hget, Option.getD_some]

theorem le_stageDistance_of_unreached (hx : x ∈ scene.nodes)
    (h : (distances scene).get? x.id = none) : nextDistance scene ≤ stageDistance scene x := by
  obtain ⟨n, hn, hget⟩ := exists_get?_numberRest (nextDistance scene) hx h
  have hnumbered : (numbered scene).get? x.id = some n := hget
  rw [stageDistance, hnumbered, Option.getD_some]
  exact hn

theorem stageDistance_lt_of_sublist (hids : (scene.nodes.map (·.id)).Nodup)
    (hxy : [x, y].Sublist scene.nodes) (hx : (distances scene).get? x.id = none)
    (hy : (distances scene).get? y.id = none) : stageDistance scene x < stageDistance scene y := by
  have hpairwise := numberRest_pairwise (nextDistance scene) (distances scene) hids
  obtain ⟨m, n, hm, hn, hlt⟩ := List.pairwise_iff_forall_sublist.mp hpairwise hxy hx hy
  have hm' : (numbered scene).get? x.id = some m := hm
  have hn' : (numbered scene).get? y.id = some n := hn
  rw [stageDistance, stageDistance, hm', hn']
  exact hlt

/-- Of two nodes of the scene one stands before the other. -/
theorem sublist_or_sublist (hx : x ∈ scene.nodes) (hy : y ∈ scene.nodes) (hne : x ≠ y) :
    [x, y].Sublist scene.nodes ∨ [y, x].Sublist scene.nodes := by
  let Apart (x y : TopologyNode) : Prop :=
    [x, y].Sublist scene.nodes ∨ [y, x].Sublist scene.nodes
  have hsymm : Std.Symm Apart := ⟨fun _ _ => Or.symm⟩
  have hpairwise : scene.nodes.Pairwise Apart := List.pairwise_iff_forall_sublist.mpr .inl
  exact hpairwise.forall hx hy hne

/-- **A smaller number is an earlier stage.** -/
theorem lt_stageDistance_precedes (hids : (scene.nodes.map (·.id)).Nodup) (hx : x ∈ scene.nodes)
    (hy : y ∈ scene.nodes) (hlt : stageDistance scene x < stageDistance scene y) :
    Precedes scene x y := by
  cases hxget : (distances scene).get? x.id with
  | some m =>
    cases hyget : (distances scene).get? y.id with
    | some n =>
      rw [stageDistance_of_reached hxget, stageDistance_of_reached hyget] at hlt
      exact .nearer (get?_distances.mp hxget) (get?_distances.mp hyget) hlt
    | none => exact .reached (get?_distances.mp hxget) (unreached_of_get? hyget)
  | none =>
    cases hyget : (distances scene).get? y.id with
    | some n =>
      have hle := le_stageDistance_of_unreached hx hxget
      have hnext := lt_nextDistance hyget
      rw [stageDistance_of_reached hyget] at hlt
      omega
    | none =>
      have hne : x ≠ y := by
        rintro rfl
        exact Nat.lt_irrefl _ hlt
      rcases sublist_or_sublist hx hy hne with hxy | hyx
      · exact .inScene (unreached_of_get? hxget) (unreached_of_get? hyget) hxy
      · have hgt := stageDistance_lt_of_sublist hids hyx hyget hxget
        omega

/-- A node that is reached and one that is not have different numbers. -/
theorem stageDistance_lt_of_reached {n : Nat} (hxget : (distances scene).get? x.id = some n)
    (hy : y ∈ scene.nodes) (hyget : (distances scene).get? y.id = none) :
    stageDistance scene x < stageDistance scene y := by
  rw [stageDistance_of_reached hxget]
  exact Nat.lt_of_lt_of_le (lt_nextDistance hxget) (le_stageDistance_of_unreached hy hyget)

/-- **Equal numbers are equal distances.** -/
theorem stageDistance_eq_iff (hids : (scene.nodes.map (·.id)).Nodup) (hx : x ∈ scene.nodes)
    (hy : y ∈ scene.nodes) : stageDistance scene y = stageDistance scene x ↔
      x = y ∨ ∃ n, AtDistance scene n x ∧ AtDistance scene n y := by
  constructor
  · intro heq
    by_cases hne : x = y
    · exact .inl hne
    refine .inr ?_
    cases hxget : (distances scene).get? x.id with
    | some m =>
      cases hyget : (distances scene).get? y.id with
      | some n =>
        rw [stageDistance_of_reached hxget, stageDistance_of_reached hyget] at heq
        subst heq
        exact ⟨n, get?_distances.mp hxget, get?_distances.mp hyget⟩
      | none => exact absurd heq (stageDistance_lt_of_reached hxget hy hyget).ne'
    | none =>
      cases hyget : (distances scene).get? y.id with
      | some n => exact absurd heq (stageDistance_lt_of_reached hyget hx hxget).ne
      | none =>
        rcases sublist_or_sublist hx hy hne with hxy | hyx
        · exact absurd heq (stageDistance_lt_of_sublist hids hxy hxget hyget).ne'
        · exact absurd heq (stageDistance_lt_of_sublist hids hyx hyget hxget).ne
  · rintro (rfl | ⟨n, hxn, hyn⟩)
    · rfl
    · rw [stageDistance_of_reached (get?_distances.mpr hxn),
        stageDistance_of_reached (get?_distances.mpr hyn)]

end Numbers

/-! ## The stages -/

theorem mem_stage_nodes {distance : Nat} {nodes : List TopologyNode} :
    node ∈ (stage scene distance nodes).nodes ↔ node ∈ nodes :=
  mem_sortByKey _

/-- The groups are layered. -/
theorem stages_layered (hids : (scene.nodes.map (·.id)).Nodup) :
    ShortestPathLayering scene
      ((Groups.sorted (stageDistance scene) scene.nodes).map
        fun entry => (stage scene entry.1 entry.2).nodes) := by
  refine ⟨?_, ?_, ?_⟩
  · have hgroups : ((Groups.sorted (stageDistance scene) scene.nodes).flatMap Prod.snd).Perm
        scene.nodes := Groups.flatten_sorted_perm
    refine .trans ?_ hgroups
    rw [← List.flatMap_def]
    exact List.Perm.flatMap_left _ fun entry _ => sortByKey_perm _ _
  · intro nodes hnodes x hx y hy
    obtain ⟨entry, hentry, rfl⟩ := List.mem_map.mp hnodes
    rw [mem_stage_nodes, (Groups.mem_sorted_iff.mp hentry).1, List.mem_filter,
      decide_eq_true_eq] at hx ⊢
    rw [← hx.2, and_iff_right hy]
    exact stageDistance_eq_iff hids hx.1 hy
  · refine List.pairwise_map.mpr (Groups.sorted_pairwise.imp_of_mem ?_)
    intro earlier later hearlier hlater hlt x hx y hy
    rw [mem_stage_nodes, (Groups.mem_sorted_iff.mp hearlier).1, List.mem_filter,
      decide_eq_true_eq] at hx
    rw [mem_stage_nodes, (Groups.mem_sorted_iff.mp hlater).1, List.mem_filter,
      decide_eq_true_eq] at hy
    exact lt_stageDistance_precedes hids hx.1 hy.1 (by rw [hx.2, hy.2]; exact hlt)

/-- **The beginner's path is a layering by shortest paths.** -/
theorem beginner_path_layers (scene : OwnershipTopologyScene)
    (hids : (scene.nodes.map (·.id)).Nodup) :
    ShortestPathLayering scene ((deriveBeginnerMemoryPath scene).stages.map (·.nodes)) := by
  unfold deriveBeginnerMemoryPath
  split
  · next hempty =>
    rw [List.isEmpty_iff] at hempty
    exact ⟨by simp [hempty], List.forall_mem_nil _, .nil⟩
  · rw [List.map_map]
    exact stages_layered hids

end Path

/-! ## A vector and a node on its own -/

def sceneNode (id kind : String) : TopologyNode :=
  ⟨id, id, id, "Vec<u8>", "", kind, "stack", "available", "exact", .local_, none, {}⟩

def sceneEdge (source target label : String) : TopologyEdge :=
  ⟨source ++ target, source, target, label, "exact", true, none, [], (0, 0)⟩

/-- The binding `v` stores a header, which owns a buffer that leads back to it; `w` is apart. -/
def vectorScene : OwnershipTopologyScene where
  nodes := [sceneNode "w" "inline_value", sceneNode "b" "buffer", sceneNode "h" "wrapper",
    sceneNode "v" "binding"]
  edges := [sceneEdge "h" "b" "owns_buffer", sceneEdge "v" "h" "stores", sceneEdge "b" "h" "wraps"]

theorem vector_path_layers :
    ((deriveBeginnerMemoryPath vectorScene).stages.map fun stage => stage.nodes.map (·.id)) =
        [["v"], ["h"], ["b"], ["w"]] ∧
      ShortestPathLayering vectorScene
        ((deriveBeginnerMemoryPath vectorScene).stages.map (·.nodes)) :=
  ⟨by decide +kernel, beginner_path_layers vectorScene (by decide)⟩

end RustWorkbench.Panel
