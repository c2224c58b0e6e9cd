import RustWorkbench.Library.Assoc
import RustWorkbench.Panel.Scene

/-!
# The layout of a scene

`layout_topology_scene` puts each node into a row of its own and routes the edges between the boxes,
down the middle or along the side.  All its arithmetic saturates at 16 bits.

* `boxes_never_overlap` — as long as the rows fit, nothing saturates, the boxes are apart and inside of
  the canvas, and every edge leads from the border of one box to the border of another.
-/

namespace RustWorkbench.Panel

open Assoc Assoc.Map

/-- The nodes and edges of a scene. -/
structure SceneGraph where
  nodes : List TopologyNode := []
  edges : List TopologyEdge := []

def TOPOLOGY_CANVAS_WIDTH : Nat := 420
def TOPOLOGY_NODE_HEIGHT : Nat := 78
def TOPOLOGY_ROW_START : Nat := 8
def TOPOLOGY_ROW_STRIDE : Nat := 102

/-- `u16::saturating_add`; subtraction saturates as that of natural numbers does. -/
def saturatingAdd (a b : Nat) : Nat := min (a + b) 65535

def saturatingMul (a b : Nat) : Nat := min (a * b) 65535

def rowY (row : Nat) : Nat :=
  saturatingAdd (saturatingMul (min row 65535) TOPOLOGY_ROW_STRIDE) TOPOLOGY_ROW_START

/-- The left edge and the width of a box. -/
def TopologyColumn.extent : TopologyColumn → Nat × Nat
  | .local_ => (8, 404)
  | .wrapper => (36, 376)
  | .target => (64, 348)

def placeNode (node : TopologyNode) (row : Nat) : TopologyNode :=
  { node with rect := ⟨node.column.extent.1, rowY row, node.column.extent.2, TOPOLOGY_NODE_HEIGHT⟩ }

/-- Route an edge from its source down to its target, or along the side if that is not below. -/
def routeEdge (source target : TopologyRect) (edge : TopologyEdge) : TopologyEdge :=
  if source.y < target.y then
    let start := (saturatingAdd source.x (source.width / 2), saturatingAdd source.y source.height)
    let finish := (saturatingAdd target.x (target.width / 2), target.y)
    let middleY := saturatingAdd start.2 ((finish.2 - start.2) / 2)
    { edge with
      route := [start, (start.1, middleY), (finish.1, middleY), finish]
      labelPosition := (saturatingAdd (min start.1 finish.1) 8, middleY - 8) }
  else
    let sideX := TOPOLOGY_CANVAS_WIDTH - 2
    let start := (saturatingAdd source.x source.width, saturatingAdd source.y (source.height / 2))
    let finish := (saturatingAdd target.x target.width, saturatingAdd target.y (target.height / 2))
    { edge with
      route := [start, (sideX, start.2), (sideX, finish.2), finish]
      labelPosition := (sideX - 104, saturatingAdd (min start.2 finish.2) 8) }

/-- An edge with an end that has no place keeps its route. -/
def placeEdge (rects : Map String TopologyRect) (edge : TopologyEdge) : TopologyEdge :=
  match rects.get? edge.source, rects.get? edge.target with
  | some source, some target => routeEdge source target edge
  | _, _ => edge

/-- The rectangles by the ids of the nodes. -/
def collectRects (nodes : List TopologyNode) : Map String TopologyRect :=
  nodes.foldl (fun (rects : Map String TopologyRect) node => rects.insert node.id node.rect) []

/-- The graph with everything in its place, and the height of the canvas. -/
def layoutTopologyScene (graph : SceneGraph) : SceneGraph × Nat :=
  let nodes := graph.nodes.zipIdx.map fun (node, row) => placeNode node row
  (⟨nodes, graph.edges.map (placeEdge (collectRects nodes))⟩, rowY (max nodes.length 1))

/-! ## What a layout should be -/

def InRect (rect : TopologyRect) (point : Nat × Nat) : Prop :=
  (rect.x ≤ point.1 ∧ point.1 ≤ rect.x + rect.width) ∧
    rect.y ≤ point.2 ∧ point.2 ≤ rect.y + rect.height

def OnBoundary (rect : TopologyRect) (point : Nat × Nat) : Prop :=
  InRect rect point ∧ (point.1 = rect.x ∨ point.1 = rect.x + rect.width ∨
    point.2 = rect.y ∨ point.2 = rect.y + rect.height)

def InCanvas (height : Nat) (point : Nat × Nat) : Prop :=
  point.1 ≤ TOPOLOGY_CANVAS_WIDTH ∧ point.2 ≤ height

/-- The corners of a box. -/
def TopologyRect.corners (rect : TopologyRect) : List (Nat × Nat) :=
  [(rect.x, rect.y), (rect.x + rect.width, rect.y + rect.height)]

/-- The route and the place of the label, computed with integers that do not saturate. -/
def ExactRoute (source target : TopologyRect) : List (Int × Int) × (Int × Int) :=
  if source.y < target.y then
    let start : Int × Int := (source.x + source.width / 2, source.y + source.height)
    let finish : Int × Int := (target.x + target.width / 2, target.y)
    let middleY := start.2 + (finish.2 - start.2) / 2
    ([start, (start.1, middleY), (finish.1, middleY), finish], (min start.1 finish.1 + 8, middleY - 8))
  else
    let sideX : Int := TOPOLOGY_CANVAS_WIDTH - 2
    let start : Int × Int := (source.x + source.width, source.y + source.height / 2)
    let finish : Int × Int := (target.x + target.width, target.y + target.height / 2)
    ([start, (sideX, start.2), (sideX, finish.2), finish], (sideX - 104, min start.2 finish.2 + 8))

def toIntegers (point : Nat × Nat) : Int × Int := (point.1, point.2)

/-- The edge leads from one box to the other, on the canvas and without saturation. -/
structure Routed (source target : TopologyRect) (height : Nat) (edge : TopologyEdge) : Prop where
  exact : (edge.route.map toIntegers, toIntegers edge.labelPosition) = ExactRoute source target
  inside : ∀ point ∈ edge.route, InCanvas height point
  start : ∃ point ∈ edge.route.head?, OnBoundary source point
  finish : ∃ point ∈ edge.route.getLast?, OnBoundary target point

/-! ## One row and one edge -/

/-- The box of a row, in exact arithmetic. -/
def boxAt (row : Nat) (column : TopologyColumn) : TopologyRect :=
  ⟨column.extent.1, row * 102 + 8, column.extent.2, 78⟩

theorem saturatingAdd_eq {a b : Nat} (h : a + b ≤ 65535) : saturatingAdd a b = a + b :=
  Nat.min_eq_left h

theorem rowY_eq {row : Nat} (h : row * 102 + 8 ≤ 65535) : rowY row = row * 102 + 8 := by
  unfold rowY saturatingAdd saturatingMul TOPOLOGY_ROW_STRIDE TOPOLOGY_ROW_START
  omega

theorem extent_le (column : TopologyColumn) :
    8 ≤ column.extent.1 ∧ column.extent.1 + column.extent.2 = 412 ∧ 348 ≤ column.extent.2 := by
  cases column <;> decide

theorem boxAt_apart {row row' : Nat} (h : row < row') (column column' : TopologyColumn)
    (point : Nat × Nat) : ¬ (InRect (boxAt row column) point ∧ InRect (boxAt row' column') point) := by
  simp only [InRect, boxAt]
  omega

theorem boxAt_inside {rows row : Nat} (h : row < rows) (column : TopologyColumn) :
    ∀ point ∈ (boxAt row column).corners, InCanvas (rows * 102 + 8) point := by
  have hextent := extent_le column
  simp only [TopologyRect.corners, boxAt, List.forall_mem_cons, InCanvas, TOPOLOGY_CANVAS_WIDTH]
  refine ⟨by omega, by omega, by simp⟩

theorem routed_boxAt {rows row row' : Nat} (hrows : rows * 102 + 8 ≤ 65535) (hrow : row < rows)
    (hrow' : row' < rows) (column column' : TopologyColumn) (edge : TopologyEdge) :
    Routed (boxAt row column) (boxAt row' column') (rows * 102 + 8)
      (routeEdge (boxAt row column) (boxAt row' column') edge) := by
  have hsource := extent_le column
  have htarget := extent_le column'
  by_cases hbelow : row < row'
  · have hy : (boxAt row column).y < (boxAt row' column').y := by
      simp only [boxAt]
      omega
    rw [routeEdge, if_pos hy]
    refine ⟨?_, ?_, ⟨_, rfl, ?_⟩, ⟨_, rfl, ?_⟩⟩
    · rw [ExactRoute, if_pos hy]
      simp (disch := omega) only [boxAt, saturatingAdd_eq, toIntegers, List.map_cons, List.map_nil,
        Prod.mk.injEq, List.cons.injEq, and_true]
      omega
    · simp (disch := omega) only [boxAt, saturatingAdd_eq, InCanvas, TOPOLOGY_CANVAS_WIDTH,
        List.forall_mem_cons]
      refine ⟨by omega, by omega, by omega, by omega, nofun⟩
    · simp (disch := omega) only [OnBoundary, InRect, boxAt, saturatingAdd_eq, or_true, and_true]
      omega
    · simp (disch := omega) only [OnBoundary, InRect, boxAt, saturatingAdd_eq,
        List.getLast_cons_cons, List.getLast_singleton, or_true, true_or, and_true]
      omega
  · have hy : ¬ (boxAt row column).y < (boxAt row' column').y := by
      simp only [boxAt]
      omega
    rw [routeEdge, if_neg hy]
    refine ⟨?_, ?_, ⟨_, rfl, ?_⟩, ⟨_, rfl, ?_⟩⟩
    · rw [ExactRoute, if_neg hy]
      simp (disch := omega) only [boxAt, saturatingAdd_eq, toIntegers, List.map_cons, List.map_nil,
        Prod.mk.injEq, List.cons.injEq, and_true, TOPOLOGY_CANVAS_WIDTH]
      omega
    · simp (disch := omega) only [boxAt, saturatingAdd_eq, InCanvas, TOPOLOGY_CANVAS_WIDTH,
        List.forall_mem_cons]
      refine ⟨by omega, by omega, by omega, by omega, nofun⟩
    · simp (disch := omega) only [OnBoundary, InRect, boxAt, saturatingAdd_eq, or_true, true_or,
        and_true]
      omega
    · simp (disch := omega) only [OnBoundary, InRect, boxAt, saturatingAdd_eq,
        List.getLast_cons_cons, List.getLast_singleton, or_true, true_or, and_true]
      omega

/-! ## The whole scene -/

theorem get?_collect_of_notMem {id : String} : ∀ {nodes : List TopologyNode}
    (rects : Map String TopologyRect), id ∉ nodes.map (·.id) →
      (nodes.foldl (fun (rects : Map String TopologyRect) node => rects.insert node.id node.rect)
        rects).get? id = rects.get? id
  | [], _, _ => rfl
  | node :: nodes, rects, h => by
    obtain ⟨hne, hrest⟩ := not_or.mp (mt List.mem_cons.mpr h)
    rw [List.foldl_cons, get?_collect_of_notMem _ hrest, get?_insert, if_neg hne]

theorem get?_collect {node : TopologyNode} : ∀ {nodes : List TopologyNode}
    (rects : Map String TopologyRect), (nodes.map (·.id)).Nodup → node ∈ nodes →
      (nodes.foldl (fun (rects : Map String TopologyRect) node => rects.insert node.id node.rect)
        rects).get? node.id = some node.rect
  | first :: nodes, rects, hnodup, hnode => by
    obtain ⟨hfirst, hrest⟩ := List.nodup_cons.mp hnodup
    rw [List.foldl_cons]
    rcases List.mem_cons.mp hnode with rfl | hnode
    · rw [get?_collect_of_notMem _ hfirst, get?_insert, if_pos rfl]
    · exact get?_collect _ hrest hnode

section Scene

variable {graph : SceneGraph}

theorem map_id_layout (graph : SceneGraph) :
    (layoutTopologyScene graph).1.nodes.map (·.id) = graph.nodes.map (·.id) := by
  have hid : ((·.id) ∘ fun (node, row) => placeNode node row)
      = (·.id) ∘ (Prod.fst : TopologyNode × Nat → TopologyNode) := rfl
  rw [layoutTopologyScene, List.map_map, hid, ← List.map_map, List.zipIdx_map_fst]

/-- The node of a row has the box of the row. -/
theorem getElem?_layout (hfits : graph.nodes.length * 102 + 8 ≤ 65535) (row : Nat) :
    (layoutTopologyScene graph).1.nodes[row]?
      = graph.nodes[row]?.map fun node => { node with rect := boxAt row node.column } := by
  rw [layoutTopologyScene, List.getElem?_map, List.getElem?_zipIdx]
  cases hnode : graph.nodes[row]? with
  | none => rfl
  | some node =>
    have hrow := (List.getElem?_eq_some_iff.mp hnode).1
    simp only [Option.map_some, Nat.zero_add, placeNode, boxAt, TOPOLOGY_NODE_HEIGHT]
    rw [rowY_eq (by omega)]

theorem rect_of_mem_layout (hfits : graph.nodes.length * 102 + 8 ≤ 65535) {node : TopologyNode}
    (h : node ∈ (layoutTopologyScene graph).1.nodes) :
    ∃ row < graph.nodes.length, node.rect = boxAt row node.column := by
  obtain ⟨row, hrow⟩ := List.mem_iff_getElem?.mp h
  rw [getElem?_layout hfits] at hrow
  obtain ⟨node', hnode', rfl⟩ := Option.map_eq_some_iff.mp hrow
  exact ⟨row, (List.getElem?_eq_some_iff.mp hnode').1, rfl⟩

theorem rects_layout (hnodup : (graph.nodes.map (·.id)).Nodup) {id : String}
    (h : id ∈ graph.nodes.map (·.id)) : ∃ node ∈ (layoutTopologyScene graph).1.nodes,
      node.id = id ∧
        (collectRects (layoutTopologyScene graph).1.nodes).get? id = some node.rect := by
  rw [← map_id_layout] at hnodup h
  obtain ⟨node, hnode, rfl⟩ := List.mem_map.mp h
  exact ⟨node, hnode, rfl, get?_collect _ hnodup hnode⟩

/-- **Boxes never overlap.**  The boxes of a scene have no point in common and lie on the canvas,
and every edge leads on the canvas from the border of one box to the border of the other.  Neither
the boxes nor the routes nor the height saturate. -/
theorem boxes_never_overlap (hnodup : (graph.nodes.map (·.id)).Nodup)
    (hfits : (graph.nodes.length + 1) * 102 + 8 ≤ 65535)
    (hedges : ∀ edge ∈ graph.edges,
      edge.source ∈ graph.nodes.map (·.id) ∧ edge.target ∈ graph.nodes.map (·.id)) :
    let scene := (layoutTopologyScene graph).1
    let height := (layoutTopologyScene graph).2
    height = max graph.nodes.length 1 * 102 + 8 ∧
    (∀ row : Nat, scene.nodes[row]?
      = graph.nodes[row]?.map fun node => { node with rect := boxAt row node.column }) ∧
    scene.nodes.Pairwise (fun node node' => ∀ point,
      ¬ (InRect node.rect point ∧ InRect node'.rect point)) ∧
    (∀ node ∈ scene.nodes, ∀ point ∈ node.rect.corners, InCanvas height point) ∧
    List.Forall₂ (fun edge edge' => ∃ source ∈ scene.nodes, ∃ target ∈ scene.nodes,
      source.id = edge.source ∧ target.id = edge.target ∧
        Routed source.rect target.rect height edge') graph.edges scene.edges := by
  intro scene height
  have hlength : scene.nodes.length = graph.nodes.length := by
    simpa only [List.length_map] using congrArg List.length (map_id_layout graph)
  have hheight : height = max graph.nodes.length 1 * 102 + 8 := by
    change rowY (max scene.nodes.length 1) = _
    rw [hlength, rowY_eq (by omega)]
  have hboxes : ∀ row : Nat, scene.nodes[row]?
      = graph.nodes[row]?.map fun node => { node with rect := boxAt row node.column } :=
    getElem?_layout (by omega)
  have hrects : ∀ node ∈ scene.nodes,
      ∃ row < max graph.nodes.length 1, node.rect = boxAt row node.column := by
    intro node hnode
    obtain ⟨row, hrow, hrect⟩ := rect_of_mem_layout (by omega) hnode
    exact ⟨row, by omega, hrect⟩
  refine ⟨hheight, hboxes, ?_, ?_, ?_⟩
  · rw [List.pairwise_iff_getElem]
    intro row row' hrow hrow' hlt
    have hnode := hboxes row
    have hnode' := hboxes row'
    rw [List.getElem?_eq_getElem hrow, List.getElem?_eq_getElem (hlength ▸ hrow), Option.map_some,
      Option.some.injEq] at hnode
    rw [List.getElem?_eq_getElem hrow', List.getElem?_eq_getElem (hlength ▸ hrow'), Option.map_some,
      Option.some.injEq] at hnode'
    rw [hnode, hnode']
    exact boxAt_apart hlt _ _
  · intro node hnode
    obtain ⟨row, hrow, hrect⟩ := hrects node hnode
    rw [hrect, hheight]
    exact boxAt_inside hrow _
  · refine List.forall₂_map_right_iff.mpr (List.forall₂_same.mpr fun edge hedge => ?_)
    obtain ⟨source, hsource, hsourceId, hsourceRect⟩ := rects_layout hnodup (hedges edge hedge).1
    obtain ⟨target, htarget, htargetId, htargetRect⟩ := rects_layout hnodup (hedges edge hedge).2
    refine ⟨source, hsource, target, htarget, hsourceId, htargetId, ?_⟩
    obtain ⟨row, hrow, hrect⟩ := hrects source hsource
    obtain ⟨row', hrow', hrect'⟩ := hrects target htarget
    change Routed _ _ _ (placeEdge (collectRects scene.nodes) edge)
    rw [placeEdge, hsourceRect, htargetRect, hrect, hrect', hheight]
    exact routed_boxAt (by omega) hrow hrow' _ _ edge

end Scene

/-- A node of a column, before the layout. -/
def unplacedNode (id : String) (column : TopologyColumn) : TopologyNode :=
  ⟨id, "", "", "", "", "", "", "", "", column, none, ⟨0, 0, 0, 0⟩⟩

/-- An edge before the layout. -/
def unroutedEdge (source target : String) : TopologyEdge :=
  ⟨"", source, target, "", "", true, none, [], (0, 0)⟩

/-- Three boxes, with an edge down, an edge up and a loop. -/
def cycleGraph : SceneGraph where
  nodes := [unplacedNode "x" .local_, unplacedNode "b" .wrapper, unplacedNode "v" .target]
  edges := [unroutedEdge "x" "v", unroutedEdge "v" "b", unroutedEdge "b" "b"]

theorem cycleGraph_apart : (layoutTopologyScene cycleGraph).2 = 314 ∧
    (layoutTopologyScene cycleGraph).1.nodes.Pairwise (fun node node' => ∀ point,
      ¬ (InRect node.rect point ∧ InRect node'.rect point)) := by
  have happly := @boxes_never_overlap cycleGraph (by decide) (by decide) (by decide)
  exact ⟨happly.1, happly.2.2.1⟩

end RustWorkbench.Panel
