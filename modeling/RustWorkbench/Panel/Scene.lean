import RustWorkbench.Lsp

/-!
# The scene of the memory view

What the panel draws of the memory graph: boxes, arrows and the moments that can be stepped
through.  Coordinates are numbers; where the source adds and multiplies them it saturates.
-/

namespace RustWorkbench.Panel

inductive TopologyColumn
  | local_ | wrapper | target
deriving DecidableEq, Repr

structure TopologyRect where
  x : Nat := 0
  y : Nat := 0
  width : Nat := 0
  height : Nat := 0
deriving DecidableEq, Repr

structure TopologyNode where
  id : String
  place : String
  label : String
  typeName : String
  detail : String
  kind : String
  storage : String
  state : String
  provenance : String
  column : TopologyColumn
  range : Option Range
  rect : TopologyRect
deriving DecidableEq

structure TopologyEdge where
  id : String
  source : String
  target : String
  label : String
  provenance : String
  active : Bool
  range : Option Range
  route : List (Nat × Nat)
  labelPosition : Nat × Nat
deriving DecidableEq

structure TopologyMoment where
  title : String
  explanation : String
  range : Range
  pathMarker : Option String
deriving DecidableEq

structure OwnershipTopologyScene where
  title : String := ""
  summary : String := ""
  nodes : List TopologyNode := []
  edges : List TopologyEdge := []
  moments : List TopologyMoment := []
  selectedStep : Nat := 0
  accessLines : List String := []
  canvasHeight : Nat := 0
  expanded : Bool := false
  truncated : Bool := false
  legacyLimited : Bool := false

def relationPriority : String → Nat
  | "stores" => 0
  | "wraps" => 1
  | "owns" | "shares_allocation" | "weak_reference" => 2
  | "contains" | "guards_access" => 3
  | "owns_buffer" | "points_to" => 4
  | "borrow_shared" | "borrow_mutable" | "reborrow" => 5
  | "moved_to" => 6
  | _ => 7

end RustWorkbench.Panel
