import RustWorkbench.Compiler.PlaceNames
import RustWorkbench.Library.ControlFlow
import RustWorkbench.Library.Worklist

/-!
# The MIR of a body, and reachability in it

What the ownership events read of a body: for every statement and terminator the places that a
visitor is shown, each with its context, and the successors of the blocks.  Types of fields and
casts stay abstract.

* `PlaceContext` — how a place occurs, with the three tests on it.
* `Body` — the blocks, with successors among them.
* `Body.isPredecessorOf` — `Location::is_predecessor_of`, a backward search over the blocks.
-/

namespace RustWorkbench.Compiler

open Relation

inductive NonMutatingUseContext
  | inspect | copy | move | sharedBorrow | fakeBorrow | rawBorrow | placeMention | projection
deriving DecidableEq, Repr

inductive MutatingUseContext
  | store | setDiscriminant | asmOutput | call | yield | drop | borrow | rawBorrow | projection
  | retag
deriving DecidableEq, Repr

/-- Without the variance of a type ascription. -/
inductive NonUseContext
  | storageLive | storageDead | ascribeUserTy | varDebugInfo | backwardIncompatibleDropHint
deriving DecidableEq, Repr

inductive PlaceContext
  | nonMutatingUse (context : NonMutatingUseContext)
  | mutatingUse (context : MutatingUseContext)
  | nonUse (context : NonUseContext)
deriving DecidableEq, Repr

def PlaceContext.isUse : PlaceContext → Bool
  | .nonUse _ => false
  | _ => true

def PlaceContext.isDrop : PlaceContext → Bool
  | .mutatingUse .drop => true
  | _ => false

def PlaceContext.isPlaceAssignment : PlaceContext → Bool
  | .mutatingUse .store | .mutatingUse .call | .mutatingUse .asmOutput => true
  | _ => false

/-- `mir::Place`; locals are numbers. -/
structure Place (T : Type) where
  base : Nat
  projection : List (ProjectionElem Nat T)
deriving DecidableEq, Repr

/-- `Place::from(local)` -/
def Place.ofLocal {T : Type} (base : Nat) : Place T := ⟨base, []⟩

/-- A place as `visit_place` gets it. -/
structure Visit (T : Type) where
  place : Place T
  context : PlaceContext
deriving DecidableEq, Repr

/-- The places of each statement and of the terminator, in the order of the visitor.  Of the
terminators only a drop is told apart. -/
structure BlockData (T : Type) where
  statements : List (List (Visit T))
  terminator : List (Visit T)
  dropped : Option (Place T)
  successors : List Nat
deriving DecidableEq, Repr

structure Body (T : Type) where
  blocks : List (BlockData T)
  successors_lt : ∀ data ∈ blocks, ∀ s ∈ data.successors, s < blocks.length

abbrev Location := ControlFlow.Point

namespace Body

variable {T : Type} (body : Body T)

/-- The number of statements of a block: the index of its terminator. -/
def length (block : Nat) : Nat := (body.blocks[block]?).elim 0 fun data => data.statements.length

def successors (block : Nat) : List Nat := (body.blocks[block]?).elim [] BlockData.successors

/-- `body.basic_blocks.predecessors()` -/
def predecessors (block : Nat) : List Nat :=
  (List.range body.blocks.length).flatMap fun b =>
    ((body.successors b).filter (· = block)).map fun _ => b

def locations : List Location :=
  (List.range body.blocks.length).flatMap fun b =>
    (List.range (body.length b + 1)).map fun i => ⟨b, i⟩

/-- What a visitor is shown at a location. -/
def visitsAt (location : Location) : List (Visit T) :=
  (body.blocks[location.block]?).elim [] fun data =>
    (data.statements ++ [data.terminator])[location.index]?.getD []

/-- What `visit_body` shows, in order. -/
def visits : List (Location × Visit T) :=
  body.locations.flatMap fun location => (body.visitsAt location).map (Prod.mk location)

/-- Control passes from a location to another. -/
def Flows : Location → Location → Prop := ControlFlow.Step body.length body.successors

/-- The loop of `is_predecessor_of`: a search from the predecessors of a block for another. -/
def comesBefore (goal block : Nat) : Bool :=
  let start := body.predecessors block
  let blocks := List.range body.blocks.length
  let fuel := start.length + Worklist.Discipline.cost body.predecessors blocks []
  goal ∈ Worklist.explore (Worklist.stack body.predecessors) (fun seen => goal ∈ seen) fuel
    start.reverse []

def isPredecessorOf (location other : Location) : Bool :=
  (location.block = other.block && location.index < other.index) ||
    body.comesBefore location.block other.block

variable {body}

theorem mem_locations {location : Location} : location ∈ body.locations ↔
    location.block < body.blocks.length ∧ location.index ≤ body.length location.block := by
  obtain ⟨b, i⟩ := location
  simp only [locations, List.mem_flatMap, List.mem_map, List.mem_range, Nat.lt_succ_iff]
  constructor
  · rintro ⟨_, hb, _, hi, heq⟩
    cases heq
    exact ⟨hb, hi⟩
  · rintro ⟨hb, hi⟩
    exact ⟨b, hb, i, hi, rfl⟩

theorem mem_visits {location : Location} {visit : Visit T} : (location, visit) ∈ body.visits ↔
    location ∈ body.locations ∧ visit ∈ body.visitsAt location := by
  simp only [visits, List.mem_flatMap, List.mem_map, Prod.mk.injEq]
  constructor
  · rintro ⟨other, hother, other', hvisit, rfl, rfl⟩
    exact ⟨hother, hvisit⟩
  · rintro ⟨hlocation, hvisit⟩
    exact ⟨location, hlocation, visit, hvisit, rfl, rfl⟩

theorem lt_of_mem_successors {b s : Nat} (h : s ∈ body.successors b) :
    b < body.blocks.length ∧ s < body.blocks.length := by
  unfold successors at h
  cases hdata : body.blocks[b]? with
  | none =>
    rw [hdata] at h
    cases h
  | some data =>
    rw [hdata] at h
    exact ⟨(List.getElem?_eq_some_iff.mp hdata).1,
      body.successors_lt data (List.mem_of_getElem? hdata) s h⟩

theorem mem_predecessors {b s : Nat} : b ∈ body.predecessors s ↔ s ∈ body.successors b := by
  simp only [predecessors, List.mem_flatMap, List.mem_range, List.mem_map, List.mem_filter,
    decide_eq_true_eq]
  constructor
  · rintro ⟨c, -, s', ⟨hs', rfl⟩, rfl⟩
    exact hs'
  · intro h
    exact ⟨b, (lt_of_mem_successors h).1, s, ⟨h, rfl⟩, rfl⟩

theorem predecessors_eq_nil {s : Nat} (h : s ∉ List.range body.blocks.length) :
    body.predecessors s = [] := by
  refine List.eq_nil_iff_forall_not_mem.mpr fun b hb => h ?_
  exact List.mem_range.mpr (lt_of_mem_successors (mem_predecessors.mp hb)).2

/-- Backward over the predecessors is forward over the successors. -/
theorem reflTransGen_predecessors_iff {b s : Nat} :
    ReflTransGen (Worklist.Step body.predecessors) s b ↔
      ReflTransGen (ControlFlow.Jumps body.successors) b s := by
  rw [← reflTransGen_swap (r := ControlFlow.Jumps body.successors)]
  have hstep : Worklist.Step body.predecessors =
      Function.swap (ControlFlow.Jumps body.successors) :=
    funext fun _ => funext fun _ => propext mem_predecessors
  rw [hstep]

theorem exists_predecessor_reaches_iff {b s : Nat} :
    (∃ a ∈ body.predecessors s, ReflTransGen (Worklist.Step body.predecessors) a b) ↔
      TransGen (ControlFlow.Jumps body.successors) b s := by
  rw [TransGen.tail'_iff]
  constructor
  · rintro ⟨a, ha, hreach⟩
    exact ⟨a, reflTransGen_predecessors_iff.mp hreach, mem_predecessors.mp ha⟩
  · rintro ⟨a, hreach, ha⟩
    exact ⟨a, mem_predecessors.mpr ha, reflTransGen_predecessors_iff.mpr hreach⟩

theorem comesBefore_iff {goal block : Nat} : body.comesBefore goal block = true ↔
    TransGen (ControlFlow.Jumps body.successors) goal block := by
  unfold comesBefore
  rw [decide_eq_true_eq, Worklist.Discipline.mem_explore_iff _ (fun _ => predecessors_eq_nil)
    (by simp), ← exists_predecessor_reaches_iff]
  simp only [List.mem_reverse]

/-- **A location is a predecessor of another just where a path leads from it to the other** that
is not empty. -/
theorem isPredecessorOf_iff {location other : Location} (hlocation : location ∈ body.locations)
    (hother : other ∈ body.locations) :
    body.isPredecessorOf location other = true ↔ TransGen body.Flows location other := by
  unfold Flows
  rw [ControlFlow.transGen_step_iff (mem_locations.mp hlocation).2 (mem_locations.mp hother).2,
    isPredecessorOf, Bool.or_eq_true, comesBefore_iff, Bool.and_eq_true, decide_eq_true_eq,
    decide_eq_true_eq]

end Body

end RustWorkbench.Compiler
