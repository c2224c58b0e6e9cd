import RustWorkbench.Compiler.GraphRecords
import RustWorkbench.Panel.Topology
import RustWorkbench.Wire.Graph

/-!
# Loans that end in a replay

The compiler writes one edge per loan, from the view to the place, and one snapshot per event.  A
snapshot of `BorrowEnd` removes the relation `borrow_shared` at the node of the place, whatever
loan it ends, and the panel goes by the relation and the node.

* `end_ends_only_its_loan_iff` — a step ends its loan and no other exactly when the loan is shared
  and no other shared loan on its place is still shown.
-/

namespace RustWorkbench.Compiler

/-! ## Relations that a graph removes -/

/-- A delta of the snapshot removes the relation at the node. -/
def OwnershipSnapshot.Removes (snapshot : OwnershipSnapshot) (relation : GraphEdgeRelation)
    (node : String) : Prop :=
  ∃ delta ∈ snapshot.deltas, delta.relationRemoved = some relation ∧ delta.nodeId = node

/-- The snapshot ends a loan at the node. -/
def OwnershipSnapshot.EndsAt (bindings : List OwnershipBinding) (snapshot : OwnershipSnapshot)
    (node : String) : Prop :=
  snapshot.kind = .borrowEnd ∧ placeNodeId bindings snapshot.bodyId snapshot.place = some node

variable {bindings : List OwnershipBinding} {graph : MemoryGraph} {snapshot : OwnershipSnapshot}

/-- A move gives up an allocation and nothing else. -/
theorem applyMove_removed {event : OwnershipEvent} {nodeId : String} {delta : StateDelta}
    {relation : GraphEdgeRelation} (hdelta : delta ∈ (applyMove bindings graph event nodeId).2)
    (hremoved : delta.relationRemoved = some relation) : relation.isAllocation = true := by
  unfold applyMove at hdelta
  split at hdelta
  · split at hdelta
    · cases hdelta
    · dsimp only at hdelta
      split at hdelta
      · split at hdelta
        · cases hdelta
        · rename_i transfer htransfer
          obtain rfl := List.mem_singleton.mp hdelta
          obtain rfl := Option.some.inj hremoved
          unfold findTransfer at htransfer
          obtain ⟨source, hsource, htransfer⟩ := Option.bind_eq_some_iff.mp htransfer
          obtain ⟨destination, -, htransfer⟩ := Option.bind_eq_some_iff.mp htransfer
          obtain rfl := Option.some.inj htransfer
          obtain ⟨edge, -, hallocation, -, rfl⟩ := allocationLinkForRoot_some hsource
          exact hallocation
      · cases hdelta
  · cases hdelta

theorem snapshotKind_eq_borrowEnd_iff (kind : OwnershipEventKind) :
    snapshotKind kind = .borrowEnd ↔ kind = .borrowEnd := by
  cases kind <;> decide

/-- A step removes the relation of a loan where it ends one. -/
theorem recorded_removes_iff {step : BuildStep} {relation : GraphEdgeRelation} {node : String}
    (hsnapshot : snapshot ∈ recorded bindings graph step)
    (hrelation : relation.isAllocation = false) :
    snapshot.Removes relation node ↔ relation = .borrowShared ∧ snapshot.EndsAt bindings node := by
  cases step with
  | binding binding =>
    obtain rfl := List.mem_singleton.mp hsnapshot
    simp [OwnershipSnapshot.Removes, OwnershipSnapshot.EndsAt, initializationSnapshot]
  | derivedClone destination sourceName =>
    simp only [recorded] at hsnapshot
    split at hsnapshot
    · cases hsnapshot
    · obtain rfl := List.mem_singleton.mp hsnapshot
      simp [OwnershipSnapshot.Removes, OwnershipSnapshot.EndsAt, derivedSnapshot]
  | loan loan => cases hsnapshot
  | event event =>
    simp only [recorded] at hsnapshot
    split at hsnapshot
    · cases hsnapshot
    rename_i nodeId placed hplace
    obtain rfl := List.mem_singleton.mp hsnapshot
    have hnode := ensurePlaceNode_id hplace
    simp only [OwnershipSnapshot.Removes, OwnershipSnapshot.EndsAt, eventSnapshot,
      snapshotKind_eq_borrowEnd_iff, hnode, Option.some.injEq]
    constructor
    · rintro ⟨delta, hdelta, hremoved, rfl⟩
      rcases List.mem_cons.mp hdelta with rfl | hdelta
      · split at hremoved
        · rename_i hend
          exact ⟨(Option.some.inj hremoved).symm, hend, rfl⟩
        · cases hremoved
      · rw [applyMove_removed hdelta hremoved] at hrelation
        cases hrelation
    · rintro ⟨rfl, hend, rfl⟩
      exact ⟨_, List.mem_cons_self, if_pos hend, rfl⟩

/-- **What a graph removes.**  The same of every snapshot of a built graph. -/
theorem graph_removes_iff {steps : List BuildStep} {relation : GraphEdgeRelation} {node : String}
    (hsnapshot : snapshot ∈ (graphAfter bindings steps).snapshots)
    (hrelation : relation.isAllocation = false) :
    snapshot.Removes relation node ↔ relation = .borrowShared ∧ snapshot.EndsAt bindings node := by
  induction steps using List.reverseRecOn with
  | nil => cases hsnapshot
  | append_singleton done step ih =>
    rw [graphAfter_snoc, buildStep_snapshots] at hsnapshot
    rcases List.mem_append.mp hsnapshot with h | h
    · exact ih h
    · exact recorded_removes_iff h hrelation

theorem mem_snapshots_of_finish (h : snapshot ∈ (finish graph).snapshots) :
    snapshot ∈ graph.snapshots :=
  (StableSort.sortByKey_perm _ _).mem_iff.mp (List.mem_of_mem_take h)

/-! ## The edges of loans -/

def loanViewId (loan : OwnershipLoan) : String :=
  graphId "node" (toString loan.bodyId ++ ":" ++ loan.place ++ ":loan:" ++ toString loan.loanId)

/-- The edge that the loop over the loans makes; none if the place has no binding. -/
def borrowEdge (bindings : List OwnershipBinding) (loan : OwnershipLoan) : Option MemoryEdge :=
  (placeNodeId bindings loan.bodyId loan.place).map (loanEdge loan (loanViewId loan))

/-- The relation of the edge of a loan. -/
def LoanKind.relation : LoanKind → GraphEdgeRelation
  | mutable => .borrowMutable
  | shared => .borrowShared

theorem LoanKind.relation_eq_borrowShared_iff (kind : LoanKind) :
    kind.relation = .borrowShared ↔ kind = .shared := by
  cases kind <;> decide

theorem LoanKind.relation_not_allocation (kind : LoanKind) : kind.relation.isAllocation = false := by
  cases kind <;> rfl

theorem LoanKind.word_eq_iff (kind : LoanKind) (relation : GraphEdgeRelation) :
    relation.word = kind.relation.word ↔ relation = kind.relation := by
  cases kind <;> cases relation <;> decide

open Panel

section Replay

variable {bindings : List OwnershipBinding} {graph : MemoryGraph} {range : Span → Range}
  {loan : OwnershipLoan} {edge : MemoryEdge}

theorem relation_of_borrowEdge (hedge : borrowEdge bindings loan = some edge) :
    edge.relation = loan.kind.relation := by
  obtain ⟨rootId, -, rfl⟩ := Option.map_eq_some_iff.mp hedge
  unfold loanEdge
  cases loan.kind <;> rfl

theorem eventId_of_borrowEdge (hedge : borrowEdge bindings loan = some edge) :
    edge.eventId = none := by
  obtain ⟨rootId, -, rfl⟩ := Option.map_eq_some_iff.mp hedge
  rfl

/-! ## The edge of a loan in a replay -/

/-- What the panel asks of the names it asks of the compiler's relations. -/
theorem removedBy_toWire_iff (hedge : borrowEdge bindings loan = some edge)
    (snapshot : OwnershipSnapshot) :
    removedBy (edge.toWire range) (snapshot.toWire range) = true ↔
      snapshot.Removes edge.relation edge.source ∨ snapshot.Removes edge.relation edge.target := by
  have hword : ∀ relation : GraphEdgeRelation,
      relation.word = edge.relation.word ↔ relation = edge.relation := by
    rw [relation_of_borrowEdge hedge]
    exact loan.kind.word_eq_iff
  have hremoved : ∀ delta : StateDelta, delta.toWire.relationRemoved = some edge.relation.word
      ↔ delta.relationRemoved = some edge.relation := by
    intro delta
    simp only [StateDelta.toWire, Option.map_eq_some_iff, hword, exists_eq_right]
  simp only [removedBy, OwnershipSnapshot.toWire, MemoryEdge.toWire, List.any_map, List.any_eq_true,
    Function.comp_apply, Bool.and_eq_true, Bool.or_eq_true, beq_iff_eq, hremoved]
  constructor
  · rintro ⟨delta, hdelta, hrelation, hsource | htarget⟩
    · exact .inl ⟨delta, hdelta, hrelation, hsource⟩
    · exact .inr ⟨delta, hdelta, hrelation, htarget⟩
  · rintro (⟨delta, hdelta, hrelation, hnode⟩ | ⟨delta, hdelta, hrelation, hnode⟩)
    · exact ⟨delta, hdelta, hrelation, .inl hnode⟩
    · exact ⟨delta, hdelta, hrelation, .inr hnode⟩

/-- The snapshot at `i` ends some loan at an end of the edge. -/
def EndsThere (bindings : List OwnershipBinding) (graph : MemoryGraph) (edge : MemoryEdge) (i : Nat) :
    Prop :=
  ∃ snapshot, graph.snapshots[i]? = some snapshot
    ∧ (snapshot.EndsAt bindings edge.source ∨ snapshot.EndsAt bindings edge.target)

/-- The graph is the result of the builder. -/
def Built (bindings : List OwnershipBinding) (graph : MemoryGraph) : Prop :=
  ∃ steps, graph = finish (graphAfter bindings steps)

/-- The edge of a loan goes when the loan is shared and some loan ends at the place. -/
theorem removedAt_iff (hbuilt : Built bindings graph) (hedge : borrowEdge bindings loan = some edge)
    (i : Nat) :
    RemovedAt (edge.toWire range) (graph.toModel range).memoryGraph.snapshots i ↔
      loan.kind = .shared ∧ EndsThere bindings graph edge i := by
  obtain ⟨steps, rfl⟩ := hbuilt
  have hrelation := relation_of_borrowEdge hedge
  have hremoves : ∀ snapshot ∈ (finish (graphAfter bindings steps)).snapshots, ∀ node,
      snapshot.Removes edge.relation node ↔ loan.kind = .shared ∧ snapshot.EndsAt bindings node := by
    intro snapshot hsnapshot node
    rw [hrelation, graph_removes_iff (mem_snapshots_of_finish hsnapshot)
      loan.kind.relation_not_allocation, loan.kind.relation_eq_borrowShared_iff]
  simp only [RemovedAt, MemoryGraph.toModel, List.getElem?_map, Option.map_eq_some_iff]
  constructor
  · rintro ⟨_, ⟨snapshot, hget, rfl⟩, hremoved⟩
    have hmem := List.mem_of_getElem? hget
    rw [removedBy_toWire_iff hedge, hremoves snapshot hmem, hremoves snapshot hmem] at hremoved
    rcases hremoved with ⟨hshared, hends⟩ | ⟨hshared, hends⟩
    · exact ⟨hshared, snapshot, hget, .inl hends⟩
    · exact ⟨hshared, snapshot, hget, .inr hends⟩
  · rintro ⟨hshared, snapshot, hget, hends⟩
    have hmem := List.mem_of_getElem? hget
    refine ⟨_, ⟨snapshot, hget, rfl⟩, ?_⟩
    rw [removedBy_toWire_iff hedge, hremoves snapshot hmem, hremoves snapshot hmem]
    exact hends.imp (fun h => ⟨hshared, h⟩) fun h => ⟨hshared, h⟩

/-- **When the panel shows the edge of a loan**: until a loan ends at its place, if it is shared,
and for ever, if it is not. -/
theorem loanEdge_active_iff (hbuilt : Built bindings graph)
    (hedge : borrowEdge bindings loan = some edge) (k : Nat) :
    topologyEdgeActiveAtStep (edge.toWire range) (graph.toModel range) k = true ↔
      (loan.kind = .shared → ∀ i ≤ k, ¬ EndsThere bindings graph edge i) := by
  rw [topologyEdgeActiveAtStep_eq_true_iff]
  simp only [removedAt_iff hbuilt hedge]
  constructor
  · rintro ⟨-, hkept⟩ hshared i hik hends
    exact hkept i hik ⟨hshared, hends⟩
  · intro h
    refine ⟨.inl (eventId_of_borrowEdge hedge), ?_⟩
    rintro i hik ⟨hshared, hends⟩
    exact h hshared i hik hends

/-- Whether an edge is shown one step before; before the first step those are that no event made. -/
def activeBefore (edge : OwnershipMemoryEdge) (model : OwnershipModel) : Nat → Bool
  | 0 => edge.eventId.isNone
  | k + 1 => topologyEdgeActiveAtStep edge model k

theorem loanEdge_activeBefore_iff (hbuilt : Built bindings graph)
    (hedge : borrowEdge bindings loan = some edge) (k : Nat) :
    activeBefore (edge.toWire range) (graph.toModel range) k = true ↔
      (loan.kind = .shared → ∀ i < k, ¬ EndsThere bindings graph edge i) := by
  cases k with
  | zero =>
    have hnone : (edge.toWire range).eventId = none := eventId_of_borrowEdge hedge
    simp [activeBefore, hnone]
  | succ k =>
    simp only [activeBefore, loanEdge_active_iff hbuilt hedge, Nat.lt_succ_iff]

end Replay

/-! ## Ending a loan -/

/-- The snapshot ends the loan. -/
def EndsLoan (snapshot : OwnershipSnapshot) (loan : OwnershipLoan) : Prop :=
  snapshot.kind = .borrowEnd ∧ snapshot.bodyId = loan.bodyId ∧ snapshot.loanId = some loan.loanId

/-- A loan on the same place that has not ended by step `k`. -/
structure OtherLoan (graph : MemoryGraph) (k : Nat) (loan other : OwnershipLoan) : Prop where
  body : other.bodyId = loan.bodyId
  place : other.place = loan.place
  distinct : other.loanId ≠ loan.loanId
  unended : ∀ i ≤ k, ∀ snapshot, graph.snapshots[i]? = some snapshot → ¬ EndsLoan snapshot other

section Ends

variable (bindings : List OwnershipBinding) (loans : List OwnershipLoan) (graph : MemoryGraph)

/-- At step `k` the edge of the loan is gone, and those of the other loans on its place that have
not ended are as they were one step before. -/
structure EndsOnly (range : Span → Range) (k : Nat) (loan : OwnershipLoan) : Prop where
  ended : ∀ edge ∈ borrowEdge bindings loan, edge ∈ graph.edges →
    topologyEdgeActiveAtStep (edge.toWire range) (graph.toModel range) k = false
  others : ∀ other ∈ loans, OtherLoan graph k loan other →
    ∀ edge ∈ borrowEdge bindings other, edge ∈ graph.edges →
      topologyEdgeActiveAtStep (edge.toWire range) (graph.toModel range) k
        = activeBefore (edge.toWire range) (graph.toModel range) k

/-- The loan is shared and some loan has ended at its place by step `k`, and the other shared loans
on the place that have not ended lost their edges before. -/
structure EndsAlone (k : Nat) (loan : OwnershipLoan) : Prop where
  shared : ∀ edge ∈ borrowEdge bindings loan, edge ∈ graph.edges →
    loan.kind = .shared ∧ ∃ i ≤ k, EndsThere bindings graph edge i
  alone : ∀ other ∈ loans, OtherLoan graph k loan other → other.kind = .shared →
    ∀ edge ∈ borrowEdge bindings other, edge ∈ graph.edges →
      EndsThere bindings graph edge k → ∃ i < k, EndsThere bindings graph edge i

end Ends

/-- One more step changes the edge of a loan when it is the first to end a loan there. -/
theorem active_eq_before_iff {range : Span → Range} {loan : OwnershipLoan} {edge : MemoryEdge}
    (hbuilt : Built bindings graph) (hedge : borrowEdge bindings loan = some edge) (k : Nat) :
    topologyEdgeActiveAtStep (edge.toWire range) (graph.toModel range) k
        = activeBefore (edge.toWire range) (graph.toModel range) k ↔
      (loan.kind = .shared → EndsThere bindings graph edge k →
        ∃ i < k, EndsThere bindings graph edge i) := by
  rw [Bool.eq_iff_iff, loanEdge_active_iff hbuilt hedge, loanEdge_activeBefore_iff hbuilt hedge]
  constructor
  · intro hsame hshared hends
    by_contra hnone
    have hbefore : ∀ i < k, ¬ EndsThere bindings graph edge i := fun i hik hi => hnone ⟨i, hik, hi⟩
    exact hsame.mpr (fun _ => hbefore) hshared k le_rfl hends
  · intro h
    constructor
    · intro hactive hshared i hik
      exact hactive hshared i hik.le
    · intro hbefore hshared i hik hends
      rcases Nat.lt_or_eq_of_le hik with hlt | rfl
      · exact hbefore hshared i hlt hends
      · obtain ⟨j, hji, hj⟩ := h hshared hends
        exact hbefore hshared j hji hj

/-- **A step ends its loan and no other.**  For every graph that the compiler builds and every
step, in particular those that end the loan. -/
theorem end_ends_only_its_loan_iff {isAlphanumeric : Char → Bool}
    {sources : Assoc.Map Path RepairSource} {bindings : List OwnershipBinding}
    {events : List OwnershipEvent} {loans : List OwnershipLoan} {graph : MemoryGraph}
    (hgraph : buildOwnershipMemoryGraph isAlphanumeric sources bindings events loans = some graph)
    (range : Span → Range) (k : Nat) (loan : OwnershipLoan) :
    EndsOnly bindings loans graph range k loan ↔ EndsAlone bindings loans graph k loan := by
  have hbuilt : Built bindings graph := by
    obtain ⟨steps, -, rfl⟩ := Option.map_eq_some_iff.mp hgraph
    exact ⟨steps, rfl⟩
  have hended : ∀ edge ∈ borrowEdge bindings loan,
      (topologyEdgeActiveAtStep (edge.toWire range) (graph.toModel range) k = false ↔
        loan.kind = .shared ∧ ∃ i ≤ k, EndsThere bindings graph edge i) := by
    intro edge hedge
    rw [← Bool.not_eq_true, loanEdge_active_iff hbuilt hedge]
    push Not
    exact Iff.rfl
  constructor
  · intro h
    refine ⟨fun edge hedge hmem => (hended edge hedge).mp (h.ended edge hedge hmem), ?_⟩
    intro other hother hopen hshared edge hedge hmem
    exact (active_eq_before_iff hbuilt hedge k).mp (h.others other hother hopen edge hedge hmem) hshared
  · intro h
    refine ⟨fun edge hedge hmem => (hended edge hedge).mpr (h.shared edge hedge hmem), ?_⟩
    intro other hother hopen edge hedge hmem
    exact (active_eq_before_iff hbuilt hedge k).mpr fun hshared =>
      h.alone other hother hopen hshared edge hedge hmem

/-! ## Three loans of one local -/

def dataBinding : OwnershipBinding where
  bodyId := 0
  binding := ⟨["main.rs"], 4, "data"⟩
  typeName := "i32"
  memoryLayers := [⟨.stackBinding, .stack, "data", "i32", some 4, some 4, "target_layout"⟩]

def dataLoan (loanId : Nat) (kind : LoanKind) : OwnershipLoan where
  bodyId := 0
  loanId := loanId
  kind := kind
  place := "data"
  reserve := ⟨0, ⟨["main.rs"], 20, 25⟩⟩
  truncated := false

def dataEnd (loanId statementIndex : Nat) : OwnershipEvent where
  eventId := "end" ++ toString loanId
  bodyId := 0
  basicBlock := 0
  statementIndex := statementIndex
  kind := .borrowEnd
  state := .available
  path := ["main.rs"]
  byteStart := 30
  byteEnd := 35
  place := "data"
  loanId := some loanId
  destination := none

def dataLoans : List OwnershipLoan := [dataLoan 0 .mutable, dataLoan 1 .shared, dataLoan 2 .shared]

/-- First a shared loan ends, then the mutable one. -/
def dataEvents : List OwnershipEvent := [dataEnd 1 1, dataEnd 0 2]

def dataGraph (loans : List OwnershipLoan) (events : List OwnershipEvent) : MemoryGraph :=
  finish (graphAfter [dataBinding] (.binding dataBinding :: .derivedClone dataBinding none
    :: (loans.map .loan ++ events.map .event)))

theorem dataGraph_built (loans : List OwnershipLoan) (events : List OwnershipEvent) :
    buildOwnershipMemoryGraph Char.isAlphanum [] [dataBinding] events loans
      = some (dataGraph loans events) := rfl

def noRange (_ : Span) : Range := ⟨⟨0, 0⟩, ⟨0, 0⟩⟩

/-- A shared loan that is alone on its place ends at its `BorrowEnd`. -/
theorem single_shared_loan_ends :
    EndsOnly [dataBinding] [dataLoan 1 .shared] (dataGraph [dataLoan 1 .shared] [dataEnd 1 1]) noRange 1
      (dataLoan 1 .shared) := by
  refine (end_ends_only_its_loan_iff (dataGraph_built _ _) noRange 1 (dataLoan 1 .shared)).mpr ⟨?_, ?_⟩
  · intro edge hedge _
    have hends : ((dataGraph [dataLoan 1 .shared] [dataEnd 1 1]).snapshots[1]?.any fun snapshot =>
        decide (snapshot.kind = .borrowEnd)
          && decide (placeNodeId [dataBinding] snapshot.bodyId snapshot.place
            = placeNodeId [dataBinding] 0 "data")) = true := by decide +kernel
    obtain ⟨snapshot, hsnapshot, hfacts⟩ := (Option.any_eq_true _ _).mp hends
    simp only [Bool.and_eq_true, decide_eq_true_eq] at hfacts
    obtain ⟨rootId, hroot, rfl⟩ := Option.map_eq_some_iff.mp hedge
    exact ⟨rfl, 1, le_rfl, snapshot, hsnapshot, .inr ⟨hfacts.1, hfacts.2.trans hroot⟩⟩
  · intro other hother hopen
    obtain rfl := List.mem_singleton.mp hother
    exact absurd rfl hopen.distinct

/-- The edge of the loan is in the graph and shown at the step. -/
def edgeKept (bindings : List OwnershipBinding) (graph : MemoryGraph) (k : Nat) (loan : OwnershipLoan) :
    Bool :=
  (borrowEdge bindings loan).any fun edge => decide (edge ∈ graph.edges)
    && topologyEdgeActiveAtStep (edge.toWire noRange) (graph.toModel noRange) k

/-- The edge of the loan is in the graph and shown before the step. -/
def edgeKeptBefore (bindings : List OwnershipBinding) (graph : MemoryGraph) (k : Nat)
    (loan : OwnershipLoan) : Bool :=
  (borrowEdge bindings loan).any fun edge => decide (edge ∈ graph.edges)
    && activeBefore (edge.toWire noRange) (graph.toModel noRange) k

section Kept

variable {bindings : List OwnershipBinding} {loans : List OwnershipLoan} {graph : MemoryGraph}
  {k : Nat} {loan : OwnershipLoan}

theorem EndsOnly.edgeKept_eq_false
    (h : EndsOnly bindings loans graph noRange k loan) : edgeKept bindings graph k loan = false := by
  rw [← Bool.not_eq_true, edgeKept, Option.any_eq_true]
  rintro ⟨edge, hedge, hkept⟩
  rw [Bool.and_eq_true, decide_eq_true_eq] at hkept
  rw [h.ended edge hedge hkept.1] at hkept
  cases hkept.2

theorem EndsOnly.edgeKept_other {other : OwnershipLoan}
    (h : EndsOnly bindings loans graph noRange k loan) (hother : other ∈ loans)
    (hopen : OtherLoan graph k loan other) (hbefore : edgeKeptBefore bindings graph k other = true) :
    edgeKept bindings graph k other = true := by
  rw [edgeKeptBefore, Option.any_eq_true] at hbefore
  rw [edgeKept, Option.any_eq_true]
  obtain ⟨edge, hedge, hkept⟩ := hbefore
  rw [Bool.and_eq_true, decide_eq_true_eq] at hkept
  refine ⟨edge, hedge, ?_⟩
  rw [Bool.and_eq_true, decide_eq_true_eq, h.others other hother hopen edge hedge hkept.1]
  exact hkept

end Kept

/-- Which loan a snapshot is about. -/
def loanFacts (snapshot : OwnershipSnapshot) : SnapshotKind × Nat × Option Nat :=
  (snapshot.kind, snapshot.bodyId, snapshot.loanId)

/-- The step that ends the loan `1` also takes the edge of the loan `2`, which goes on; the step that
ends the mutable loan `0` leaves its edge. -/
theorem loan_ends_wrong_edges :
    buildOwnershipMemoryGraph Char.isAlphanum [] [dataBinding] dataEvents dataLoans
        = some (dataGraph dataLoans dataEvents)
      ∧ (∃ snapshot, (dataGraph dataLoans dataEvents).snapshots[1]? = some snapshot
        ∧ EndsLoan snapshot (dataLoan 1 .shared)
        ∧ ¬ EndsOnly [dataBinding] dataLoans (dataGraph dataLoans dataEvents) noRange 1
          (dataLoan 1 .shared))
      ∧ ∃ snapshot, (dataGraph dataLoans dataEvents).snapshots[2]? = some snapshot
        ∧ EndsLoan snapshot (dataLoan 0 .mutable)
        ∧ ¬ EndsOnly [dataBinding] dataLoans (dataGraph dataLoans dataEvents) noRange 2
          (dataLoan 0 .mutable) := by
  have hsnapshots : (dataGraph dataLoans dataEvents).snapshots.map loanFacts
      = [(.initialization, 0, none), (.borrowEnd, 0, some 1), (.borrowEnd, 0, some 0)] := by
    decide +kernel
  have hget : ∀ (i : Nat) facts, ((dataGraph dataLoans dataEvents).snapshots.map loanFacts)[i]? = some facts →
      ∃ snapshot, (dataGraph dataLoans dataEvents).snapshots[i]? = some snapshot
        ∧ loanFacts snapshot = facts := by
    intro i facts h
    rwa [List.getElem?_map, Option.map_eq_some_iff] at h
  have hedges : (edgeKeptBefore [dataBinding] (dataGraph dataLoans dataEvents) 1 (dataLoan 2 .shared)
      && !edgeKept [dataBinding] (dataGraph dataLoans dataEvents) 1 (dataLoan 2 .shared)
      && edgeKept [dataBinding] (dataGraph dataLoans dataEvents) 2 (dataLoan 0 .mutable)) = true := by
    decide +kernel
  rw [Bool.and_eq_true, Bool.and_eq_true, Bool.not_eq_true'] at hedges
  obtain ⟨⟨hbefore, hlost⟩, hkept⟩ := hedges
  refine ⟨dataGraph_built _ _, ?_, ?_⟩
  · obtain ⟨snapshot, hsnapshot, hfacts⟩ := hget 1 (.borrowEnd, 0, some 1) (by rw [hsnapshots]; rfl)
    simp only [loanFacts, Prod.mk.injEq] at hfacts
    refine ⟨snapshot, hsnapshot, ⟨hfacts.1, hfacts.2.1, hfacts.2.2⟩, fun h => ?_⟩
    have hother : OtherLoan (dataGraph dataLoans dataEvents) 1 (dataLoan 1 .shared)
        (dataLoan 2 .shared) := by
      refine ⟨rfl, rfl, by decide, ?_⟩
      rintro i - snapshot hsnapshot ⟨-, -, hloan⟩
      have hmem : loanFacts snapshot ∈ (dataGraph dataLoans dataEvents).snapshots.map loanFacts :=
        List.mem_map_of_mem (List.mem_of_getElem? hsnapshot)
      rw [hsnapshots, loanFacts, hloan] at hmem
      simp [dataLoan] at hmem
    have hshown := h.edgeKept_other (by decide) hother hbefore
    rw [hlost] at hshown
    cases hshown
  · obtain ⟨snapshot, hsnapshot, hfacts⟩ := hget 2 (.borrowEnd, 0, some 0) (by rw [hsnapshots]; rfl)
    simp only [loanFacts, Prod.mk.injEq] at hfacts
    refine ⟨snapshot, hsnapshot, ⟨hfacts.1, hfacts.2.1, hfacts.2.2⟩, fun h => ?_⟩
    rw [h.edgeKept_eq_false] at hkept
    cases hkept

end RustWorkbench.Compiler
