import RustWorkbench.Library.Assoc
import RustWorkbench.Library.Timeline
import RustWorkbench.Wire.Model

/-!
# Replaying the memory graph in the panel

The panel lets the user step through the snapshots of the memory graph.  At step `k` it shows
the states of the nodes, `topology_state_at_step`, and marks the edges that exist,
`topology_edge_active_at_step`; both read the first `k + 1` snapshots.

* `edge_active_iff_in_order` — the scan for removals has no order, so it agrees with the replay
  exactly when no removal before the creation of the edge counts against it.
-/

namespace RustWorkbench.Panel

open Timeline

/-! ## The two functions -/

def insertDeltas (states : Assoc.Map String String) (snapshot : OwnershipMemorySnapshot) :
    Assoc.Map String String :=
  snapshot.deltas.foldl (fun states delta => states.insert delta.nodeId delta.toState) states

def topologyStateAtStep (model : OwnershipModel) (selectedStep : Nat) : Assoc.Map String String :=
  let states := model.memoryGraph.nodes.foldl
    (fun (states : Assoc.Map String String) node => states.insert node.id node.state) []
  (model.memoryGraph.snapshots.take (selectedStep + 1)).foldl insertDeltas states

/-- The snapshot belongs to the event that made the edge. -/
def createdBy (edge : OwnershipMemoryEdge) (snapshot : OwnershipMemorySnapshot) : Bool :=
  edge.eventId == some snapshot.eventId

/-- A delta of the snapshot removes the relation of the edge at one of its ends. -/
def removedBy (edge : OwnershipMemoryEdge) (snapshot : OwnershipMemorySnapshot) : Bool :=
  snapshot.deltas.any fun delta =>
    delta.relationRemoved == some edge.relation
      && (delta.nodeId == edge.source || delta.nodeId == edge.target)

def topologyEdgeActiveAtStep (edge : OwnershipMemoryEdge) (model : OwnershipModel)
    (selectedStep : Nat) : Bool :=
  let snapshots := model.memoryGraph.snapshots.take (selectedStep + 1)
  let created := edge.eventId.isNone || snapshots.any (createdBy edge)
  let removed := snapshots.any (removedBy edge)
  created && !removed

/-! ## Edges in a replay -/

section Edges

variable (edge : OwnershipMemoryEdge) (snapshots : List OwnershipMemorySnapshot)

/-- The first snapshot of the event that made the edge. -/
def CreatedAt (i : Nat) : Prop := FirstAt (fun snapshot => createdBy edge snapshot = true) snapshots i

def RemovedAt (i : Nat) : Prop :=
  ∃ snapshot, snapshots[i]? = some snapshot ∧ removedBy edge snapshot = true

/-- The edge is there before the snapshot at `i`: it was created, or needs no event. -/
def ExistsBefore (i : Nat) : Prop := edge.eventId = none ∨ ∃ c < i, CreatedAt edge snapshots c

/-- The edge exists at step `k` of a replay in order: it is there, and nothing that happened
since has removed it. -/
structure ActiveInOrder (k : Nat) : Prop where
  created : edge.eventId = none ∨
    OccursBy (fun snapshot => createdBy edge snapshot = true) snapshots k
  kept : ∀ i ≤ k, ExistsBefore edge snapshots i → ¬ RemovedAt edge snapshots i

/-- Whatever removes the relation of the edge up to its creation is followed by a removal of the
edge itself.  In particular nothing is asked of an edge that no earlier snapshot removes. -/
def EarlierRemovalsRepeated (k : Nat) : Prop :=
  ∀ c ≤ k, CreatedAt edge snapshots c → (∃ i ≤ c, RemovedAt edge snapshots i) →
    ∃ i, c < i ∧ i ≤ k ∧ RemovedAt edge snapshots i

end Edges

variable {edge : OwnershipMemoryEdge} {model : OwnershipModel} {k : Nat}

/-- What the two scans find. -/
theorem topologyEdgeActiveAtStep_eq_true_iff :
    topologyEdgeActiveAtStep edge model k = true ↔
      (edge.eventId = none ∨ OccursBy (fun snapshot => createdBy edge snapshot = true)
        model.memoryGraph.snapshots k)
      ∧ ∀ i ≤ k, ¬ RemovedAt edge model.memoryGraph.snapshots i := by
  have hremoved : (model.memoryGraph.snapshots.take (k + 1)).any (removedBy edge) = false
      ↔ ∀ i ≤ k, ¬ RemovedAt edge model.memoryGraph.snapshots i := by
    rw [← Bool.not_eq_true, any_take_iff]
    constructor
    · intro h i hik hi
      exact h ⟨i, hik, hi⟩
    · rintro h ⟨i, hik, hi⟩
      exact h i hik hi
  simp only [topologyEdgeActiveAtStep, Bool.and_eq_true, Bool.or_eq_true, Option.isNone_iff_eq_none,
    any_take_iff, Bool.not_eq_true', hremoved]

/-- An edge that the scan shows is there in order too. -/
theorem ActiveInOrder.of_active (h : topologyEdgeActiveAtStep edge model k = true) :
    ActiveInOrder edge model.memoryGraph.snapshots k := by
  obtain ⟨hcreated, hremoved⟩ := topologyEdgeActiveAtStep_eq_true_iff.mp h
  exact ⟨hcreated, fun i hik _ => hremoved i hik⟩

/-- A removal of an edge that is there in order lies before its creation. -/
theorem ActiveInOrder.removed_early (h : ActiveInOrder edge model.memoryGraph.snapshots k) {i : Nat}
    (hik : i ≤ k) (hi : RemovedAt edge model.memoryGraph.snapshots i) :
    ∃ c ≤ k, CreatedAt edge model.memoryGraph.snapshots c ∧ i ≤ c := by
  have hnot : ¬ ExistsBefore edge model.memoryGraph.snapshots i := fun hex => h.kept i hik hex hi
  rcases h.created with hnone | hcreated
  · exact absurd (.inl hnone) hnot
  · obtain ⟨c, hck, hc⟩ := hcreated.exists_first
    refine ⟨c, hck, hc, ?_⟩
    by_contra hlt
    exact hnot (.inr ⟨c, by omega, hc⟩)

/-- **The scan agrees with the replay.**  It does exactly where every removal up to the creation
of the edge is followed by one after it: the scan asks only whether the relation was ever removed
at an end of the edge, so an edge made after that is never shown. -/
theorem edge_active_iff_in_order (edge : OwnershipMemoryEdge) (model : OwnershipModel) (k : Nat) :
    (topologyEdgeActiveAtStep edge model k = true ↔ ActiveInOrder edge model.memoryGraph.snapshots k)
      ↔ EarlierRemovalsRepeated edge model.memoryGraph.snapshots k := by
  constructor
  · intro hagree c hck hc hearly
    by_contra hlate
    -- nothing removes the edge once it is there, so the replay shows it
    have hordered : ActiveInOrder edge model.memoryGraph.snapshots k := by
      refine ⟨.inr (hc.occursBy hck), ?_⟩
      rintro i hik (hnone | ⟨c', hc'i, hc'⟩) hi
      · obtain ⟨snapshot, -, hevent⟩ := hc.here
        simp [createdBy, hnone] at hevent
      · obtain rfl := hc.unique hc'
        exact hlate ⟨i, hc'i, hik, hi⟩
    obtain ⟨i, hic, hi⟩ := hearly
    have hkept := (topologyEdgeActiveAtStep_eq_true_iff.mp (hagree.mpr hordered)).2
    exact hkept i (by omega) hi
  · intro hcond
    refine ⟨.of_active, fun hordered => topologyEdgeActiveAtStep_eq_true_iff.mpr ⟨hordered.created, ?_⟩⟩
    intro i hik hi
    obtain ⟨c, hck, hc, hic⟩ := hordered.removed_early hik hi
    obtain ⟨j, hcj, hjk, hj⟩ := hcond c hck hc ⟨i, hic, hi⟩
    exact hordered.kept j hjk (.inr ⟨c, hcj, hc⟩) hj

/-! ## A box that comes back -/

/-- A snapshot of a move: the handle it leaves gives up its allocation. -/
def moveSnapshot (eventId handle : String) : OwnershipMemorySnapshot where
  id := "snapshot-" ++ eventId
  eventId := eventId
  bodyId := 0
  basicBlock := 0
  statementIndex := 0
  kind := "move"
  range := ⟨⟨0, 0⟩, ⟨0, 0⟩⟩
  place := handle
  loanId := none
  pathMarker := none
  deltas := [⟨handle, none, "moved", none, some "owns"⟩]
  provenance := "exact"

/-- `first` is moved into `second` and back. -/
def movedBack : OwnershipModel :=
  { memoryGraph := { snapshots := [moveSnapshot "out" "first", moveSnapshot "back" "second"] } }

/-- What `first` owns after the move back. -/
def ownsAgain : OwnershipMemoryEdge where
  id := "edge"
  source := "first"
  target := "allocation"
  relation := "owns"
  eventId := some "back"
  loanId := none
  range := none
  provenance := "exact"
  pathMarker := none

/-- A box is moved out of a variable and back: at the last step the variable owns it, but the
panel does not show the edge. -/
theorem moved_back_edge_not_active :
    topologyEdgeActiveAtStep ownsAgain movedBack 1 = false
      ∧ ActiveInOrder ownsAgain movedBack.memoryGraph.snapshots 1 := by
  have hcreated : CreatedAt ownsAgain movedBack.memoryGraph.snapshots 1 := by
    refine ⟨⟨moveSnapshot "back" "second", rfl, by decide⟩, ?_⟩
    intro j hj snapshot hget
    obtain rfl : j = 0 := by omega
    obtain rfl : moveSnapshot "out" "first" = snapshot := Option.some.inj hget
    decide
  refine ⟨by decide, .inr (hcreated.occursBy le_rfl), ?_⟩
  rintro i hi (hnone | ⟨c, hci, hc⟩)
  · cases hnone
  · obtain rfl := hcreated.unique hc
    omega

end RustWorkbench.Panel
