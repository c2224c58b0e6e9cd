import RustWorkbench.Compiler.GraphFinish
import RustWorkbench.Compiler.GraphRecords

/-!
# Allocation identity

What a step of the builder does to the allocations of the graph.  A move or a clone deletes
whatever the old allocation of its destination leads to before it links the destination to the
allocation of its source, so allocations survive exactly when that deletion does not meet them.

* `allocations_kept` — in every run, a step keeps the allocations that it spares.
-/

namespace RustWorkbench.Compiler

/-! ## Attempts -/

/-- A move or a clone between two places that have an allocation, and the graph it finds: the
places of the event have their nodes, and a move its edge. -/
structure Attempt where
  graph : MemoryGraph
  transfer : Transfer

/-- The attempt of an event, which is a move or a clone. -/
def eventAttempt (bindings : List OwnershipBinding) (graph : MemoryGraph) (event : OwnershipEvent) :
    Option Attempt := do
  let (nodeId, graph) ←
    ensurePlaceNode bindings graph event.bodyId event.place (some event.span) .exact
  let (target, graph) ← destinationNode bindings graph event
  match event.kind with
  | .move =>
    let graph := graph.pushEdge (movedToEdge event nodeId target)
    (findTransfer graph nodeId target).map (Attempt.mk graph)
  | .clone => (findTransfer graph nodeId target).map (Attempt.mk graph)
  | _ => none

/-- The attempt of a step. -/
def attempt (bindings : List OwnershipBinding) (graph : MemoryGraph) : BuildStep → Option Attempt
  | .derivedClone destination sourceName =>
    (derivedTransfer bindings graph destination sourceName).map fun found => ⟨graph, found.2⟩
  | .event event => eventAttempt bindings graph event
  | .binding _ | .loan _ => none

/-- Whether a step gives its destination the allocation of its source: a clone event of a place
that owns its allocation alone does not. -/
def relinks (transfer : Transfer) : BuildStep → Bool
  | .event event => event.kind = .move || transfer.source.relation.isShared
  | _ => true

/-! ## The property -/

/-- An edge of the graph links a handle to an allocation. -/
def MemoryGraph.Links (graph : MemoryGraph) (handle allocation : String)
    (relation : GraphEdgeRelation) : Prop :=
  ∃ edge ∈ graph.edges,
    edge.source = handle ∧ edge.target = allocation ∧ edge.relation = relation

/-- After an attempt, the allocation of the source and the handle of the destination are in the
graph if they were, and linked as the source was. -/
structure FollowsSource (made : Attempt) (after : MemoryGraph) : Prop where
  allocation : made.transfer.source.allocation ∈ made.graph.nodeIds →
    made.transfer.source.allocation ∈ after.nodeIds
  handle : made.transfer.destination.handle ∈ made.graph.nodeIds →
    made.transfer.destination.handle ∈ after.nodeIds
  linked : after.Links made.transfer.destination.handle made.transfer.source.allocation
    made.transfer.source.relation

/-- The allocations of the graph that the handle of a binding other than the destination of the
step is linked to. -/
def HeldByOther (bindings : List OwnershipBinding) (graph : MemoryGraph) (step : BuildStep)
    (allocation : String) : Prop :=
  ∃ other ∈ bindings,
    (∀ made ∈ attempt bindings graph step,
      bindingNodeId other bindings ≠ made.transfer.destinationRoot)
    ∧ (∃ link ∈ allocationLinkForRoot graph (bindingNodeId other bindings),
      link.allocation = allocation)
    ∧ allocation ∈ graph.nodeIds

/-- A step keeps the allocations: a move or a clone takes that of its source along, and none that
another binding holds is deleted. -/
structure KeepsAllocations (bindings : List OwnershipBinding) (graph : MemoryGraph)
    (step : BuildStep) : Prop where
  follows : ∀ made ∈ attempt bindings graph step,
    FollowsSource made (buildStep bindings graph step)
  held : ∀ allocation, HeldByOther bindings graph step allocation →
    allocation ∈ (buildStep bindings graph step).nodeIds

/-- The old allocation of the destination, which an attempt deletes, does not lead to the node. -/
def Spares (made : Attempt) (node : String) : Prop :=
  ¬ made.graph.Reaches made.transfer.destination.allocation node

/-- The edge that an attempt adds. -/
structure LinksTransfer (edge : MemoryEdge) (transfer : Transfer) : Prop where
  source : edge.source = transfer.destination.handle
  target : edge.target = transfer.source.allocation
  relation : edge.relation = transfer.source.relation

/-- What a step does to the nodes and edges of the graph its attempt finds. -/
structure Outcome (made : Attempt) (step : BuildStep) (after : MemoryGraph) : Prop where
  relinked : relinks made.transfer step → ∃ edge, LinksTransfer edge made.transfer
    ∧ after.nodes = (relink made.graph made.transfer edge).nodes
    ∧ after.edges = (relink made.graph made.transfer edge).edges
  unchanged : relinks made.transfer step = false →
    after.nodes = made.graph.nodes ∧ after.edges = made.graph.edges

variable {made : Attempt} {bindings : List OwnershipBinding} {graph : MemoryGraph}
  {event : OwnershipEvent}

theorem addDerivedClone_outcome {destination : OwnershipBinding} {sourceName : Option String}
    (h : attempt bindings graph (.derivedClone destination sourceName) = some made) :
    Extends graph made.graph ∧ Outcome made (.derivedClone destination sourceName)
      (addDerivedClone bindings graph destination sourceName) := by
  unfold attempt at h
  obtain ⟨⟨source, transfer⟩, hfound, rfl⟩ := Option.map_eq_some_iff.mp h
  unfold addDerivedClone
  rw [hfound]
  exact ⟨.refl graph, fun _ => ⟨derivedEdge source destination transfer, ⟨rfl, rfl, rfl⟩, rfl, rfl⟩,
    fun hrelinks => nomatch hrelinks⟩

theorem addEvent_outcome (h : eventAttempt bindings graph event = some made) :
    Extends graph made.graph ∧ Outcome made (.event event) (addEvent bindings graph event) := by
  unfold eventAttempt at h
  obtain ⟨⟨nodeId, placed⟩, hplace, h⟩ := Option.bind_eq_some_iff.mp h
  obtain ⟨⟨target, aimed⟩, htarget, h⟩ := Option.bind_eq_some_iff.mp h
  have hgrows := (ensurePlaceNode_extends hplace).trans (destinationNode_extends htarget)
  unfold addEvent
  rw [hplace]
  dsimp only at h htarget ⊢
  cases hkind : event.kind with
  | move =>
    rw [hkind] at h
    obtain ⟨transfer, hfound, rfl⟩ := Option.map_eq_some_iff.mp h
    refine ⟨hgrows.trans (.pushEdge _ _), fun _ => ?_, fun hrelinks => ?_⟩
    · refine ⟨eventEdge event transfer, ⟨rfl, rfl, rfl⟩, ?_⟩
      simp [applyMove, applyClone, hkind, htarget, hfound, MemoryGraph.pushSnapshot]
    · simp [relinks, hkind] at hrelinks
  | clone =>
    rw [hkind] at h
    obtain ⟨transfer, hfound, rfl⟩ := Option.map_eq_some_iff.mp h
    refine ⟨hgrows, fun hrelinks => ?_, fun hrelinks => ?_⟩
    · refine ⟨eventEdge event transfer, ⟨rfl, rfl, rfl⟩, ?_⟩
      have hshared : transfer.source.relation.isShared := by simpa [relinks, hkind] using hrelinks
      simp [applyMove, applyClone, hkind, htarget, hfound, hshared, MemoryGraph.pushSnapshot]
    · have hshared : transfer.source.relation.isShared = false := by
        simpa [relinks, hkind] using hrelinks
      simp [applyMove, applyClone, hkind, htarget, hfound, hshared, MemoryGraph.pushSnapshot]
  | _ => rw [hkind] at h; cases h

/-- An event without an attempt only adds to the graph in which its place has a node. -/
theorem addEvent_extends_placed {graph placed : MemoryGraph} {nodeId : String}
    (h : eventAttempt bindings graph event = none)
    (hplace : ensurePlaceNode bindings graph event.bodyId event.place (some event.span) .exact
      = some (nodeId, placed)) : Extends placed (addEvent bindings graph event) := by
  unfold eventAttempt at h
  unfold addEvent
  rw [hplace]
  simp only [hplace, Option.bind_eq_bind, Option.bind_some] at h
  suffices hsuffices : Extends placed (applyClone bindings (applyMove bindings placed event nodeId).1
      event nodeId) from ⟨hsuffices.nodes, hsuffices.edges⟩
  cases htarget : destinationNode bindings placed event with
  | none =>
    have hmove : (applyMove bindings placed event nodeId).1 = placed := by
      simp [applyMove, htarget]
    have hclone : applyClone bindings placed event nodeId = placed := by
      simp [applyClone, htarget]
    rw [hmove, hclone]
    exact .refl placed
  | some aimed =>
    obtain ⟨target, aimed⟩ := aimed
    have haimed := destinationNode_extends htarget
    simp only [htarget, Option.bind_some] at h
    cases hkind : event.kind with
    | move =>
      simp only [hkind, Option.map_eq_none_iff] at h
      simpa [applyMove, applyClone, hkind, htarget, h] using haimed.trans (.pushEdge _ _)
    | partialMove =>
      simpa [applyMove, applyClone, hkind, htarget] using haimed.trans (.pushEdge _ _)
    | clone =>
      simp only [hkind, Option.map_eq_none_iff] at h
      simpa [applyMove, applyClone, hkind, htarget, h] using haimed
    | _ => simpa [applyMove, applyClone, hkind] using Extends.refl placed

theorem addEvent_extends (h : eventAttempt bindings graph event = none) :
    Extends graph (addEvent bindings graph event) := by
  cases hplace : ensurePlaceNode bindings graph event.bodyId event.place (some event.span) .exact with
  | none =>
    unfold addEvent
    rw [hplace]
    exact .refl graph
  | some placed => exact (ensurePlaceNode_extends hplace).trans (addEvent_extends_placed h hplace)

/-- **A step that makes no attempt deletes nothing, and one that makes one has its outcome.** -/
theorem buildStep_cases (bindings : List OwnershipBinding) (graph : MemoryGraph) (step : BuildStep) :
    (attempt bindings graph step = none ∧ Extends graph (buildStep bindings graph step))
      ∨ ∃ made, attempt bindings graph step = some made ∧ Extends graph made.graph
        ∧ Outcome made step (buildStep bindings graph step) := by
  cases hmade : attempt bindings graph step with
  | some made =>
    refine .inr ⟨made, rfl, ?_⟩
    cases step with
    | binding binding => exact nomatch hmade
    | derivedClone destination sourceName => exact addDerivedClone_outcome hmade
    | loan loan => exact nomatch hmade
    | event event => exact addEvent_outcome hmade
  | none =>
    refine .inl ⟨rfl, ?_⟩
    cases step with
    | binding binding => exact addBinding_extends bindings graph binding
    | derivedClone destination sourceName =>
      simp only [attempt, Option.map_eq_none_iff] at hmade
      simp only [buildStep, addDerivedClone, hmade]
      exact .refl graph
    | loan loan => exact addLoan_extends bindings graph loan
    | event event => exact addEvent_extends hmade

/-- What a step keeps of the graph its attempt finds. -/
theorem Outcome.mem_nodeIds {step : BuildStep} {after : MemoryGraph} (h : Outcome made step after)
    {id : String} (hid : id ∈ made.graph.nodeIds)
    (hspared : relinks made.transfer step → Spares made id) : id ∈ after.nodeIds := by
  cases hrelinks : relinks made.transfer step with
  | true =>
    obtain ⟨edge, -, hnodes, -⟩ := h.relinked hrelinks
    have hkept : id ∈ (relink made.graph made.transfer edge).nodeIds :=
      mem_nodeIds_removeDuplicateAllocation.mpr ⟨hid, hspared hrelinks⟩
    rwa [MemoryGraph.nodeIds, ← hnodes] at hkept
  | false => rwa [MemoryGraph.nodeIds, (h.unchanged hrelinks).1]

/-- The new edge of a step that relinks. -/
theorem Outcome.links {step : BuildStep} {after : MemoryGraph} (h : Outcome made step after)
    (hrelinks : relinks made.transfer step) :
    after.Links made.transfer.destination.handle made.transfer.source.allocation
      made.transfer.source.relation := by
  obtain ⟨edge, hedge, -, hedges⟩ := h.relinked hrelinks
  refine ⟨edge, ?_, hedge.source, hedge.target, hedge.relation⟩
  rw [hedges]
  exact List.mem_append_right _ List.mem_cons_self

/-! ## Runs -/

/-- What a step does to the allocations of the graph it finds. -/
structure TreatsAllocations (bindings : List OwnershipBinding) (graph after : MemoryGraph)
    (step : BuildStep) : Prop where
  follows : ∀ made ∈ attempt bindings graph step, relinks made.transfer step →
    Spares made made.transfer.source.allocation → Spares made made.transfer.destination.handle →
    FollowsSource made after
  copies : ∀ made ∈ attempt bindings graph step, relinks made.transfer step = false →
    after.nodes = made.graph.nodes ∧ after.edges = made.graph.edges
  held : ∀ allocation, HeldByOther bindings graph step allocation →
    (∀ made ∈ attempt bindings graph step, relinks made.transfer step → Spares made allocation) →
    allocation ∈ after.nodeIds

theorem buildStep_treatsAllocations (bindings : List OwnershipBinding) (graph : MemoryGraph)
    (step : BuildStep) : TreatsAllocations bindings graph (buildStep bindings graph step) step := by
  rcases buildStep_cases bindings graph step with ⟨hnone, hextends⟩ | ⟨made, hmade, hfound, houtcome⟩
  · refine ⟨fun made h => ?_, fun made h => ?_, fun allocation hheld _ => ?_⟩
    · rw [hnone] at h
      exact nomatch h
    · rw [hnone] at h
      exact nomatch h
    · obtain ⟨other, -, -, -, hmem⟩ := hheld
      exact hextends.mem_nodeIds hmem
  · refine ⟨fun made' h hrelinks hallocation hhandle => ?_, fun made' h hrelinks => ?_,
      fun allocation hheld hspared => ?_⟩
    · obtain rfl : made = made' := Option.some.inj (hmade.symm.trans h)
      exact ⟨fun hmem => houtcome.mem_nodeIds hmem fun _ => hallocation,
        fun hmem => houtcome.mem_nodeIds hmem fun _ => hhandle, houtcome.links hrelinks⟩
    · obtain rfl : made = made' := Option.some.inj (hmade.symm.trans h)
      exact houtcome.unchanged hrelinks
    · obtain ⟨other, -, -, -, hmem⟩ := hheld
      exact houtcome.mem_nodeIds (hfound.mem_nodeIds hmem) (hspared made hmade)

/-- **In every run of the builder, a step treats the allocations so, and below the cap the finished
graph has the nodes that the last step leaves.** -/
theorem allocations_kept (isAlphanumeric : Char → Bool) (sources : Assoc.Map Path RepairSource)
    (bindings : List OwnershipBinding) (events : List OwnershipEvent) (loans : List OwnershipLoan)
    (steps : List BuildStep)
    (hsteps : buildSteps isAlphanumeric sources bindings events loans = some steps) :
    (∀ done step rest, steps = done ++ step :: rest →
      TreatsAllocations bindings (graphAfter bindings done) (graphAfter bindings (done ++ [step]))
        step)
    ∧ ∀ graph, buildOwnershipMemoryGraph isAlphanumeric sources bindings events loans = some graph →
      (graphAfter bindings steps).nodeIds.dedup.length ≤ maxGraphNodes →
      ∀ id, id ∈ graph.nodeIds ↔ id ∈ (graphAfter bindings steps).nodeIds := by
  constructor
  · intro done step rest _
    rw [graphAfter_snoc]
    exact buildStep_treatsAllocations bindings _ step
  · intro graph hgraph hcap id
    rw [buildOwnershipMemoryGraph, hsteps] at hgraph
    obtain rfl := Option.some.inj hgraph
    exact mem_finish_nodeIds hcap

/-! ## Programs -/

/-- A local that holds a smart pointer. -/
def pointerBinding (typeName : String) (handle allocation : MemoryKind) (name : String)
    (byteStart : Nat) : OwnershipBinding where
  bodyId := 0
  binding := ⟨["a.rs"], byteStart, name⟩
  typeName := typeName
  memoryLayers := [⟨.stackBinding, .stack, name, typeName, none, none, "derived"⟩,
    ⟨handle, .inline, "handle", typeName, none, none, "derived"⟩,
    ⟨allocation, .heap, "heap", "i32", none, none, "derived"⟩]

def sourceMap (text : String) : Assoc.Map Path RepairSource :=
  [(["a.rs"], ⟨["a.rs"], "", some text.toList⟩)]

/-- An event that takes the value of `a` to `b`. -/
def toEvent (eventId : String) (kind : OwnershipEventKind) : OwnershipEvent where
  eventId := eventId
  bodyId := 0
  basicBlock := 0
  statementIndex := 0
  kind := kind
  state := .moved
  path := ["a.rs"]
  byteStart := 51
  byteEnd := 52
  place := "a"
  loanId := none
  destination := some ⟨some "b", none⟩

def rcBinding : String → Nat → OwnershipBinding := pointerBinding "Rc<i32>" .rcHandle .rcAllocation

def rcBindings : List OwnershipBinding := [rcBinding "a" 4, rcBinding "b" 28]

def rcSources : Assoc.Map Path RepairSource :=
  sourceMap "let a = Rc::new(5);\nlet mut b = Rc::clone(&a);\nb = a;"

def boxBinding : String → Nat → OwnershipBinding :=
  pointerBinding "Box<i32>" .boxHandle .boxAllocation

def boxBindings : List OwnershipBinding := [boxBinding "a" 4, boxBinding "b" 24]

def boxStart : List BuildStep :=
  [.binding (boxBinding "a" 4), .binding (boxBinding "b" 24),
    .derivedClone (boxBinding "a" 4) none, .derivedClone (boxBinding "b" 24) none]

theorem spares_of_notMem_closure {node : String}
    (h : node ∉ EdgeList.closure MemoryEdge.source MemoryEdge.target made.graph.edges
      made.transfer.destination.allocation) : Spares made node :=
  fun hreach => h (EdgeList.mem_closure_iff.mpr hreach)

/-- The steps before the clone in `rcSources` is read. -/
def rcStart : List BuildStep :=
  [.binding (rcBinding "a" 4), .binding (rcBinding "b" 28), .derivedClone (rcBinding "a" 4) none]

def rcClone : BuildStep := .derivedClone (rcBinding "b" 28) (some "a")

/-- The clone finds two allocations, and the one it deletes does not lead to the other. -/
theorem rcClone_links_source :
    buildSteps Char.isAlphanum rcSources rcBindings [] [] = some (rcStart ++ [rcClone])
      ∧ ∃ made ∈ attempt rcBindings (graphAfter rcBindings rcStart) rcClone,
        FollowsSource made (graphAfter rcBindings (rcStart ++ [rcClone])) := by
  have hsteps : buildSteps Char.isAlphanum rcSources rcBindings [] []
      = some (rcStart ++ [rcClone]) := by decide +kernel
  refine ⟨hsteps, ?_⟩
  have heval : ((attempt rcBindings (graphAfter rcBindings rcStart) rcClone).any fun made =>
      let deleted := EdgeList.closure MemoryEdge.source MemoryEdge.target made.graph.edges
        made.transfer.destination.allocation
      made.transfer.source.allocation ∉ deleted && made.transfer.destination.handle ∉ deleted)
      = true := by decide +kernel
  obtain ⟨made, hmade, hspared⟩ := (Option.any_eq_true _ _).mp heval
  simp only [Bool.and_eq_true, decide_eq_true_eq] at hspared
  have htreats := (allocations_kept Char.isAlphanum rcSources rcBindings [] [] _ hsteps).1
    rcStart rcClone [] rfl
  exact ⟨made, hmade, htreats.follows made hmade rfl (spares_of_notMem_closure hspared.1)
    (spares_of_notMem_closure hspared.2)⟩

/-- Moving `a` back to `b`, which shares its allocation by then, deletes that allocation; and a
cloned box is not linked to the allocation of the original. -/
theorem allocations_not_kept :
    (∃ steps ∈ buildSteps Char.isAlphanum rcSources rcBindings [toEvent "m" .move] [],
      ∃ done step rest, steps = done ++ step :: rest
        ∧ ¬ KeepsAllocations rcBindings (graphAfter rcBindings done) step)
    ∧ ∃ steps ∈ buildSteps Char.isAlphanum [] boxBindings [toEvent "c" .clone] [],
      ∃ done step rest, steps = done ++ step :: rest
        ∧ ¬ KeepsAllocations boxBindings (graphAfter boxBindings done) step := by
  constructor
  · refine ⟨rcStart ++ [rcClone, .event (toEvent "m" .move)], by decide +kernel,
      rcStart ++ [rcClone], .event (toEvent "m" .move), [], rfl, fun hkeeps => ?_⟩
    have heval : ((attempt rcBindings (graphAfter rcBindings (rcStart ++ [rcClone]))
        (.event (toEvent "m" .move))).any fun made =>
        made.transfer.source.allocation ∈ made.graph.nodeIds
          && made.transfer.source.allocation ∉ (buildStep rcBindings
            (graphAfter rcBindings (rcStart ++ [rcClone])) (.event (toEvent "m" .move))).nodeIds)
        = true := by decide +kernel
    obtain ⟨made, hmade, hdeleted⟩ := (Option.any_eq_true _ _).mp heval
    simp only [Bool.and_eq_true, decide_eq_true_eq] at hdeleted
    exact hdeleted.2 ((hkeeps.follows made hmade).allocation hdeleted.1)
  · refine ⟨boxStart ++ [.event (toEvent "c" .clone)], by decide +kernel,
      boxStart, .event (toEvent "c" .clone), [], rfl, fun hkeeps => ?_⟩
    have heval : ((attempt boxBindings (graphAfter boxBindings boxStart)
        (.event (toEvent "c" .clone))).any fun made =>
        (buildStep boxBindings (graphAfter boxBindings boxStart)
          (.event (toEvent "c" .clone))).edges.all fun edge =>
          edge.source ≠ made.transfer.destination.handle
            || edge.target ≠ made.transfer.source.allocation) = true := by decide +kernel
    obtain ⟨made, hmade, hunlinked⟩ := (Option.any_eq_true _ _).mp heval
    obtain ⟨edge, hedge, hsource, htarget, -⟩ := (hkeeps.follows made hmade).linked
    have hne := List.all_eq_true.mp hunlinked edge hedge
    simp [hsource, htarget] at hne

end RustWorkbench.Compiler
