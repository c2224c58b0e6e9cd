import RustWorkbench.Compiler.AllocationIdentity
import RustWorkbench.Library.StableRank
import RustWorkbench.Panel.Topology
import RustWorkbench.Wire.Graph

/-!
# Initial states in the order of the snapshots

`build_ownership_memory_graph` puts the initialization of a binding at the entry of its body and
sorts by body, block, statement and id, so whatever else happens at the entry is before or behind it
as the hashes fall.

* `initialized_first_iff` — the initialization comes first just where nothing overtakes it, and the
  replay of the panel then ends in a state that is not the initial one.
-/

namespace RustWorkbench.Compiler

open StableSort

/-! ## The property -/

def OwnershipSnapshot.Touches (snapshot : OwnershipSnapshot) (node : String) : Prop :=
  ∃ delta ∈ snapshot.deltas, delta.nodeId = node

instance (snapshot : OwnershipSnapshot) (node : String) : Decidable (snapshot.Touches node) :=
  inferInstanceAs (Decidable (∃ delta ∈ snapshot.deltas, delta.nodeId = node))

def initialSnapshot (bindings : List OwnershipBinding) (binding : OwnershipBinding) :
    OwnershipSnapshot :=
  initializationSnapshot binding (bindingNodeId binding bindings)

/-- Before every other snapshot of the body that changes the node stands the initialization. -/
def InitializedFirst (bindings : List OwnershipBinding) (binding : OwnershipBinding)
    (snapshots : List OwnershipSnapshot) : Prop :=
  ∀ front other back, snapshots = front ++ other :: back → other.bodyId = binding.bodyId →
    other.Touches (bindingNodeId binding bindings) → other ≠ initialSnapshot bindings binding →
    initialSnapshot bindings binding ∈ front

/-! ## The steps behind the snapshots -/

/-- What the steps of a run record, from a graph on. -/
def recordedRun (bindings : List OwnershipBinding) :
    MemoryGraph → List BuildStep → List OwnershipSnapshot
  | _, [] => []
  | graph, step :: rest =>
    recorded bindings graph step ++ recordedRun bindings (buildStep bindings graph step) rest

section Runs

variable {bindings : List OwnershipBinding} {other : OwnershipSnapshot}

variable (graph : MemoryGraph)

theorem recordedRun_append (done rest : List BuildStep) :
    recordedRun bindings graph (done ++ rest) = recordedRun bindings graph done ++
      recordedRun bindings (done.foldl (buildStep bindings) graph) rest := by
  induction done generalizing graph with
  | nil => rfl
  | cons step done ih => simp only [List.cons_append, recordedRun, ih, List.append_assoc,
      List.foldl_cons]

theorem foldl_snapshots (steps : List BuildStep) :
    (steps.foldl (buildStep bindings) graph).snapshots =
      graph.snapshots ++ recordedRun bindings graph steps := by
  induction steps generalizing graph with
  | nil => exact (List.append_nil _).symm
  | cons step steps ih =>
    rw [List.foldl_cons, ih, buildStep_snapshots, recordedRun, List.append_assoc]

theorem graphAfter_snapshots (steps : List BuildStep) :
    (graphAfter bindings steps).snapshots = recordedRun bindings {} steps :=
  foldl_snapshots {} steps

/-- A step records at most one snapshot. -/
theorem recorded_cases (step : BuildStep) :
    recorded bindings graph step = [] ∨ ∃ other, recorded bindings graph step = [other] := by
  cases step with
  | binding binding => exact .inr ⟨_, rfl⟩
  | derivedClone destination sourceName =>
    rw [recorded]
    split
    · exact .inl rfl
    · exact .inr ⟨_, rfl⟩
  | loan loan => exact .inl rfl
  | event event =>
    rw [recorded]
    split
    · exact .inl rfl
    · exact .inr ⟨_, rfl⟩

/-- **Every snapshot is what one step has recorded.** -/
theorem recordedRun_split {after : List OwnershipSnapshot} :
    ∀ {graph : MemoryGraph} {steps : List BuildStep} {before : List OwnershipSnapshot},
      recordedRun bindings graph steps = before ++ other :: after →
      ∃ done step rest, steps = done ++ step :: rest ∧
        recorded bindings (done.foldl (buildStep bindings) graph) step = [other] ∧
        recordedRun bindings graph done = before ∧
        recordedRun bindings ((done ++ [step]).foldl (buildStep bindings) graph) rest = after
  | graph, [], before, h => by
    cases before <;> cases h
  | graph, step :: steps, before, h => by
    rw [recordedRun] at h
    rcases recorded_cases graph step with hnone | ⟨first, hfirst⟩
    · rw [hnone, List.nil_append] at h
      obtain ⟨done, step', rest, rfl, hstep, hbefore, hafter⟩ := recordedRun_split h
      refine ⟨step :: done, step', rest, rfl, hstep, ?_, hafter⟩
      rw [recordedRun, hnone, List.nil_append, hbefore]
    · rw [hfirst] at h
      cases before with
      | nil =>
        obtain ⟨rfl, hafter⟩ := List.cons.inj h
        exact ⟨[], step, steps, rfl, hfirst, rfl, hafter⟩
      | cons first' before =>
        obtain ⟨rfl, hrest⟩ := List.cons.inj h
        obtain ⟨done, step', rest, rfl, hstep, hbefore, hafter⟩ := recordedRun_split hrest
        refine ⟨step :: done, step', rest, rfl, hstep, ?_, hafter⟩
        rw [recordedRun, hfirst, hbefore]
        rfl

theorem snapshotKind_ne_initialization (kind : OwnershipEventKind) :
    snapshotKind kind ≠ .initialization := by
  cases kind <;> decide

theorem graphAfter_snapshots_split {done rest : List BuildStep} {step : BuildStep}
    (h : recorded bindings (graphAfter bindings done) step = [other]) :
    (graphAfter bindings (done ++ step :: rest)).snapshots = (graphAfter bindings done).snapshots ++
      other :: recordedRun bindings (graphAfter bindings (done ++ [step])) rest := by
  have hrest : recordedRun bindings (graphAfter bindings done) (step :: rest) =
      other :: recordedRun bindings (graphAfter bindings (done ++ [step])) rest := by
    rw [recordedRun, h, graphAfter_snoc]
    rfl
  rw [graphAfter_snapshots, recordedRun_append, ← graphAfter_snapshots, ← hrest]
  rfl

/-- Only bindings are initialized. -/
theorem eq_binding_of_recorded {graph : MemoryGraph} {step : BuildStep}
    (h : other ∈ recorded bindings graph step) (hkind : other.kind = .initialization) :
    ∃ binding, step = .binding binding ∧ other = initialSnapshot bindings binding := by
  cases step with
  | binding binding => exact ⟨binding, rfl, List.mem_singleton.mp h⟩
  | derivedClone destination sourceName =>
    rw [recorded] at h
    split at h
    · cases h
    · obtain rfl := List.mem_singleton.mp h
      cases hkind
  | loan loan => cases h
  | event event =>
    rw [recorded] at h
    split at h
    · cases h
    · obtain rfl := List.mem_singleton.mp h
      exact absurd hkind (snapshotKind_ne_initialization event.kind)

theorem exists_recorded {graph : MemoryGraph} {steps : List BuildStep}
    (h : other ∈ recordedRun bindings graph steps) :
    ∃ graph', ∃ step ∈ steps, other ∈ recorded bindings graph' step := by
  obtain ⟨before, after, hsplit⟩ := List.append_of_mem h
  obtain ⟨done, step, rest, rfl, hstep, -, -⟩ := recordedRun_split hsplit
  exact ⟨_, step, List.mem_append_right _ List.mem_cons_self, hstep ▸ List.mem_singleton_self _⟩

theorem initialSnapshot_mem_iff {binding : OwnershipBinding} {steps : List BuildStep} :
    initialSnapshot bindings binding ∈ (graphAfter bindings steps).snapshots ↔
      ∃ earlier, .binding earlier ∈ steps ∧
        initialSnapshot bindings earlier = initialSnapshot bindings binding := by
  rw [graphAfter_snapshots]
  constructor
  · intro h
    obtain ⟨graph, step, hstep, hrecorded⟩ := exists_recorded h
    obtain ⟨earlier, rfl, heq⟩ := eq_binding_of_recorded hrecorded rfl
    exact ⟨earlier, hstep, heq.symm⟩
  · rintro ⟨earlier, hearlier, heq⟩
    obtain ⟨done, rest, rfl⟩ := List.append_of_mem hearlier
    rw [recordedRun_append, recordedRun, ← heq]
    exact List.mem_append_right _ (List.mem_append_left _ (List.mem_singleton_self _))

end Runs

/-! ## What comes before the initialization -/

/-- The node changes with the event: it is that of the place, or the handle that a move empties. -/
def ChangesNode (bindings : List OwnershipBinding) (graph : MemoryGraph) (event : OwnershipEvent)
    (node : String) : Prop :=
  placeNodeId bindings event.bodyId event.place = some node ∨
    event.kind = .move ∧
      ∃ made ∈ eventAttempt bindings graph event, made.transfer.source.handle = node

/-- The snapshot of the step sorts before the initialization of the binding. -/
inductive Overtakes (bindings : List OwnershipBinding) (binding : OwnershipBinding)
    (done : List BuildStep) : BuildStep → Prop
  | twin {other : OwnershipBinding} : other.bodyId = binding.bodyId →
      bindingNodeId other bindings = bindingNodeId binding bindings →
      initialSnapshot bindings other ≠ initialSnapshot bindings binding →
      (∀ earlier, .binding earlier ∈ done →
        initialSnapshot bindings earlier ≠ initialSnapshot bindings binding) →
      Overtakes bindings binding done (.binding other)
  | clone {destination source : OwnershipBinding} {sourceName : Option String}
      {transfer : Transfer} :
      derivedTransfer bindings (graphAfter bindings done) destination sourceName =
        some (source, transfer) →
      destination.bodyId = binding.bodyId →
      bindingNodeId destination bindings = bindingNodeId binding bindings →
      graphId "snapshot" (derivedCloneId source destination) <
        (initialSnapshot bindings binding).id →
      Overtakes bindings binding done (.derivedClone destination sourceName)
  | event {event : OwnershipEvent} : event.bodyId = binding.bodyId → event.basicBlock = 0 →
      event.statementIndex = 0 →
      ChangesNode bindings (graphAfter bindings done) event (bindingNodeId binding bindings) →
      graphId "snapshot" event.eventId < (initialSnapshot bindings binding).id →
      Overtakes bindings binding done (.event event)

/-- At least as many snapshots as are kept sort before that of the step. -/
def CutOff (bindings : List OwnershipBinding) (done : List BuildStep) (step : BuildStep)
    (rest : List BuildStep) : Prop :=
  ∀ other ∈ recorded bindings (graphAfter bindings done) step,
    maxGraphSnapshots ≤
      (graphAfter bindings done).snapshots.countP (fun b => snapshotKey b ≤ snapshotKey other) +
        (recordedRun bindings (graphAfter bindings (done ++ [step])) rest).countP
          fun b => snapshotKey b < snapshotKey other

section Keys

variable {bindings : List OwnershipBinding} {binding : OwnershipBinding} {other : OwnershipSnapshot}

/-- The initialization is at the entry of the body, so only ids decide there. -/
theorem initialKey_le_iff (hbody : other.bodyId = binding.bodyId) :
    snapshotKey (initialSnapshot bindings binding) ≤ snapshotKey other ↔
      (other.basicBlock = 0 → other.statementIndex = 0 →
        (initialSnapshot bindings binding).id ≤ other.id) := by
  have hentry : (initialSnapshot bindings binding).basicBlock = 0 ∧
      (initialSnapshot bindings binding).statementIndex = 0 := ⟨rfl, rfl⟩
  have hsame : (initialSnapshot bindings binding).bodyId = other.bodyId := hbody.symm
  simp only [snapshotKey, Prod.Lex.toLex_le_toLex, hsame, lt_self_iff_false, false_or, true_and,
    hentry, Nat.pos_iff_ne_zero]
  grind

theorem initialKey_le_derivedSnapshot_iff {source destination : OwnershipBinding}
    {transfer : Transfer} (hbody : destination.bodyId = binding.bodyId) :
    snapshotKey (initialSnapshot bindings binding) ≤
        snapshotKey (derivedSnapshot source destination transfer) ↔
      (initialSnapshot bindings binding).id ≤
        graphId "snapshot" (derivedCloneId source destination) := by
  rw [initialKey_le_iff hbody]
  exact ⟨fun h => h rfl rfl, fun h _ _ => h⟩

theorem initialKey_le_eventSnapshot_iff {event : OwnershipEvent} {nodeId : String}
    {deltas : List StateDelta} (hbody : event.bodyId = binding.bodyId) :
    snapshotKey (initialSnapshot bindings binding) ≤
        snapshotKey (eventSnapshot event nodeId deltas) ↔
      (event.basicBlock = 0 → event.statementIndex = 0 →
        (initialSnapshot bindings binding).id ≤ graphId "snapshot" event.eventId) :=
  initialKey_le_iff hbody

theorem ne_initialSnapshot (h : other.kind ≠ .initialization) :
    other ≠ initialSnapshot bindings binding := by
  rintro rfl
  exact h rfl

theorem touches_initialSnapshot_iff {other : OwnershipBinding} {node : String} :
    (initialSnapshot bindings other).Touches node ↔ bindingNodeId other bindings = node := by
  simp [OwnershipSnapshot.Touches, initialSnapshot, initializationSnapshot]

/-- The initializations of one node in a body have one key. -/
theorem snapshotKey_twin {other : OwnershipBinding} (hbody : other.bodyId = binding.bodyId)
    (hnode : bindingNodeId other bindings = bindingNodeId binding bindings) :
    snapshotKey (initialSnapshot bindings other) =
      snapshotKey (initialSnapshot bindings binding) := by
  simp [snapshotKey, initialSnapshot, initializationSnapshot, hbody, hnode]

end Keys

section Changes

variable {bindings : List OwnershipBinding} {graph : MemoryGraph}

theorem derivedTransfer_destinationRoot {destination source : OwnershipBinding}
    {sourceName : Option String} {transfer : Transfer}
    (h : derivedTransfer bindings graph destination sourceName = some (source, transfer)) :
    transfer.destinationRoot = bindingNodeId destination bindings := by
  obtain ⟨name, -, h⟩ := Option.bind_eq_some_iff.mp h
  obtain ⟨first, -, h⟩ := Option.bind_eq_some_iff.mp h
  obtain ⟨found, hfound, h⟩ := Option.bind_eq_some_iff.mp h
  obtain ⟨link, -, hfound⟩ := Option.bind_eq_some_iff.mp hfound
  obtain ⟨link', -, hfound⟩ := Option.bind_eq_some_iff.mp hfound
  split at h
  · cases hfound
    cases h
    rfl
  · cases h

theorem touches_derivedSnapshot_iff {destination source : OwnershipBinding}
    {sourceName : Option String} {transfer : Transfer} {node : String}
    (h : derivedTransfer bindings graph destination sourceName = some (source, transfer)) :
    (derivedSnapshot source destination transfer).Touches node ↔
      bindingNodeId destination bindings = node := by
  simp [OwnershipSnapshot.Touches, derivedSnapshot, derivedTransfer_destinationRoot h]

/-- The additional changes of an event are those of its move. -/
theorem exists_applyMove_delta_iff {event : OwnershipEvent} {nodeId node : String}
    {placed : MemoryGraph}
    (hplace : ensurePlaceNode bindings graph event.bodyId event.place (some event.span) .exact =
      some (nodeId, placed)) :
    (∃ delta ∈ (applyMove bindings placed event nodeId).2, delta.nodeId = node) ↔
      event.kind = .move ∧
        ∃ made ∈ eventAttempt bindings graph event, made.transfer.source.handle = node := by
  by_cases hmove : event.kind = .move
  · have hattempt : eventAttempt bindings graph event =
        (destinationNode bindings placed event).bind fun found =>
          (findTransfer (found.2.pushEdge (movedToEdge event nodeId found.1)) nodeId found.1).map
            (Attempt.mk (found.2.pushEdge (movedToEdge event nodeId found.1))) := by
      simp [eventAttempt, hplace, hmove]
    rw [hattempt, applyMove, if_pos (.inl hmove)]
    cases hdestination : destinationNode bindings placed event with
    | none => simp
    | some found =>
      obtain ⟨target, graph'⟩ := found
      simp only [Option.bind_some, hmove, if_true, true_and]
      cases findTransfer (graph'.pushEdge (movedToEdge event nodeId target)) nodeId target with
      | none => simp
      | some transfer => simp
  · simp only [hmove, false_and, iff_false, not_exists, not_and]
    intro delta hdelta
    rw [applyMove] at hdelta
    split at hdelta
    · split at hdelta
      · cases hdelta
      · cases hdelta
    · cases hdelta

theorem touches_eventSnapshot_self {event : OwnershipEvent} {nodeId : String}
    {deltas : List StateDelta} : (eventSnapshot event nodeId deltas).Touches nodeId :=
  ⟨_, List.mem_cons_self, rfl⟩

theorem touches_eventSnapshot_iff {event : OwnershipEvent} {nodeId node : String}
    {placed : MemoryGraph}
    (hplace : ensurePlaceNode bindings graph event.bodyId event.place (some event.span) .exact =
      some (nodeId, placed)) :
    (eventSnapshot event nodeId (applyMove bindings placed event nodeId).2).Touches node ↔
      ChangesNode bindings graph event node := by
  rw [ChangesNode, ← exists_applyMove_delta_iff hplace, ensurePlaceNode_id hplace]
  simp [OwnershipSnapshot.Touches, eventSnapshot]

end Changes

/-! ## Runs of the builder -/

section Overtaken

variable {isAlphanumeric : Char → Bool} {sources : Assoc.Map Path RepairSource}
  {bindings : List OwnershipBinding} {events : List OwnershipEvent} {loans : List OwnershipLoan}
  {steps done rest : List BuildStep} {step : BuildStep} {binding : OwnershipBinding}

def BuildStep.isBinding : BuildStep → Bool
  | .binding _ => true
  | _ => false

section BuildSteps

variable (h : buildSteps isAlphanumeric sources bindings events loans = some steps)

include h

/-- Every other step finds the bindings done. -/
theorem binding_mem_done (hsplit : steps = done ++ step :: rest) (hstep : step.isBinding = false)
    (hbinding : binding ∈ bindings) : .binding binding ∈ done := by
  obtain ⟨others, rfl, -⟩ := buildSteps_eq h
  rcases List.append_eq_append_iff.mp hsplit with ⟨more, rfl, -⟩ | ⟨more, hbindings, hmore⟩
  · exact List.mem_append_left _ (List.mem_map_of_mem hbinding)
  · cases more with
    | nil =>
      rw [List.append_nil] at hbindings
      exact hbindings ▸ List.mem_map_of_mem hbinding
    | cons step' more =>
      obtain ⟨rfl, -⟩ := List.cons.inj hmore
      have hmem : step ∈ bindings.map BuildStep.binding := by
        rw [hbindings]
        exact List.mem_append_right _ List.mem_cons_self
      obtain ⟨binding', -, rfl⟩ := List.mem_map.mp hmem
      cases hstep

/-- Behind the bindings only the key decides. -/
theorem mem_front_iff_of_done (hbinding : binding ∈ bindings)
    (hsplit : steps = done ++ step :: rest) (hstep : step.isBinding = false)
    {other : OwnershipSnapshot} {after front back : List OwnershipSnapshot}
    (hranked : Ranked snapshotKey (graphAfter bindings done).snapshots other after front back) :
    initialSnapshot bindings binding ∈ front ↔
      snapshotKey (initialSnapshot bindings binding) ≤ snapshotKey other := by
  have hdone : initialSnapshot bindings binding ∈ (graphAfter bindings done).snapshots :=
    initialSnapshot_mem_iff.mpr ⟨binding, binding_mem_done h hsplit hstep hbinding, rfl⟩
  rw [hranked.mem_front_iff]
  constructor
  · rintro (⟨-, hle⟩ | ⟨-, hlt⟩)
    · exact hle
    · exact hlt.le
  · intro hle
    exact .inl ⟨hdone, hle⟩

/-- **The steps that overtake the initialization** are those that have it not in front of them and
should. -/
theorem overtakes_iff (hbinding : binding ∈ bindings) (hsplit : steps = done ++ step :: rest)
    {other : OwnershipSnapshot} {after front back : List OwnershipSnapshot}
    (hrecorded : recorded bindings (graphAfter bindings done) step = [other])
    (hranked : Ranked snapshotKey (graphAfter bindings done).snapshots other after front back) :
    Overtakes bindings binding done step ↔
      other.bodyId = binding.bodyId ∧ other.Touches (bindingNodeId binding bindings) ∧
        other ≠ initialSnapshot bindings binding ∧ initialSnapshot bindings binding ∉ front := by
  cases step with
  | binding other' =>
    obtain rfl : initialSnapshot bindings other' = other := List.singleton_inj.mp hrecorded
    have hfront : (initialSnapshot bindings other').bodyId = binding.bodyId →
        bindingNodeId other' bindings = bindingNodeId binding bindings →
        (initialSnapshot bindings binding ∈ front ↔ ∃ earlier, .binding earlier ∈ done ∧
          initialSnapshot bindings earlier = initialSnapshot bindings binding) := by
      intro hbody hnode
      rw [hranked.mem_front_iff, snapshotKey_twin hbody hnode, initialSnapshot_mem_iff]
      simp
    rw [touches_initialSnapshot_iff]
    constructor
    · intro hovertakes
      cases hovertakes with
      | twin hbody hnode hne hearlier =>
        refine ⟨hbody, hnode, hne, fun hmem => ?_⟩
        obtain ⟨earlier, hdone, heq⟩ := (hfront hbody hnode).mp hmem
        exact hearlier earlier hdone heq
    · rintro ⟨hbody, hnode, hne, hmem⟩
      refine .twin hbody hnode hne fun earlier hdone heq => hmem ?_
      exact (hfront hbody hnode).mpr ⟨earlier, hdone, heq⟩
  | derivedClone destination sourceName =>
    rw [mem_front_iff_of_done h hbinding hsplit rfl hranked]
    rw [recorded] at hrecorded
    split at hrecorded
    · cases hrecorded
    · case h_2 source transfer htransfer =>
      obtain rfl := List.singleton_inj.mp hrecorded
      rw [touches_derivedSnapshot_iff htransfer]
      have hne : derivedSnapshot source destination transfer ≠ initialSnapshot bindings binding :=
        ne_initialSnapshot fun hkind => SnapshotKind.noConfusion hkind
      constructor
      · intro hovertakes
        cases hovertakes with
        | clone htransfer' hbody hnode hlt =>
          cases htransfer.symm.trans htransfer'
          rw [initialKey_le_derivedSnapshot_iff hbody, not_le]
          exact ⟨hbody, hnode, hne, hlt⟩
      · rintro ⟨hbody, hnode, -, hlt⟩
        rw [initialKey_le_derivedSnapshot_iff hbody, not_le] at hlt
        exact .clone htransfer hbody hnode hlt
  | loan loan => cases hrecorded
  | event event =>
    rw [mem_front_iff_of_done h hbinding hsplit rfl hranked]
    rw [recorded] at hrecorded
    split at hrecorded
    · cases hrecorded
    · case h_2 nodeId placed hplace =>
      obtain rfl := List.singleton_inj.mp hrecorded
      rw [touches_eventSnapshot_iff hplace]
      constructor
      · intro hovertakes
        cases hovertakes with
        | event hbody hblock hstatement hnode hlt =>
          rw [initialKey_le_eventSnapshot_iff hbody]
          exact ⟨hbody, hnode, ne_initialSnapshot (snapshotKind_ne_initialization event.kind),
            fun hle => hlt.not_ge (hle hblock hstatement)⟩
      · rintro ⟨hbody, hnode, -, hle⟩
        rw [initialKey_le_eventSnapshot_iff hbody] at hle
        push Not at hle
        obtain ⟨hblock, hstatement, hlt⟩ := hle
        exact .event hbody hblock hstatement hnode hlt

end BuildSteps

end Overtaken

section Order

variable {isAlphanumeric : Char → Bool} {sources : Assoc.Map Path RepairSource}
  {bindings : List OwnershipBinding} {events : List OwnershipEvent} {loans : List OwnershipLoan}
  {steps : List BuildStep} {binding : OwnershipBinding}

theorem finish_snapshots (graph : MemoryGraph) : (finish graph).snapshots =
    (sortByKey snapshotKey graph.snapshots).take maxGraphSnapshots :=
  rfl

/-- **The initialization comes first** just where every step that overtakes it is cut off. -/
theorem initializedFirst_iff
    (h : buildSteps isAlphanumeric sources bindings events loans = some steps)
    (hbinding : binding ∈ bindings) :
    InitializedFirst bindings binding (finish (graphAfter bindings steps)).snapshots ↔
      ∀ done step rest, steps = done ++ step :: rest → Overtakes bindings binding done step →
        CutOff bindings done step rest := by
  rw [finish_snapshots]
  constructor
  · intro hfirst done step rest hsplit hovertakes other hother
    have hrecorded : recorded bindings (graphAfter bindings done) step = [other] := by
      rcases recorded_cases (graphAfter bindings done) step with hnone | ⟨other', hother'⟩
      · rw [hnone] at hother
        cases hother
      · rw [hother'] at hother
        rw [hother', List.mem_singleton.mp hother]
    obtain ⟨front, back, hranked⟩ := exists_ranked snapshotKey (graphAfter bindings done).snapshots
      other (recordedRun bindings (graphAfter bindings (done ++ [step])) rest)
    obtain ⟨hbody, htouches, hne, hfront⟩ :=
      (overtakes_iff h hbinding hsplit hrecorded hranked).mp hovertakes
    rw [← hranked.length_front]
    by_contra hkept
    -- the snapshot is kept, and so it has the initialization in front of it
    have hsorted := hranked.sorted
    rw [← graphAfter_snapshots_split hrecorded, ← hsplit] at hsorted
    obtain ⟨back', htake⟩ := exists_take_eq_iff.mpr ⟨_, hsorted, not_le.mp hkept⟩
    exact hfront (hfirst front other back' htake hbody htouches hne)
  · intro hovertaken front other back htake hbody htouches hne
    by_contra hfront
    obtain ⟨_, hsorted, hkept⟩ := exists_take_eq_iff.mp ⟨_, htake⟩
    obtain ⟨before, after, hall, hranked⟩ := exists_ranked_of_sorted hsorted
    rw [graphAfter_snapshots] at hall
    obtain ⟨done, step, rest, hsplit, hrecorded, rfl, rfl⟩ := recordedRun_split hall
    rw [← graphAfter_snapshots] at hranked
    have hcut := hovertaken done step rest hsplit
      ((overtakes_iff h hbinding hsplit hrecorded hranked).mpr ⟨hbody, htouches, hne, hfront⟩)
      other (hrecorded ▸ List.mem_singleton_self _)
    exact absurd (hranked.length_front ▸ hcut) (not_le.mpr hkept)

end Order

/-! ## The replay -/

/-- The delta is the last of the snapshot that changes the node. -/
def LastDelta (snapshot : OwnershipSnapshot) (node : String) (delta : StateDelta) : Prop :=
  ∃ before after, snapshot.deltas = before ++ delta :: after ∧ delta.nodeId = node ∧
    ∀ later ∈ after, later.nodeId ≠ node

/-- The replay of the whole graph leaves the node in the state of its last event. -/
def EndsInLastEvent (graph : MemoryGraph) (node : String) : Prop :=
  ∃ front last back delta, graph.snapshots = front ++ last :: back ∧ last.kind ≠ .initialization ∧
    (∀ later ∈ back, ¬ later.Touches node) ∧ LastDelta last node delta ∧
    ∀ range step, graph.snapshots.length ≤ step + 1 →
      (Panel.topologyStateAtStep (graph.toModel range) step).get? node = some delta.toState.word

section Replay

def setAll (states : Assoc.Map String String) (changes : List (String × String)) :
    Assoc.Map String String :=
  changes.foldl (fun states change => states.insert change.1 change.2) states

theorem get?_setAll_of_forall {node : String} : ∀ {changes : List (String × String)}
    {states : Assoc.Map String String}, (∀ change ∈ changes, change.1 ≠ node) →
    (setAll states changes).get? node = states.get? node
  | [], _, _ => rfl
  | change :: changes, states, h => by
    obtain ⟨hne, hrest⟩ := List.forall_mem_cons.mp h
    have htail : (setAll (states.insert change.1 change.2) changes).get? node = _ :=
      get?_setAll_of_forall hrest
    rw [Assoc.Map.get?_insert, if_neg (Ne.symm hne)] at htail
    exact htail

/-- The last change of a node wins. -/
theorem get?_setAll {states : Assoc.Map String String} {before after : List (String × String)}
    {node state : String} (h : ∀ change ∈ after, change.1 ≠ node) :
    (setAll states (before ++ (node, state) :: after)).get? node = some state := by
  have hsplit : setAll states (before ++ (node, state) :: after) =
      setAll ((setAll states before).insert node state) after := by
    rw [setAll, List.foldl_append]
    rfl
  rw [hsplit, get?_setAll_of_forall h, Assoc.Map.get?_insert, if_pos rfl]

/-- The states that a snapshot sets. -/
def OwnershipSnapshot.changes (snapshot : OwnershipSnapshot) : List (String × String) :=
  snapshot.deltas.map fun delta => (delta.nodeId, delta.toState.word)

theorem foldl_insertDeltas (range : Span → Range) (snapshots : List OwnershipSnapshot)
    (states : Assoc.Map String String) :
    (snapshots.map (OwnershipSnapshot.toWire range)).foldl Panel.insertDeltas states =
      setAll states (snapshots.flatMap OwnershipSnapshot.changes) := by
  induction snapshots generalizing states with
  | nil => rfl
  | cons snapshot snapshots ih =>
    have hfirst : Panel.insertDeltas states (snapshot.toWire range) =
        setAll states snapshot.changes := by
      simp only [Panel.insertDeltas, OwnershipSnapshot.toWire, setAll, OwnershipSnapshot.changes,
        List.foldl_map]
      rfl
    rw [List.map_cons, List.foldl_cons, ih, hfirst, List.flatMap_cons, setAll, setAll, setAll,
      List.foldl_append]

theorem get?_topologyStateAtStep {graph : MemoryGraph} {node : String}
    {front back : List OwnershipSnapshot} {last : OwnershipSnapshot} {delta : StateDelta}
    (hsplit : graph.snapshots = front ++ last :: back)
    (hback : ∀ later ∈ back, ¬ later.Touches node) (hdelta : LastDelta last node delta)
    {step : Nat} (hstep : graph.snapshots.length ≤ step + 1) (range : Span → Range) :
    (Panel.topologyStateAtStep (graph.toModel range) step).get? node =
      some delta.toState.word := by
  obtain ⟨before, after, hdeltas, rfl, hafter⟩ := hdelta
  have hchanges : graph.snapshots.flatMap OwnershipSnapshot.changes =
      (front.flatMap OwnershipSnapshot.changes ++
        before.map fun delta => (delta.nodeId, delta.toState.word)) ++
      (delta.nodeId, delta.toState.word) ::
        ((after.map fun delta => (delta.nodeId, delta.toState.word)) ++
          back.flatMap OwnershipSnapshot.changes) := by
    simp [hsplit, OwnershipSnapshot.changes, hdeltas]
  have hall : ((graph.toModel range).memoryGraph.snapshots.take (step + 1)) =
      graph.snapshots.map (OwnershipSnapshot.toWire range) :=
    List.take_of_length_le (by simpa [MemoryGraph.toModel] using hstep)
  rw [Panel.topologyStateAtStep, hall, foldl_insertDeltas, hchanges]
  refine get?_setAll fun change hchange => ?_
  rcases List.mem_append.mp hchange with hchange | hchange
  · obtain ⟨later, hlater, rfl⟩ := List.mem_map.mp hchange
    exact hafter later hlater
  · obtain ⟨later, hlater, hchange⟩ := List.mem_flatMap.mp hchange
    obtain ⟨delta', hdelta', rfl⟩ := List.mem_map.mp hchange
    exact fun hnode => hback later hlater ⟨delta', hdelta', hnode⟩

end Replay

theorem lastDelta_initialSnapshot (bindings : List OwnershipBinding) (binding : OwnershipBinding) :
    LastDelta (initialSnapshot bindings binding) (bindingNodeId binding bindings)
      ⟨bindingNodeId binding bindings, none, .available, none, none⟩ :=
  ⟨[], [], rfl, rfl, List.forall_mem_nil _⟩

section LastEvent

variable {isAlphanumeric : Char → Bool} {sources : Assoc.Map Path RepairSource}
  {bindings : List OwnershipBinding} {events : List OwnershipEvent} {loans : List OwnershipLoan}
  {steps : List BuildStep} {binding : OwnershipBinding}

/-- The initializations are recorded before everything else. -/
theorem graphAfter_pairwise
    (h : buildSteps isAlphanumeric sources bindings events loans = some steps) :
    (graphAfter bindings steps).snapshots.Pairwise fun earlier later =>
      later.kind = .initialization → earlier.kind = .initialization := by
  obtain ⟨others, rfl, hothers⟩ := buildSteps_eq h
  have hinitial : ∀ snapshot ∈ recordedRun bindings {} (bindings.map .binding),
      snapshot.kind = .initialization := by
    intro snapshot hsnapshot
    obtain ⟨graph, step, hstep, hrecorded⟩ := exists_recorded hsnapshot
    obtain ⟨binding, -, rfl⟩ := List.mem_map.mp hstep
    rw [List.mem_singleton.mp hrecorded]
    rfl
  have hlater : ∀ snapshot ∈ recordedRun bindings (graphAfter bindings (bindings.map .binding))
      others, snapshot.kind ≠ .initialization := by
    intro snapshot hsnapshot hkind
    obtain ⟨graph, step, hstep, hrecorded⟩ := exists_recorded hsnapshot
    obtain ⟨binding, rfl, -⟩ := eq_binding_of_recorded hrecorded hkind
    exact hothers _ hstep
  rw [graphAfter_snapshots, recordedRun_append, List.pairwise_append]
  refine ⟨?_, ?_, fun earlier hearlier _ _ _ => hinitial earlier hearlier⟩
  · refine List.Pairwise.imp_of_mem ?_ (List.pairwise_of_forall fun _ _ => trivial)
    exact fun hearlier _ _ _ => hinitial _ hearlier
  · refine List.Pairwise.imp_of_mem ?_ (List.pairwise_of_forall fun _ _ => trivial)
    exact fun _ hlate _ hkind => absurd hkind (hlater _ hlate)

theorem eq_initialSnapshot_of_mem {graph : MemoryGraph} {steps : List BuildStep}
    {snapshot : OwnershipSnapshot} (hmem : snapshot ∈ recordedRun bindings graph steps)
    (hkind : snapshot.kind = .initialization) :
    ∃ binding, snapshot = initialSnapshot bindings binding := by
  obtain ⟨graph', step, -, hrecorded⟩ := exists_recorded hmem
  obtain ⟨binding, -, heq⟩ := eq_binding_of_recorded hrecorded hkind
  exact ⟨binding, heq⟩

/-- A node that something changes after its initialization ends in the state of an event. -/
theorem endsInLastEvent
    (h : buildSteps isAlphanumeric sources bindings events loans = some steps)
    (hfirst : InitializedFirst bindings binding (finish (graphAfter bindings steps)).snapshots)
    (hown : ∀ other ∈ (finish (graphAfter bindings steps)).snapshots,
      other.Touches (bindingNodeId binding bindings) → other.bodyId = binding.bodyId)
    (hchanged : ∃ other ∈ (finish (graphAfter bindings steps)).snapshots,
      other.Touches (bindingNodeId binding bindings) ∧ other.kind ≠ .initialization) :
    EndsInLastEvent (finish (graphAfter bindings steps)) (bindingNodeId binding bindings) := by
  obtain ⟨other, hother, htouches, hkind⟩ := hchanged
  obtain ⟨front, last, back, hsplit, hlast, hback⟩ :
      ∃ front last back, (finish (graphAfter bindings steps)).snapshots = front ++ last :: back ∧
        last.Touches (bindingNodeId binding bindings) ∧
        ∀ later ∈ back, ¬ later.Touches (bindingNodeId binding bindings) :=
    Search.exists_last ⟨other, hother, htouches⟩
  obtain ⟨before, delta, after, hdeltas, hnode, hafter⟩ :
      ∃ before delta after, last.deltas = before ++ delta :: after ∧
        delta.nodeId = bindingNodeId binding bindings ∧
        ∀ later ∈ after, later.nodeId ≠ bindingNodeId binding bindings := Search.exists_last hlast
  have hdelta : LastDelta last _ delta := ⟨before, after, hdeltas, hnode, hafter⟩
  refine ⟨front, last, back, delta, hsplit, fun hinitial => ?_, hback, hdelta,
    fun range step hstep => get?_topologyStateAtStep hsplit hback hdelta hstep range⟩
  -- the last change is an initialization, so the event before it has the same key
  have hfront : other ∈ front := by
    rw [hsplit] at hother
    rcases List.mem_append.mp hother with hother | hother
    · exact hother
    · rcases List.mem_cons.mp hother with rfl | hother
      · exact absurd hinitial hkind
      · exact absurd htouches (hback other hother)
  obtain ⟨front₁, front₂, rfl⟩ := List.append_of_mem hfront
  rw [List.append_assoc, List.cons_append] at hsplit
  have hbody : other.bodyId = binding.bodyId := hown other hother htouches
  have hprecedes := hfirst front₁ other _ hsplit hbody htouches (ne_initialSnapshot hkind)
  have hordered : (finish (graphAfter bindings steps)).snapshots.Pairwise fun earlier later =>
      keyLe snapshotKey earlier later ∧ (snapshotKey earlier = snapshotKey later →
        later.kind = .initialization → earlier.kind = .initialization) :=
    ((sortByKey_pairwise snapshotKey _).and
      (sortByKey_pairwise_of_eq (graphAfter_pairwise h))).sublist (List.take_sublist _ _)
  rw [hsplit, List.pairwise_append] at hordered
  have hle : snapshotKey (initialSnapshot bindings binding) ≤ snapshotKey other :=
    (hordered.2.2 _ hprecedes other List.mem_cons_self).1
  have hrelated := List.rel_of_pairwise_cons hordered.2.1
    (List.mem_append_right front₂ (List.mem_cons_self : last ∈ last :: back))
  have hmem : last ∈ (finish (graphAfter bindings steps)).snapshots := by
    rw [hsplit]
    simp
  have hkey : snapshotKey last = snapshotKey (initialSnapshot bindings binding) := by
    have hrecorded := (mem_sortByKey snapshotKey).mp (List.mem_of_mem_take hmem)
    rw [graphAfter_snapshots] at hrecorded
    obtain ⟨twin, rfl⟩ := eq_initialSnapshot_of_mem hrecorded hinitial
    exact snapshotKey_twin (hown _ hmem hlast) (touches_initialSnapshot_iff.mp hlast)
  exact hkind (hrelated.2 (le_antisymm hrelated.1 (hkey ▸ hle)) hinitial)

end LastEvent

/-- **The initialization of a binding comes first** in every graph that the builder returns just
where each step that overtakes it is cut off; the replay then ends in the state of the last event of
the node. -/
theorem initialized_first_iff (isAlphanumeric : Char → Bool)
    (sources : Assoc.Map Path RepairSource) (bindings : List OwnershipBinding)
    (events : List OwnershipEvent) (loans : List OwnershipLoan) (steps : List BuildStep)
    (graph : MemoryGraph) (binding : OwnershipBinding)
    (hsteps : buildSteps isAlphanumeric sources bindings events loans = some steps)
    (hgraph : buildOwnershipMemoryGraph isAlphanumeric sources bindings events loans = some graph)
    (hbinding : binding ∈ bindings) :
    (InitializedFirst bindings binding graph.snapshots ↔
      ∀ done step rest, steps = done ++ step :: rest → Overtakes bindings binding done step →
        CutOff bindings done step rest) ∧
    (InitializedFirst bindings binding graph.snapshots →
      (∀ other ∈ graph.snapshots, other.Touches (bindingNodeId binding bindings) →
        other.bodyId = binding.bodyId) →
      (∃ other ∈ graph.snapshots, other.Touches (bindingNodeId binding bindings) ∧
        other.kind ≠ .initialization) →
      EndsInLastEvent graph (bindingNodeId binding bindings)) := by
  rw [buildOwnershipMemoryGraph, hsteps] at hgraph
  obtain rfl := Option.some.inj hgraph
  exact ⟨initializedFirst_iff hsteps hbinding, endsInLastEvent hsteps⟩

/-! ## Programs -/

/-- The parameter of `fn greet(name: String) -> String { name }`. -/
def greetBinding : OwnershipBinding where
  bodyId := 0
  binding := ⟨["main.rs"], 9, "name"⟩
  typeName := "std::string::String"
  memoryLayers := [⟨.stackBinding, .stack, "name", "std::string::String", some 24, some 8,
      "target_layout"⟩,
    ⟨.stringHeader, .inline, "String header", "std::string::String", some 24, some 8,
      "target_layout"⟩,
    ⟨.stringBuffer, .heap, "String buffer", "str", none, none, "derived"⟩]

/-- It is moved to the caller. -/
def greetMove (eventId : String) (statementIndex : Nat) : OwnershipEvent where
  eventId := eventId
  bodyId := 0
  basicBlock := 0
  statementIndex := statementIndex
  kind := .move
  state := .moved
  path := ["main.rs"]
  byteStart := 35
  byteEnd := 39
  place := "name"
  loanId := none
  destination := some ⟨none, none⟩

/-- The graph of the function. -/
def greetGraph (event : OwnershipEvent) : Option MemoryGraph :=
  buildOwnershipMemoryGraph Char.isAlphanum [] [greetBinding] [event] []

/-- The first statement moves the parameter, and the hashes put the move before the
initialization: the replay ends with the parameter available. -/
theorem move_before_initialization :
    ∃ graph, greetGraph (greetMove "d3637240e76c8cd0" 0) = some graph ∧
      graph.snapshots.map OwnershipSnapshot.kind = [.move, .initialization] ∧
      ¬ InitializedFirst [greetBinding] greetBinding graph.snapshots ∧
      ∀ range, (Panel.topologyStateAtStep (graph.toModel range) 1).get? (bindingNodeId greetBinding [greetBinding]) =
        some "available" := by
  have hsnapshots : (greetGraph (greetMove "d3637240e76c8cd0" 0)).map MemoryGraph.snapshots =
      some [eventSnapshot (greetMove "d3637240e76c8cd0" 0)
          (bindingNodeId greetBinding [greetBinding]) [],
        initialSnapshot [greetBinding] greetBinding] := by decide +kernel
  obtain ⟨graph, hgraph, hlist⟩ := Option.map_eq_some_iff.mp hsnapshots
  refine ⟨graph, hgraph, by rw [hlist]; rfl, fun h => ?_, fun range => ?_⟩
  · have hfront := h [] _ _ hlist rfl touches_eventSnapshot_self (ne_initialSnapshot (by decide))
    cases hfront
  · have hlength : graph.snapshots.length ≤ 1 + 1 := by rw [hlist]; rfl
    have hsplit : graph.snapshots = [eventSnapshot (greetMove "d3637240e76c8cd0" 0)
        (bindingNodeId greetBinding [greetBinding]) []] ++
          initialSnapshot [greetBinding] greetBinding :: [] := hlist
    exact get?_topologyStateAtStep hsplit (List.forall_mem_nil _)
      (lastDelta_initialSnapshot [greetBinding] greetBinding) hlength range

/-- Where a statement comes before the move, the replay ends with the parameter moved. -/
theorem move_after_initialization :
    ∃ graph, greetGraph (greetMove "e1" 1) = some graph ∧
      InitializedFirst [greetBinding] greetBinding graph.snapshots ∧
      EndsInLastEvent graph (bindingNodeId greetBinding [greetBinding]) := by
  have hsnapshots : (greetGraph (greetMove "e1" 1)).map MemoryGraph.snapshots =
      some [initialSnapshot [greetBinding] greetBinding,
        eventSnapshot (greetMove "e1" 1) (bindingNodeId greetBinding [greetBinding]) []] := by decide +kernel
  obtain ⟨graph, hgraph, hlist⟩ := Option.map_eq_some_iff.mp hsnapshots
  have hsteps : buildSteps Char.isAlphanum [] [greetBinding] [greetMove "e1" 1] [] =
      some [.binding greetBinding, .derivedClone greetBinding none, .event (greetMove "e1" 1)] := by
    decide +kernel
  obtain ⟨hiff, hreplay⟩ := initialized_first_iff Char.isAlphanum [] [greetBinding]
    [greetMove "e1" 1] [] _ graph greetBinding hsteps hgraph (List.mem_singleton_self _)
  have hfirst : InitializedFirst [greetBinding] greetBinding graph.snapshots := by
    refine hiff.mpr fun done step rest hsplit hovertakes => ?_
    have hstep : step ∈ [BuildStep.binding greetBinding, .derivedClone greetBinding none,
        .event (greetMove "e1" 1)] := by
      rw [hsplit]
      exact List.mem_append_right _ List.mem_cons_self
    cases hovertakes with
    | twin _ _ hne =>
      obtain rfl : _ = greetBinding := by simpa using hstep
      exact absurd rfl hne
    | clone htransfer =>
      obtain ⟨rfl, rfl⟩ : _ = greetBinding ∧ _ = none := by simpa using hstep
      cases htransfer
    | event _ _ hstatement =>
      obtain rfl : _ = greetMove "e1" 1 := by simpa using hstep
      cases hstatement
  refine ⟨graph, hgraph, hfirst, hreplay hfirst ?_ ?_⟩
  · rw [hlist]
    simp [initialSnapshot, initializationSnapshot, eventSnapshot, greetMove, greetBinding]
  · rw [hlist]
    exact ⟨_, List.mem_cons_of_mem _ (List.mem_singleton_self _), touches_eventSnapshot_self,
      by decide⟩

end RustWorkbench.Compiler
