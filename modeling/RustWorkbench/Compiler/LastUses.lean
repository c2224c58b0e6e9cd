import RustWorkbench.Compiler.GraphTypes
import RustWorkbench.Compiler.Mir
import RustWorkbench.Library.Assoc
import RustWorkbench.Library.PushNew

/-!
# The ownership events of a body

`record_ownership_events`: moves and copies, borrows with their ends, reinitializations, drops and
last uses of the locals that have a source binding, in this order and up to a cap.  The moves and
copies that the operand visitor collects, the borrows with the locations of their regions and the
initializations of the move data are given.

* `collectUses` — `UseCollector`: the locations at which each bound local is used.
* `mem_get?_collectUses` — just those, for a local with a binding.
* `recordOwnershipEvents` — the events, each with the place it was pushed for.
* `last_uses_exact_iff` — so a use that a loop leads back to is recorded as the last although it
  comes again, if the loop has no other use behind it.
-/

namespace RustWorkbench.Compiler.OwnershipEvents

open Assoc Assoc.Map StableSort Relation

/-- `MAX_EVENTS_PER_BODY` -/
def maxEventsPerBody : Nat := 4096

/-! ## What is recorded -/

/-- The `Binding` of this module. -/
structure SourceBinding where
  name : String
  span : Span
deriving DecidableEq, Repr

inductive DestinationKind
  | functionArgument | localBinding | projectedPlace | returnValue
deriving DecidableEq, Repr

structure Destination where
  kind : DestinationKind
  label : String
  place : Option String
  span : Option Span
deriving DecidableEq, Repr

/-- `BorrowckOwnershipEvent` -/
structure Event where
  bodyId : Nat
  basicBlock : Nat
  statementIndex : Nat
  kind : OwnershipEventKind
  state : OwnershipState
  span : Span
  bindingSpan : Span
  bindingName : String
  place : String
  loanId : Option Nat
  detail : Option String
  destination : Option Destination
deriving DecidableEq, Repr

def ownershipState : OwnershipEventKind → OwnershipState
  | .borrowActivate | .borrowMutable => .mutablyBorrowed
  | .borrowShared => .sharedBorrowed
  | .clone | .copy => .available
  | .drop => .dropped
  | .move => .moved
  | .partialMove => .partiallyMoved
  | .borrowEnd | .lastUse | OwnershipEventKind.reinitialize => .available

/-! ## What is read -/

/-- A variable of the debug information: its place, if it has one and is not a constant. -/
structure VarDebugInfo (T : Type) where
  name : String
  span : Span
  place : Option (Place T)
deriving DecidableEq, Repr

/-- An operand that moves or copies a place. -/
structure Transfer (T : Type) where
  moves : Bool
  source : Place T
  location : Location
  destination : Option Destination
deriving DecidableEq, Repr

inductive BorrowKind
  | shared | fake | mutable
deriving DecidableEq, Repr

structure BorrowData (T : Type) where
  kind : BorrowKind
  borrowedPlace : Place T
  reserveLocation : Location
  activation : Option Location
  regionLocations : List Location
deriving DecidableEq, Repr

/-- An initialization, with its location if a statement makes it. -/
structure Init where
  location : Option Location
  base : Nat
deriving DecidableEq, Repr

structure Input (T : Type) where
  bodyId : Nat
  body : Body T
  varDebugInfo : List (VarDebugInfo T)
  spanAt : Location → Span
  transfers : List (Transfer T)
  borrows : List (BorrowData T)
  inits : List Init

/-- The arguments of the closure `push`. -/
structure Request (T : Type) where
  kind : OwnershipEventKind
  place : Place T
  location : Location
  detail : Option String
  loanId : Option Nat
  destination : Option Destination
deriving DecidableEq, Repr

variable {T : Type}

def Transfer.kind (transfer : Transfer T) : OwnershipEventKind :=
  if transfer.moves then
    if transfer.source.projection.isEmpty then .move else .partialMove
  else .copy

def Transfer.request (transfer : Transfer T) : Request T :=
  ⟨transfer.kind, transfer.source, transfer.location, none, none, transfer.destination⟩

section Events

variable (input : Input T)

/-- The first variable that is the whole local. -/
def Input.binding (base : Nat) : Option SourceBinding :=
  (input.varDebugInfo.find? fun info =>
    info.place.any fun place => place.projection.isEmpty && place.base == base).map
    fun info => ⟨info.name, info.span⟩

/-! ## Borrows, reinitializations and drops -/

/-- Whether a region ends behind one of its locations. -/
def endsHere (live : List Location) (location : Location) : Bool :=
  if location.index < input.body.length location.block then
    decide (⟨location.block, location.index + 1⟩ ∉ live)
  else
    match input.body.successors location.block with
    | [] => true
    | successors => successors.any fun successor => decide (⟨successor, 0⟩ ∉ live)

def borrowRequests (borrow : BorrowData T) (loanIndex : Nat) : List (Request T) :=
  let request kind location detail : Request T :=
    ⟨kind, borrow.borrowedPlace, location, detail, some loanIndex, none⟩
  let requests kind :=
    let live := dedupBy (fun a b => decide (a = b))
      (sortByKey (fun location => toLex (location.block, location.index)) borrow.regionLocations)
    request kind borrow.reserveLocation none ::
      borrow.activation.toList.map
        (request .borrowActivate · (some "two-phase mutable borrow activates here")) ++
      (live.filter (endsHere input live)).map
        (request .borrowEnd · (some "non-lexical borrow ends after this use"))
  match borrow.kind with
  | .fake => []
  | .shared => requests .borrowShared
  | .mutable => requests .borrowMutable

def initRequest (init : Init) : Option (Request T) := do
  let location ← init.location
  if input.transfers.any fun transfer => transfer.moves && transfer.source.base == init.base &&
      input.body.isPredecessorOf transfer.location location then
    some ⟨OwnershipEventKind.reinitialize, .ofLocal init.base, location, none, none, none⟩
  else none

def dropRequest (data : BlockData T) (block : Nat) : Option (Request T) := do
  let place ← data.dropped
  if place.projection.isEmpty then
    some ⟨.drop, place, ⟨block, data.statements.length⟩, none, none, none⟩
  else none

/-! ## Uses -/

def countsAsUse (context : PlaceContext) : Bool :=
  context.isUse && !context.isDrop && !context.isPlaceAssignment

/-- `UseCollector::visit_place` -/
def visitPlace (uses : Map Nat (List Location)) (visited : Location × Visit T) :
    Map Nat (List Location) :=
  let base := visited.2.place.base
  if (input.binding base).isSome && countsAsUse visited.2.context then
    uses.modify base [] fun locations =>
      if locations.getLast? = some visited.1 then locations else locations ++ [visited.1]
  else uses

def collectUses : Map Nat (List Location) := input.body.visits.foldl (visitPlace input) []

def lastUseRequest (base : Nat) (locations : List Location) (location : Location) :
    Option (Request T) :=
  if locations.any fun later =>
      decide (later ≠ location) && input.body.isPredecessorOf location later then none
  else some ⟨.lastUse, .ofLocal base, location, some "last use on this control-flow path", none,
    none⟩

def lastUseRequests : List (Request T) :=
  (collectUses input).flatMap fun (base, locations) =>
    locations.filterMap (lastUseRequest input base locations)

/-! ## The events -/

def requests : List (Request T) :=
  input.transfers.map Transfer.request ++
  input.borrows.zipIdx.flatMap (fun (borrow, index) => borrowRequests input borrow index) ++
  input.inits.filterMap (initRequest input) ++
  input.body.blocks.zipIdx.filterMap (fun (data, block) => dropRequest data block) ++
  lastUseRequests input

/-- The event of a request, with the place it is pushed for. -/
def event (request : Request T) : Option (Place T × Event) :=
  (input.binding request.place.base).map fun binding =>
    (request.place,
      { bodyId := input.bodyId
        basicBlock := request.location.block
        statementIndex := request.location.index
        kind := request.kind
        state := ownershipState request.kind
        span := input.spanAt request.location
        bindingSpan := binding.span
        bindingName := binding.name
        place := placeName binding.name request.place.projection
        loanId := request.loanId
        detail := request.detail
        destination := request.destination })

/-- The closure `push`. -/
def push (events : List (Place T × Event)) (request : Request T) : List (Place T × Event) :=
  match event input request with
  | none => events
  | some event => if events.length < maxEventsPerBody then events ++ [event] else events

def recordOwnershipEvents : List (Place T × Event) := (requests input).foldl (push input) []

/-- The local is used at the location. -/
def UsedAt (base : Nat) (location : Location) : Prop :=
  ∃ visit ∈ input.body.visitsAt location,
    visit.place.base = base ∧ countsAsUse visit.context = true

/-- An event says that the location is a last use of the local. -/
def RecordsLastUse (base : Nat) (location : Location) : Prop :=
  ∃ event, (Place.ofLocal base, event) ∈ recordOwnershipEvents input ∧ event.kind = .lastUse ∧
    event.basicBlock = location.block ∧ event.statementIndex = location.index

/-- A path of control that is not empty. -/
def Reaches (location later : Location) : Prop := TransGen input.body.Flows location later

variable {input}

/-! ## The collector -/

variable {base : Nat} {request : Request T} {location : Location}

theorem UsedAt.mem_locations (h : UsedAt input base location) :
    location ∈ input.body.locations := by
  obtain ⟨visit, hvisit, -⟩ := h
  rw [Body.mem_locations, Body.length]
  unfold Body.visitsAt at hvisit
  cases hdata : input.body.blocks[location.block]? with
  | none =>
    rw [hdata] at hvisit
    cases hvisit
  | some data =>
    rw [hdata] at hvisit
    refine ⟨(List.getElem?_eq_some_iff.mp hdata).1, ?_⟩
    by_contra hindex
    have hbehind : (data.statements ++ [data.terminator])[location.index]? = none :=
      List.getElem?_eq_none (by simp at hindex ⊢; omega)
    simp [hbehind] at hvisit

theorem nodup_keys_visitPlace {uses : Map Nat (List Location)} (h : uses.keys.Nodup)
    (visited : Location × Visit T) : (visitPlace input uses visited).keys.Nodup := by
  unfold visitPlace
  dsimp only
  split
  · exact nodup_keys_modify _ _ _ h
  · exact h

theorem nodup_keys_collectUses : (collectUses input).keys.Nodup :=
  List.foldlRecOn (motive := fun uses : Map Nat (List Location) => uses.keys.Nodup) _ _
    List.nodup_nil fun _ h visited _ => nodup_keys_visitPlace h visited

section Bound

variable (hbinding : (input.binding base).isSome = true)

include hbinding

/-- One visit adds its location to the uses of its local. -/
theorem mem_get?_visitPlace (uses : Map Nat (List Location)) (visited : Location × Visit T)
    (location : Location) :
    location ∈ ((visitPlace input uses visited).get? base).getD [] ↔
      location ∈ (uses.get? base).getD [] ∨
        (visited.1 = location ∧ visited.2.place.base = base ∧
          countsAsUse visited.2.context = true) := by
  unfold visitPlace
  dsimp only
  by_cases hbase : visited.2.place.base = base
  · subst hbase
    cases hcounts : countsAsUse visited.2.context with
    | false => simp
    | true =>
      rw [hbinding, Bool.and_self, if_pos rfl, get?_modify, if_pos rfl, Option.getD_some]
      split
      · next hlast =>
        -- the collector passes over a location that it met just before
        have hmem := List.mem_of_getLast? hlast
        constructor
        · exact .inl
        · rintro (h | ⟨rfl, -⟩)
          · exact h
          · exact hmem
      · simp [eq_comm]
  · have hother : base ≠ visited.2.place.base := Ne.symm hbase
    split
    · rw [get?_modify, if_neg hother]
      simp [hbase]
    · simp [hbase]

theorem mem_get?_collectUses (location : Location) :
    location ∈ ((collectUses input).get? base).getD [] ↔ UsedAt input base location := by
  have hfold : ∀ (visits : List (Location × Visit T)) (uses : Map Nat (List Location)),
      location ∈ ((visits.foldl (visitPlace input) uses).get? base).getD [] ↔
        location ∈ (uses.get? base).getD [] ∨ ∃ visit, (location, visit) ∈ visits ∧
          visit.place.base = base ∧ countsAsUse visit.context = true := by
    intro visits
    induction visits with
    | nil => simp
    | cons visited visits ih =>
      intro uses
      rw [List.foldl_cons, ih, mem_get?_visitPlace hbinding]
      constructor
      · rintro ((h | ⟨rfl, huse⟩) | ⟨visit, hvisit, huse⟩)
        · exact .inl h
        · exact .inr ⟨visited.2, List.mem_cons_self, huse⟩
        · exact .inr ⟨visit, List.mem_cons_of_mem _ hvisit, huse⟩
      · rintro (h | ⟨visit, hvisit, huse⟩)
        · exact .inl (.inl h)
        · rcases List.mem_cons.mp hvisit with rfl | hvisit
          · exact .inl (.inr ⟨rfl, huse⟩)
          · exact .inr ⟨visit, hvisit, huse⟩
  rw [collectUses, hfold]
  constructor
  · rintro (h | ⟨visit, hvisit, huse⟩)
    · simp at h
    · exact ⟨visit, (Body.mem_visits.mp hvisit).2, huse⟩
  · intro h
    obtain ⟨visit, hvisit, huse⟩ := id h
    exact .inr ⟨visit, Body.mem_visits.mpr ⟨h.mem_locations, hvisit⟩, huse⟩

/-! ## The requests -/

/-- A use is requested as the last unless another use is behind it. -/
theorem lastUseRequest_ne_none_iff {locations : List Location}
    (hlocations : (collectUses input).get? base = some locations)
    (hused : UsedAt input base location) :
    lastUseRequest input base locations location ≠ none ↔
      ∀ later ≠ location, UsedAt input base later → ¬ Reaches input location later := by
  have hmem : ∀ later, later ∈ locations ↔ UsedAt input base later := by
    intro later
    rw [← mem_get?_collectUses hbinding, hlocations, Option.getD_some]
  rw [lastUseRequest, ne_eq, ite_eq_left_iff, not_forall]
  simp only [reduceCtorEq, not_false_eq_true, exists_prop, and_true, List.any_eq_true, not_exists,
    not_and, Bool.and_eq_true, decide_eq_true_eq]
  refine forall_congr' fun later => ?_
  rw [hmem]
  constructor
  · intro h hne hlater hreach
    exact h hlater hne
      ((Body.isPredecessorOf_iff hused.mem_locations hlater.mem_locations).mpr hreach)
  · intro h hlater hne hpred
    exact h hne hlater
      ((Body.isPredecessorOf_iff hused.mem_locations hlater.mem_locations).mp hpred)

end Bound

theorem lastUseRequest_eq_some {locations : List Location}
    (h : lastUseRequest input base locations location = some request) :
    request.kind = .lastUse ∧ request.place = .ofLocal base ∧ request.location = location := by
  unfold lastUseRequest at h
  split at h
  · cases h
  · cases h
    exact ⟨rfl, rfl, rfl⟩

theorem exists_lastUseRequest_iff (hbinding : (input.binding base).isSome = true)
    (location : Location) :
    (∃ request ∈ lastUseRequests input, request.place = .ofLocal base ∧
        request.location = location) ↔
      UsedAt input base location ∧
        ∀ later ≠ location, UsedAt input base later → ¬ Reaches input location later := by
  constructor
  · rintro ⟨request, hrequest, hplace, rfl⟩
    obtain ⟨⟨base', locations⟩, hentry, hrequest⟩ := List.mem_flatMap.mp hrequest
    obtain ⟨location, hlocation, hsome⟩ := List.mem_filterMap.mp hrequest
    obtain ⟨-, hplace', rfl⟩ := lastUseRequest_eq_some hsome
    obtain rfl : base' = base := congrArg Place.base (hplace'.symm.trans hplace)
    have hlocations := (mem_iff_get? nodup_keys_collectUses).mp hentry
    have hused : UsedAt input base' request.location := by
      rw [← mem_get?_collectUses hbinding, hlocations]
      exact hlocation
    refine ⟨hused, (lastUseRequest_ne_none_iff hbinding hlocations hused).mp ?_⟩
    simp [hsome]
  · rintro ⟨hused, hlast⟩
    have hmem := (mem_get?_collectUses hbinding location).mpr hused
    cases hlocations : (collectUses input).get? base with
    | none =>
      rw [hlocations] at hmem
      cases hmem
    | some locations =>
      rw [hlocations] at hmem
      obtain ⟨request, hsome⟩ := Option.ne_none_iff_exists'.mp
        ((lastUseRequest_ne_none_iff hbinding hlocations hused).mpr hlast)
      obtain ⟨-, hplace, hlocation⟩ := lastUseRequest_eq_some hsome
      refine ⟨request, List.mem_flatMap.mpr ⟨(base, locations), ?_, ?_⟩, hplace, hlocation⟩
      · exact (mem_iff_get? nodup_keys_collectUses).mpr hlocations
      · exact List.mem_filterMap.mpr ⟨location, hmem, hsome⟩

theorem kind_of_mem_lastUseRequests (h : request ∈ lastUseRequests input) :
    request.kind = .lastUse := by
  obtain ⟨_, -, h⟩ := List.mem_flatMap.mp h
  obtain ⟨_, -, h⟩ := List.mem_filterMap.mp h
  exact (lastUseRequest_eq_some h).1

theorem Transfer.kind_ne_lastUse (transfer : Transfer T) : transfer.kind ≠ .lastUse := by
  unfold Transfer.kind
  split
  · split <;> exact OwnershipEventKind.noConfusion
  · exact OwnershipEventKind.noConfusion

theorem kind_ne_lastUse_of_borrow {borrow : BorrowData T} {index : Nat}
    (h : request ∈ borrowRequests input borrow index) : request.kind ≠ .lastUse := by
  unfold borrowRequests at h
  cases hkind : borrow.kind <;> rw [hkind] at h
  case fake => cases h
  all_goals
    simp only [List.cons_append, List.mem_cons, List.mem_append, List.mem_map] at h
    rcases h with rfl | ⟨_, _, rfl⟩ | ⟨_, _, rfl⟩ <;> exact OwnershipEventKind.noConfusion

theorem kind_ne_lastUse_of_init {init : Init} (h : initRequest input init = some request) :
    request.kind ≠ .lastUse := by
  obtain ⟨location, -, h⟩ := Option.bind_eq_some_iff.mp h
  split at h
  · cases h
    exact OwnershipEventKind.noConfusion
  · cases h

theorem kind_ne_lastUse_of_drop {data : BlockData T} {block : Nat}
    (h : dropRequest data block = some request) : request.kind ≠ .lastUse := by
  obtain ⟨place, -, h⟩ := Option.bind_eq_some_iff.mp h
  split at h
  · cases h
    exact OwnershipEventKind.noConfusion
  · cases h

/-- Only the last loop asks for last uses. -/
theorem mem_requests_lastUse (hkind : request.kind = .lastUse) :
    request ∈ requests input ↔ request ∈ lastUseRequests input := by
  refine ⟨fun h => ?_, List.mem_append_right _⟩
  rcases List.mem_append.mp h with h | h
  · exfalso
    simp only [List.mem_append, List.mem_map, List.mem_flatMap, List.mem_filterMap] at h
    rcases h with ((⟨transfer, -, rfl⟩ | ⟨_, -, h⟩) | ⟨_, -, h⟩) | ⟨_, -, h⟩
    · exact transfer.kind_ne_lastUse hkind
    · exact kind_ne_lastUse_of_borrow h hkind
    · exact kind_ne_lastUse_of_init h hkind
    · exact kind_ne_lastUse_of_drop h hkind
  · exact h

/-! ## The events -/

theorem recordOwnershipEvents_eq : recordOwnershipEvents input =
    ((requests input).filterMap (event input)).take maxEventsPerBody := by
  rw [← List.nil_append (List.filterMap _ _), ← PushNew.foldl_pushCapped _ (Nat.zero_le _),
    List.foldl_filterMap]
  refine List.foldl_ext _ _ _ fun events request _ => ?_
  unfold push
  cases event input request <;> rfl

/-- **Below the cap every request for a bound local became an event.** -/
theorem mem_recordOwnershipEvents
    (hcap : (recordOwnershipEvents input).length < maxEventsPerBody) {pushed : Place T × Event} :
    pushed ∈ recordOwnershipEvents input ↔
      ∃ request ∈ requests input, event input request = some pushed := by
  rw [recordOwnershipEvents_eq, List.length_take] at hcap
  rw [recordOwnershipEvents_eq, List.take_of_length_le (by omega), List.mem_filterMap]

/-- **A use is recorded as the last just where no other use is reached from it.** -/
theorem recordsLastUse_iff (hcap : (recordOwnershipEvents input).length < maxEventsPerBody)
    (hbinding : (input.binding base).isSome = true) (location : Location) :
    RecordsLastUse input base location ↔ UsedAt input base location ∧
      ∀ later ≠ location, UsedAt input base later → ¬ Reaches input location later := by
  rw [← exists_lastUseRequest_iff hbinding]
  unfold RecordsLastUse
  simp only [mem_recordOwnershipEvents hcap]
  constructor
  · rintro ⟨pushed, ⟨request, hrequest, hevent⟩, hkind, hblock, hindex⟩
    obtain ⟨binding, -, hpushed⟩ := Option.map_eq_some_iff.mp hevent
    obtain ⟨hplace, rfl⟩ := Prod.mk.inj hpushed
    refine ⟨request, (mem_requests_lastUse hkind).mp hrequest, hplace, ?_⟩
    obtain ⟨block, index⟩ := location
    exact congrArg₂ ControlFlow.Point.mk hblock hindex
  · rintro ⟨request, hrequest, hplace, rfl⟩
    have hkind := kind_of_mem_lastUseRequests hrequest
    have hevent : (event input request).isSome = true := by
      rw [event, hplace, Option.isSome_map]
      exact hbinding
    obtain ⟨pushed, hpushed⟩ := Option.isSome_iff_exists.mp hevent
    obtain ⟨binding, -, rfl⟩ := Option.map_eq_some_iff.mp hpushed
    refine ⟨_, ⟨request, (mem_requests_lastUse hkind).mpr hrequest, hplace ▸ hpushed⟩, hkind,
      rfl, rfl⟩

/-- **When the last uses are last**: unless a use comes back to itself and to no other use. -/
theorem last_uses_exact_iff (hcap : (recordOwnershipEvents input).length < maxEventsPerBody)
    {base : Nat} (hbinding : (input.binding base).isSome = true) :
    (∀ location, UsedAt input base location → (RecordsLastUse input base location ↔
        ∀ later, UsedAt input base later → ¬ Reaches input location later)) ↔
      ∀ location, UsedAt input base location → Reaches input location location →
        ∃ later ≠ location, UsedAt input base later ∧ Reaches input location later := by
  refine forall₂_congr fun location hused => ?_
  rw [recordsLastUse_iff hcap hbinding]
  constructor
  · intro h hloop
    by_contra hnone
    refine h.mp ⟨hused, fun later hne hlater hreach => hnone ?_⟩ location hused hloop
    exact ⟨later, hne, hlater, hreach⟩
  · intro h
    constructor
    · rintro ⟨-, hlast⟩ later hlater hreach
      by_cases hne : later = location
      · subst hne
        obtain ⟨other, hother, hused', hreach'⟩ := h hreach
        exact hlast other hother hused' hreach'
      · exact hlast later hne hlater hreach
    · exact fun hlast => ⟨hused, fun later _ => hlast later⟩

end Events

/-! ## A loop with one use -/

/-- `fn poll(flag: &Cell<bool>) { while flag.get() {} }`: block 1 calls `get` with a copy of
`flag`, block 2 tests the answer, block 3 goes back. -/
def pollBody : Body String where
  blocks :=
    [⟨[], [], none, [1]⟩,
     ⟨[], [⟨.ofLocal 1, .nonMutatingUse .copy⟩, ⟨.ofLocal 2, .mutatingUse .call⟩], none, [2]⟩,
     ⟨[], [⟨.ofLocal 2, .nonMutatingUse .move⟩], none, [3, 4]⟩,
     ⟨[], [], none, [1]⟩,
     ⟨[], [], none, []⟩]
  successors_lt := by decide

def pollSpan : Span := ⟨["src", "main.rs"], 8, 12⟩

def poll : Input String where
  bodyId := 1
  body := pollBody
  varDebugInfo := [⟨"flag", pollSpan, some (.ofLocal 1)⟩]
  spanAt _ := pollSpan
  transfers :=
    [⟨false, .ofLocal 1, ⟨1, 0⟩,
      some ⟨.functionArgument, "argument 1 of this call", none, some pollSpan⟩⟩]
  borrows := []
  inits := []

/-- There the equivalence fails on both sides. -/
theorem poll_last_uses_inexact :
    ¬ ∀ location, UsedAt poll 1 location → (RecordsLastUse poll 1 location ↔
      ∀ later, UsedAt poll 1 later → ¬ Reaches poll location later) := by
  rw [last_uses_exact_iff (by decide +kernel) rfl]
  intro h
  have hused : UsedAt poll 1 ⟨1, 0⟩ :=
    ⟨⟨.ofLocal 1, .nonMutatingUse .copy⟩, by decide, rfl, rfl⟩
  have hloop := Body.isPredecessorOf_iff hused.mem_locations hused.mem_locations
  obtain ⟨later, hne, hlater, -⟩ := h ⟨1, 0⟩ hused (hloop.mp (by decide +kernel))
  have honly : ∀ location ∈ pollBody.locations, ∀ visit ∈ pollBody.visitsAt location,
      visit.place.base = 1 → location = ⟨1, 0⟩ := by decide
  obtain ⟨visit, hvisit, hbase, -⟩ := id hlater
  exact hne (honly later hlater.mem_locations visit hvisit hbase)

/-- The call in the loop is recorded as the last use of `flag`, which it uses again in the next
round. -/
theorem loop_use_recorded_last :
    (recordOwnershipEvents poll).length < maxEventsPerBody ∧ (poll.binding 1).isSome = true ∧
      UsedAt poll 1 ⟨1, 0⟩ ∧ RecordsLastUse poll 1 ⟨1, 0⟩ ∧ Reaches poll ⟨1, 0⟩ ⟨1, 0⟩ := by
  have hused : UsedAt poll 1 ⟨1, 0⟩ :=
    ⟨⟨.ofLocal 1, .nonMutatingUse .copy⟩, by decide, rfl, rfl⟩
  refine ⟨by decide +kernel, rfl, hused, ?_, ?_⟩
  · refine ⟨⟨1, 1, 0, .lastUse, .available, pollSpan, pollSpan, "flag", "flag", none,
      some "last use on this control-flow path", none⟩, by decide +kernel, rfl, rfl, rfl⟩
  · exact (Body.isPredecessorOf_iff hused.mem_locations hused.mem_locations).mp (by decide +kernel)

end RustWorkbench.Compiler.OwnershipEvents
