import RustWorkbench.Analyzer.Causes
import RustWorkbench.Library.Search

/-!
# The function that a problem's facts come from

A diagnostic is explained by the first event of the file that touches it *or is named like it*, and
by the first binding of the file with such a name.  If the diagnostic touches an event of a body,
its facts should come from that body; the name alone does not see to that.

* `bindingRange_of_selected`, `category_of_selected`, `mem_eventRanges` — the problem of a diagnostic,
  from the event it is explained by.
* `facts_from_body_iff` — the facts come from the body exactly when the event and the binding that
  the diagnostic is explained by agree with it.
* `same_name_earlier` — a function with a binding of the same name further up.
-/

namespace RustWorkbench.Analyzer

open Search

/-! ## What a problem is made from -/

/-- The event touches the diagnostic or is named like it. -/
def eventMatchesDiagnostic (diagnostic : OwnershipDiagnostic) (event : OwnershipEvent) : Bool :=
  let diagnosticName := (ownershipNameFromMessage diagnostic.message).getD "value"
  rangesTouch event.range diagnostic.range
    || ownershipNameRefersToBinding event.name diagnosticName
    || ownershipNameRefersToBinding event.place diagnosticName
    || ownershipNameRefersToBinding diagnosticName event.name

/-- The event is on the place of another, by name. -/
def namesRelated (selected event : OwnershipEvent) : Bool :=
  ownershipNameRefersToBinding event.name selected.name
    || ownershipNameRefersToBinding event.place selected.name
    || ownershipNameRefersToBinding selected.name event.name

/-- Bodies that are the same as far as they are known. -/
def bodiesAgree (selected event : OwnershipEvent) : Bool :=
  selected.bodyId == 0 || event.bodyId == 0 || event.bodyId == selected.bodyId

theorem mem_ownershipEventsForBinding {events : List OwnershipEvent}
    {selected event : OwnershipEvent} :
    event ∈ ownershipEventsForBinding events selected
      ↔ event ∈ events ∧ bodiesAgree selected event = true ∧ namesRelated selected event = true := by
  rw [ownershipEventsForBinding, List.mem_filter, ← Bool.and_eq_true]
  rfl

/-- The name of the problem that an event explains. -/
def nameFromEvent (diagnostic : OwnershipDiagnostic) (selected : OwnershipEvent) : String :=
  if diagnostic.code == "E0594" || diagnostic.code == "E0596" then
    (ownershipNameFromMessage diagnostic.message).getD "value"
  else selected.name

def bindingRelated (name : String) (binding : OwnershipTutorialBinding) : Bool :=
  ownershipNameRefersToBinding name binding.name || ownershipNameRefersToBinding binding.name name

/-- The ranges that a problem gets from events. -/
def eventRanges (diagnostic : OwnershipDiagnostic) (events : List OwnershipEvent) : List Range :=
  (((selectedEventFor diagnostic events).map (ownershipEventsForBinding events)).getD []
    |>.map (·.range)).filter (· != diagnostic.range)

section Selected

variable {diagnostic : OwnershipDiagnostic} {events : List OwnershipEvent}
  {tutorial : OwnershipTutorialModel} {selected : OwnershipEvent}
  (h : IsFirst (fun event => eventMatchesDiagnostic diagnostic event = true) events selected)

include h

theorem selectedEventFor_eq : selectedEventFor diagnostic events = some selected :=
  find?_eq_some_iff.mpr h

theorem mem_eventRanges {range : Range} :
    range ∈ eventRanges diagnostic events ↔ range ≠ diagnostic.range
      ∧ ∃ event ∈ ownershipEventsForBinding events selected, event.range = range := by
  rw [eventRanges, selectedEventFor_eq h, Option.map_some, Option.getD_some, List.mem_filter,
    List.mem_map, bne_iff_ne, and_comm]

theorem category_of_selected :
    (ownershipProblemFromDiagnostic diagnostic events tutorial).category
      = ownershipProblemCategory diagnostic.code (ownershipEventsForBinding events selected) := by
  have hevent := selectedEventFor_eq h
  unfold ownershipProblemFromDiagnostic
  rw [hevent]
  rfl

/-- The range of the first binding of the name, or else of the event's binding. -/
theorem bindingRange_of_selected :
    (ownershipProblemFromDiagnostic diagnostic events tutorial).bindingRange
      = ((tutorial.bindings.find? (bindingRelated (nameFromEvent diagnostic selected))).map
        (·.range)).getD selected.bindingRange := by
  have hevent := selectedEventFor_eq h
  have hname : diagnosticBindingName diagnostic events = nameFromEvent diagnostic selected := by
    unfold diagnosticBindingName nameFromEvent
    rw [hevent]
    rfl
  unfold ownershipProblemFromDiagnostic
  rw [hevent, hname]
  change ((Option.map _ (tutorial.bindings.find? (bindingRelated _))) <|> _).getD _ = _
  cases tutorial.bindings.find? (bindingRelated (nameFromEvent diagnostic selected)) <;> rfl

end Selected

/-- The category depends on the events by the partial moves alone, and only for one code. -/
theorem category_eq_iff {code : String} {left right : List OwnershipEvent} :
    ownershipProblemCategory code left = ownershipProblemCategory code right
      ↔ (code = "E0382" → ((∃ event ∈ left, event.kind = .partialMove)
        ↔ ∃ event ∈ right, event.kind = .partialMove)) := by
  by_cases hcode : code = "E0382"
  · subst hcode
    have hany : ∀ events : List OwnershipEvent,
        (events.any fun event => event.kind == .partialMove) = true
          ↔ ∃ event ∈ events, event.kind = .partialMove := by simp
    simp only [ownershipProblemCategory, true_implies, ← hany]
    cases left.any fun event => event.kind == .partialMove <;>
      cases right.any fun event => event.kind == .partialMove <;> decide
  · refine iff_of_true ?_ fun h => absurd h hcode
    unfold ownershipProblemCategory
    split
    · exact absurd rfl hcode
    all_goals rfl

/-! ## Facts of a body -/

def ofBody (bodyId : Nat) (events : List OwnershipEvent) : List OwnershipEvent :=
  events.filter fun event => event.bodyId = bodyId

theorem mem_ofBody {bodyId : Nat} {events : List OwnershipEvent} {event : OwnershipEvent} :
    event ∈ ofBody bodyId events ↔ event ∈ events ∧ event.bodyId = bodyId := by
  simp [ofBody]

/-- The range of a binding of the body, known from the tutorial or from an event. -/
def RangeOfBody (events : List OwnershipEvent) (tutorial : OwnershipTutorialModel) (bodyId : Nat)
    (range : Range) : Prop :=
  (∃ binding ∈ tutorial.bindings, binding.bodyId = bodyId ∧ binding.range = range)
    ∨ ∃ event ∈ events, event.bodyId = bodyId ∧ event.bindingRange = range

/-- The binding of the problem is in the body, and its category and the ranges it gets from events
are those that the events of the body alone give. -/
structure FactsFromBody (diagnostic : OwnershipDiagnostic) (events : List OwnershipEvent)
    (tutorial : OwnershipTutorialModel) (bodyId : Nat) : Prop where
  binding : RangeOfBody events tutorial bodyId
    (ownershipProblemFromDiagnostic diagnostic events tutorial).bindingRange
  category : (ownershipProblemFromDiagnostic diagnostic events tutorial).category
    = (ownershipProblemFromDiagnostic diagnostic (ofBody bodyId events) tutorial).category
  ranges : ∀ range, range ∈ eventRanges diagnostic events
    ↔ range ∈ eventRanges diagnostic (ofBody bodyId events)

/-- An event of the body on the place of another, with a property. -/
def BodyHas (events : List OwnershipEvent) (bodyId : Nat) (selected : OwnershipEvent)
    (P : OwnershipEvent → Prop) : Prop :=
  ∃ event ∈ events, event.bodyId = bodyId ∧ namesRelated selected event = true ∧ P event

/-- When the event that a diagnostic is explained by leads to what the body alone leads to. -/
inductive EventsAgree (diagnostic : OwnershipDiagnostic) (events : List OwnershipEvent)
    (bodyId : Nat) (selected : OwnershipEvent) : Prop
  /-- It is of the body, and events of unknown bodies with its name add nothing. -/
  | ofBody (hbody : selected.bodyId = bodyId)
      (hmoved : diagnostic.code = "E0382" → BodyHas events 0 selected (·.kind = .partialMove) →
        BodyHas events bodyId selected (·.kind = .partialMove))
      (hranges : ∀ range ≠ diagnostic.range, BodyHas events 0 selected (·.range = range) →
        BodyHas events bodyId selected (·.range = range))
  /-- It is of another body, and what is found there is the same by chance. -/
  | byChance (hbody : selected.bodyId ≠ bodyId) (own : OwnershipEvent)
      (hown : IsFirst (fun event => event.bodyId = bodyId
        ∧ eventMatchesDiagnostic diagnostic event = true) events own)
      (hmoved : diagnostic.code = "E0382" →
        ((∃ event ∈ ownershipEventsForBinding events selected, event.kind = .partialMove)
          ↔ BodyHas events bodyId own (·.kind = .partialMove)))
      (hranges : ∀ range ≠ diagnostic.range,
        ((∃ event ∈ ownershipEventsForBinding events selected, event.range = range)
          ↔ BodyHas events bodyId own (·.range = range)))

/-- The binding that a problem takes its range from has a range of the body. -/
structure BindingAgrees (diagnostic : OwnershipDiagnostic) (events : List OwnershipEvent)
    (tutorial : OwnershipTutorialModel) (bodyId : Nat) (selected : OwnershipEvent) : Prop where
  /-- The first binding of the file with the name. -/
  first : ∀ binding, IsFirst (fun binding =>
      bindingRelated (nameFromEvent diagnostic selected) binding = true) tutorial.bindings binding →
    RangeOfBody events tutorial bodyId binding.range
  /-- Without one, the binding of the event. -/
  none : (∀ binding ∈ tutorial.bindings,
      bindingRelated (nameFromEvent diagnostic selected) binding = false) →
    RangeOfBody events tutorial bodyId selected.bindingRange

section Facts

variable {diagnostic : OwnershipDiagnostic} {events : List OwnershipEvent}
  {tutorial : OwnershipTutorialModel} {bodyId : Nat} {selected own : OwnershipEvent}

theorem binding_iff
    (h : IsFirst (fun event => eventMatchesDiagnostic diagnostic event = true) events selected) :
    RangeOfBody events tutorial bodyId
        (ownershipProblemFromDiagnostic diagnostic events tutorial).bindingRange
      ↔ BindingAgrees diagnostic events tutorial bodyId selected := by
  rw [bindingRange_of_selected h]
  cases hfind : tutorial.bindings.find? (bindingRelated (nameFromEvent diagnostic selected)) with
  | none =>
    have hnone : ∀ binding ∈ tutorial.bindings,
        bindingRelated (nameFromEvent diagnostic selected) binding = false := by
      simpa using List.find?_eq_none.mp hfind
    constructor
    · intro hrange
      refine ⟨fun binding hfirst => ?_, fun _ => hrange⟩
      rw [find?_eq_some_iff.mpr hfirst] at hfind
      cases hfind
    · exact fun hagrees => hagrees.none hnone
  | some found =>
    have hfound := find?_eq_some_iff.mp hfind
    constructor
    · intro hrange
      refine ⟨fun binding hfirst => ?_, fun hnone => ?_⟩
      · exact hfirst.unique hfound ▸ hrange
      · have hrelated := hfound.holds
        rw [hnone found hfound.mem] at hrelated
        cases hrelated
    · exact fun hagrees => hagrees.first found hfound

/-- The events of a known body that belong to one of its own. -/
theorem mem_eventsForBinding_ofBody (hown : own.bodyId = bodyId) {event : OwnershipEvent} :
    event ∈ ownershipEventsForBinding (ofBody bodyId events) own
      ↔ event ∈ events ∧ event.bodyId = bodyId ∧ namesRelated own event = true := by
  rw [mem_ownershipEventsForBinding, mem_ofBody, and_assoc]
  constructor
  · rintro ⟨hmem, hbody, -, hnames⟩
    exact ⟨hmem, hbody, hnames⟩
  · rintro ⟨hmem, hbody, hnames⟩
    exact ⟨hmem, hbody, by simp [bodiesAgree, hbody, hown], hnames⟩

theorem bodyHas_iff (hown : own.bodyId = bodyId) {P : OwnershipEvent → Prop} :
    (∃ event ∈ ownershipEventsForBinding (ofBody bodyId events) own, P event)
      ↔ BodyHas events bodyId own P := by
  simp only [mem_eventsForBinding_ofBody hown, BodyHas, and_assoc]

/-- The events that belong to one of a known body are of that body or of an unknown one. -/
theorem forBinding_iff (hbody : selected.bodyId = bodyId) (hknown : bodyId ≠ 0)
    {P : OwnershipEvent → Prop} :
    (∃ event ∈ ownershipEventsForBinding events selected, P event)
      ↔ BodyHas events 0 selected P ∨ BodyHas events bodyId selected P := by
  simp only [mem_ownershipEventsForBinding, bodiesAgree, hbody, BodyHas, Bool.or_eq_true, beq_iff_eq]
  constructor
  · rintro ⟨event, ⟨hmem, (h | h) | h, hnames⟩, hP⟩
    · exact absurd h hknown
    · exact .inl ⟨event, hmem, h, hnames, hP⟩
    · exact .inr ⟨event, hmem, h, hnames, hP⟩
  · rintro (⟨event, hmem, h, hnames, hP⟩ | ⟨event, hmem, h, hnames, hP⟩)
    · exact ⟨event, ⟨hmem, .inl (.inr h), hnames⟩, hP⟩
    · exact ⟨event, ⟨hmem, .inr h, hnames⟩, hP⟩

theorem events_iff (hknown : bodyId ≠ 0)
    (h : IsFirst (fun event => eventMatchesDiagnostic diagnostic event = true) events selected)
    (hown : IsFirst (fun event => event.bodyId = bodyId
      ∧ eventMatchesDiagnostic diagnostic event = true) events own) :
    ((ownershipProblemFromDiagnostic diagnostic events tutorial).category
        = (ownershipProblemFromDiagnostic diagnostic (ofBody bodyId events) tutorial).category
      ∧ ∀ range, range ∈ eventRanges diagnostic events
        ↔ range ∈ eventRanges diagnostic (ofBody bodyId events))
      ↔ EventsAgree diagnostic events bodyId selected := by
  have hownFirst : IsFirst (fun event => eventMatchesDiagnostic diagnostic event = true)
      (ofBody bodyId events) own := by
    rw [← find?_eq_some_iff, ofBody, find?_filter_eq_some_iff]
    simpa using hown
  have hownBody : own.bodyId = bodyId := hown.holds.1
  rw [category_of_selected h, category_of_selected hownFirst, category_eq_iff]
  simp only [mem_eventRanges h, mem_eventRanges hownFirst, bodyHas_iff hownBody, and_congr_right_iff]
  by_cases hbody : selected.bodyId = bodyId
  · -- The event of the body that comes first is the first one of all.
    obtain rfl : selected = own := (h.filter hbody).unique hown
    simp only [forBinding_iff hbody hknown, or_iff_right_iff_imp]
    constructor
    · rintro ⟨hmoved, hranges⟩
      exact .ofBody hbody hmoved hranges
    · intro hagree
      cases hagree with
      | ofBody _ hmoved hranges => exact ⟨hmoved, hranges⟩
      | byChance hother => exact absurd hbody hother
  · constructor
    · rintro ⟨hmoved, hranges⟩
      exact .byChance hbody own hown hmoved hranges
    · intro hagree
      cases hagree with
      | ofBody hsame => exact absurd hsame hbody
      | byChance _ other hother hmoved hranges =>
        obtain rfl : other = own := hother.unique hown
        exact ⟨hmoved, hranges⟩

/-- **The facts of a problem come from the body of an event it touches** exactly when the event that
the diagnostic is explained by, and the binding that is found for its name, agree with the body. -/
theorem facts_from_body_iff (hknown : bodyId ≠ 0)
    (htouch : ∃ event ∈ events, event.exact = true ∧ event.bodyId = bodyId
      ∧ rangesTouch event.range diagnostic.range = true) :
    FactsFromBody diagnostic events tutorial bodyId
      ↔ ∀ selected, IsFirst (fun event => eventMatchesDiagnostic diagnostic event = true) events
          selected →
        BindingAgrees diagnostic events tutorial bodyId selected
          ∧ EventsAgree diagnostic events bodyId selected := by
  obtain ⟨event, hmem, -, hbody, hrange⟩ := htouch
  have hmatch : eventMatchesDiagnostic diagnostic event = true := by
    simp [eventMatchesDiagnostic, hrange]
  obtain ⟨selected, hselected⟩ := exists_isFirst ⟨event, hmem, hmatch⟩
  obtain ⟨own, hown⟩ : ∃ own, IsFirst (fun event => event.bodyId = bodyId
      ∧ eventMatchesDiagnostic diagnostic event = true) events own := by
    obtain ⟨own, hown⟩ := @exists_isFirst _
      (fun event => decide (event.bodyId = bodyId) && eventMatchesDiagnostic diagnostic event) _
      ⟨event, hmem, by simp [hbody, hmatch]⟩
    exact ⟨own, by simpa using hown⟩
  have hevents := @events_iff _ _ tutorial _ _ _ hknown hselected hown
  constructor
  · intro hfacts first hfirst
    obtain rfl := hfirst.unique hselected
    exact ⟨(binding_iff hselected).mp hfacts.binding, hevents.mp ⟨hfacts.category, hfacts.ranges⟩⟩
  · intro hagree
    obtain ⟨hbinding, hagree⟩ := hagree selected hselected
    obtain ⟨hcategory, hranges⟩ := hevents.mpr hagree
    exact ⟨(binding_iff hselected).mpr hbinding, hcategory, hranges⟩

end Facts

/-! ## Two functions -/

/-- No event is of an unknown body. -/
theorem twoFunctions_known (first second : String) {event : OwnershipEvent}
    (h : event ∈ twoFunctions first second) : event.bodyId ≠ 0 := by
  simp only [twoFunctions, List.mem_cons, List.not_mem_nil, or_false] at h
  rcases h with rfl | rfl | rfl | rfl <;> simp [eventIn]

/-- With another name in the first function, the problem of the second one is its own. -/
theorem other_name_facts :
    FactsFromBody (movedValueUsed "y" 12) (twoFunctions "x" "y") {} 2 := by
  have hunknown : ∀ selected P, ¬ BodyHas (twoFunctions "x" "y") 0 selected P :=
    fun selected P ⟨event, hmem, hzero, _⟩ => twoFunctions_known "x" "y" hmem hzero
  have hfirst : IsFirst (fun event => eventMatchesDiagnostic (movedValueUsed "y" 12) event = true)
      (twoFunctions "x" "y") (eventIn 2 10 "y" .move 1) :=
    find?_eq_some_iff.mp (by decide +kernel)
  refine (facts_from_body_iff (by decide) ⟨eventIn 2 10 "y" .invalidUse 2, by decide +kernel, rfl, rfl,
    by decide +kernel⟩).mpr fun selected hselected => ?_
  obtain rfl := hselected.unique hfirst
  refine ⟨⟨fun binding hbinding => absurd hbinding.mem List.not_mem_nil, fun _ => ?_⟩,
    .ofBody rfl (fun _ h => absurd h (hunknown _ _)) fun _ _ h => absurd h (hunknown _ _)⟩
  exact .inr ⟨eventIn 2 10 "y" .move 1, by decide +kernel, rfl, rfl⟩

/-- The bindings of both functions. -/
def bothBindings : OwnershipTutorialModel where
  schemaVersion := 3
  bindings :=
    [{ bodyId := 1, name := "x", range := lineStart 0, typeName := "String", size := none,
       align := none, memoryLayers := [] },
     { bodyId := 2, name := "x", range := lineStart 10, typeName := "String", size := none,
       align := none, memoryLayers := [] }]

/-- The second function also has a binding `x`: its problem gets the binding, the move and the use of
the first one. -/
theorem same_name_earlier :
    (∃ event ∈ twoFunctions "x" "x", event.exact = true ∧ event.bodyId = 2
        ∧ rangesTouch event.range (movedValueUsed "x" 12).range = true)
      ∧ (ownershipProblemFromDiagnostic (movedValueUsed "x" 12) (twoFunctions "x" "x")
        bothBindings).bindingRange = lineStart 0
      ∧ eventRanges (movedValueUsed "x" 12) (twoFunctions "x" "x") = [lineStart 1, lineStart 2]
      ∧ ¬ FactsFromBody (movedValueUsed "x" 12) (twoFunctions "x" "x") bothBindings 2 := by
  have hranges : eventRanges (movedValueUsed "x" 12) (twoFunctions "x" "x")
      = [lineStart 1, lineStart 2] := by decide +kernel
  refine ⟨⟨eventIn 2 10 "x" .invalidUse 2, by decide +kernel, rfl, rfl, by decide +kernel⟩,
    by decide +kernel, hranges, fun h => ?_⟩
  have hown : eventRanges (movedValueUsed "x" 12) (ofBody 2 (twoFunctions "x" "x"))
      = [lineStart 11] := by decide +kernel
  have hmem := (h.ranges (lineStart 1)).mp (by rw [hranges]; exact List.mem_cons_self)
  rw [hown] at hmem
  exact absurd hmem (by decide)

end RustWorkbench.Analyzer
