import Mathlib.Data.List.Induction
import RustWorkbench.Analyzer.Problems

/-!
# Which problems are listed

`ownershipProblemList` sorts and removes repeats; what it lists can be read off the stored
facts directly.

* `mem_problemList_iff` — a problem is listed when it is kept among the candidates with its
  own range.
* `problemList_perm` — the list for well-formed ranges.
-/

namespace RustWorkbench.Analyzer

open StableSort

/-- One rejected use: it becomes a problem unless a diagnostic or an earlier one touches it. -/
def addUncovered (diagnostics : List OwnershipDiagnostic) (reported : List OwnershipEvent)
    (event : OwnershipEvent) : List OwnershipEvent :=
  if event.kind = .invalidUse
      ∧ (∀ diagnostic ∈ diagnostics, rangesTouch diagnostic.range event.range = false)
      ∧ (∀ earlier ∈ reported, rangesTouch earlier.range event.range = false) then
    reported ++ [event]
  else reported

/-- The rejected uses that no stored diagnostic and no earlier such use touches. -/
def uncoveredUses (diagnostics : List OwnershipDiagnostic) (events : List OwnershipEvent) :
    List OwnershipEvent :=
  events.foldl (addUncovered diagnostics) []

variable {diagnostics : List OwnershipDiagnostic} {events : List OwnershipEvent}
  {tutorial : OwnershipTutorialModel}

variable {event : OwnershipEvent} {p : OwnershipProblem}

theorem mem_foldl_addUncovered :
    ∀ (rest reported : List OwnershipEvent),
      event ∈ rest.foldl (addUncovered diagnostics) reported →
      event ∈ reported ∨ event ∈ rest ∧ event.kind = .invalidUse
        ∧ ∀ diagnostic ∈ diagnostics, rangesTouch diagnostic.range event.range = false
  | [], reported, h => Or.inl h
  | e :: rest, reported, h => by
    rcases mem_foldl_addUncovered rest _ h with h | ⟨hmem, h⟩
    · unfold addUncovered at h
      split at h
      · rename_i hnew
        rcases List.mem_append.mp h with h | h
        · exact Or.inl h
        · rw [List.mem_singleton] at h
          subst h
          exact Or.inr ⟨List.mem_cons_self, hnew.1, hnew.2.1⟩
      · exact Or.inl h
    · exact Or.inr ⟨List.mem_cons_of_mem _ hmem, h⟩

/-- An uncovered use is a rejected use that no diagnostic touches. -/
theorem mem_uncoveredUses (h : event ∈ uncoveredUses diagnostics events) :
    event ∈ events ∧ event.kind = .invalidUse
      ∧ ∀ diagnostic ∈ diagnostics, rangesTouch diagnostic.range event.range = false := by
  rcases mem_foldl_addUncovered events [] h with h | h
  · cases h
  · exact h

/-- No uncovered use touches another one. -/
theorem uncoveredUses_pairwise : (uncoveredUses diagnostics events).Pairwise
    fun earlier event => rangesTouch earlier.range event.range = false := by
  unfold uncoveredUses
  induction events using List.reverseRecOn with
  | nil => exact .nil
  | append_singleton events event ih =>
    rw [List.foldl_append, List.foldl_cons, List.foldl_nil, addUncovered]
    split
    · next hnew =>
      refine List.pairwise_append.mpr ⟨ih, List.pairwise_singleton _ _, fun earlier he _ hmem => ?_⟩
      rw [List.mem_singleton.mp hmem]
      exact hnew.2.2 earlier he
    · exact ih

/-- The loop over the events adds a problem for each uncovered use. -/
theorem foldl_addInvalidUse : ∀ (rest reported : List OwnershipEvent),
    rest.foldl (addInvalidUse events)
        (diagnostics.map (ownershipProblemFromDiagnostic · events tutorial)
          ++ reported.map (ownershipProblemFromInvalidUse events))
      = diagnostics.map (ownershipProblemFromDiagnostic · events tutorial)
        ++ (rest.foldl (addUncovered diagnostics) reported).map
          (ownershipProblemFromInvalidUse events)
  | [], _ => rfl
  | e :: rest, reported => by
    rw [List.foldl_cons, List.foldl_cons, ← foldl_addInvalidUse rest]
    congr 1
    unfold addInvalidUse addUncovered
    by_cases hkind : e.kind = .invalidUse
    · rw [if_neg (by simp [hkind])]
      by_cases htouch : (∀ diagnostic ∈ diagnostics, rangesTouch diagnostic.range e.range = false)
          ∧ (∀ earlier ∈ reported, rangesTouch earlier.range e.range = false)
      · rw [if_neg, if_pos ⟨hkind, htouch⟩, List.map_append, List.append_assoc]
        · rfl
        · rw [Bool.not_eq_true, List.any_eq_false]
          intro problem hproblem
          rcases List.mem_append.mp hproblem with hmem | hmem
          · obtain ⟨diagnostic, hd, rfl⟩ := List.mem_map.mp hmem
            rw [Bool.not_eq_true]
            exact htouch.1 diagnostic hd
          · obtain ⟨earlier, he, rfl⟩ := List.mem_map.mp hmem
            rw [Bool.not_eq_true]
            exact htouch.2 earlier he
      · rw [if_pos, if_neg (fun h => htouch h.2)]
        rw [List.any_eq_true]
        by_contra hnone
        refine htouch ⟨fun d hd => ?_, fun earlier he => ?_⟩
        · rw [← Bool.not_eq_true]
          intro ht
          exact hnone ⟨_, List.mem_append_left _ (List.mem_map.mpr ⟨d, hd, rfl⟩), ht⟩
        · rw [← Bool.not_eq_true]
          intro ht
          exact hnone ⟨_, List.mem_append_right _ (List.mem_map.mpr ⟨earlier, he, rfl⟩), ht⟩
    · rw [if_pos (by simp [hkind]), if_neg (fun h => hkind h.1)]

/-- The candidates for the list: one problem per diagnostic, one per uncovered use. -/
def problemCandidates (diagnostics : List OwnershipDiagnostic) (events : List OwnershipEvent)
    (tutorial : OwnershipTutorialModel) : List OwnershipProblem :=
  diagnostics.map (ownershipProblemFromDiagnostic · events tutorial)
    ++ (uncoveredUses diagnostics events).map (ownershipProblemFromInvalidUse events)

theorem problemList_eq :
    ownershipProblemList diagnostics events tutorial
      = dedupBy (sameKey problemKey)
          (sortByKey OwnershipProblem.primaryRange
            (problemCandidates diagnostics events tutorial)) := by
  have h := @foldl_addInvalidUse diagnostics events tutorial events []
  rw [List.map_nil, List.append_nil] at h
  unfold ownershipProblemList problemCandidates uncoveredUses
  rw [← h]

/-- Sorting and removing repeats act on the problems of each range separately. -/
theorem problemList_filter (range : Range) :
    (ownershipProblemList diagnostics events tutorial).filter (fun p => p.primaryRange = range)
      = dedupBy (sameKey problemKey)
          ((problemCandidates diagnostics events tutorial).filter
            fun p => p.primaryRange = range) := by
  have hkey : ∀ p q : OwnershipProblem, sameKey problemKey p q = true →
      p.primaryRange = q.primaryRange := by
    intro p q h
    simp only [sameKey, problemKey, decide_eq_true_eq, Prod.mk.injEq] at h
    exact h.2.2
  rw [problemList_eq, dedupBy_filter hkey range (sortByKey_pairwise _ _), filter_sortByKey]

theorem mem_problemList_iff :
    p ∈ ownershipProblemList diagnostics events tutorial
      ↔ p ∈ dedupBy (sameKey problemKey)
          ((problemCandidates diagnostics events tutorial).filter
            fun q => q.primaryRange = p.primaryRange) := by
  rw [← problemList_filter, List.mem_filter]
  simp

theorem problemCandidates_filter (range : Range) :
    (problemCandidates diagnostics events tutorial).filter (fun p => p.primaryRange = range)
      = (diagnostics.filter fun d => d.range = range).map
          (ownershipProblemFromDiagnostic · events tutorial)
        ++ ((uncoveredUses diagnostics events).filter fun e => e.range = range).map
          (ownershipProblemFromInvalidUse events) := by
  unfold problemCandidates
  rw [List.filter_append, List.filter_map, List.filter_map]
  rfl

/-- What stands for a diagnostic when repeats are removed. -/
abbrev diagnosticKey (events : List OwnershipEvent) (tutorial : OwnershipTutorialModel)
    (diagnostic : OwnershipDiagnostic) : String × String × Range :=
  problemKey (ownershipProblemFromDiagnostic diagnostic events tutorial)

section Ranges

variable (hranges : ∀ e ∈ events, e.range.WellFormed)
include hranges

theorem touches_itself {e : OwnershipEvent} (he : e ∈ uncoveredUses diagnostics events) :
    rangesTouch e.range e.range = true :=
  rangesTouch_iff.mpr ⟨hranges e (mem_uncoveredUses he).1, hranges e (mem_uncoveredUses he).1⟩

/-- No diagnostic has the range of an uncovered use. -/
theorem diagnostics_filter_of_use {e : OwnershipEvent}
    (he : e ∈ uncoveredUses diagnostics events) :
    diagnostics.filter (fun d => d.range = e.range) = [] := by
  refine List.filter_eq_nil_iff.mpr fun d hd hsame => ?_
  have huntouched := (mem_uncoveredUses he).2.2 d hd
  rw [of_decide_eq_true hsame, touches_itself hranges he] at huntouched
  cases huntouched

/-- Nor has another use. -/
theorem uses_filter_of_use {e : OwnershipEvent} {uses : List OwnershipEvent} {range : Range}
    (h : ((uncoveredUses diagnostics events).filter fun e => e.range = range) = e :: uses) :
    uses = [] := by
  have hmem : ∀ other ∈ e :: uses,
      other ∈ uncoveredUses diagnostics events ∧ other.range = range := by
    intro other hother
    rw [← h, List.mem_filter, decide_eq_true_eq] at hother
    exact hother
  have hpairs := List.Pairwise.filter (fun e : OwnershipEvent => e.range = range)
    (@uncoveredUses_pairwise diagnostics events)
  rw [h] at hpairs
  refine List.eq_nil_iff_forall_not_mem.mpr fun other hother => ?_
  have huntouched := List.rel_of_pairwise_cons hpairs hother
  obtain ⟨he, hrange⟩ := hmem e List.mem_cons_self
  rw [(hmem other (List.mem_cons_of_mem _ hother)).2, ← hrange, touches_itself hranges he]
    at huntouched
  cases huntouched

/-- **What is listed for well-formed ranges**: the stored diagnostics without those that repeat the
one before them, and all uncovered uses. -/
theorem problemList_perm (hsorted : diagnostics.Pairwise (keyLe OwnershipDiagnostic.range)) :
    (ownershipProblemList diagnostics events tutorial).Perm
      ((dedupBy (sameKey (diagnosticKey events tutorial)) diagnostics).map
          (ownershipProblemFromDiagnostic · events tutorial)
        ++ (uncoveredUses diagnostics events).map (ownershipProblemFromInvalidUse events)) := by
  have hkey : ∀ a b : OwnershipDiagnostic, sameKey (diagnosticKey events tutorial) a b = true →
      a.range = b.range := by
    intro a b h
    simp only [sameKey, problemKey, decide_eq_true_eq, Prod.mk.injEq] at h
    exact h.2.2
  refine perm_of_filter OwnershipProblem.primaryRange fun range => ?_
  rw [problemList_filter, problemCandidates_filter, List.filter_append, List.filter_map,
    List.filter_map]
  show _ = ((dedupBy (sameKey (diagnosticKey events tutorial)) diagnostics).filter
      fun d => d.range = range).map (ownershipProblemFromDiagnostic · events tutorial)
    ++ ((uncoveredUses diagnostics events).filter fun e => e.range = range).map
      (ownershipProblemFromInvalidUse events)
  rw [dedupBy_filter hkey range hsorted]
  cases huses : (uncoveredUses diagnostics events).filter fun e => e.range = range with
  | nil => rw [List.map_nil, List.append_nil, List.append_nil, dedupBy_map]; rfl
  | cons e uses =>
    have hmem : e ∈ (uncoveredUses diagnostics events).filter fun e => e.range = range := by
      rw [huses]
      exact List.mem_cons_self
    rw [List.mem_filter, decide_eq_true_eq] at hmem
    obtain ⟨he, rfl⟩ := hmem
    rw [diagnostics_filter_of_use hranges he, uses_filter_of_use hranges huses]
    rfl

end Ranges

/-- Only `E0382` has the categories of a rejected use. -/
theorem category_eq_of_use {code : String} {related : List OwnershipEvent}
    (h : ownershipProblemCategory code related = "partial_move"
      ∨ ownershipProblemCategory code related = "use_after_move") : code = "E0382" := by
  unfold ownershipProblemCategory at h
  split at h
  · rfl
  all_goals exact absurd h (by decide)

theorem use_category (event : OwnershipEvent) :
    (ownershipProblemFromInvalidUse events event).category = "partial_move"
      ∨ (ownershipProblemFromInvalidUse events event).category = "use_after_move" := by
  unfold ownershipProblemFromInvalidUse
  dsimp only
  split
  · exact Or.inl rfl
  · exact Or.inr rfl

/-- A candidate that repeats the problem of a rejected use has its id. -/
theorem id_eq_of_use_key (hp : p ∈ problemCandidates diagnostics events tutorial)
    (hkey : problemKey p = problemKey (ownershipProblemFromInvalidUse events event)) :
    p.id = ownershipProblemId "E0382" event.name event.range := by
  obtain ⟨hcategory, hname, hrange⟩ : p.category
        = (ownershipProblemFromInvalidUse events event).category
      ∧ p.bindingName = event.name ∧ p.primaryRange = event.range := by
    simpa [problemKey, ownershipProblemFromInvalidUse] using hkey
  rcases List.mem_append.mp hp with hmem | hmem
  · obtain ⟨d, -, rfl⟩ := List.mem_map.mp hmem
    have hcode : d.code = "E0382" := by
      have huse := @use_category events event
      rw [← hcategory] at huse
      exact category_eq_of_use huse
    show ownershipProblemId d.code (diagnosticBindingName d events) d.range = _
    have hname' : diagnosticBindingName d events = event.name := hname
    have hrange' : d.range = event.range := hrange
    rw [hcode, hname', hrange']
  · obtain ⟨e, -, rfl⟩ := List.mem_map.mp hmem
    have hname' : e.name = event.name := hname
    have hrange' : e.range = event.range := hrange
    show ownershipProblemId "E0382" e.name e.range = _
    rw [hname', hrange']

/-- A diagnostic is not a repeat: the stored diagnostic before it with the same range has
another category or another binding. -/
def IsDistinct (diagnostics : List OwnershipDiagnostic) (events : List OwnershipEvent)
    (tutorial : OwnershipTutorialModel) (diagnostic : OwnershipDiagnostic) : Prop :=
  ∃ pre post, diagnostics.filter (fun d => d.range = diagnostic.range) = pre ++ diagnostic :: post
    ∧ IsNew (diagnosticKey events tutorial) pre diagnostic

/-- A distinct diagnostic is listed. -/
theorem problem_mem_of_isDistinct {d : OwnershipDiagnostic}
    (h : IsDistinct diagnostics events tutorial d) :
    ownershipProblemFromDiagnostic d events tutorial
      ∈ ownershipProblemList diagnostics events tutorial := by
  obtain ⟨pre, post, hsplit, hlast⟩ := h
  rw [mem_problemList_iff, mem_dedupBy_iff,
    show (ownershipProblemFromDiagnostic d events tutorial).primaryRange = d.range from rfl,
    problemCandidates_filter, hsplit, List.map_append, List.map_cons, List.append_assoc,
    List.cons_append]
  refine ⟨_, _, rfl, ?_⟩
  intro q hq
  rw [List.getLast?_map, Option.map_eq_some_iff] at hq
  obtain ⟨earlier, hearlier, rfl⟩ := hq
  exact hlast earlier hearlier

/-- A listed problem comes from a distinct diagnostic or from an uncovered use. -/
theorem of_mem_problemList (h : p ∈ ownershipProblemList diagnostics events tutorial) :
    (∃ d, IsDistinct diagnostics events tutorial d
        ∧ p = ownershipProblemFromDiagnostic d events tutorial)
      ∨ ∃ e ∈ uncoveredUses diagnostics events, p = ownershipProblemFromInvalidUse events e := by
  rw [mem_problemList_iff, mem_dedupBy_iff, problemCandidates_filter] at h
  obtain ⟨pre, post, hsplit, hlast⟩ := h
  rcases List.append_eq_append_iff.mp hsplit.symm with ⟨mid, hA, hB⟩ | ⟨mid, hA, hB⟩
  · cases mid with
    | nil =>
      rw [List.nil_append] at hB
      have hmem : p ∈ ((uncoveredUses diagnostics events).filter fun e =>
          e.range = p.primaryRange).map (ownershipProblemFromInvalidUse events) := by
        rw [← hB]
        exact List.mem_cons_self
      obtain ⟨e, he, rfl⟩ := List.mem_map.mp hmem
      exact Or.inr ⟨e, (List.mem_filter.mp he).1, rfl⟩
    | cons q mid =>
      obtain ⟨rfl, -⟩ := List.cons.inj hB
      obtain ⟨dpre, drest, hd, rfl, hrest⟩ := List.map_eq_append_iff.mp hA
      obtain ⟨d, dpost, rfl, rfl, rfl⟩ := List.map_eq_cons_iff.mp hrest
      refine Or.inl ⟨d, ⟨dpre, dpost, hd, ?_⟩, rfl⟩
      intro earlier hearlier
      refine hlast _ ?_
      rw [List.getLast?_map, hearlier]
      rfl
  · have hmem : p ∈ ((uncoveredUses diagnostics events).filter fun e =>
        e.range = p.primaryRange).map (ownershipProblemFromInvalidUse events) := by
      rw [hB]
      exact List.mem_append_right _ List.mem_cons_self
    obtain ⟨e, he, rfl⟩ := List.mem_map.mp hmem
    exact Or.inr ⟨e, (List.mem_filter.mp he).1, rfl⟩

/-- What an uncovered use would be listed as is listed, perhaps under a diagnostic. -/
theorem exists_problem_of_uncovered {e : OwnershipEvent}
    (h : e ∈ uncoveredUses diagnostics events) :
    ∃ p ∈ ownershipProblemList diagnostics events tutorial,
      p.id = ownershipProblemId "E0382" e.name e.range ∧ p.primaryRange = e.range := by
  have hcand : ownershipProblemFromInvalidUse events e
      ∈ problemCandidates diagnostics events tutorial :=
    List.mem_append_right _ (List.mem_map.mpr ⟨e, h, rfl⟩)
  obtain ⟨p, hp, hkey⟩ := exists_mem_dedupBy (g := problemKey)
    ((mem_sortByKey OwnershipProblem.primaryRange).mpr hcand)
  have hpcand : p ∈ problemCandidates diagnostics events tutorial :=
    (mem_sortByKey _).mp ((dedupBy_sublist _).mem hp)
  refine ⟨p, problemList_eq ▸ hp, id_eq_of_use_key hpcand hkey, ?_⟩
  simp only [problemKey, Prod.mk.injEq] at hkey
  exact hkey.2.2

/-- **What holds of every listed problem.** -/
theorem forall_problemList_iff {Q : String → Range → Prop} :
    (∀ p ∈ ownershipProblemList diagnostics events tutorial, Q p.id p.primaryRange)
      ↔ (∀ d, IsDistinct diagnostics events tutorial d →
          Q (ownershipProblemFromDiagnostic d events tutorial).id d.range)
        ∧ ∀ e ∈ uncoveredUses diagnostics events,
          Q (ownershipProblemId "E0382" e.name e.range) e.range := by
  constructor
  · intro h
    refine ⟨fun d hd => h _ (problem_mem_of_isDistinct hd), fun e he => ?_⟩
    obtain ⟨p, hp, hid, hrange⟩ := @exists_problem_of_uncovered _ _ tutorial _ he
    rw [← hid, ← hrange]
    exact h p hp
  · rintro ⟨hdiag, huse⟩ p hp
    rcases of_mem_problemList hp with ⟨d, hd, rfl⟩ | ⟨e, he, rfl⟩
    · exact hdiag d hd
    · exact huse e he

end RustWorkbench.Analyzer
