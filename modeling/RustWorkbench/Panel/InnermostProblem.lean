import RustWorkbench.Panel.Pending

/-!
# The problem under the cursor

Several problems may have the cursor in their ranges; the innermost one is meant.
`ownership_problem_index_at_position` measures a range by its lines first and by the difference of its
columns second, and takes the smallest.  The difference of the columns saturates: two ranges over the
same lines that end left of where they start both measure zero, whichever lies inside the other.

* `WinsOverInner` — a range that is taken for the smallest though one lies strictly inside it.
* `cursor_selects_innermost_iff` — the selected problem is an innermost one unless the list has one.
-/

namespace RustWorkbench.Panel

def Contains (range : Range) (position : Position) : Prop :=
  range.start ≤ position ∧ position ≤ range.stop

def StrictlyInside (inner outer : Range) : Prop :=
  outer.start ≤ inner.start ∧ inner.stop ≤ outer.stop ∧ inner ≠ outer

/-- The range of the problem has the position, and so does no range strictly inside it. -/
structure Innermost (problems : List OwnershipProblem) (position : Position)
    (problem : OwnershipProblem) : Prop where
  contains : Contains problem.primaryRange position
  innermost : ∀ other ∈ problems, Contains other.primaryRange position →
    ¬ StrictlyInside other.primaryRange problem.primaryRange

/-- The ranges have their first and their last line in common, and the outer one ends no further right
than it starts, so that both have the difference zero. -/
def Unmeasured (inner outer : Range) : Prop :=
  inner.start.line = outer.start.line ∧ inner.stop.line = outer.stop.line ∧
    outer.stop.character ≤ outer.start.character

def lineSpan (range : Range) : Nat := range.stop.line - range.start.line

/-- **A problem that is taken for the smallest though one lies strictly inside it.**  The measure does
not tell the two apart; no range with the position has fewer lines; and every earlier one with as many
ends further right than it starts. -/
structure WinsOverInner (problems : List OwnershipProblem) (position : Position) (index : Nat)
    (outer : OwnershipProblem) : Prop where
  listed : problems[index]? = some outer
  contains : Contains outer.primaryRange position
  inner : ∃ inner ∈ problems, Contains inner.primaryRange position ∧
    StrictlyInside inner.primaryRange outer.primaryRange ∧
    Unmeasured inner.primaryRange outer.primaryRange
  fewest : ∀ other ∈ problems, Contains other.primaryRange position →
    lineSpan outer.primaryRange ≤ lineSpan other.primaryRange
  first : ∀ earlier < index, ∀ other, problems[earlier]? = some other →
    Contains other.primaryRange position →
    lineSpan other.primaryRange = lineSpan outer.primaryRange →
    other.primaryRange.start.character < other.primaryRange.stop.character

theorem positionIsInRange_iff {position : Position} {range : Range} :
    positionIsInRange position range = true ↔ Contains range position := by
  simp [positionIsInRange, positionIsBefore, Contains]

/-- A range does not measure less than one strictly inside it, and as much only if the columns are
not measured. -/
theorem unmeasured_of_measure_le {inner outer : Range} (hinside : StrictlyInside inner outer)
    (hinner : inner.WellFormed)
    (hmeasure : outer.stop.line - outer.start.line < inner.stop.line - inner.start.line ∨
      outer.stop.line - outer.start.line = inner.stop.line - inner.start.line ∧
        outer.stop.character - outer.start.character
          ≤ inner.stop.character - inner.start.character) : Unmeasured inner outer := by
  obtain ⟨⟨a, b⟩, ⟨c, d⟩⟩ := inner
  obtain ⟨⟨a', b'⟩, ⟨c', d'⟩⟩ := outer
  obtain ⟨hstart, hstop, hne⟩ := hinside
  simp only [Range.WellFormed, Position.le_def, ne_eq, Range.mk.injEq, Position.mk.injEq]
    at hinner hstart hstop hne
  simp only [Unmeasured] at hmeasure ⊢
  omega

/-- The measure of the selected problem is the least. -/
theorem measure_le_of_selected {problems : List OwnershipProblem} {position : Position}
    {problem other : OwnershipProblem} {index j : Nat}
    (h : ownershipProblemIndexAtPosition problems position = some index)
    (hget : problems[index]? = some problem) (hother : problems[j]? = some other)
    (hcontains : Contains other.primaryRange position) :
    lineSpan problem.primaryRange < lineSpan other.primaryRange ∨
      lineSpan problem.primaryRange = lineSpan other.primaryRange ∧
        (problem.primaryRange.stop.character - problem.primaryRange.start.character
            < other.primaryRange.stop.character - other.primaryRange.start.character ∨
          problem.primaryRange.stop.character - problem.primaryRange.start.character
            = other.primaryRange.stop.character - other.primaryRange.start.character ∧ index ≤ j) := by
  obtain ⟨⟨selected, i⟩, hargmin, rfl⟩ := Option.map_eq_some_iff.mp h
  obtain rfl := Option.some.inj ((argmin_zipIdx_lt hargmin).1.symm.trans hget)
  have hmem : (other, j) ∈ problems.zipIdx.filter
      fun c => positionIsInRange position c.1.primaryRange :=
    List.mem_filter.mpr
      ⟨List.mem_zipIdx_iff_getElem?.mpr hother, positionIsInRange_iff.mpr hcontains⟩
  have hleast := List.le_of_mem_argmin hmem (Option.mem_def.mpr hargmin)
  rwa [Prod.Lex.toLex_le_toLex, Prod.Lex.toLex_le_toLex] at hleast

/-- **The problem under the cursor is an innermost one**, unless a range with the position wins over
one strictly inside it. -/
theorem cursor_selects_innermost_iff {problems : List OwnershipProblem} {position : Position}
    {index : Nat} (h : ownershipProblemIndexAtPosition problems position = some index) :
    ∃ problem, problems[index]? = some problem ∧
      (Innermost problems position problem ↔
        ¬ ∃ i outer, WinsOverInner problems position i outer) := by
  obtain ⟨⟨problem, i⟩, hargmin, hi⟩ := Option.map_eq_some_iff.mp h
  obtain rfl : i = index := hi
  have hget : problems[i]? = some problem := (argmin_zipIdx_lt hargmin).1
  have hcontains := positionIsInRange_iff.mp (argmin_zipIdx_lt hargmin).2
  refine ⟨problem, hget, ?_, fun hnone => ⟨hcontains, fun other hother hinner hinside => ?_⟩⟩
  · -- the problem that wins over another is the selected one
    rintro hinnermost ⟨j, outer, hwins⟩
    obtain ⟨inner, hmem, hinner, hinside, hsame⟩ := hwins.inner
    obtain rfl : j = i := by
      rcases measure_le_of_selected h hget hwins.listed hwins.contains with hlines | ⟨hlines, hcolumns⟩
      · exact absurd (hwins.fewest problem (List.mem_of_getElem? hget) hcontains) (by omega)
      · have hzero := hsame.2.2
        by_contra hne
        have := hwins.first i (by omega) problem hget hcontains hlines
        omega
    obtain rfl := Option.some.inj (hwins.listed.symm.trans hget)
    exact hinnermost.innermost inner hmem hinner hinside
  · obtain ⟨j, hj⟩ := List.mem_iff_getElem?.mp hother
    have hsame : Unmeasured other.primaryRange problem.primaryRange := by
      refine unmeasured_of_measure_le hinside (hinner.1.trans hinner.2) ?_
      have := measure_le_of_selected h hget hj hinner
      unfold lineSpan at this
      omega
    refine hnone ⟨i, problem, hget, hcontains, ⟨other, hother, hinner, hinside, hsame⟩, ?_, ?_⟩
    · intro another hanother hin
      obtain ⟨k, hk⟩ := List.mem_iff_getElem?.mp hanother
      have := measure_le_of_selected h hget hk hin
      omega
    · intro k hk another hanother hin hlines
      have := measure_le_of_selected h hget hanother hin
      have hzero := hsame.2.2
      omega

/-- A problem that is known by its range. -/
def problemAt (id : String) (range : Range) : OwnershipProblem where
  id := id
  category := "moved_value"
  diagnosticCode := none
  message := ""
  bindingName := "a"
  primaryRange := range
  bindingRange := range
  relatedRanges := []
  related := []
  modelPosition := range.start
  precision := "exact"

/-- A problem on one line inside one over two lines. -/
theorem nested_lines_select_inner :
    let problems := [problemAt "outer" ⟨⟨0, 4⟩, ⟨1, 6⟩⟩, problemAt "inner" ⟨⟨0, 8⟩, ⟨0, 9⟩⟩]
    ownershipProblemIndexAtPosition problems ⟨0, 8⟩ = some 1 ∧
      Innermost problems ⟨0, 8⟩ (problemAt "inner" ⟨⟨0, 8⟩, ⟨0, 9⟩⟩) := by
  have hindex : ownershipProblemIndexAtPosition [problemAt "outer" ⟨⟨0, 4⟩, ⟨1, 6⟩⟩,
      problemAt "inner" ⟨⟨0, 8⟩, ⟨0, 9⟩⟩] ⟨0, 8⟩ = some 1 := by decide
  obtain ⟨problem, hproblem, hiff⟩ := cursor_selects_innermost_iff hindex
  obtain rfl := Option.some.inj hproblem
  refine ⟨hindex, hiff.mpr ?_⟩
  rintro ⟨i, outer, hwins⟩
  -- neither range lies inside the other over the same lines
  obtain ⟨inner, hinner, -, hinside, -, hlines, -⟩ := hwins.inner
  rcases List.mem_pair.mp (List.mem_of_getElem? hwins.listed) with rfl | rfl <;>
    rcases List.mem_pair.mp hinner with rfl | rfl
  · exact hinside.2.2 rfl
  · exact absurd hlines (by decide)
  · exact absurd hinside.1 (by decide)
  · exact hinside.2.2 rfl

/-- **The outer problem is selected.**  Both ranges go from the first line to the second and end left
of where they start, so the first of the list wins. -/
theorem outer_problem_selected :
    let outer : Range := ⟨⟨0, 10⟩, ⟨1, 5⟩⟩
    let inner : Range := ⟨⟨0, 12⟩, ⟨1, 3⟩⟩
    let problems := [problemAt "outer" outer, problemAt "inner" inner]
    ownershipProblemIndexAtPosition problems ⟨1, 0⟩ = some 0 ∧
      Contains inner ⟨1, 0⟩ ∧ StrictlyInside inner outer ∧
      ¬ Innermost problems ⟨1, 0⟩ (problemAt "outer" outer) := by
  refine ⟨by decide, ⟨by decide, by decide⟩, ⟨by decide, by decide, by decide⟩, fun h => ?_⟩
  exact h.innermost (problemAt "inner" ⟨⟨0, 12⟩, ⟨1, 3⟩⟩)
    (List.mem_cons_of_mem _ List.mem_cons_self) ⟨by decide, by decide⟩
    ⟨by decide, by decide, by decide⟩

end RustWorkbench.Panel
