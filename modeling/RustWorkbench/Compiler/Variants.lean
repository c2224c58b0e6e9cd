import RustWorkbench.Compiler.Patch

/-!
# The texts of a wrapper variant

The edits of a variant are accepted or refused as a set, whatever their order.

* `normalizeVariantEdits_ok_iff` — which edits are accepted.
* `variantTexts_of_passes` — their texts are those of one simultaneous replacement.
-/

namespace RustWorkbench.Compiler

variable {sources : List (Path × Text)}

/-- **Edits that pass are kept, each once.** -/
theorem normalizeEdits_of_passes : ∀ {edits accepted : List RepairEdit}, accepted.Nodup →
    Passes sources accepted edits →
    ∃ result, normalizeEdits sources accepted accepted edits = .ok result ∧ result.Nodup ∧
      ∀ e, e ∈ result ↔ e ∈ accepted ∨ e ∈ edits
  | [], accepted, hnodup, _ => ⟨accepted, rfl, hnodup, by simp⟩
  | edit :: edits, accepted, hnodup, hpass => by
    obtain ⟨hin, hfree, hrest⟩ := passes_cons_iff.mp hpass
    obtain ⟨source, hsource, hvalid⟩ := inSource_iff.mp hin
    unfold normalizeEdits
    simp only [hsource, hvalid, Bool.false_eq_true, if_false]
    by_cases hseen : edit ∈ accepted
    · rw [if_pos hseen]
      obtain ⟨result, hok, hres, hmem⟩ :=
        normalizeEdits_of_passes hnodup ((passes_append_of_mem hseen).mp hrest)
      refine ⟨result, hok, hres, fun e => ?_⟩
      rw [hmem e, List.mem_cons]
      constructor
      · exact fun h => h.imp_right Or.inr
      · rintro (h | rfl | h)
        · exact Or.inl h
        · exact Or.inl hseen
        · exact Or.inr h
    · have hany : ¬ (accepted.any fun old => editsConflict old edit) = true := by
        rw [Bool.not_eq_true, List.any_eq_false]
        intro old hold
        simp [hfree old hold]
      have hnew : (accepted ++ [edit]).Nodup := by
        rw [List.nodup_append]
        refine ⟨hnodup, List.nodup_singleton edit, ?_⟩
        rintro a ha b hb rfl
        exact hseen (List.mem_singleton.mp hb ▸ ha)
      rw [if_neg hseen, if_neg hany]
      obtain ⟨result, hok, hres, hmem⟩ := normalizeEdits_of_passes hnew hrest
      refine ⟨result, hok, hres, fun e => ?_⟩
      rw [hmem e, List.mem_append, List.mem_singleton, List.mem_cons, or_assoc]

/-- **Edits that do not pass are refused.**  An edit that repeats an accepted one is not checked
for conflicts again, and need not be: the accepted edits have none among themselves. -/
theorem normalizeEdits_of_not_passes : ∀ {edits accepted : List RepairEdit},
    (∀ e ∈ accepted, ∀ f ∈ accepted, editsConflict e f = false) →
    ¬ Passes sources accepted edits →
    ∃ message, normalizeEdits sources accepted accepted edits = .error message
  | [], accepted, _, hfail => absurd (passes_nil sources accepted) hfail
  | edit :: edits, accepted, hacc, hfail => by
    rw [passes_cons_iff] at hfail
    unfold normalizeEdits
    cases hsource : sourceOf sources edit.path with
    | none => exact ⟨_, rfl⟩
    | some source =>
      dsimp only
      by_cases hvalid : invalidRange source edit = true
      · rw [if_pos hvalid]
        exact ⟨_, rfl⟩
      have hin : InSource sources edit = true :=
        inSource_iff.mpr ⟨source, hsource, by simpa using hvalid⟩
      rw [if_neg hvalid]
      by_cases hseen : edit ∈ accepted
      · rw [if_pos hseen]
        refine normalizeEdits_of_not_passes hacc fun hpass => hfail ⟨hin, ?_, ?_⟩
        · exact fun o ho => hacc o ho edit hseen
        · exact (passes_append_of_mem hseen).mpr hpass
      rw [if_neg hseen]
      by_cases hany : (accepted.any fun old => editsConflict old edit) = true
      · rw [if_pos hany]
        exact ⟨_, rfl⟩
      have hfree : ∀ o ∈ accepted, editsConflict o edit = false := by
        rw [Bool.not_eq_true, List.any_eq_false] at hany
        intro o ho
        simpa using hany o ho
      rw [if_neg hany]
      refine normalizeEdits_of_not_passes ?_ fun hpass => hfail ⟨hin, hfree, hpass⟩
      intro e he f hf
      rcases List.mem_append.mp he with he | he <;> rcases List.mem_append.mp hf with hf | hf
      · exact hacc e he f hf
      · rw [List.mem_singleton.mp hf]
        exact hfree e he
      · rw [List.mem_singleton.mp he, editsConflict_comm]
        exact hfree f hf
      · rw [List.mem_singleton.mp he, List.mem_singleton.mp hf]
        exact editsConflict_self edit

/-- Passing is a property of the set of edits. -/
theorem passes_of_subset {old edits others : List RepairEdit} (h : others ⊆ edits)
    (hpass : Passes sources old edits) : Passes sources old others :=
  ⟨fun e he => hpass.inSource e (h he), fun e he f hf => hpass.free e (h he) f (h hf),
    fun o ho e he => hpass.apart o ho e (h he)⟩

/-- `normalize_variant_edits` succeeds exactly on edits that pass. -/
theorem normalizeVariantEdits_ok_iff {plan : RepairPlan} {edits : List RepairEdit} :
    (∃ accepted, normalizeVariantEdits plan edits = .ok accepted) ↔
      ∃ sources, planSourceTexts plan = .ok sources ∧ Passes sources [] edits := by
  unfold normalizeVariantEdits
  cases hsources : planSourceTexts plan with
  | error message => simp
  | ok sources =>
    simp only [Except.ok.injEq, exists_eq_left']
    constructor
    · rintro ⟨accepted, hok⟩
      by_contra hfail
      obtain ⟨message, herr⟩ := normalizeEdits_of_not_passes (by simp) hfail
      rw [hok] at herr
      cases herr
    · intro hpass
      obtain ⟨result, hok, _⟩ := normalizeEdits_of_passes List.nodup_nil hpass
      exact ⟨result, hok⟩

/-- The text that the edits leave for a path: nothing is written for a file without edits. -/
def variantText (sources : List (Path × Text)) (edits : List RepairEdit) (path : Path) :
    Option Text :=
  if path ∈ touchedPaths edits then
    (sourceOf sources path).map fun source => replaceAll path source edits
  else none

/-- For edits that pass the text depends on their set only. -/
theorem variantText_congr {edits others : List RepairEdit} (hpass : Passes sources [] edits)
    (hmem : ∀ e, e ∈ edits ↔ e ∈ others) (path : Path) :
    variantText sources edits path = variantText sources others path := by
  have hcompat : Compatible sources edits.dedup :=
    ⟨List.nodup_dedup _, fun e he => hpass.inSource e (List.mem_dedup.mp he),
      fun e he f hf => hpass.free e (List.mem_dedup.mp he) f (List.mem_dedup.mp hf)⟩
  have hreplace : ∀ source, replaceAll path source edits = replaceAll path source others := by
    intro source
    rw [← replaceAll_congr hcompat fun e => List.mem_dedup,
      replaceAll_congr hcompat fun e => List.mem_dedup.trans (hmem e)]
  unfold variantText
  simp only [mem_touchedPaths, hmem, hreplace]

/-- **Materialising edits that pass**: nothing panics, and every file gets the simultaneous
replacement of its distinct edits. -/
theorem variantTexts_of_passes {plan : RepairPlan} {edits : List RepairEdit}
    (hsources : planSourceTexts plan = .ok sources) (hpass : Passes sources [] edits) :
    ∃ written, variantTexts plan edits = .ok written ∧
      ∀ path, overlayText written path = variantText sources edits path := by
  obtain ⟨result, hok, hnodup, hmem⟩ := normalizeEdits_of_passes List.nodup_nil hpass
  have hmem' : ∀ e, e ∈ result ↔ e ∈ edits := fun e => by rw [hmem e]; simp
  have hcompat : Compatible sources result :=
    ⟨hnodup, fun e he => hpass.inSource e ((hmem' e).mp he),
      fun e he f hf => hpass.free e ((hmem' e).mp he) f ((hmem' f).mp hf)⟩
  obtain ⟨written, hwritten, htext⟩ := materializeFiles_spec hcompat []
    fun path hpath => exists_source_of_touched hcompat.inSource hpath
  refine ⟨written, ?_, fun path => ?_⟩
  · unfold variantTexts normalizeVariantEdits
    simp only [hsources, hok, hwritten]
  · rw [htext path, variantText, overlayText_nil]
    simp only [mem_touchedPaths, hmem', replaceAll_congr hcompat hmem']

/-- An insertion before a multi-byte character and a deletion after it. -/
def insertAndDelete : List RepairEdit :=
  [⟨["main.rs"], 1, 1, ['x']⟩, ⟨["main.rs"], 3, 4, []⟩]

def accentedPlan : RepairPlan where
  sources := [⟨["main.rs"], "", some ['a', 'é', 'b']⟩]
  repairs := []

example : variantTexts accentedPlan insertAndDelete
    = .ok [(["main.rs"], ['a', 'x', 'é'])] := by decide +kernel

end RustWorkbench.Compiler
