import RustWorkbench.Compiler.Plan

/-!
# Patched texts are simultaneous replacements

* `editsConflict_comm` — the conflict test is symmetric.
* `patchText_eq` — splicing the edits of a file backwards is one simultaneous replacement.
* `materializeFiles_spec` — the texts of a wrapper variant.
-/

namespace RustWorkbench.Compiler

/-! ## Conflicts -/

theorem editsConflict_comm (e f : RepairEdit) : editsConflict e f = editsConflict f e := by
  unfold editsConflict
  by_cases hpath : e.path = f.path
  · rw [if_neg (not_not.mpr hpath), if_neg (not_not.mpr hpath.symm)]
    by_cases hsame : e.byteStart = f.byteStart ∧ e.byteEnd = f.byteEnd
        ∧ e.replacement = f.replacement
    · obtain ⟨hs, he, hr⟩ := hsame
      simp [hs, he, hr]
    · have hef : ¬ (decide (e.byteStart = f.byteStart) && decide (e.byteEnd = f.byteEnd)
          && decide (e.replacement = f.replacement)) = true := by
        simpa [and_assoc] using hsame
      have hfe : ¬ (decide (f.byteStart = e.byteStart) && decide (f.byteEnd = e.byteEnd)
          && decide (f.replacement = e.replacement)) = true := by
        simp only [Bool.and_eq_true, decide_eq_true_eq]
        rintro ⟨⟨hs, he⟩, hr⟩
        exact hsame ⟨hs.symm, he.symm, hr.symm⟩
      rw [if_neg hef, if_neg hfe, Bool.eq_iff_iff]
      split <;> split <;> simp only [Bool.and_eq_true, decide_eq_true_eq] <;> omega
  · rw [if_pos hpath, if_pos (Ne.symm hpath)]

theorem editsConflict_self (e : RepairEdit) : editsConflict e e = false := by
  simp [editsConflict]

theorem splice_inj {e f : RepairEdit} (hpath : e.path = f.path) (h : e.splice = f.splice) :
    e = f := by
  cases e
  cases f
  simp only [RepairEdit.splice, Splice.Edit.mk.injEq] at h
  simp_all

/-- The plan has a text for the file of the edit, and the range is a range of that text. -/
def InSource (sources : List (Path × Text)) (edit : RepairEdit) : Bool :=
  match sourceOf sources edit.path with
  | none => false
  | some source => !invalidRange source edit

theorem inSource_iff {sources : List (Path × Text)} {edit : RepairEdit} :
    InSource sources edit = true ↔
      ∃ source, sourceOf sources edit.path = some source ∧ invalidRange source edit = false := by
  unfold InSource
  cases sourceOf sources edit.path with
  | none => simp
  | some source => simp

theorem fits_of_valid {source : Text} {edit : RepairEdit} (h : invalidRange source edit = false) :
    Splice.Fits Char.utf8Size source edit.splice := by
  simp only [invalidRange, Bool.or_eq_false_iff, decide_eq_false_iff_not, Bool.not_eq_false'] at h
  obtain ⟨⟨⟨hle, _⟩, hstart⟩, hstop⟩ := h
  exact ⟨Nat.le_of_not_lt hle, hstart, hstop⟩

/-- Different edits of one file that do not conflict lie apart. -/
theorem apart_of_not_conflict {e f : RepairEdit} (hpath : e.path = f.path) (hne : e ≠ f)
    (he : e.byteStart ≤ e.byteEnd) (hf : f.byteStart ≤ f.byteEnd)
    (h : editsConflict e f = false) : Splice.Apart e.splice f.splice := by
  have hsame : ¬ (e.byteStart = f.byteStart ∧ e.byteEnd = f.byteEnd
      ∧ e.replacement = f.replacement) := by
    rintro ⟨hs, hb, hr⟩
    exact hne (splice_inj hpath (by simp [RepairEdit.splice, hs, hb, hr]))
  unfold editsConflict at h
  rw [if_neg (not_not.mpr hpath), if_neg (by simpa [and_assoc] using hsame)] at h
  unfold Splice.Apart Splice.Before RepairEdit.splice
  dsimp only
  -- an insertion may not touch the other range, two ranges may not overlap
  split at h
  · simp only [Bool.and_eq_false_iff, decide_eq_false_iff_not] at h
    omega
  · split at h
    · simp only [Bool.and_eq_false_iff, decide_eq_false_iff_not] at h
      omega
    · simp only [Bool.and_eq_false_iff, decide_eq_false_iff_not] at h
      omega

/-! ## Checked edits -/

/-- The edits pass the checks of the two loops: they are in range and conflict with none of
`old` and not with each other. -/
structure Passes (sources : List (Path × Text)) (old edits : List RepairEdit) : Prop where
  inSource : ∀ e ∈ edits, InSource sources e = true
  free : ∀ e ∈ edits, ∀ f ∈ edits, editsConflict e f = false
  apart : ∀ o ∈ old, ∀ e ∈ edits, editsConflict o e = false

theorem passes_nil (sources : List (Path × Text)) (old : List RepairEdit) :
    Passes sources old [] :=
  ⟨by simp, by simp, by simp⟩

section Sources

variable {sources : List (Path × Text)} {edits : List RepairEdit}

variable {e : RepairEdit} {path : Path}

theorem passes_cons_iff {old : List RepairEdit} :
    Passes sources old (e :: edits) ↔
      InSource sources e = true ∧ (∀ o ∈ old, editsConflict o e = false) ∧
        Passes sources (old ++ [e]) edits := by
  constructor
  · intro h
    refine ⟨h.inSource e (by simp), fun o ho => h.apart o ho e (by simp), ?_⟩
    refine ⟨fun f hf => h.inSource f (List.mem_cons_of_mem _ hf), ?_, ?_⟩
    · intro f hf g hg
      exact h.free f (List.mem_cons_of_mem _ hf) g (List.mem_cons_of_mem _ hg)
    · intro o ho f hf
      rcases List.mem_append.mp ho with ho | ho
      · exact h.apart o ho f (List.mem_cons_of_mem _ hf)
      · rw [List.mem_singleton.mp ho]
        exact h.free e (by simp) f (List.mem_cons_of_mem _ hf)
  · rintro ⟨hin, hold, hrest⟩
    have hnew : ∀ f ∈ edits, editsConflict e f = false :=
      fun f hf => hrest.apart e (by simp) f hf
    refine ⟨?_, ?_, ?_⟩
    · intro f hf
      rcases List.mem_cons.mp hf with rfl | hf
      · exact hin
      · exact hrest.inSource f hf
    · intro f hf g hg
      rcases List.mem_cons.mp hf with hfe | hfmem <;> rcases List.mem_cons.mp hg with hge | hgmem
      · rw [hfe, hge]
        exact editsConflict_self e
      · rw [hfe]
        exact hnew g hgmem
      · rw [hge, editsConflict_comm]
        exact hnew f hfmem
      · exact hrest.free f hfmem g hgmem
    · intro o ho f hf
      rcases List.mem_cons.mp hf with rfl | hf
      · exact hold o ho
      · exact hrest.apart o (List.mem_append_left _ ho) f hf

/-- Only the set of earlier edits matters. -/
theorem passes_congr {old old' : List RepairEdit}
    (h : ∀ e, e ∈ old ↔ e ∈ old') : Passes sources old edits ↔ Passes sources old' edits :=
  ⟨fun p => ⟨p.inSource, p.free, fun o ho => p.apart o ((h o).mpr ho)⟩,
    fun p => ⟨p.inSource, p.free, fun o ho => p.apart o ((h o).mp ho)⟩⟩

theorem passes_append_of_mem {old : List RepairEdit} (h : e ∈ old) :
    Passes sources (old ++ [e]) edits ↔ Passes sources old edits := by
  refine passes_congr fun f => ?_
  rw [List.mem_append, List.mem_singleton]
  exact ⟨fun hf => hf.elim id fun hfe => hfe ▸ h, Or.inl⟩

/-! ## One file -/

/-- A list of edits that may be applied together: without repetition, in range and free of
conflicts. -/
structure Compatible (sources : List (Path × Text)) (edits : List RepairEdit) : Prop where
  nodup : edits.Nodup
  inSource : ∀ e ∈ edits, InSource sources e = true
  free : ∀ e ∈ edits, ∀ f ∈ edits, editsConflict e f = false

/-- The simultaneous replacement of the distinct edits of a file in its text. -/
def replaceAll (path : Path) (source : Text) (edits : List RepairEdit) : Text :=
  Splice.substitute Char.utf8Size ((editsFor path edits).dedup.map RepairEdit.splice) source

theorem mem_editsFor : e ∈ editsFor path edits ↔ e ∈ edits ∧ e.path = path := by
  simp [editsFor]

theorem Compatible.dedup_editsFor (h : Compatible sources edits) (path : Path) :
    (editsFor path edits).dedup = editsFor path edits :=
  List.Nodup.dedup (h.nodup.filter _)

theorem Compatible.pairwise_apart (h : Compatible sources edits) (path : Path) :
    ((editsFor path edits).map RepairEdit.splice).Pairwise Splice.Apart := by
  rw [List.pairwise_map]
  refine List.Pairwise.imp_of_mem ?_ (h.nodup.filter _)
  intro e f he hf hne
  obtain ⟨hemem, hepath⟩ := mem_editsFor.mp he
  obtain ⟨hfmem, hfpath⟩ := mem_editsFor.mp hf
  obtain ⟨_, _, hevalid⟩ := inSource_iff.mp (h.inSource e hemem)
  obtain ⟨_, _, hfvalid⟩ := inSource_iff.mp (h.inSource f hfmem)
  exact apart_of_not_conflict (hepath.trans hfpath.symm) hne (fits_of_valid hevalid).1
    (fits_of_valid hfvalid).1 (h.free e hemem f hfmem)

/-- **Splicing backwards is simultaneous replacement.** -/
theorem patchText_eq (h : Compatible sources edits) {source : Text}
    (hsource : sourceOf sources path = some source) :
    patchText source (editsFor path edits) = some (replaceAll path source edits) := by
  have hfits : ∀ e ∈ (editsFor path edits).map RepairEdit.splice,
      Splice.Fits Char.utf8Size source e := by
    intro e' he'
    obtain ⟨e, he, rfl⟩ := List.mem_map.mp he'
    obtain ⟨hmem, hpath⟩ := mem_editsFor.mp he
    obtain ⟨text, htext, hvalid⟩ := inSource_iff.mp (h.inSource e hmem)
    rw [hpath, hsource, Option.some.injEq] at htext
    exact fits_of_valid (htext ▸ hvalid)
  unfold patchText replaceAll
  rw [List.foldl_reverse, h.dedup_editsFor]
  exact Splice.foldr_sortByKey Char.utf8Size_pos (h.pairwise_apart path) hfits

/-- The replacement depends on the set of edits only. -/
theorem replaceAll_congr {others : List RepairEdit}
    (h : Compatible sources edits) (hmem : ∀ e, e ∈ edits ↔ e ∈ others) (path : Path)
    (source : Text) : replaceAll path source edits = replaceAll path source others := by
  have hperm : ((editsFor path edits).dedup).Perm (editsFor path others).dedup := by
    refine (List.perm_ext_iff_of_nodup (List.nodup_dedup _) (List.nodup_dedup _)).mpr ?_
    intro e
    rw [List.mem_dedup, List.mem_dedup, mem_editsFor, mem_editsFor, hmem e]
  have hapart : ((editsFor path edits).dedup.map RepairEdit.splice).Pairwise Splice.Apart := by
    rw [h.dedup_editsFor]
    exact h.pairwise_apart path
  exact Splice.substitute_perm (hperm.map _) hapart source

/-! ## All files -/

@[simp] theorem overlayText_nil (path : Path) : overlayText [] path = none := rfl

/-- Inserting a text changes the overlay at its path only. -/
theorem overlayText_insertOverlay (overlay : List (Path × Text)) (original path : Path)
    (text : Text) : overlayText (insertOverlay overlay original text) path
      = if path = original then some text else overlayText overlay path := by
  unfold overlayText insertOverlay
  rw [List.find?_append]
  by_cases h : path = original
  · subst h
    have hnone : (overlay.filter fun entry => entry.1 ≠ path).find? (fun entry => entry.1 = path)
        = none := by
      rw [List.find?_eq_none]
      intro entry hentry
      simpa using (List.mem_filter.mp hentry).2
    rw [if_pos rfl, hnone]
    simp
  · have hsame : (overlay.filter fun entry => entry.1 ≠ original).find?
        (fun entry => entry.1 = path) = overlay.find? fun entry => entry.1 = path := by
      rw [List.find?_filter]
      congr 1
      funext entry
      by_cases he : entry.1 = path
      · simp [he, h]
      · simp [he]
    rw [if_neg h, hsame]
    simp [Ne.symm h]

theorem mem_touchedPaths : path ∈ touchedPaths edits ↔ ∃ e ∈ edits, e.path = path := by
  simp [touchedPaths]

/-- The plan has a text for every file that an edit in range touches. -/
theorem exists_source_of_touched (h : ∀ e ∈ edits, InSource sources e = true)
    (hpath : path ∈ touchedPaths edits) : ∃ source, sourceOf sources path = some source := by
  obtain ⟨e, he, rfl⟩ := mem_touchedPaths.mp hpath
  obtain ⟨source, hsource, -⟩ := inSource_iff.mp (h e he)
  exact ⟨source, hsource⟩

/-- **The texts of a variant**: no replacement panics, and every file gets the simultaneous
replacement of its edits. -/
theorem materializeFiles_spec (h : Compatible sources edits) :
    ∀ {paths : List Path} (overlay : List (Path × Text)),
    (∀ path ∈ paths, ∃ source, sourceOf sources path = some source) →
    ∃ written, materializeFiles sources edits overlay paths = .ok written ∧
      ∀ path, overlayText written path
        = if path ∈ paths then (sourceOf sources path).map fun source => replaceAll path source edits
          else overlayText overlay path
  | [], overlay, _ => ⟨overlay, rfl, fun path => by simp⟩
  | original :: paths, overlay, hsources => by
    obtain ⟨source, hsource⟩ := hsources original List.mem_cons_self
    obtain ⟨written, hok, htext⟩ := materializeFiles_spec h
      (insertOverlay overlay original (replaceAll original source edits))
      fun path hpath => hsources path (List.mem_cons_of_mem _ hpath)
    unfold materializeFiles
    simp only [hsource, patchText_eq h hsource]
    refine ⟨written, hok, fun path => ?_⟩
    rw [htext path, overlayText_insertOverlay]
    by_cases hpath : path = original
    · subst hpath
      simp [hsource]
    · simp [hpath]

end Sources

end RustWorkbench.Compiler
