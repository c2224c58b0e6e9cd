import RustWorkbench.Compiler.ValidationCache
import Mathlib.Data.List.Lex
import Mathlib.Data.String.Basic

/-!
# The patched sources on disk

`materialize_variant_sources` writes every patched source into the directory of the candidate, and
the overlay of the child names that file.  `Validation` takes it that the child reads, under the
path of an original, the text patched for it.  Here the file in between is part of the model:
`patched_source_path` may give two originals one file.

* `onDisk_eq_overlaid` — where no two texts meet in a file, this is the overlay of `Validation`.
* `materializeVariantSources_perm` — the order of the edits of a variant is irrelevant.
* `offered_is_compiled_iff` — the edits of a suggestion are those that were compiled exactly then.

A path is absolute if its first component is empty.  Below the directory of the candidate a path is
taken relative to its directory `sources`.
-/

namespace RustWorkbench.Compiler

open StableSort

/-! ## Files of a candidate -/

/-- `file_name` with its default; the root and `..` have none. -/
def sourceName (path : Path) : String :=
  match path.getLast? with
  | none => "source.rs"
  | some name => if name = "" ∨ name = ".." then "source.rs" else name

/-- `patched_source_path`; `stable_path_hash` is the hash of `Hash`. -/
def patchedSourcePath (workspace original : Path) : Path :=
  if workspace.isPrefixOf original then original.drop workspace.length
  else ["_external", stableSourceHash original.display, sourceName original]

/-- The calls of `fs::write`, in the order of the originals. -/
def writtenFiles (workspace : Path) (overlay : List (Path × Text)) : List (Path × Text) :=
  (sortByKey Prod.fst overlay).map fun entry => (patchedSourcePath workspace entry.1, entry.2)

/-- The child resolves an original to its file and reads what was written there last. -/
def onDisk (workspace : Path) (overlay : List (Path × Text)) (files : Files) : Files := fun path =>
  match overlayText overlay path with
  | some _ => (sourceOf (writtenFiles workspace overlay) (patchedSourcePath workspace path)).map .source
  | none => files path

/-- `materialize_variant_sources`: what a child with the returned overlay reads. -/
def materializeVariantSources (workspace : Path) (plan : RepairPlan) (edits : List RepairEdit)
    (files : Files) : Except Failure Files :=
  (variantTexts plan edits).map fun texts => onDisk workspace texts files

/-- `validate_wrapper_suggestion_set` with the files in between. -/
def validateWrapperSuggestionSetOnDisk (compiler : ChildCompiler) (workspace : Path)
    (invocation : Invocation) (variants : List WrapperVariant) : Option ValidatedWrapperSuggestion :=
  match candidate invocation.plan variants with
  | none => none
  | some (edits, overlay) =>
    if compiler invocation.childStart (onDisk workspace overlay invocation.files) then
      some ⟨variants.map WrapperVariant.binding, variants.map WrapperVariant.trigger,
        variants.map WrapperVariant.strategy, edits⟩
    else none

/-- `validate_wrapper_suggestions` with the files in between. -/
def validateWrapperSuggestionsOnDisk (compiler : ChildCompiler) (workspace : Path)
    (invocation : Invocation) : List ValidatedWrapperSuggestion :=
  (candidateSets invocation.plan).filterMap
    (validateWrapperSuggestionSetOnDisk compiler workspace invocation)

/-! ## The overlay has one text per path -/

variable {overlay : List (Path × Text)} {workspace : Path} {edits : List RepairEdit}

theorem insertOverlay_nodup (h : (overlay.map Prod.fst).Nodup) (path : Path) (text : Text) :
    ((insertOverlay overlay path text).map Prod.fst).Nodup := by
  rw [insertOverlay, List.map_append, List.map_cons, List.map_nil, List.nodup_append]
  refine ⟨h.sublist (List.filter_sublist.map _), List.nodup_singleton path, ?_⟩
  intro original horiginal other hother
  obtain ⟨entry, hentry, rfl⟩ := List.mem_map.mp horiginal
  rw [List.mem_singleton.mp hother]
  simpa using (List.mem_filter.mp hentry).2

theorem materializeFiles_nodup {sources : List (Path × Text)} {accepted : List RepairEdit} :
    ∀ {paths : List Path} {overlay written : List (Path × Text)}, (overlay.map Prod.fst).Nodup →
      materializeFiles sources accepted overlay paths = .ok written → (written.map Prod.fst).Nodup
  | [], overlay, written, hnodup, h => by
    cases h
    exact hnodup
  | original :: paths, overlay, written, hnodup, h => by
    unfold materializeFiles at h
    split at h
    · cases h
    · split at h
      · cases h
      · exact materializeFiles_nodup (insertOverlay_nodup hnodup _ _) h

theorem variantTexts_nodup {plan : RepairPlan}
    (h : variantTexts plan edits = .ok overlay) : (overlay.map Prod.fst).Nodup := by
  unfold variantTexts at h
  split at h
  · cases h
  · split at h
    · cases h
    · have hnil : (([] : List (Path × Text)).map Prod.fst).Nodup := List.nodup_nil
      exact materializeFiles_nodup hnil h

theorem overlayText_eq_some_iff (h : (overlay.map Prod.fst).Nodup) {path : Path} {text : Text} :
    overlayText overlay path = some text ↔ (path, text) ∈ overlay := by
  rw [overlayText, Option.map_eq_some_iff]
  constructor
  · rintro ⟨⟨path', text'⟩, hfound, rfl⟩
    have hpath := List.find?_some hfound
    simp only [decide_eq_true_eq] at hpath
    exact hpath ▸ List.mem_of_find?_eq_some hfound
  · intro hmem
    cases hfound : overlay.find? fun entry => entry.1 = path with
    | none =>
      rw [List.find?_eq_none] at hfound
      simpa using hfound _ hmem
    | some entry =>
      have hpath := List.find?_some hfound
      simp only [decide_eq_true_eq] at hpath
      have hsame : entry = (path, text) :=
        List.inj_on_of_nodup_map h (List.mem_of_find?_eq_some hfound) hmem hpath
      exact ⟨entry, rfl, by rw [hsame]⟩

/-! ## What the child reads -/

/-- Originals that share a file have one text. -/
def FilesApart (workspace : Path) (overlay : List (Path × Text)) : Prop :=
  ∀ entry ∈ overlay, ∀ other ∈ overlay,
    patchedSourcePath workspace entry.1 = patchedSourcePath workspace other.1 → entry.2 = other.2

/-- A file has the text of one of the originals that are written to it. -/
theorem exists_sourceOf_written (workspace : Path) {entry : Path × Text} (h : entry ∈ overlay) :
    ∃ other ∈ overlay, patchedSourcePath workspace other.1 = patchedSourcePath workspace entry.1
      ∧ sourceOf (writtenFiles workspace overlay) (patchedSourcePath workspace entry.1)
        = some other.2 := by
  have hmem : ∀ candidate, candidate ∈ (writtenFiles workspace overlay).reverse ↔
      ∃ other ∈ overlay, (patchedSourcePath workspace other.1, other.2) = candidate := by
    intro candidate
    rw [List.mem_reverse, writtenFiles, List.mem_map]
    simp only [mem_sortByKey]
  cases hfound : (writtenFiles workspace overlay).reverse.find? fun source =>
      source.1 = patchedSourcePath workspace entry.1 with
  | none =>
    rw [List.find?_eq_none] at hfound
    exact absurd (decide_eq_true rfl) (hfound _ ((hmem _).mpr ⟨entry, h, rfl⟩))
  | some source =>
    obtain ⟨other, hother, rfl⟩ := (hmem source).mp (List.mem_of_find?_eq_some hfound)
    have hpath := List.find?_some hfound
    simp only [decide_eq_true_eq] at hpath
    exact ⟨other, hother, hpath, by rw [sourceOf, hfound, Option.map_some]⟩

/-- **Every original is read back exactly when no two texts meet in a file.** -/
theorem read_back_iff :
    (∀ entry ∈ overlay, sourceOf (writtenFiles workspace overlay)
        (patchedSourcePath workspace entry.1) = some entry.2) ↔ FilesApart workspace overlay := by
  constructor
  · intro h entry hentry other hother hpath
    have hread := h entry hentry
    rw [hpath, h other hother] at hread
    exact (Option.some.inj hread).symm
  · intro h entry hentry
    obtain ⟨other, hother, hpath, hread⟩ := exists_sourceOf_written workspace hentry
    rw [hread, h other hother entry hentry hpath]

theorem onDisk_eq_overlaid {files : Files} (h : FilesApart workspace overlay) :
    onDisk workspace overlay files = overlaid overlay files := by
  funext path
  unfold onDisk overlaid
  cases htext : overlayText overlay path with
  | none => rfl
  | some text =>
    obtain ⟨entry, hfound, rfl⟩ := Option.map_eq_some_iff.mp htext
    have hpath := List.find?_some hfound
    simp only [decide_eq_true_eq] at hpath
    have hread := read_back_iff.mpr h entry (List.mem_of_find?_eq_some hfound)
    rw [hpath] at hread
    simp only [hread, Option.map_some]

/-- **The two levels agree**: if the files of every candidate are apart, the patched workspaces give
the suggestions of the overlays, whatever the compiler does with the files. -/
theorem validateOnDisk_eq {compiler : ChildCompiler} {invocation : Invocation}
    (h : ∀ variants ∈ candidateSets invocation.plan, ∀ edits overlay,
      candidate invocation.plan variants = some (edits, overlay) → FilesApart workspace overlay) :
    validateWrapperSuggestionsOnDisk compiler workspace invocation
      = validateWrapperSuggestions compiler invocation := by
  refine List.filterMap_congr fun variants hvariants => ?_
  unfold validateWrapperSuggestionSetOnDisk validateWrapperSuggestionSet
  cases hcandidate : candidate invocation.plan variants with
  | none => rfl
  | some made =>
    obtain ⟨edits, overlay⟩ := made
    simp only [onDisk_eq_overlaid (h variants hvariants edits overlay hcandidate)]

/-! ## Suggestions -/

/-- The edits replace, at once, what the child read under every path that they touch, and the
overlay had no other path. -/
structure OfferedIsCompiled (sources : List (Path × Text)) (overlay : List (Path × Text))
    (read : Files) (edits : List RepairEdit) : Prop where
  touched : ∀ path ∈ touchedPaths edits, ∃ source, sourceOf sources path = some source
    ∧ read path = some (.source (replaceAll path source edits))
  untouched : ∀ path, path ∉ touchedPaths edits → overlayText overlay path = none

/-- Touched files that share a patched path have one patched text. -/
def PatchesApart (workspace : Path) (sources : List (Path × Text)) (edits : List RepairEdit) : Prop :=
  ∀ path ∈ touchedPaths edits, ∀ other ∈ touchedPaths edits,
    patchedSourcePath workspace path = patchedSourcePath workspace other →
    variantText sources edits path = variantText sources edits other

/-- What the overlay of a candidate has for each path. -/
theorem overlayText_of_candidate {plan : WrapperPlan} {variants : List WrapperVariant}
    (h : candidate plan variants = some (edits, overlay)) :
    ∃ sources, planSourceTexts plan.toRepairPlan = .ok sources
      ∧ (∀ path ∈ touchedPaths edits, ∃ source, sourceOf sources path = some source)
      ∧ ∀ path, overlayText overlay path = variantText sources edits path := by
  have hoverlay := materialize_of_candidate h
  have hnormal : ∃ accepted, normalizeVariantEdits plan.toRepairPlan edits = .ok accepted := by
    unfold variantTexts at hoverlay
    split at hoverlay
    · cases hoverlay
    · exact ⟨_, by assumption⟩
  obtain ⟨sources, hsources, hpass⟩ := normalizeVariantEdits_ok_iff.mp hnormal
  obtain ⟨written, hwritten, htext⟩ := variantTexts_of_passes hsources hpass
  obtain rfl : written = overlay := Except.ok.inj (hwritten.symm.trans hoverlay)
  exact ⟨sources, hsources, fun path hpath => exists_source_of_touched hpass.inSource hpath, htext⟩

/-- The files of a candidate are apart when its patches are. -/
theorem filesApart_iff {sources overlay : List (Path × Text)}
    (hnodup : (overlay.map Prod.fst).Nodup)
    (hsome : ∀ path ∈ touchedPaths edits, ∃ source, sourceOf sources path = some source)
    (htext : ∀ path, overlayText overlay path = variantText sources edits path) :
    FilesApart workspace overlay ↔ PatchesApart workspace sources edits := by
  have hvariant : ∀ entry ∈ overlay,
      entry.1 ∈ touchedPaths edits ∧ variantText sources edits entry.1 = some entry.2 := by
    intro entry hentry
    have hsame := (htext entry.1).symm.trans ((overlayText_eq_some_iff hnodup).mpr hentry)
    refine ⟨?_, hsame⟩
    by_contra hpath
    rw [variantText, if_neg hpath] at hsame
    cases hsame
  have hentry : ∀ path ∈ touchedPaths edits, ∃ text, (path, text) ∈ overlay := by
    intro path hpath
    obtain ⟨source, hsource⟩ := hsome path hpath
    refine ⟨replaceAll path source edits, (overlayText_eq_some_iff hnodup).mp ?_⟩
    rw [htext, variantText, if_pos hpath, hsource, Option.map_some]
  constructor
  · intro h path hpath other hother hshared
    obtain ⟨text, hmem⟩ := hentry path hpath
    obtain ⟨text', hmem'⟩ := hentry other hother
    rw [(hvariant _ hmem).2, (hvariant _ hmem').2, h _ hmem _ hmem' hshared]
  · intro h entry hmem other hmem' hshared
    have hsame := h entry.1 (hvariant entry hmem).1 other.1 (hvariant other hmem').1 hshared
    rw [(hvariant entry hmem).2, (hvariant other hmem').2] at hsame
    exact Option.some.inj hsame

/-- The child reads the patched text of every touched path exactly when the files are apart. -/
theorem offeredIsCompiled_iff (files : Files) {sources overlay : List (Path × Text)}
    (hnodup : (overlay.map Prod.fst).Nodup)
    (hsome : ∀ path ∈ touchedPaths edits, ∃ source, sourceOf sources path = some source)
    (htext : ∀ path, overlayText overlay path = variantText sources edits path) :
    OfferedIsCompiled sources overlay (onDisk workspace overlay files) edits ↔
      PatchesApart workspace sources edits := by
  have huntouched : ∀ path, path ∉ touchedPaths edits → overlayText overlay path = none := by
    intro path hpath
    rw [htext, variantText, if_neg hpath]
  rw [← filesApart_iff hnodup hsome htext, ← read_back_iff]
  constructor
  · intro h entry hentry
    have hfound := (overlayText_eq_some_iff hnodup).mpr hentry
    have hpath : entry.1 ∈ touchedPaths edits := by
      by_contra hpath
      rw [huntouched entry.1 hpath] at hfound
      cases hfound
    obtain ⟨source, hsource, hread⟩ := h.touched entry.1 hpath
    have hpatched := (htext entry.1).symm.trans hfound
    rw [variantText, if_pos hpath, hsource, Option.map_some] at hpatched
    simp only [onDisk, hfound] at hread
    obtain ⟨text, hwritten, hsame⟩ := Option.map_eq_some_iff.mp hread
    rw [hwritten, FileContents.source.inj hsame]
    exact hpatched
  · intro h
    refine ⟨fun path hpath => ?_, huntouched⟩
    obtain ⟨source, hsource⟩ := hsome path hpath
    have hfound : overlayText overlay path = some (replaceAll path source edits) := by
      rw [htext, variantText, if_pos hpath, hsource, Option.map_some]
    have hwritten := h _ ((overlayText_eq_some_iff hnodup).mp hfound)
    refine ⟨source, hsource, ?_⟩
    simp only [onDisk, hfound, hwritten, Option.map_some]

/-- Overlays with the same texts are written alike. -/
theorem onDisk_congr {overlay' : List (Path × Text)} (hnodup : (overlay.map Prod.fst).Nodup)
    (hnodup' : (overlay'.map Prod.fst).Nodup)
    (htext : ∀ path, overlayText overlay path = overlayText overlay' path) (files : Files) :
    onDisk workspace overlay files = onDisk workspace overlay' files := by
  have hperm : overlay.Perm overlay' := by
    refine (List.perm_ext_iff_of_nodup hnodup.of_map hnodup'.of_map).mpr fun entry => ?_
    rw [← overlayText_eq_some_iff hnodup, ← overlayText_eq_some_iff hnodup', htext]
  funext path
  unfold onDisk writtenFiles
  rw [htext, sortByKey_eq_of_perm Prod.fst hnodup hperm]

/-- **The order of the edits is irrelevant.**  Both orders are accepted or neither is; then the same
files are read, untouched ones as they were, and every touched one as the simultaneous replacement
of its distinct edits exactly when no two of them with different patched texts share a patched
path. -/
theorem materializeVariantSources_perm (workspace : Path) (plan : RepairPlan) (files : Files)
    {edits edits' : List RepairEdit} (hperm : edits.Perm edits') :
    ((∃ accepted, normalizeVariantEdits plan edits = .ok accepted) ↔
      ∃ accepted, normalizeVariantEdits plan edits' = .ok accepted) ∧
    ∀ accepted, normalizeVariantEdits plan edits = .ok accepted →
      ∃ sources read, planSourceTexts plan = .ok sources ∧
        materializeVariantSources workspace plan edits files = .ok read ∧
        materializeVariantSources workspace plan edits' files = .ok read ∧
        (∀ path, path ∉ touchedPaths edits → read path = files path) ∧
        ((∀ path ∈ touchedPaths edits, ∃ source, sourceOf sources path = some source ∧
            read path = some (.source (replaceAll path source edits))) ↔
          PatchesApart workspace sources edits) := by
  refine ⟨?_, fun accepted haccepted => ?_⟩
  · rw [normalizeVariantEdits_ok_iff, normalizeVariantEdits_ok_iff]
    exact exists_congr fun sources => and_congr_right fun _ =>
      ⟨passes_of_subset hperm.symm.subset, passes_of_subset hperm.subset⟩
  · obtain ⟨sources, hsources, hpass⟩ := normalizeVariantEdits_ok_iff.mp ⟨accepted, haccepted⟩
    obtain ⟨written, hok, htext⟩ := variantTexts_of_passes hsources hpass
    obtain ⟨written', hok', htext'⟩ :=
      variantTexts_of_passes hsources (passes_of_subset hperm.symm.subset hpass)
    have hsame : ∀ path, overlayText written path = overlayText written' path := fun path => by
      rw [htext, htext', variantText_congr hpass fun e => hperm.mem_iff]
    have huntouched : ∀ path, path ∉ touchedPaths edits → overlayText written path = none :=
      fun path hpath => by rw [htext, variantText, if_neg hpath]
    refine ⟨sources, onDisk workspace written files, hsources, ?_, ?_, fun path hpath => ?_, ?_⟩
    · rw [materializeVariantSources, hok]
      rfl
    · rw [materializeVariantSources, hok', onDisk_congr (variantTexts_nodup hok)
        (variantTexts_nodup hok') hsame files]
      rfl
    · simp only [onDisk, huntouched path hpath]
    · rw [← offeredIsCompiled_iff files (variantTexts_nodup hok)
        (fun path hpath => exists_source_of_touched hpass.inSource hpath) htext]
      exact ⟨fun h => ⟨h, huntouched⟩, fun h => h.touched⟩

/-- Both orders of the two edits in one file are accepted, and `axé` is read. -/
theorem insert_and_delete_commute :
    ∃ sources read, planSourceTexts accentedPlan = .ok sources ∧
      materializeVariantSources [] accentedPlan insertAndDelete (fun _ => none) = .ok read ∧
      materializeVariantSources [] accentedPlan insertAndDelete.reverse (fun _ => none) = .ok read ∧
      ∀ path ∈ touchedPaths insertAndDelete, ∃ source, sourceOf sources path = some source ∧
        read path = some (.source (replaceAll path source insertAndDelete)) := by
  obtain ⟨sources, read, hsources, hread, hread', -, hiff⟩ := (materializeVariantSources_perm []
    accentedPlan (fun _ => none) (List.reverse_perm insertAndDelete).symm).2 insertAndDelete
    (by decide +kernel)
  refine ⟨sources, read, hsources, hread, hread', hiff.mpr fun path hpath other hother _ => ?_⟩
  have hone : touchedPaths insertAndDelete = [["main.rs"]] := by decide
  rw [hone] at hpath hother
  rw [List.mem_singleton.mp hpath, List.mem_singleton.mp hother]

/-- **What is offered is what was compiled.**  Every suggestion that is returned comes from a child
that was started on its edits and succeeded, and the texts that this child read are those of the
edits exactly when no two touched files with different patched texts share a patched path. -/
theorem offered_is_compiled_iff {compiler : ChildCompiler} {workspace : Path}
    {invocation : Invocation} {suggestion : ValidatedWrapperSuggestion}
    (h : suggestion ∈ validateWrapperSuggestionsOnDisk compiler workspace invocation) :
    ∃ sources overlay, planSourceTexts invocation.plan.toRepairPlan = .ok sources
      ∧ variantTexts invocation.plan.toRepairPlan suggestion.edits = .ok overlay
      ∧ compiler invocation.childStart (onDisk workspace overlay invocation.files) = true
      ∧ (OfferedIsCompiled sources overlay (onDisk workspace overlay invocation.files) suggestion.edits
        ↔ PatchesApart workspace sources suggestion.edits) := by
  obtain ⟨variants, -, hset⟩ := List.mem_filterMap.mp h
  unfold validateWrapperSuggestionSetOnDisk at hset
  split at hset
  · cases hset
  rename_i edits overlay hcandidate
  split at hset
  · rename_i hcompiles
    obtain rfl := Option.some.inj hset
    have hoverlay := materialize_of_candidate hcandidate
    obtain ⟨sources, hsources, hsome, htext⟩ := overlayText_of_candidate hcandidate
    exact ⟨sources, overlay, hsources, hoverlay, hcompiles,
      offeredIsCompiled_iff _ (variantTexts_nodup hoverlay) hsome htext⟩
  · cases hset

/-! ## Two originals in one file -/

def insertion (path : Path) (letter : Char) : RepairEdit := ⟨path, 0, 0, [letter]⟩

/-- A crate in `/w` with one wrapper variant. -/
def patchedInvocation (sources : List (Path × Text)) (edits : List RepairEdit) : Invocation where
  args := ["main.rs"]
  environment := []
  files := fun _ => none
  compilerIdentity := "rustc"
  plan :=
    { sources := sources.map fun source => ⟨source.1, "", some source.2⟩
      repairs := []
      crateName := "main"
      stableCrateId := 0
      wrapperVariants := [⟨⟨["", "w", "main.rs"], 0, "a"⟩, ⟨["", "w", "main.rs"], 0, 1⟩, .rc, edits⟩] }

def offered (edits : List RepairEdit) : ValidatedWrapperSuggestion where
  bindings := [⟨["", "w", "main.rs"], 0, "a"⟩]
  triggers := [⟨["", "w", "main.rs"], 0, 1⟩]
  strategies := [.rc]
  edits := edits

def mainPath : Path := ["", "w", "main.rs"]

/-- With one touched file, the child reads the text that the offered edits make. -/
theorem single_file_offered_is_compiled :
    ∃ sources overlay, OfferedIsCompiled sources overlay
      (onDisk ["", "w"] overlay fun _ => none) [insertion mainPath 'x'] := by
  have hmem : offered [insertion mainPath 'x'] ∈ validateWrapperSuggestionsOnDisk (fun _ _ => true)
      ["", "w"] (patchedInvocation [(mainPath, ['a'])] [insertion mainPath 'x']) := by decide +kernel
  obtain ⟨sources, overlay, -, -, -, hiff⟩ := offered_is_compiled_iff hmem
  refine ⟨sources, overlay, hiff.mpr fun path hpath other hother _ => ?_⟩
  have hone : touchedPaths (offered [insertion mainPath 'x']).edits = [mainPath] := by decide
  rw [hone] at hpath hother
  rw [List.mem_singleton.mp hpath, List.mem_singleton.mp hother]

/-- And it is the verdict on the overlay. -/
theorem single_file_validates_alike :
    validateWrapperSuggestionsOnDisk (fun _ _ => true) ["", "w"]
        (patchedInvocation [(mainPath, ['a'])] [insertion mainPath 'x'])
      = validateWrapperSuggestions (fun _ _ => true)
        (patchedInvocation [(mainPath, ['a'])] [insertion mainPath 'x']) := by
  refine validateOnDisk_eq fun variants hvariants edits overlay hmade => ?_
  obtain rfl := List.mem_singleton.mp hvariants
  obtain ⟨-, rfl⟩ : [insertion mainPath 'x'] = edits ∧ [(mainPath, ['x', 'a'])] = overlay :=
    Prod.mk.inj (Option.some.inj ((show _ = some _ by decide +kernel).symm.trans hmade))
  intro entry hentry other hother _
  rw [List.mem_singleton.mp hentry, List.mem_singleton.mp hother]

def outsidePath : Path := ["", "e", "a.rs"]

/-- A file of the workspace that has the name given to `/e/a.rs`. -/
def insidePath : Path := ["", "w", "_external", stableSourceHash outsidePath.display, "a.rs"]

def sharedSources : List (Path × Text) := [(outsidePath, ['a']), (insidePath, ['b'])]

def sharedEdits : List RepairEdit := [insertion outsidePath 'x', insertion insidePath 'y']

/-- The edit of the file outside the workspace is lost. -/
theorem edit_lost_in_shared_file :
    normalizeVariantEdits (patchedInvocation sharedSources sharedEdits).plan.toRepairPlan sharedEdits
        = .ok sharedEdits ∧
      replaceAll outsidePath ['a'] sharedEdits = ['x', 'a'] ∧
      ∃ read, materializeVariantSources ["", "w"]
          (patchedInvocation sharedSources sharedEdits).plan.toRepairPlan sharedEdits (fun _ => none)
          = .ok read ∧ read outsidePath = some (.source ['y', 'b']) := by
  have htexts : variantTexts (patchedInvocation sharedSources sharedEdits).plan.toRepairPlan
      sharedEdits = .ok [(outsidePath, ['x', 'a']), (insidePath, ['y', 'b'])] := by decide +kernel
  refine ⟨by decide +kernel, by decide +kernel,
    onDisk ["", "w"] [(outsidePath, ['x', 'a']), (insidePath, ['y', 'b'])] fun _ => none, ?_,
    by decide +kernel⟩
  rw [materializeVariantSources, htexts]
  rfl

/-- The edits make `xa` of the file outside the workspace, but the child reads `yb` there. -/
theorem shared_file_read_for_both :
    validateWrapperSuggestionsOnDisk (fun _ _ => true) ["", "w"]
        (patchedInvocation sharedSources sharedEdits) = [offered sharedEdits]
      ∧ variantTexts (patchedInvocation sharedSources sharedEdits).plan.toRepairPlan
        sharedEdits = .ok [(outsidePath, ['x', 'a']), (insidePath, ['y', 'b'])]
      ∧ onDisk ["", "w"] [(outsidePath, ['x', 'a']), (insidePath, ['y', 'b'])] (fun _ => none)
        outsidePath = some (.source ['y', 'b'])
      ∧ ¬ OfferedIsCompiled sharedSources [(outsidePath, ['x', 'a']), (insidePath, ['y', 'b'])]
        (onDisk ["", "w"] [(outsidePath, ['x', 'a']), (insidePath, ['y', 'b'])] fun _ => none)
        sharedEdits := by
  have hread : onDisk ["", "w"] [(outsidePath, ['x', 'a']), (insidePath, ['y', 'b'])] (fun _ => none)
      outsidePath = some (.source ['y', 'b']) := by decide +kernel
  refine ⟨by decide +kernel, by decide +kernel, hread, fun h => ?_⟩
  obtain ⟨source, hsource, hsame⟩ := h.touched outsidePath (by decide +kernel)
  have hfound : sourceOf sharedSources outsidePath = some ['a'] := by decide +kernel
  obtain rfl : ['a'] = source := Option.some.inj (hfound.symm.trans hsource)
  rw [hread] at hsame
  have hpatched : replaceAll outsidePath ['a'] sharedEdits = ['x', 'a'] := by decide +kernel
  rw [hpatched] at hsame
  exact absurd hsame (by decide)

end RustWorkbench.Compiler
