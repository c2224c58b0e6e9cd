import RustWorkbench.Compiler.Validation
import RustWorkbench.Library.Reads

/-!
# When a cached validation is still valid

The key of the validation cache has the arguments, the identity of the compiler and the plan,
and the plan has the text of the files that some span points into.  The child compiler reads
more: the other modules of the crate, the artifacts of its dependencies (of which the key has
the paths) and the environment.

* `cached_suggestions_revalidate_iff` — a hit returns what validation would return, for every
  child compiler, exactly if the environment and the files it reads are unchanged.
-/

namespace RustWorkbench.Compiler

open Reads

/-! ## Candidates -/

/-- Edits that are accepted can be applied: the driver does not panic on a candidate. -/
theorem exists_candidate {plan : WrapperPlan} {variants : List WrapperVariant}
    {edits : List RepairEdit} (hne : edits ≠ [])
    (hedits : normalizeVariantEdits plan.toRepairPlan (candidateEdits plan variants) = .ok edits) :
    ∃ overlay, candidate plan variants = some (edits, overlay) := by
  obtain ⟨sources, hsources, hpass⟩ := normalizeVariantEdits_ok_iff.mp ⟨edits, hedits⟩
  have hsubset : edits ⊆ candidateEdits plan variants := by
    obtain ⟨result, hok, _, hmem⟩ := normalizeEdits_of_passes List.nodup_nil hpass
    rw [normalizeVariantEdits, hsources] at hedits
    obtain rfl : result = edits := Except.ok.inj (hok.symm.trans hedits)
    exact fun edit hedit => ((hmem edit).mp hedit).resolve_left List.not_mem_nil
  obtain ⟨overlay, hoverlay, _⟩ :=
    variantTexts_of_passes hsources (passes_of_subset hsubset hpass)
  obtain ⟨edit, rest, rfl⟩ := List.exists_cons_of_ne_nil hne
  exact ⟨overlay, by simp only [candidate, hedits, hoverlay]⟩

/-- The overlay is made from the plan and the accepted edits. -/
theorem materialize_of_candidate {plan : WrapperPlan} {variants : List WrapperVariant}
    {edits : List RepairEdit} {overlay : List (Path × Text)}
    (h : candidate plan variants = some (edits, overlay)) :
    variantTexts plan.toRepairPlan edits = .ok overlay := by
  unfold candidate at h
  split at h
  · cases h
  · cases h
  · split at h
    · cases h
    · cases h
      assumption

theorem validateWrapperSuggestionSet_eq_some_iff {compiler : ChildCompiler}
    {invocation : Invocation} {variants : List WrapperVariant}
    {suggestion : ValidatedWrapperSuggestion} :
    validateWrapperSuggestionSet compiler invocation variants = some suggestion ↔
      ∃ edits overlay, candidate invocation.plan variants = some (edits, overlay) ∧
        compiler invocation.childStart (overlaid overlay invocation.files) = true ∧
        suggestion = ⟨variants.map WrapperVariant.binding, variants.map WrapperVariant.trigger,
          variants.map WrapperVariant.strategy, edits⟩ := by
  unfold validateWrapperSuggestionSet
  cases hcandidate : candidate invocation.plan variants with
  | none => simp
  | some made =>
    obtain ⟨edits, overlay⟩ := made
    simp only [Option.ite_none_right_eq_some, Option.some.injEq, Prod.mk.injEq]
    constructor
    · rintro ⟨hcompiles, rfl⟩
      exact ⟨edits, overlay, ⟨rfl, rfl⟩, hcompiles, rfl⟩
    · rintro ⟨_, _, ⟨rfl, rfl⟩, hcompiles, rfl⟩
      exact ⟨hcompiles, rfl⟩

/-! ## The cache -/

section

variable {H : Type} [DecidableEq H] {hash : CacheKey → H}

theorem Cache.read_write (cache : Cache H) (file : CacheFile H)
    (cached : CachedWrapperSuggestions) : (cache.write file cached).read file = some cached := by
  have hnone : (cache.filter fun entry => entry.1 ≠ file).find? (fun entry => entry.1 = file)
      = none := by
    rw [List.find?_eq_none]
    intro entry hentry
    simpa using (List.mem_filter.mp hentry).2
  rw [Cache.read, Cache.write, List.find?_append, hnone]
  simp

/-- A miss leaves the validated suggestions in the file of the invocation. -/
theorem read_of_miss {compiler : ChildCompiler} {invocation : Invocation} {cache : Cache H}
    {file : CacheFile H} (hmiss : cachedSuggestions hash invocation cache = none)
    (hfile : wrapperValidationCachePath hash invocation = some file) :
    (cachedOrValidateWrapperSuggestions hash compiler invocation cache).2.read file =
      some ⟨2, invocation.compilerIdentity, validateWrapperSuggestions compiler invocation⟩ := by
  simp only [cachedOrValidateWrapperSuggestions, hmiss, hfile, Cache.read_write]

omit [DecidableEq H] in
/-- **A cache file belongs to one key.** -/
theorem cacheKey_eq_of_path_eq (hhash : Function.Injective hash) {first second : Invocation}
    {file : CacheFile H} (hfirst : wrapperValidationCachePath hash first = some file)
    (hsecond : wrapperValidationCachePath hash second = some file) :
    second.cacheKey = first.cacheKey := by
  obtain ⟨directory, _, hfile⟩ := Option.map_eq_some_iff.mp hfirst
  obtain ⟨directory', _, hfile'⟩ := Option.map_eq_some_iff.mp hsecond
  exact hhash (congrArg CacheFile.hash (hfile'.trans hfile.symm))

/-- The entry of an invocation is accepted by every invocation with the same file. -/
theorem cachedSuggestions_of_read (hhash : Function.Injective hash) {first second : Invocation}
    {file : CacheFile H} (hfirst : wrapperValidationCachePath hash first = some file)
    (hsecond : wrapperValidationCachePath hash second = some file) {cache : Cache H}
    {suggestions : List ValidatedWrapperSuggestion}
    (hread : cache.read file = some ⟨2, first.compilerIdentity, suggestions⟩) :
    cachedSuggestions hash second cache = some ⟨2, first.compilerIdentity, suggestions⟩ := by
  have hidentity : second.compilerIdentity = first.compilerIdentity :=
    congrArg CacheKey.compilerIdentity (cacheKey_eq_of_path_eq hhash hfirst hsecond)
  rw [cachedSuggestions, hsecond, Option.bind_some, hread, hidentity]
  simp

end

/-- The plans of one key, as far as validation reads them. -/
theorem plan_eq_of_cacheKey_eq {first second : Invocation}
    (h : second.cacheKey = first.cacheKey) : second.plan = first.plan := by
  obtain ⟨_, _, _, _, ⟨⟨_, _⟩, _, _, _⟩⟩ := first
  obtain ⟨_, _, _, _, ⟨⟨_, _⟩, _, _, _⟩⟩ := second
  simp only [Invocation.cacheKey, CacheKey.mk.injEq] at h
  obtain ⟨_, _, _, hname, hid, hsources, hrepairs, hvariants⟩ := h
  rw [hname, hid, hsources, hrepairs, hvariants]

/-! ## What the child reads -/

/-- What the child compiler reads when it is started. -/
abbrev ChildReads := Trace ChildStart Path (Option FileContents)

/-- The environment that the child inherits and the files that it reads outside the overlay are
those of the first invocation. -/
structure Unchanged (reads : ChildReads) (first second : Invocation)
    (overlay : List (Path × Text)) : Prop where
  environment : inheritedEnvironment second.environment = inheritedEnvironment first.environment
  files : ∀ path ∈ reads.reads first.childStart (overlaid overlay first.files),
    overlayText overlay path = none → second.files path = first.files path

theorem same_iff_unchanged {reads : ChildReads} {first second : Invocation}
    (hargs : second.args = first.args) {overlay : List (Path × Text)} :
    reads.Same first.childStart (overlaid overlay first.files) second.childStart
      (overlaid overlay second.files) ↔ Unchanged reads first second overlay := by
  have hstart : second.childStart = first.childStart ↔
      inheritedEnvironment second.environment = inheritedEnvironment first.environment := by
    simp [Invocation.childStart, hargs]
  have hpath : ∀ path, overlaid overlay first.files path = overlaid overlay second.files path ↔
      (overlayText overlay path = none → second.files path = first.files path) := by
    intro path
    unfold overlaid
    cases overlayText overlay path with
    | none => simp [eq_comm]
    | some text => simp
  constructor
  · rintro ⟨hsame, hfiles⟩
    exact ⟨hstart.mp hsame, fun path hread => (hpath path).mp (hfiles hread)⟩
  · rintro ⟨henvironment, hfiles⟩
    exact ⟨hstart.mpr henvironment, fun path hread => (hpath path).mpr (hfiles path hread)⟩

/-- Nothing changed that the child reads for one of the candidates that are compiled. -/
def ReadsUnchanged (reads : ChildReads) (first second : Invocation) : Prop :=
  ∀ variants ∈ candidateSets first.plan, ∀ edits overlay,
    candidate first.plan variants = some (edits, overlay) → Unchanged reads first second overlay

section

variable {reads : ChildReads} {first second : Invocation}

/-- One candidate: nothing to compile in both invocations, or the same verdict. -/
theorem validateWrapperSuggestionSet_eq {compiler : ChildCompiler}
    (hdetermined : reads.Determines compiler) (hargs : second.args = first.args)
    (hplan : second.plan = first.plan) {variants : List WrapperVariant}
    (hunchanged : ∀ edits overlay, candidate first.plan variants = some (edits, overlay) →
      Unchanged reads first second overlay) :
    validateWrapperSuggestionSet compiler second variants =
      validateWrapperSuggestionSet compiler first variants := by
  unfold validateWrapperSuggestionSet
  rw [hplan]
  cases hcandidate : candidate first.plan variants with
  | none => rfl
  | some made =>
    obtain ⟨edits, overlay⟩ := made
    have hsame := (same_iff_unchanged hargs).mpr (hunchanged edits overlay hcandidate)
    simp only [hdetermined.eq_of_same hsame]

theorem validateWrapperSuggestions_eq {compiler : ChildCompiler}
    (hdetermined : reads.Determines compiler) (hargs : second.args = first.args)
    (hplan : second.plan = first.plan) (hunchanged : ReadsUnchanged reads first second) :
    validateWrapperSuggestions compiler second = validateWrapperSuggestions compiler first := by
  unfold validateWrapperSuggestions
  rw [hplan]
  exact List.filterMap_congr fun variants hvariants =>
    validateWrapperSuggestionSet_eq hdetermined hargs hplan (hunchanged variants hvariants)

/-- The other direction takes the probe of a candidate as the compiler.  The first invocation
suggests the candidate; whatever candidate gives the same suggestion in the second one has the
same edits, so the same overlay, and the probe accepts it only if nothing it reads changed. -/
theorem unchanged_of_validate_eq (hargs : second.args = first.args)
    (hplan : second.plan = first.plan)
    (heq : ∀ compiler, reads.Determines compiler →
      validateWrapperSuggestions compiler second = validateWrapperSuggestions compiler first) :
    ReadsUnchanged reads first second := by
  intro variants hvariants edits overlay hcandidate
  let probe := reads.probe first.childStart (overlaid overlay first.files)
  let suggestion : ValidatedWrapperSuggestion :=
    ⟨variants.map WrapperVariant.binding, variants.map WrapperVariant.trigger,
      variants.map WrapperVariant.strategy, edits⟩
  have hfirst : suggestion ∈ validateWrapperSuggestions probe first :=
    List.mem_filterMap.mpr ⟨variants, hvariants, validateWrapperSuggestionSet_eq_some_iff.mpr
      ⟨edits, overlay, hcandidate, Trace.probe_eq_true_iff.mpr Trace.Same.refl, rfl⟩⟩
  rw [← heq probe Trace.determines_probe] at hfirst
  obtain ⟨others, _, hothers⟩ := List.mem_filterMap.mp hfirst
  obtain ⟨edits', overlay', hcandidate', haccepts, hsuggestion⟩ :=
    validateWrapperSuggestionSet_eq_some_iff.mp hothers
  obtain rfl : edits = edits' := congrArg ValidatedWrapperSuggestion.edits hsuggestion
  have hoverlay : overlay' = overlay := by
    have hmade' := materialize_of_candidate hcandidate'
    rw [hplan] at hmade'
    exact Except.ok.inj (hmade'.symm.trans (materialize_of_candidate hcandidate))
  rw [hoverlay] at haccepts
  exact (same_iff_unchanged hargs).mp (Trace.probe_eq_true_iff.mp haccepts)

end

/-! ## A hit and a new validation -/

section

variable {H : Type} [DecidableEq H]

/-- The first invocation validates and writes an entry; if at some later time the second one
takes the cached branch on that entry, validating would have given the same suggestions. -/
def HitRevalidates (hash : CacheKey → H) (compiler : ChildCompiler)
    (first second : Invocation) : Prop :=
  ∀ (before later : Cache H) (file : CacheFile H) (entry : CachedWrapperSuggestions),
    cachedSuggestions hash first before = none →
    wrapperValidationCachePath hash first = some file →
    (cachedOrValidateWrapperSuggestions hash compiler first before).2.read file = some entry →
    wrapperValidationCachePath hash second = some file →
    later.read file = some entry →
    cachedSuggestions hash second later = some entry →
    validateWrapperSuggestions compiler second = entry.suggestions

/-- For two invocations with one cache file the property is that they validate alike. -/
theorem hitRevalidates_iff {hash : CacheKey → H} (hhash : Function.Injective hash)
    {compiler : ChildCompiler} {first second : Invocation} :
    HitRevalidates hash compiler first second ↔
      ∀ file, wrapperValidationCachePath hash first = some file →
        wrapperValidationCachePath hash second = some file →
        validateWrapperSuggestions compiler second =
          validateWrapperSuggestions compiler first := by
  constructor
  · intro h file hfirst hsecond
    have hmiss : cachedSuggestions hash first [] = none := by
      rw [cachedSuggestions, hfirst]
      rfl
    have hread := @read_of_miss H _ hash compiler first [] file hmiss hfirst
    exact h [] _ file _ hmiss hfirst hread hsecond hread
      (cachedSuggestions_of_read hhash hfirst hsecond hread)
  · intro h before later file entry hmiss hfirst hread hsecond _ _
    rw [read_of_miss hmiss hfirst] at hread
    rw [← Option.some.inj hread]
    exact h file hfirst hsecond

/-- **A cached validation is valid exactly if nothing changed that the child reads.**  Whatever
the child compiler makes of what it reads, every hit on an entry of the first invocation returns
what the second would have validated, if and only if the second has the same environment and
finds the same contents in every file that is read for one of the candidates. -/
theorem cached_suggestions_revalidate_iff {hash : CacheKey → H}
    (hhash : Function.Injective hash) (reads : ChildReads) (first second : Invocation) :
    (∀ compiler, reads.Determines compiler → HitRevalidates hash compiler first second) ↔
      ∀ file, wrapperValidationCachePath hash first = some file →
        wrapperValidationCachePath hash second = some file → ReadsUnchanged reads first second := by
  simp only [hitRevalidates_iff hhash]
  constructor
  · intro h file hfirst hsecond
    have hkey := cacheKey_eq_of_path_eq hhash hfirst hsecond
    exact unchanged_of_validate_eq (congrArg CacheKey.args hkey) (plan_eq_of_cacheKey_eq hkey)
      fun compiler hdetermined => h compiler hdetermined file hfirst hsecond
  · intro h compiler hdetermined file hfirst hsecond
    have hkey := cacheKey_eq_of_path_eq hhash hfirst hsecond
    exact validateWrapperSuggestions_eq hdetermined (congrArg CacheKey.args hkey)
      (plan_eq_of_cacheKey_eq hkey) (h file hfirst hsecond)

end

/-! ## A crate with a second module and a dependency -/

def sampleSource : String := "let a = 1;"

/-- The plan wraps the value; its spans are all in `main.rs`. -/
def samplePlan : WrapperPlan where
  sources := [⟨["main.rs"], stableSourceHash sampleSource, some sampleSource.toList⟩]
  repairs := []
  crateName := "main"
  stableCrateId := 1
  wrapperVariants := [⟨⟨["main.rs"], 4, "a"⟩, ⟨["main.rs"], 4, 5⟩, .rc,
    [⟨["main.rs"], 8, 9, "Rc::new(1)".toList⟩]⟩]

/-- Its edits are applied. -/
theorem sample_candidate : ∃ overlay, candidate samplePlan samplePlan.wrapperVariants
    = some ([⟨["main.rs"], 8, 9, "Rc::new(1)".toList⟩], overlay) :=
  exists_candidate (List.cons_ne_nil _ _) (by decide +kernel)

/-- An invocation that finds the given `shapes.rs`, metadata of the dependency and notes. -/
def sampleInvocation (shapes : String) (metadata : List UInt8) (notes : String) : Invocation where
  args := ["main.rs", "--extern", "dep=libdep.rmeta", "-Zborrowck-ownership-model=model"]
  environment := [("PATH", "/bin")]
  files path :=
    if path = ["main.rs"] then some (.source sampleSource.toList)
    else if path = ["shapes.rs"] then some (.source shapes.toList)
    else if path = ["libdep.rmeta"] then some (.artifact metadata)
    else if path = ["notes.txt"] then some (.source notes.toList)
    else none
  compilerIdentity := "1.0"
  plan := samplePlan

def sampleReads : ChildReads :=
  Trace.constant {["main.rs"], ["shapes.rs"], ["libdep.rmeta"]}

/-- A compiler that accepts the candidate with one version of the module and the dependency. -/
def sampleCompiler : ChildCompiler := fun _ files =>
  files ["shapes.rs"] = some (.source "fn f(a: Rc<i32>) {}".toList)
    && files ["libdep.rmeta"] = some (.artifact [1])

theorem sampleReads_determines : sampleReads.Determines sampleCompiler := by
  intro start store other hcells
  have hmodule : store ["shapes.rs"] = other ["shapes.rs"] :=
    hcells (by simp [sampleReads, Trace.constant])
  have hdependency : store ["libdep.rmeta"] = other ["libdep.rmeta"] :=
    hcells (by simp [sampleReads, Trace.constant])
  simp only [sampleCompiler, hmodule, hdependency]

/-- None of the three is part of the key. -/
theorem sampleInvocation_path (shapes shapes' : String) (metadata metadata' : List UInt8)
    (notes notes' : String) :
    wrapperValidationCachePath id (sampleInvocation shapes metadata notes) =
      wrapperValidationCachePath id (sampleInvocation shapes' metadata' notes') := by
  simp only [wrapperValidationCachePath, Invocation.cacheKey, sampleInvocation]

/-- The invocation that fills the cache. -/
def sampleFirst : Invocation := sampleInvocation "fn f(a: Rc<i32>) {}" [1] "draft"

/-- A file that the child does not read may change. -/
theorem edited_notes_revalidate :
    HitRevalidates id sampleCompiler sampleFirst
      (sampleInvocation "fn f(a: Rc<i32>) {}" [1] "final") := by
  have hunchanged : ReadsUnchanged sampleReads sampleFirst
      (sampleInvocation "fn f(a: Rc<i32>) {}" [1] "final") := by
    intro variants _ edits overlay _
    refine ⟨rfl, fun path hpath _ => ?_⟩
    have hread : path ≠ ["notes.txt"] := by
      rintro rfl
      simp [sampleReads, Trace.constant] at hpath
    simp only [sampleFirst, sampleInvocation, if_neg hread]
  exact (cached_suggestions_revalidate_iff Function.injective_id sampleReads sampleFirst _).mpr
    (fun _ _ _ => hunchanged) sampleCompiler sampleReads_determines

/-- After a change of a module without a span in the plan, and after a change of the metadata of
a dependency, the cache still returns the suggestion, which no longer compiles. -/
theorem changed_files_served_from_cache :
    sampleReads.Determines sampleCompiler ∧
    ∀ second ∈ [sampleInvocation "fn f(a: i32) {}" [1] "draft",
        sampleInvocation "fn f(a: Rc<i32>) {}" [2] "draft"],
      (cachedOrValidateWrapperSuggestions id sampleCompiler second
        (cachedOrValidateWrapperSuggestions id sampleCompiler sampleFirst []).2).1.length = 1 ∧
      validateWrapperSuggestions sampleCompiler second = [] ∧
      ¬ HitRevalidates id sampleCompiler sampleFirst second := by
  have hfirst : (validateWrapperSuggestions sampleCompiler sampleFirst).length = 1 := by
    decide +kernel
  have hstale : ∀ shapes metadata,
      validateWrapperSuggestions sampleCompiler (sampleInvocation shapes metadata "draft") = [] →
      ¬ HitRevalidates id sampleCompiler sampleFirst
        (sampleInvocation shapes metadata "draft") := by
    intro shapes metadata hempty hrevalidates
    have hsome : (wrapperValidationCachePath id sampleFirst).isSome = true := by decide +kernel
    obtain ⟨file, hfile⟩ := Option.isSome_iff_exists.mp hsome
    have heq := (hitRevalidates_iff Function.injective_id).mp hrevalidates file hfile
      ((sampleInvocation_path ..).trans hfile)
    rw [← heq, hempty] at hfirst
    exact absurd hfirst (by decide)
  refine ⟨sampleReads_determines, ?_⟩
  simp only [List.forall_mem_cons, List.not_mem_nil, false_implies, implies_true, and_true]
  refine ⟨⟨by decide +kernel, ?_⟩, ⟨by decide +kernel, ?_⟩⟩
  · have hempty : validateWrapperSuggestions sampleCompiler
        (sampleInvocation "fn f(a: i32) {}" [1] "draft") = [] := by decide +kernel
    exact ⟨hempty, hstale _ _ hempty⟩
  · have hempty : validateWrapperSuggestions sampleCompiler
        (sampleInvocation "fn f(a: Rc<i32>) {}" [2] "draft") = [] := by decide +kernel
    exact ⟨hempty, hstale _ _ hempty⟩

end RustWorkbench.Compiler
