import RustWorkbench.Analyzer.Text
import RustWorkbench.Compiler.GraphTypes
import RustWorkbench.Compiler.Variants

/-!
# Validating the wrapper suggestions of an invocation

Before the driver offers a wrapper it compiles the patched crate: `validateWrapperSuggestions`
runs the child compiler for every wrapper variant alone and for all of them together and keeps
those that compile.  `cachedOrValidateWrapperSuggestions` looks into a cache first.

The child compiler is a parameter: it exits with success or not, depending on its arguments, its
environment and the files it reads.  The driver makes a temporary directory with a new name for
each invocation and puts the patched sources and the artifacts of a candidate there; names below
it are taken relative to the directory of the candidate, so a child that looks at the name of
the temporary directory is outside this model.  A patched source is what the child reads under
the path of the original.  Failures of the file system, and of starting the child, are left out.
-/

namespace RustWorkbench.Compiler

open Analyzer (splitOnChar startsWith stripPrefix)

/-! ## The plan of the invocation -/

inductive WrapperStrategy
  | arc | arcMutex | arcRwLock | mutex | rc | refCell | rcRefCell | rwLock
deriving DecidableEq, Repr

structure WrapperVariant where
  binding : Binding
  trigger : Span
  strategy : WrapperStrategy
  edits : List RepairEdit
deriving DecidableEq, Repr

/-- The repair plan with the fields that validation reads. -/
structure WrapperPlan extends RepairPlan where
  crateName : String
  stableCrateId : Nat
  wrapperVariants : List WrapperVariant
deriving DecidableEq, Repr

structure ValidatedWrapperSuggestion where
  bindings : List Binding
  triggers : List Span
  strategies : List WrapperStrategy
  edits : List RepairEdit
deriving DecidableEq, Repr

/-! ## The child compiler -/

/-- A source file, or an artifact such as the metadata of a dependency. -/
inductive FileContents
  | source (text : Text)
  | artifact (bytes : List UInt8)
deriving DecidableEq, Repr

abbrev Files := Path → Option FileContents

/-- What the child is started with. -/
structure ChildStart where
  args : List String
  environment : List (String × String)
deriving DecidableEq, Repr

/-- Whether the child exits with success. -/
abbrev ChildCompiler := ChildStart → Files → Bool

/-- `strip_emit_paths`: `link=a,metadata` becomes `link,metadata`. -/
def stripEmitPaths (emit : String) : String :=
  ",".intercalate ((splitOnChar ',' emit.toList).map fun kind =>
    String.ofList (kind.takeWhile (· ≠ '=')))

/-- One argument that is not followed by a value of its own, and whether it names the output. -/
def redirectArgument (output directory arg : String) : List String × Bool :=
  if arg = "-o" then ([arg, output], true)
  else if arg = "--out-dir" then ([arg, directory], true)
  else if startsWith arg "--out-dir=" then (["--out-dir=" ++ directory], true)
  else
    match stripPrefix arg "--emit=" with
    | some emit => (["--emit=" ++ stripEmitPaths emit], false)
    | none =>
      if startsWith arg "-Cincremental=" then ([], false)
      else if startsWith arg "-o" && 2 < Analyzer.byteLen arg then (["-o" ++ output], true)
      else ([arg], false)

/-- The loop of `redirect_variant_outputs`. -/
def redirectArguments (output directory : String) : List String → List String × Bool
  | [] => ([], false)
  | [arg] => redirectArgument output directory arg
  | arg :: value :: rest =>
    if arg = "-o" then (arg :: output :: (redirectArguments output directory rest).1, true)
    else if arg = "--out-dir" then
      (arg :: directory :: (redirectArguments output directory rest).1, true)
    else if arg = "--emit" then
      let (redirected, named) := redirectArguments output directory rest
      (arg :: stripEmitPaths value :: redirected, named)
    else if arg = "-C" && startsWith value "incremental=" then
      redirectArguments output directory rest
    else
      let (first, firstNamed) := redirectArgument output directory arg
      let (redirected, named) := redirectArguments output directory (value :: rest)
      (first ++ redirected, firstNamed || named)

/-- `redirect_variant_outputs`. -/
def redirectVariantOutputs (args : List String) (artifacts : String) : List String :=
  let (redirected, named) := redirectArguments (artifacts ++ "/output") artifacts args
  if named then redirected else redirected ++ ["--out-dir", artifacts]

example : redirectVariantOutputs ["main.rs", "--emit=link=x,metadata", "-C", "incremental=i"] "a"
    = ["main.rs", "--emit=link,metadata", "--out-dir", "a"] := by decide +kernel

/-- One run of the driver: what it is started with, the files at that time, the version strings
and the executable (`compiler_cache_identity`), and the plan of the first compilation. -/
structure Invocation where
  args : List String
  environment : List (String × String)
  files : Files
  compilerIdentity : String
  plan : WrapperPlan

/-- The variables that `run_child` sets; they name files of the candidate. -/
def childVariables : List (String × String) :=
  [("RUSTC_BORROWCK_AUTOFIX_CHILD", "1"), ("RUSTC_BORROWCK_AUTOFIX_PLAN", "compile.json"),
    ("RUSTC_BORROWCK_AUTOFIX_OVERLAY", "overlay-0.json")]

/-- The variables that the child inherits. -/
def inheritedEnvironment (environment : List (String × String)) : List (String × String) :=
  environment.filter fun entry => entry.1 ∉ childVariables.map Prod.fst

/-- What `run_child` starts for a candidate. -/
def Invocation.childStart (invocation : Invocation) : ChildStart where
  args := redirectVariantOutputs invocation.args "artifacts"
  environment := inheritedEnvironment invocation.environment ++ childVariables

/-- `OverlayFileLoader`: the patched text where there is one. -/
def overlaid (overlay : List (Path × Text)) (files : Files) : Files := fun path =>
  match overlayText overlay path with
  | some text => some (.source text)
  | none => files path

/-! ## Candidates -/

/-- `MAX_EDITOR_WRAPPER_VARIANTS`. -/
def maxEditorWrapperVariants : Nat := 12

def sameBinding (left right : Binding) : Bool :=
  left.path = right.path && left.byteStart = right.byteStart

/-- The edits of the variants, then those of the repairs of other bindings. -/
def candidateEdits (plan : WrapperPlan) (variants : List WrapperVariant) : List RepairEdit :=
  variants.flatMap WrapperVariant.edits ++
    (plan.repairs.filter fun repair => !repair.binding.any fun binding =>
      variants.any fun variant => sameBinding binding variant.binding).flatMap RepairGroup.edits

/-- The part of `validate_wrapper_suggestion_set` before the child runs: the edits and the
overlay, or nothing to compile. -/
def candidate (plan : WrapperPlan) (variants : List WrapperVariant) :
    Option (List RepairEdit × List (Path × Text)) :=
  match normalizeVariantEdits plan.toRepairPlan (candidateEdits plan variants) with
  | .error _ => none
  | .ok [] => none
  | .ok (edit :: edits) =>
    -- A panic is not possible here (`exists_candidate`).
    match variantTexts plan.toRepairPlan (edit :: edits) with
    | .error _ => none
    | .ok overlay => some (edit :: edits, overlay)

/-- `validate_wrapper_suggestion_set`. -/
def validateWrapperSuggestionSet (compiler : ChildCompiler) (invocation : Invocation)
    (variants : List WrapperVariant) : Option ValidatedWrapperSuggestion :=
  match candidate invocation.plan variants with
  | none => none
  | some (edits, overlay) =>
    if compiler invocation.childStart (overlaid overlay invocation.files) then
      some ⟨variants.map WrapperVariant.binding, variants.map WrapperVariant.trigger,
        variants.map WrapperVariant.strategy, edits⟩
    else none

/-- Each variant alone, and all of them together if there are several. -/
def candidateSets (plan : WrapperPlan) : List (List WrapperVariant) :=
  let variants := plan.wrapperVariants.take maxEditorWrapperVariants
  variants.map (fun variant => [variant]) ++ if 1 < variants.length then [variants] else []

/-- `validate_wrapper_suggestions`. -/
def validateWrapperSuggestions (compiler : ChildCompiler) (invocation : Invocation) :
    List ValidatedWrapperSuggestion :=
  (candidateSets invocation.plan).filterMap (validateWrapperSuggestionSet compiler invocation)

/-! ## The cache -/

/-- What `wrapper_validation_cache_path` hashes. -/
structure CacheKey where
  formatVersion : Nat
  compilerIdentity : String
  args : List String
  crateName : String
  stableCrateId : Nat
  sources : List RepairSource
  repairs : List RepairGroup
  wrapperVariants : List WrapperVariant
deriving DecidableEq, Repr

def Invocation.cacheKey (invocation : Invocation) : CacheKey where
  formatVersion := 2
  compilerIdentity := invocation.compilerIdentity
  args := invocation.args
  crateName := invocation.plan.crateName
  stableCrateId := invocation.plan.stableCrateId
  sources := invocation.plan.sources
  repairs := invocation.plan.repairs
  wrapperVariants := invocation.plan.wrapperVariants

/-- `{model_directory}/.validation-cache/{hash}.cache`. -/
structure CacheFile (H : Type) where
  modelDirectory : String
  hash : H
deriving DecidableEq, Repr

structure CachedWrapperSuggestions where
  formatVersion : Nat
  compilerIdentity : String
  suggestions : List ValidatedWrapperSuggestion
deriving DecidableEq, Repr

/-- The files of the cache, the one modified last at the end. -/
abbrev Cache (H : Type) := List (CacheFile H × CachedWrapperSuggestions)

/-- `ownership_model_directory`. -/
def ownershipModelDirectory (args : List String) : Option String :=
  args.findSome? fun arg => stripPrefix arg "-Zborrowck-ownership-model="

section

variable {H : Type} [DecidableEq H]

def Cache.read (cache : Cache H) (file : CacheFile H) : Option CachedWrapperSuggestions :=
  (cache.find? fun entry => entry.1 = file).map Prod.snd

def Cache.write (cache : Cache H) (file : CacheFile H) (cached : CachedWrapperSuggestions) :
    Cache H :=
  (cache.filter fun entry => entry.1 ≠ file) ++ [(file, cached)]

/-- Remove the oldest files of a directory. -/
def Cache.removeOldest (directory : String) : Nat → Cache H → Cache H
  | 0, cache => cache
  | _ + 1, [] => []
  | count + 1, entry :: cache =>
    if entry.1.modelDirectory = directory then removeOldest directory count cache
    else entry :: removeOldest directory (count + 1) cache

/-- `prune_wrapper_validation_cache`. -/
def pruneWrapperValidationCache (directory : String) (maximumEntries : Nat) (cache : Cache H) :
    Cache H :=
  let count := (cache.filter fun entry => entry.1.modelDirectory = directory).length
  if count < maximumEntries then cache
  else Cache.removeOldest directory (count - (maximumEntries - 1)) cache

variable (hash : CacheKey → H)

/-- `wrapper_validation_cache_path`; `hash` stands for the hash of the serialized key. -/
def wrapperValidationCachePath (invocation : Invocation) : Option (CacheFile H) :=
  (ownershipModelDirectory invocation.args).map fun directory =>
    ⟨directory, hash invocation.cacheKey⟩

/-- The entry that the cached branch returns, if it is taken. -/
def cachedSuggestions (invocation : Invocation) (cache : Cache H) :
    Option CachedWrapperSuggestions :=
  (wrapperValidationCachePath hash invocation).bind fun file =>
    (cache.read file).filter fun cached =>
      cached.formatVersion = 2 && cached.compilerIdentity = invocation.compilerIdentity

/-- `cached_or_validate_wrapper_suggestions`: the suggestions and the cache afterwards. -/
def cachedOrValidateWrapperSuggestions (compiler : ChildCompiler) (invocation : Invocation)
    (cache : Cache H) : List ValidatedWrapperSuggestion × Cache H :=
  match cachedSuggestions hash invocation cache with
  | some cached => (cached.suggestions, cache)
  | none =>
    let suggestions := validateWrapperSuggestions compiler invocation
    match wrapperValidationCachePath hash invocation with
    | none => (suggestions, cache)
    | some file =>
      (suggestions, (pruneWrapperValidationCache file.modelDirectory 128 cache).write file
        ⟨2, invocation.compilerIdentity, suggestions⟩)

end

end RustWorkbench.Compiler
