import RustWorkbench.Compiler.PatchedFiles
import RustWorkbench.Library.Assoc
import RustWorkbench.Library.Disk

/-!
# The repair rounds of the driver

`-Zborrowck-autofix` compiles a crate in a child process, applies the repairs of the plan that the
child leaves, and compiles again with the patched sources in place of the originals, up to
`maxRepairRounds` times.  At the end it compiles every wrapper variant of the first plan that has
one.

A child may answer anything: whether it succeeds and what plan it leaves are arguments.  The paths
of a plan are canonical, as the compiler writes them, so two paths are one file only if they are
equal.  Directories are not kept, and failures of the file system are left out; so are the copies of
the children's output on the terminal.
-/

namespace RustWorkbench.Compiler

open Disk (Effect Logged)
open Disk.Logged (emit fail)
open StableSort (sortByKey)

/-! ## Plans and children -/

/-- `MAX_REPAIR_ROUNDS`. -/
def maxRepairRounds : Nat := 4

structure WrapperRejection where
  binding : Binding
  strategy : WrapperStrategy
  reason : String
deriving DecidableEq, Repr

/-- The plan with the fields that the rounds read. -/
structure AutofixPlan extends WrapperPlan where
  wrapperRejections : List WrapperRejection
deriving DecidableEq, Repr

/-- What a child leaves; `plan` is the answer of `read_plan`. -/
structure ChildOutput where
  success : Bool
  stdout : String
  stderr : String
  plan : Except String (Option AutofixPlan)

/-- The arguments of `run_child`. -/
structure ChildCall where
  args : List String
  planPath : Path
  overlayPath : Option Path
deriving DecidableEq, Repr

inductive AutofixOutcome
  | compilationFailed
  | success
deriving DecidableEq, Repr

/-- The original and the patched file in its place. -/
abbrev OverlayMap := Assoc.Map Path Path

/-- What the driver is started with: `workDir` is the new directory of `WorkDir::create`, and
`workspace` the directory that `patched_source_path` takes paths relative to. -/
structure Driver where
  args : List String
  outputRoot : Path
  workDir : Path
  workspace : Path
deriving DecidableEq, Repr

/-! ## What the driver writes -/

/-- A `variant.json`; a rejected variant has neither rounds nor artifacts. -/
structure VariantResult where
  name : String
  bindings : List Binding
  strategies : List String
  status : String
  repairRounds : Option Nat := none
  reason : Option String
  directory : String
  artifacts : Option String := none
  stdout : Option String := none
  stderr : Option String := none
deriving DecidableEq, Repr

/-- A `repair.json`. -/
structure RepairManifest where
  formatVersion : Nat := 2
  crateName : String
  stableCrateId : String
  status : String
  repairRounds : Nat
  files : List (String × String)
  appliedRepairs : List AppliedRepair
  skippedRepairs : List SkippedRepair
  wrapperVariants : List VariantResult
  wrapperRejections : List WrapperRejection
deriving DecidableEq, Repr

inductive DriverFile
  | source (text : Text)
  | overlay (entries : OverlayMap)
  | output (text : String)
  | variant (result : VariantResult)
  | manifest (manifest : RepairManifest)
deriving DecidableEq, Repr

/-- What a child is started for. -/
inductive ChildRole
  | main
  | variant
deriving DecidableEq, Repr

inductive DriverEvent
  | disk (effect : Effect String DriverFile)
  | child (role : ChildRole) (call : ChildCall)
deriving DecidableEq, Repr

abbrev DriverProgram := Logged DriverEvent Failure

def writeFile (path : Path) (contents : DriverFile) : DriverProgram Unit :=
  emit (.disk (.write path contents))

/-- `write_overlay`: the file that tells the child what to read, if there is anything to tell. -/
def writeOverlay (directory : Path) (round : Nat) (overlay : OverlayMap) :
    DriverProgram (Option Path) :=
  if overlay.isEmpty then pure none
  else do
    let path := directory ++ ["overlay-" ++ toString round ++ ".json"]
    writeFile path (.overlay overlay)
    pure (some path)

/-! ## Applying a plan -/

/-- `patched_source_path` in a directory. -/
def patchedFile (workspace directory original : Path) : Path :=
  directory ++ patchedSourcePath workspace original

/-- The loop of `apply_plan` over `edits_by_path`. -/
def patchFiles (workspace directory : Path) (sources : List (Path × Text))
    (accepted : List RepairEdit) : List Path → OverlayMap → DriverProgram OverlayMap
  | [], overlay => pure overlay
  | original :: originals, overlay =>
    match sourceOf sources original with
    | none => patchFiles workspace directory sources accepted originals overlay
    | some source =>
      match patchText source (editsFor original accepted) with
      | none => fail .panic
      | some patched => do
        writeFile (patchedFile workspace directory original) (.source patched)
        patchFiles workspace directory sources accepted originals
          (overlay.insert original (patchedFile workspace directory original))

/-- The edited files in the order of `edits_by_path`. -/
def editedFiles (accepted : List RepairEdit) : List Path := sortByKey id (touchedPaths accepted)

/-- What `apply_plan` returns and leaves in its mutable arguments. -/
structure Applied where
  overlay : OverlayMap
  appliedRepairs : List AppliedRepair
  skippedRepairs : List SkippedRepair
  count : Nat
deriving DecidableEq, Repr

/-- `apply_plan`. -/
def applyPlan (workspace directory : Path) (plan : RepairPlan) (round : Nat)
    (overlay : OverlayMap) (appliedRepairs : List AppliedRepair)
    (skippedRepairs : List SkippedRepair) : DriverProgram Applied :=
  match planSourceTexts plan with
  | .error message => fail (.error message)
  | .ok sources =>
    let st := considerRepairs sources round skippedRepairs plan.repairs
    if st.accepted.isEmpty then pure ⟨overlay, appliedRepairs, st.skippedRepairs, 0⟩
    else do
      let overlay ← patchFiles workspace directory sources st.accepted (editedFiles st.accepted)
        overlay
      let applied := appliedRepairs ++ st.appliedGroups.map fun repair => ⟨round, repair⟩
      pure ⟨overlay, applied, st.skippedRepairs,
        (applied.filter fun repair => repair.round = round).length⟩

/-! ## Wrapper variants -/

/-- `strategy_name`. -/
def strategyName : WrapperStrategy → String
  | .arc => "arc"
  | .arcMutex => "arc_mutex"
  | .arcRwLock => "arc_rw_lock"
  | .mutex => "mutex"
  | .rc => "rc"
  | .refCell => "ref_cell"
  | .rcRefCell => "rc_ref_cell"
  | .rwLock => "rw_lock"

/-- `safe_component`. -/
def safeComponent (value : String) : String :=
  String.ofList (value.toList.map fun character =>
    if character.isAlphanum || character = '-' || character = '_' then character else '_')

/-- The name of the directory of one variant. -/
def variantName (variant : WrapperVariant) : String :=
  safeComponent variant.binding.name ++ "-" ++ toString variant.binding.byteStart ++ "-"
    ++ strategyName variant.strategy

/-- How the rounds of a variant end. -/
structure VariantProgress where
  status : String
  repairRounds : Nat
  rejection : Option String
deriving DecidableEq, Repr

/-- The loop of `compile_wrapper_variant_set`, over the rounds that are left. -/
def variantRounds (workspace : Path) (args : List String) (child : Nat → ChildOutput)
    (variantDir : Path) : List Nat → Nat → OverlayMap → DriverProgram VariantProgress
  | [], last, _ => pure ⟨"failed", last, none⟩
  | round :: rounds, _, overlay => do
    let overlayPath ← writeOverlay variantDir round overlay
    emit (.child .variant
      ⟨args, variantDir ++ ["compile-round-" ++ toString round ++ ".json"], overlayPath⟩)
    writeFile (variantDir ++ ["stdout.txt"]) (.output (child round).stdout)
    writeFile (variantDir ++ ["stderr.txt"]) (.output (child round).stderr)
    if (child round).success then pure ⟨"success", round, none⟩
    else
      match (child round).plan with
      | .error message => fail (.error message)
      | .ok none =>
        pure ⟨"failed", round, some "variant compiler did not produce a repair plan"⟩
      | .ok (some plan) =>
        if round = maxRepairRounds || plan.repairs.isEmpty then pure ⟨"failed", round, none⟩
        else do
          let applied ← applyPlan workspace (variantDir ++ ["retry-" ++ toString (round + 1)])
            plan.toRepairPlan (round + 1) overlay [] []
          if applied.count = 0 then
            pure ⟨"failed", round, some "variant produced no additional non-overlapping repair"⟩
          else variantRounds workspace args child variantDir rounds round applied.overlay

/-- The loop of `materialize_variant_sources` that writes the texts. -/
def writeTexts (workspace directory : Path) : List (Path × Text) → OverlayMap →
    DriverProgram OverlayMap
  | [], overlay => pure overlay
  | (original, text) :: texts, overlay => do
    writeFile (patchedFile workspace directory original) (.source text)
    writeTexts workspace directory texts
      (overlay.insert original (patchedFile workspace directory original))

/-- `compile_wrapper_variant_set`. -/
def compileWrapperVariantSet (driver : Driver) (child : Nat → ChildOutput) (plan : AutofixPlan)
    (variantsRoot : Path) (name : String) (variants : List WrapperVariant) :
    DriverProgram VariantResult :=
  let variantDir := variantsRoot ++ [name]
  let record : VariantResult :=
    { name := name
      bindings := variants.map WrapperVariant.binding
      strategies := variants.map fun variant => strategyName variant.strategy
      status := "rejected"
      reason := none
      directory := variantDir.display }
  do
  emit (.disk (.removeAll variantDir))
  match variantTexts plan.toRepairPlan (candidateEdits plan.toWrapperPlan variants) with
  | .error .panic => fail .panic
  | .error (.error message) =>
    let result := { record with reason := some message }
    writeFile (variantDir ++ ["variant.json"]) (.variant result)
    pure result
  | .ok texts =>
    let overlay ← writeTexts driver.workspace (variantDir ++ ["sources"]) (sortByKey Prod.fst texts) []
    let artifacts := (variantDir ++ ["artifacts"]).display
    let progress ← variantRounds driver.workspace (redirectVariantOutputs driver.args artifacts) child
      variantDir (List.range (maxRepairRounds + 1)) 0 overlay
    let result :=
      { record with
        status := progress.status
        repairRounds := some progress.repairRounds
        reason := progress.rejection
        artifacts := some artifacts
        stdout := some (variantDir ++ ["stdout.txt"]).display
        stderr := some (variantDir ++ ["stderr.txt"]).display }
    writeFile (variantDir ++ ["variant.json"]) (.variant result)
    pure result

/-- The sets that `compile_wrapper_variants` compiles, with the names of their directories. -/
def variantSets (plan : AutofixPlan) : List (String × List WrapperVariant) :=
  (plan.wrapperVariants.map fun variant => (variantName variant, [variant]))
    ++ if 1 < plan.wrapperVariants.length then [("all-wrappers", plan.wrapperVariants)] else []

/-- One set after the other; `children` answers for each of them. -/
def compileVariantSets (driver : Driver) (children : Nat → Nat → ChildOutput) (plan : AutofixPlan)
    (variantsRoot : Path) : Nat → List (String × List WrapperVariant) →
    DriverProgram (List VariantResult)
  | _, [] => pure []
  | index, (name, variants) :: sets => do
    let result ← compileWrapperVariantSet driver (children index) plan variantsRoot name variants
    let results ← compileVariantSets driver children plan variantsRoot (index + 1) sets
    pure (result :: results)

/-- `compile_wrapper_variants`. -/
def compileWrapperVariants (driver : Driver) (children : Nat → Nat → ChildOutput)
    (plan : Option AutofixPlan) (crateDir : Path) : DriverProgram (List VariantResult) :=
  match plan with
  | none => pure []
  | some plan => compileVariantSets driver children plan (crateDir ++ ["variants"]) 0 (variantSets plan)

/-! ## Rounds -/

/-- `crate_output_dir`. -/
def crateOutputDir (outputRoot : Path) (plan : AutofixPlan) : Path :=
  outputRoot ++ [safeComponent plan.crateName ++ "-" ++ hex16 plan.stableCrateId]

/-- The variables of `run` at the start of a round. -/
structure RunState where
  overlay : OverlayMap := []
  crateDir : Option Path := none
  crateIdentity : Option (String × Nat) := none
  appliedRepairs : List AppliedRepair := []
  skippedRepairs : List SkippedRepair := []
  wrapperSeedPlan : Option AutofixPlan := none
deriving DecidableEq, Repr

/-- `write_repair_manifest`. -/
def writeRepairManifest (crateDir : Path) (plan : AutofixPlan) (status : String) (rounds : Nat)
    (st : RunState) (results : List VariantResult) : DriverProgram Unit :=
  writeFile (crateDir ++ ["repair.json"]) (.manifest
    { crateName := plan.crateName
      stableCrateId := hex16 plan.stableCrateId
      status := status
      repairRounds := rounds
      files := st.overlay.map fun entry => (entry.1.display, entry.2.display)
      appliedRepairs := st.appliedRepairs
      skippedRepairs := st.skippedRepairs
      wrapperVariants := results
      wrapperRejections := (st.wrapperSeedPlan.map AutofixPlan.wrapperRejections).getD [] })

/-- The part of a round that looks at the plan first: the crate keeps its identity, its directory
and the first plan with wrappers. -/
def notePlan (outputRoot : Path) (st : RunState) (plan : AutofixPlan) : Except Failure RunState :=
  if st.crateIdentity.any fun expected => expected ≠ (plan.crateName, plan.stableCrateId) then
    .error (.error "borrowck autofix child changed crate identity")
  else
    .ok { st with
      crateIdentity := some (plan.crateName, plan.stableCrateId)
      crateDir := some (st.crateDir.getD (crateOutputDir outputRoot plan))
      wrapperSeedPlan :=
        match st.wrapperSeedPlan with
        | some seed => some seed
        | none =>
          if !plan.wrapperVariants.isEmpty || !plan.wrapperRejections.isEmpty then some plan
          else none }

/-- The end of a run: the variants and the manifest. -/
def finishRun (driver : Driver) (children : Nat → Nat → ChildOutput) (crateDir : Path)
    (plan : AutofixPlan) (status : String) (round : Nat) (st : RunState) : DriverProgram Unit := do
  let results ← compileWrapperVariants driver children st.wrapperSeedPlan crateDir
  writeRepairManifest crateDir plan status round st results

/-- How a round ends: the next one starts, or the run is over. -/
inductive RoundEnd
  | next (st : RunState)
  | done (outcome : AutofixOutcome)
deriving DecidableEq, Repr

/-- A round after the child has left a plan. -/
def planRound (driver : Driver) (children : Nat → Nat → ChildOutput) (success : Bool) (round : Nat)
    (plan : AutofixPlan) (st : RunState) : DriverProgram RoundEnd :=
  match notePlan driver.outputRoot st plan with
  | .error failure => fail failure
  | .ok st =>
    match st.crateDir with
    | none => pure (.done (if success then .success else .compilationFailed))
    | some crateDir =>
      if success then do
        finishRun driver children crateDir plan "success" round st
        pure (.done .success)
      else if round = maxRepairRounds || plan.repairs.isEmpty then do
        finishRun driver children crateDir plan "failed" round st
        pure (.done .compilationFailed)
      else do
        let applied ← applyPlan driver.workspace crateDir plan.toRepairPlan (round + 1)
          st.overlay st.appliedRepairs st.skippedRepairs
        let st := { st with
          overlay := applied.overlay
          appliedRepairs := applied.appliedRepairs
          skippedRepairs := applied.skippedRepairs }
        if applied.count = 0 then do
          finishRun driver children crateDir plan "failed" round st
          pure (.done .compilationFailed)
        else pure (.next st)

/-- The body of the loop of `run`, with the answer of its child. -/
def roundBody (driver : Driver) (children : Nat → Nat → ChildOutput) (round : Nat)
    (answer : ChildOutput) (st : RunState) : DriverProgram RoundEnd := do
  let overlayPath ← writeOverlay driver.workDir round st.overlay
  emit (.child .main
    ⟨driver.args, driver.workDir ++ ["round-" ++ toString round ++ ".json"], overlayPath⟩)
  match answer.plan with
  | .error message => fail (.error message)
  | .ok none => pure (.done (if answer.success then .success else .compilationFailed))
  | .ok (some plan) => planRound driver children answer.success round plan st

/-- The loop of `run`; nothing is returned if it gets past the last round. -/
def runRounds (driver : Driver) (main : Nat → ChildOutput) (children : Nat → Nat → ChildOutput) :
    List Nat → RunState → DriverProgram (Option AutofixOutcome)
  | [], _ => pure none
  | round :: rounds, st => do
    match ← roundBody driver children round (main round) st with
    | .next st => runRounds driver main children rounds st
    | .done outcome => pure (some outcome)

/-- All rounds; past the last one is `unreachable!()`. -/
def allRounds (driver : Driver) (main : Nat → ChildOutput) (children : Nat → Nat → ChildOutput) :
    DriverProgram AutofixOutcome := do
  match ← runRounds driver main children (List.range (maxRepairRounds + 1)) {} with
  | some outcome => pure outcome
  | none => fail .panic

/-- `run`; `main` and `children` answer for the main compilations and for those of the variants.
The work directory is removed however the rounds end. -/
def run (driver : Driver) (main : Nat → ChildOutput) (children : Nat → Nat → ChildOutput) :
    DriverProgram AutofixOutcome :=
  ⟨(allRounds driver main children).log ++ [.disk (.removeAll driver.workDir)],
    (allRounds driver main children).result⟩

end RustWorkbench.Compiler
