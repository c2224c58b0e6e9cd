import RustWorkbench.Compiler.Autofix

/-!
# Where the driver writes

Every function of the driver that writes is given a directory and stays in it.

* `roundBody_staysIn` — a round writes below the output root and to its work directory.
-/

namespace RustWorkbench.Compiler

open Disk (Effect Logged)
open Disk.Logged (Emits)

/-! ## Events -/

/-- The event changes nothing outside the directory.  What a child writes is its own; the main
compilations are started by `run` alone. -/
def StaysIn (directory : Path) : DriverEvent → Prop
  | .disk effect => directory <+: effect.target
  | .child role _ => role = .variant

theorem StaysIn.mono {directory inner : Path} (h : directory <+: inner) : ∀ event,
    StaysIn inner event → StaysIn directory event
  | .disk _, hevent => h.trans hevent
  | .child _ _, hevent => hevent

theorem emits_within {α : Type} {directory inner : Path} {program : DriverProgram α}
    (h : directory <+: inner) (hinner : Emits (StaysIn inner) program) :
    Emits (StaysIn directory) program :=
  hinner.mono (StaysIn.mono h)

/-- The effects of a log. -/
def effectsOf (log : List DriverEvent) : List (Effect String DriverFile) :=
  log.filterMap fun
    | .disk effect => some effect
    | .child _ _ => none

theorem effectsOf_append (log later : List DriverEvent) :
    effectsOf (log ++ later) = effectsOf log ++ effectsOf later :=
  List.filterMap_append

theorem mem_effectsOf {log : List DriverEvent} {effect : Effect String DriverFile} :
    effect ∈ effectsOf log ↔ .disk effect ∈ log := by
  rw [effectsOf, List.mem_filterMap]
  constructor
  · rintro ⟨event, hmem, hevent⟩
    cases event with
    | disk written => exact Option.some.inj hevent ▸ hmem
    | child _ _ => cases hevent
  · exact fun h => ⟨.disk effect, h, rfl⟩

abbrev DriverDisk := Disk.Files String DriverFile

/-- The disk after the effects of a log. -/
def afterLog (log : List DriverEvent) (files : DriverDisk) : DriverDisk :=
  Disk.run (effectsOf log) files

theorem afterLog_append (log later : List DriverEvent) (files : DriverDisk) :
    afterLog (log ++ later) files = afterLog later (afterLog log files) := by
  rw [afterLog, effectsOf_append, Disk.run_append]
  rfl

/-- **A program that stays in a directory leaves the files outside alone.** -/
theorem afterLog_of_staysIn {directory path : Path} {log : List DriverEvent}
    {files : DriverDisk} (h : ∀ event ∈ log, StaysIn directory event)
    (hpath : ¬ directory <+: path) : afterLog log files path = files path :=
  Disk.run_of_untouched fun _ heffect =>
    Effect.not_touches (h _ (mem_effectsOf.mp heffect)) hpath

/-! ## Functions of the driver -/

theorem writeFile_staysIn (directory name : Path) (contents : DriverFile) :
    Emits (StaysIn directory) (writeFile (directory ++ name) contents) :=
  .emit (List.prefix_append directory name)

theorem writeOverlay_staysIn (directory : Path) (round : Nat) (overlay : OverlayMap) :
    Emits (StaysIn directory) (writeOverlay directory round overlay) := by
  unfold writeOverlay
  split
  · exact .pure none
  · exact .bind (writeFile_staysIn directory _ _) fun _ => .pure _

theorem patchFiles_staysIn (workspace directory : Path) (sources : List (Path × Text))
    (accepted : List RepairEdit) : ∀ (originals : List Path) (overlay : OverlayMap),
    Emits (StaysIn directory)
      (patchFiles workspace directory sources accepted originals overlay)
  | [], overlay => .pure overlay
  | original :: originals, overlay => by
    unfold patchFiles
    split
    · exact patchFiles_staysIn workspace directory sources accepted originals overlay
    · split
      · exact .fail _
      · exact .bind (writeFile_staysIn directory _ _) fun _ =>
          patchFiles_staysIn workspace directory sources accepted originals _

theorem applyPlan_staysIn (workspace directory : Path) (plan : RepairPlan) (round : Nat)
    (overlay : OverlayMap) (applied : List AppliedRepair) (skipped : List SkippedRepair) :
    Emits (StaysIn directory)
      (applyPlan workspace directory plan round overlay applied skipped) := by
  unfold applyPlan
  split
  · exact .fail _
  · dsimp only
    split
    · exact .pure _
    · exact .bind (patchFiles_staysIn _ _ _ _ _ _) fun _ => .pure _

theorem variantRounds_staysIn (workspace : Path) (args : List String) (child : Nat → ChildOutput)
    (variantDir : Path) : ∀ (rounds : List Nat) (last : Nat) (overlay : OverlayMap),
    Emits (StaysIn variantDir) (variantRounds workspace args child variantDir rounds last overlay)
  | [], _, _ => .pure _
  | round :: rounds, last, overlay => by
    unfold variantRounds
    refine .bind (writeOverlay_staysIn variantDir round overlay) fun _ => ?_
    refine .bind (.emit rfl) fun _ => ?_
    refine .bind (writeFile_staysIn variantDir _ _) fun _ => ?_
    refine .bind (writeFile_staysIn variantDir _ _) fun _ => ?_
    split
    · exact .pure _
    split
    · exact .fail _
    · exact .pure _
    split
    · exact .pure _
    refine .bind ?_ fun applied => ?_
    · exact emits_within (List.prefix_append variantDir _) (applyPlan_staysIn _ _ _ _ _ _ _)
    · split
      · exact .pure _
      · exact variantRounds_staysIn workspace args child variantDir rounds round applied.overlay

theorem writeTexts_staysIn (workspace directory : Path) : ∀ (texts : List (Path × Text))
    (overlay : OverlayMap), Emits (StaysIn directory) (writeTexts workspace directory texts overlay)
  | [], overlay => .pure overlay
  | (_, _) :: texts, _ =>
    .bind (writeFile_staysIn directory _ _) fun _ => writeTexts_staysIn workspace directory texts _

section

variable (driver : Driver) (plan : AutofixPlan)

/-- **A variant writes to its own directory only.** -/
theorem compileWrapperVariantSet_staysIn (child : Nat → ChildOutput) (variantsRoot : Path)
    (name : String) (variants : List WrapperVariant) :
    Emits (StaysIn (variantsRoot ++ [name]))
      (compileWrapperVariantSet driver child plan variantsRoot name variants) := by
  unfold compileWrapperVariantSet
  refine .bind (.emit List.prefix_rfl) fun _ => ?_
  split
  · exact .fail _
  · exact .bind (writeFile_staysIn _ _ _) fun _ => .pure _
  · refine .bind ?_ fun overlay => ?_
    · exact emits_within (List.prefix_append _ _) (writeTexts_staysIn _ _ _ _)
    refine .bind (variantRounds_staysIn _ _ _ _ _ _ _) fun _ => ?_
    exact .bind (writeFile_staysIn _ _ _) fun _ => .pure _

variable (children : Nat → Nat → ChildOutput)

theorem compileVariantSets_staysIn (variantsRoot : Path) : ∀ (index : Nat)
    (sets : List (String × List WrapperVariant)),
    Emits (StaysIn variantsRoot) (compileVariantSets driver children plan variantsRoot index sets)
  | _, [] => .pure _
  | index, (name, variants) :: sets => by
    refine .bind ?_ fun _ => .bind (compileVariantSets_staysIn variantsRoot (index + 1) sets)
      fun _ => .pure _
    exact emits_within (List.prefix_append _ _)
      (compileWrapperVariantSet_staysIn driver plan (children index) variantsRoot name variants)

theorem finishRun_staysIn (crateDir : Path) (status : String) (round : Nat) (st : RunState) :
    Emits (StaysIn crateDir) (finishRun driver children crateDir plan status round st) := by
  refine .bind ?_ fun _ => writeFile_staysIn crateDir _ _
  unfold compileWrapperVariants
  split
  · exact .pure _
  · exact emits_within (List.prefix_append _ _) (compileVariantSets_staysIn _ _ _ _ _ _)

/-! ## Rounds -/

/-- A main compilation, or something below the output root or in the work directory. -/
def StaysInOutput : DriverEvent → Prop
  | .child .main _ => True
  | event => StaysIn driver.outputRoot event ∨ StaysIn driver.workDir event

variable {driver} in
theorem staysInOutput_of_staysIn : ∀ {event : DriverEvent},
    StaysIn driver.outputRoot event ∨ StaysIn driver.workDir event → StaysInOutput driver event
  | .child .main _, _ => trivial
  | .child .variant _, h => h
  | .disk _, h => h

/-- The directory of the crate is below the output root. -/
def RunState.InOutput (st : RunState) : Prop :=
  ∀ crateDir ∈ st.crateDir, driver.outputRoot <+: crateDir

variable {driver plan}

theorem notePlan_inOutput {st noted : RunState} (hst : st.InOutput driver)
    (h : notePlan driver.outputRoot st plan = .ok noted) : noted.InOutput driver := by
  unfold notePlan at h
  split at h
  · cases h
  · obtain rfl := Except.ok.inj h
    intro crateDir hcrate
    obtain rfl := Option.mem_some_iff.mp hcrate
    cases hdir : st.crateDir with
    | none => exact List.prefix_append _ _
    | some crateDir => exact hst crateDir hdir

theorem planRound_staysIn (success : Bool) (round : Nat) {st : RunState}
    (hst : st.InOutput driver) :
    Emits (StaysIn driver.outputRoot) (planRound driver children success round plan st) := by
  unfold planRound
  split
  · exact .fail _
  rename_i noted hnoted
  have hin := notePlan_inOutput hst hnoted
  split
  · exact .pure _
  rename_i crateDir hcrate
  have hfinish : ∀ status last, Emits (StaysIn driver.outputRoot)
      (finishRun driver children crateDir plan status round last) := fun status last =>
    emits_within (hin crateDir hcrate) (finishRun_staysIn driver plan children crateDir status round last)
  split
  · exact .bind (hfinish _ _) fun _ => .pure _
  split
  · exact .bind (hfinish _ _) fun _ => .pure _
  refine .bind ?_ fun applied => ?_
  · exact emits_within (hin crateDir hcrate) (applyPlan_staysIn _ _ _ _ _ _ _)
  · dsimp only
    split
    · exact .bind (hfinish _ _) fun _ => .pure _
    · exact .pure _

theorem roundBody_staysIn (round : Nat) (answer : ChildOutput) {st : RunState}
    (hst : st.InOutput driver) :
    Emits (StaysInOutput driver) (roundBody driver children round answer st) := by
  unfold roundBody
  refine .bind ((writeOverlay_staysIn driver.workDir round st.overlay).mono fun _ hevent =>
    staysInOutput_of_staysIn (.inr hevent)) fun _ => ?_
  refine .bind (.emit trivial) fun _ => ?_
  split
  · exact .fail _
  · exact .pure _
  · exact (planRound_staysIn children answer.success round hst).mono fun _ hevent =>
      staysInOutput_of_staysIn (.inl hevent)

/-! ## Main compilations -/

def isMainCompilation : DriverEvent → Bool
  | .child .main _ => true
  | _ => false

theorem countP_main_eq_zero {α : Type} {directory : Path} {program : DriverProgram α}
    (h : Emits (StaysIn directory) program) : program.log.countP isMainCompilation = 0 := by
  rw [List.countP_eq_zero]
  intro event hevent hmain
  cases event with
  | disk effect => cases hmain
  | child role call =>
    obtain rfl : role = .variant := h _ hevent
    cases hmain

/-- A round starts one main compilation. -/
theorem roundBody_countP_main (round : Nat) (answer : ChildOutput) {st : RunState}
    (hst : st.InOutput driver) :
    (roundBody driver children round answer st).log.countP isMainCompilation ≤ 1 := by
  have hoverlay := countP_main_eq_zero (writeOverlay_staysIn driver.workDir round st.overlay)
  refine (Logged.countP_bind_le (n := 1) _ _ fun overlayPath _ => ?_).trans (by rw [hoverlay])
  refine (Logged.countP_bind_le (n := 0) _ _ fun _ _ => ?_).trans le_rfl
  split
  · exact le_rfl
  · exact le_rfl
  · exact (countP_main_eq_zero (planRound_staysIn children answer.success round hst)).le

end

end RustWorkbench.Compiler
