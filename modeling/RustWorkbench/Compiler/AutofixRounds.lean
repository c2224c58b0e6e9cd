import RustWorkbench.Compiler.ApplyPlan
import RustWorkbench.Library.Search

/-!
# The rounds compose

Each round applies the repairs of a plan to the texts that its child has read, and the next child
reads the result.  So a source should be, at the start of a round, the original with the accepted
edits of the earlier rounds applied one round after the other.  That fails where a plan is not
applied exactly (`ApplyPlan`), and where two files outside the workspace are patched under one name.

* `rounds_compose` — the result, with what holds of every run: at most five main compilations, no
  way past the last round, and no original is written.
-/

namespace RustWorkbench.Compiler

open Disk (Effect Logged)
open Disk.Logged (Emits)
open StableSort (sortByKey mem_sortByKey)

/-! ## The start of a round -/

/-- The variables and the disk. -/
structure RoundStart where
  st : RunState
  files : DriverDisk

/-- What the child reads under a path. -/
def RoundStart.read (start : RoundStart) (path : Path) : Option Text :=
  readOverlaid start.st.overlay start.files path

section Model

variable (driver : Driver) (main : Nat → ChildOutput) (children : Nat → Nat → ChildOutput)
  (files : DriverDisk)

/-- One round, if another one follows. -/
def nextRound (round : Nat) (answer : ChildOutput) (start : RoundStart) : Option RoundStart :=
  match (roundBody driver children round answer start.st).result with
  | .ok (.next st) => some ⟨st, afterLog (roundBody driver children round answer start.st).log start.files⟩
  | _ => none

/-- The start of a round, if the run gets there. -/
def roundStart : Nat → Option RoundStart
  | 0 => some ⟨{}, files⟩
  | round + 1 => (roundStart round).bind (nextRound driver children round (main round))

/-- The edits that a round accepts. -/
def acceptedEdits (round : Nat) (answer : ChildOutput) (st : RunState) : List RepairEdit :=
  match answer.plan with
  | .ok (some plan) =>
    match planSourceTexts plan.toRepairPlan with
    | .ok sources => (considerRepairs sources (round + 1) st.skippedRepairs plan.repairs).accepted
    | .error _ => []
  | _ => []

/-- The original text with the accepted edits of the earlier rounds, one round after the other. -/
def composedText (path : Path) (original : Text) : Nat → Text
  | 0 => original
  | round + 1 =>
    match roundStart driver main children files round with
    | some start =>
      replaceAll path (composedText path original round) (acceptedEdits round (main round) start.st)
    | none => composedText path original round

/-! ## Assumptions -/

/-- The original sources are there, not below the output root nor in a directory `_external`; the
work directory is new. -/
structure Setting (originals : Set Path) : Prop where
  exist : ∀ path ∈ originals, ∃ text, files path = some (.source text)
  outside : ∀ path ∈ originals, ¬ driver.outputRoot <+: path
  noExternal : ∀ path ∈ originals, "_external" ∉ path.dropLast
  fresh : ∀ path, driver.workDir <+: path → files path = none

/-- The sources of a plan are originals, with the text that the child read. -/
def Honest (originals : Set Path) : Prop :=
  ∀ round start plan, roundStart driver main children files round = some start →
    (main round).plan = .ok (some plan) → ∀ source ∈ plan.sources,
      source.path ∈ originals ∧ ∀ text, source.source = some text → start.read source.path = some text

end Model

/-- **The rounds that compose.**  No chosen repair lists a new edit twice; no two files outside the
workspace that are edited now or were edited before have one name and one hash of the path; and no
file is patched inside the work directory. -/
structure RoundComposes (driver : Driver) (answer : ChildOutput) (st : RunState) : Prop where
  once : ∀ plan sources, answer.plan = .ok (some plan) →
    planSourceTexts plan.toRepairPlan = .ok sources → NoRepeatedEdit sources plan.repairs
  apart : ∀ plan sources, answer.plan = .ok (some plan) →
    planSourceTexts plan.toRepairPlan = .ok sources → ∀ path other,
      EditedPath sources plan.repairs path →
      EditedPath sources plan.repairs other ∨ (st.overlay.get? other).isSome →
      ¬ driver.workspace <+: path → ¬ driver.workspace <+: other →
      sourceName path = sourceName other →
      stableSourceHash path.display = stableSourceHash other.display → path = other
  elsewhere : ∀ plan sources, answer.plan = .ok (some plan) →
    planSourceTexts plan.toRepairPlan = .ok sources → ∀ path, EditedPath sources plan.repairs path →
      ¬ driver.workDir <+: patchedFile driver.workspace
        (st.crateDir.getD (crateOutputDir driver.outputRoot plan)) path

/-! ## Patched paths -/

/-- **Originals that share a patched path** are outside the workspace, with one name and one hash. -/
theorem patchedSourcePath_inj {workspace path other : Path} (hpath : "_external" ∉ path.dropLast)
    (hother : "_external" ∉ other.dropLast)
    (h : patchedSourcePath workspace path = patchedSourcePath workspace other) :
    path = other ∨ ¬ workspace <+: path ∧ ¬ workspace <+: other
      ∧ sourceName path = sourceName other
      ∧ stableSourceHash path.display = stableSourceHash other.display := by
  -- A file of the workspace is never patched under `_external`.
  have hinside : ∀ {inner : Path} {hash name : String}, "_external" ∉ inner.dropLast →
      workspace <+: inner → inner.drop workspace.length ≠ ["_external", hash, name] := by
    rintro inner hash name hinner ⟨rest, rfl⟩ hrest
    rw [List.drop_left] at hrest
    apply hinner
    rw [hrest, List.dropLast_append_of_ne_nil (by simp)]
    simp
  unfold patchedSourcePath at h
  by_cases hw : workspace <+: path <;> by_cases hw' : workspace <+: other
  · rw [if_pos (List.isPrefixOf_iff_prefix.mpr hw), if_pos (List.isPrefixOf_iff_prefix.mpr hw')] at h
    obtain ⟨rest, rfl⟩ := hw
    obtain ⟨rest', rfl⟩ := hw'
    rw [List.drop_left, List.drop_left] at h
    exact .inl (by rw [h])
  · rw [if_pos (List.isPrefixOf_iff_prefix.mpr hw),
      if_neg fun hp => hw' (List.isPrefixOf_iff_prefix.mp hp)] at h
    exact absurd h (hinside hpath hw)
  · rw [if_pos (List.isPrefixOf_iff_prefix.mpr hw'),
      if_neg fun hp => hw (List.isPrefixOf_iff_prefix.mp hp)] at h
    exact absurd h.symm (hinside hother hw')
  · rw [if_neg fun hp => hw (List.isPrefixOf_iff_prefix.mp hp),
      if_neg fun hp => hw' (List.isPrefixOf_iff_prefix.mp hp)] at h
    simp only [List.cons.injEq, true_and, and_true] at h
    exact .inr ⟨hw, hw', h.2, h.1⟩

/-! ## The files that a plan writes -/

variable {sources : List (Path × Text)} {path : Path} {accepted : List RepairEdit}

/-- A text of a plan stands in one of its sources. -/
theorem exists_source_of_planSourceTexts {plan : RepairPlan}
    (h : planSourceTexts plan = .ok sources) {text : Text}
    (hsource : sourceOf sources path = some text) :
    ∃ source ∈ plan.sources, source.path = path ∧ source.source = some text := by
  have hmem : (path, text) ∈ sources := by
    obtain ⟨entry, hfound, rfl⟩ := Option.map_eq_some_iff.mp hsource
    have hpath : entry.1 = path := by simpa using List.find?_some hfound
    exact hpath ▸ List.mem_reverse.mp (List.mem_of_find?_eq_some hfound)
  obtain ⟨source, hplan, hentry⟩ := (Search.mem_mapM_ok h).1 _ hmem
  refine ⟨source, hplan, ?_⟩
  cases htext : source.source with
  | none =>
    rw [htext] at hentry
    cases hentry
  | some text' =>
    rw [htext] at hentry
    obtain ⟨rfl, rfl⟩ := Prod.mk.inj (Except.ok.inj hentry)
    exact ⟨rfl, rfl⟩

/-! ## A round that is followed by another -/

theorem notePlan_eq_ok {outputRoot : Path} {st noted : RunState} {plan : AutofixPlan}
    (h : notePlan outputRoot st plan = .ok noted) :
    noted.crateDir = some (st.crateDir.getD (crateOutputDir outputRoot plan))
      ∧ noted.overlay = st.overlay ∧ noted.appliedRepairs = st.appliedRepairs
      ∧ noted.skippedRepairs = st.skippedRepairs := by
  unfold notePlan at h
  split at h
  · cases h
  · obtain rfl := Except.ok.inj h
    exact ⟨rfl, rfl, rfl, rfl⟩

/-- The call of `apply_plan` in a round. -/
def applyRound (driver : Driver) (round : Nat) (plan : AutofixPlan) (st : RunState) :
    DriverProgram Applied :=
  applyPlan driver.workspace (st.crateDir.getD (crateOutputDir driver.outputRoot plan))
    plan.toRepairPlan (round + 1) st.overlay st.appliedRepairs st.skippedRepairs

section

variable {driver : Driver} {children : Nat → Nat → ChildOutput} {round : Nat} {st next : RunState}

/-- The end of a run is not followed by a round. -/
theorem finishRun_not_next {crateDir : Path} {plan : AutofixPlan} {status : String}
    {last : RunState} {outcome : AutofixOutcome} :
    (do finishRun driver children crateDir plan status round last
        pure (.done outcome) : DriverProgram RoundEnd).result ≠ .ok (.next next) := by
  intro h
  obtain ⟨-, -, hdone, -⟩ := Logged.bind_eq_ok h
  cases hdone

theorem planRound_next {success : Bool} {plan : AutofixPlan}
    (h : (planRound driver children success round plan st).result = .ok (.next next)) :
    round ≠ maxRepairRounds ∧ ∃ applied, (applyRound driver round plan st).result = .ok applied
      ∧ next.crateDir = some (st.crateDir.getD (crateOutputDir driver.outputRoot plan))
      ∧ next.overlay = applied.overlay
      ∧ (planRound driver children success round plan st).log = (applyRound driver round plan st).log := by
  unfold planRound at h ⊢
  split at h
  · cases h
  rename_i noted hnoted
  obtain ⟨hcrate, hoverlay, happlied, hskipped⟩ := notePlan_eq_ok hnoted
  rw [hcrate] at h ⊢
  dsimp only at h ⊢
  rw [hoverlay, happlied, hskipped] at h ⊢
  split at h
  · exact absurd h finishRun_not_next
  split at h
  · exact absurd h finishRun_not_next
  rename_i hsuccess hlast
  rw [if_neg hsuccess, if_neg hlast]
  have hround : round ≠ maxRepairRounds := by
    rintro rfl
    simp at hlast
  obtain ⟨applied, hresult, hrest, hlog⟩ := Logged.bind_eq_ok h
  refine ⟨hround, applied, hresult, ?_⟩
  rw [hlog]
  split at hrest
  · exact absurd hrest finishRun_not_next
  · rename_i hcount
    obtain rfl := RoundEnd.next.inj (Except.ok.inj hrest)
    rw [if_neg hcount]
    exact ⟨rfl, rfl, List.append_nil _⟩

/-- **A round that is followed by another**: it is not the last one, its child left a plan, and the
plan was applied. -/
theorem roundBody_next {answer : ChildOutput}
    (h : (roundBody driver children round answer st).result = .ok (.next next)) :
    round ≠ maxRepairRounds ∧ ∃ plan applied, answer.plan = .ok (some plan)
      ∧ (applyRound driver round plan st).result = .ok applied
      ∧ next.crateDir = some (st.crateDir.getD (crateOutputDir driver.outputRoot plan))
      ∧ next.overlay = applied.overlay
      ∧ effectsOf (roundBody driver children round answer st).log
        = effectsOf (writeOverlay driver.workDir round st.overlay).log
          ++ effectsOf (applyRound driver round plan st).log := by
  obtain ⟨overlayPath, -, hbody, hlog⟩ := Logged.bind_eq_ok h
  obtain ⟨-, -, hbody, hlog'⟩ := Logged.bind_eq_ok hbody
  have hall : (roundBody driver children round answer st).log = _ :=
    hlog.trans (congrArg _ hlog')
  cases hplan : answer.plan with
  | error message =>
    rw [hplan] at hbody
    cases hbody
  | ok plan =>
    cases plan with
    | none =>
      rw [hplan] at hbody
      cases hbody
    | some plan =>
      rw [hplan] at hbody
      obtain ⟨hround, applied, hresult, hcrate, hoverlay, hplanLog⟩ := planRound_next hbody
      refine ⟨hround, plan, applied, rfl, hresult, hcrate, hoverlay, ?_⟩
      rw [← hplanLog, hall, effectsOf_append, hplan]
      rfl

end

/-! ## The invariant -/

/-- The start of a round: the files of the overlay are where `patched_source_path` puts them, and
every original reads as the composition of the earlier rounds. -/
structure RoundInv (driver : Driver) (main : Nat → ChildOutput)
    (children : Nat → Nat → ChildOutput) (files : DriverDisk) (originals : Set Path) (round : Nat)
    (start : RoundStart) : Prop where
  crate : start.st.InOutput driver
  overlaid : ∀ path patched, start.st.overlay.get? path = some patched → path ∈ originals
    ∧ (∃ crateDir, start.st.crateDir = some crateDir
      ∧ patched = patchedFile driver.workspace crateDir path)
    ∧ ¬ driver.workDir <+: patched
  text : ∀ path ∈ originals, ∀ text, files path = some (.source text) →
    start.read path = some (composedText driver main children files path text round)

section Invariant

variable {driver : Driver} {main : Nat → ChildOutput} {children : Nat → Nat → ChildOutput}
  {files : DriverDisk} {originals : Set Path} {round : Nat} {start next : RoundStart}

theorem roundInv_init : RoundInv driver main children files originals 0 ⟨{}, files⟩ where
  crate := fun _ h => nomatch h
  overlaid := fun _ _ h => nomatch h
  text := fun path _ text htext => by
    simp only [RoundStart.read, readOverlaid, Assoc.Map.get?_nil, Option.getD_none, htext]
    rfl

/-- The new work directory holds none of the files that are read. -/
theorem RoundInv.location_notIn_workDir (hset : Setting driver files originals)
    (hinv : RoundInv driver main children files originals round start) {path : Path}
    (hpath : path ∈ originals) :
    ¬ driver.workDir <+: (start.st.overlay.get? path).getD path := by
  cases hget : start.st.overlay.get? path with
  | none =>
    intro hwork
    obtain ⟨text, htext⟩ := hset.exist path hpath
    rw [hset.fresh path hwork] at htext
    cases htext
  | some patched => exact (hinv.overlaid path patched hget).2.2

/-- What a round that is followed by another does to the overlay and the disk, when it composes. -/
structure AppliedRound (driver : Driver) (round : Nat) (answer : ChildOutput)
    (start next : RoundStart) (plan : AutofixPlan) (sources : List (Path × Text)) (crateDir : Path)
    (accepted : List RepairEdit) : Prop where
  plan_eq : answer.plan = .ok (some plan)
  sources_eq : planSourceTexts plan.toRepairPlan = .ok sources
  crateDir_eq : crateDir = start.st.crateDir.getD (crateOutputDir driver.outputRoot plan)
  accepted_eq : accepted = acceptedEdits round answer start.st
  edited_iff : ∀ path, path ∈ editedFiles accepted ↔ EditedPath sources plan.repairs path
  found : ∀ path ∈ editedFiles accepted, ∃ source, sourceOf sources path = some source
  next_crateDir : next.st.crateDir = some crateDir
  next_overlay : ∀ path, next.st.overlay.get? path = if path ∈ editedFiles accepted
    then some (patchedFile driver.workspace crateDir path) else start.st.overlay.get? path
  next_files : next.files = Disk.run
    ((patchedTexts driver.workspace crateDir sources accepted).map fun file => .write file.1 file.2)
    (afterLog (writeOverlay driver.workDir round start.st.overlay).log start.files)

theorem exists_appliedRound {answer : ChildOutput} (hcomposes : RoundComposes driver answer start.st)
    (h : nextRound driver children round answer start = some next) :
    ∃ plan sources crateDir accepted,
      AppliedRound driver round answer start next plan sources crateDir accepted := by
  unfold nextRound at h
  split at h
  · rename_i st hresult
    obtain rfl := Option.some.inj h
    obtain ⟨-, plan, applied, hplan, happly, hcrate, hoverlay, hlog⟩ := roundBody_next hresult
    cases hsources : planSourceTexts plan.toRepairPlan with
    | error message =>
      rw [applyRound, applyPlan, hsources] at happly
      cases happly
    | ok sources =>
      have hnodup := (accepted_nodup_iff sources (round + 1) start.st.skippedRepairs
        plan.repairs).mpr (hcomposes.once plan sources hplan hsources)
      obtain ⟨after, hok, -, hwritten, hafter⟩ := applyPlan_of_nodup driver.workspace _
        start.st.overlay start.st.appliedRepairs hsources rfl hnodup
      obtain rfl := Except.ok.inj (hok.symm.trans happly)
      refine ⟨plan, sources, _,
        (considerRepairs sources (round + 1) start.st.skippedRepairs plan.repairs).accepted, hplan,
        hsources, rfl, ?_, fun path => mem_editedFiles_iff, fun path => exists_source_of_editedFiles rfl, hcrate, fun path => ?_, ?_⟩
      · simp only [acceptedEdits, hplan, hsources]
      · exact hoverlay ▸ hafter path
      · rw [afterLog, hlog, Disk.run_append]
        exact congrArg (fun effects => Disk.run effects _) hwritten
  · cases h

namespace AppliedRound

variable {plan : AutofixPlan} {sources : List (Path × Text)} {crateDir : Path}
  {accepted : List RepairEdit}

variable (h : AppliedRound driver round (main round) start next plan sources crateDir accepted)
include h

variable {path : Path}

/-- The plan has the text of an edited file, and it is the one that the child read. -/
theorem source (hhonest : Honest driver main children files originals)
    (hstart : roundStart driver main children files round = some start)
    (hpath : path ∈ editedFiles accepted) :
    ∃ text, sourceOf sources path = some text ∧ path ∈ originals ∧ start.read path = some text := by
  obtain ⟨text, htext⟩ := h.found path hpath
  obtain ⟨planned, hplanned, rfl, hsource⟩ := exists_source_of_planSourceTexts h.sources_eq htext
  obtain ⟨horiginal, hread⟩ := hhonest round start plan hstart h.plan_eq planned hplanned
  exact ⟨text, htext, horiginal, hread text hsource⟩

theorem root_prefix (hinv : RoundInv driver main children files originals round start) :
    driver.outputRoot <+: crateDir := by
  rw [h.crateDir_eq]
  cases hdir : start.st.crateDir with
  | none => exact List.prefix_append _ _
  | some known => exact hinv.crate known hdir

/-- An edited file shares its patched file with no other that is edited or in the overlay. -/
theorem patchedFile_inj (hset : Setting driver files originals)
    (hcomposes : RoundComposes driver (main round) start.st) {path other : Path}
    (hpath : path ∈ editedFiles accepted) (horiginal : path ∈ originals) (hother : other ∈ originals)
    (hwhere : other ∈ editedFiles accepted ∨ (start.st.overlay.get? other).isSome = true)
    (hsame : patchedFile driver.workspace crateDir path
      = patchedFile driver.workspace crateDir other) : path = other := by
  rcases patchedSourcePath_inj (hset.noExternal path horiginal) (hset.noExternal other hother)
    (List.append_cancel_left hsame) with rfl | ⟨hout, hout', hname, hhash⟩
  · rfl
  · exact hcomposes.apart plan sources h.plan_eq h.sources_eq path other ((h.edited_iff path).mp hpath)
      (hwhere.imp_left (h.edited_iff other).mp) hout hout' hname hhash

/-- The next child reads the patched text of an edited file. -/
theorem read_edited (hset : Setting driver files originals)
    (hhonest : Honest driver main children files originals)
    (hstart : roundStart driver main children files round = some start)
    (hcomposes : RoundComposes driver (main round) start.st) {text : Text}
    (hpath : path ∈ editedFiles accepted) (hread : start.read path = some text) :
    next.read path = some (replaceAll path text accepted) := by
  obtain ⟨source, hsome, horiginal, hsource⟩ := h.source hhonest hstart hpath
  obtain rfl := Option.some.inj (hsource.symm.trans hread)
  have hmem : patchedFile driver.workspace crateDir path
      ∈ (patchedTexts driver.workspace crateDir sources accepted).map Prod.fst :=
    List.mem_map.mpr ⟨_, List.mem_map.mpr ⟨path, hpath, rfl⟩, rfl⟩
  have hwritten : next.files (patchedFile driver.workspace crateDir path)
      = some (.source (replaceAll path source accepted)) := by
    rw [h.next_files]
    refine Disk.run_writes (fun file hfile hsame => ?_) hmem
    -- No other file is patched under this name.
    obtain ⟨other, hother, rfl⟩ := List.mem_map.mp hfile
    obtain ⟨-, -, horiginal', -⟩ := h.source hhonest hstart hother
    obtain rfl := h.patchedFile_inj hset hcomposes hother horiginal' horiginal (.inl hpath) hsame
    rw [hsome, Option.getD_some]
  rw [RoundStart.read, readOverlaid, h.next_overlay, if_pos hpath, Option.getD_some, hwritten]

/-- The next child reads the same text of any other file. -/
theorem read_other (hset : Setting driver files originals)
    (hhonest : Honest driver main children files originals)
    (hstart : roundStart driver main children files round = some start)
    (hinv : RoundInv driver main children files originals round start)
    (hcomposes : RoundComposes driver (main round) start.st) (hpath : path ∈ originals)
    (hother : path ∉ editedFiles accepted) : next.read path = start.read path := by
  -- Neither a patched file nor the new overlay file is the one that is read for the path.
  have hpatched : ∀ effect ∈ (patchedTexts driver.workspace crateDir sources accepted).map
      (fun file => Disk.Effect.write file.1 file.2),
      ¬ effect.Touches ((start.st.overlay.get? path).getD path) := by
    intro effect heffect htouches
    obtain ⟨file, hfile, rfl⟩ := List.mem_map.mp heffect
    obtain ⟨edited, hedited, rfl⟩ := List.mem_map.mp hfile
    obtain ⟨-, -, horiginal, -⟩ := h.source hhonest hstart hedited
    cases hget : start.st.overlay.get? path with
    | none =>
      rw [hget] at htouches
      apply hset.outside path hpath
      rw [← show patchedFile driver.workspace crateDir edited = path from htouches]
      exact (h.root_prefix hinv).trans (List.prefix_append _ _)
    | some patched =>
      rw [hget] at htouches
      obtain ⟨-, ⟨known, hknown, rfl⟩, -⟩ := hinv.overlaid path patched hget
      have hcrate : crateDir = known := by rw [h.crateDir_eq, hknown, Option.getD_some]
      have hsame := h.patchedFile_inj hset hcomposes hedited horiginal hpath
        (.inr (by rw [hget]; rfl)) (by rw [hcrate]; exact hcrate ▸ htouches)
      exact hother (hsame ▸ hedited)
  have hoverlay : afterLog (writeOverlay driver.workDir round start.st.overlay).log start.files
      ((start.st.overlay.get? path).getD path)
        = start.files ((start.st.overlay.get? path).getD path) :=
    afterLog_of_staysIn (writeOverlay_staysIn driver.workDir round start.st.overlay)
      (hinv.location_notIn_workDir hset hpath)
  rw [RoundStart.read, RoundStart.read, readOverlaid, readOverlaid, h.next_overlay, if_neg hother,
    h.next_files,
    Disk.run_of_untouched hpatched, hoverlay]

end AppliedRound

/-- **A round that composes keeps the invariant.** -/
theorem roundInv_step (hset : Setting driver files originals)
    (hhonest : Honest driver main children files originals)
    (hstart : roundStart driver main children files round = some start)
    (hinv : RoundInv driver main children files originals round start)
    (hcomposes : RoundComposes driver (main round) start.st)
    (hnext : nextRound driver children round (main round) start = some next) :
    RoundInv driver main children files originals (round + 1) next := by
  obtain ⟨plan, sources, crateDir, accepted, h⟩ := exists_appliedRound hcomposes hnext
  refine ⟨fun known hknown => ?_, fun path patched hpatched => ?_, fun path hpath text htext => ?_⟩
  · rw [h.next_crateDir] at hknown
    exact Option.mem_some_iff.mp hknown ▸ h.root_prefix hinv
  · rw [h.next_overlay] at hpatched
    split at hpatched
    · rename_i hmem
      obtain rfl := Option.some.inj hpatched
      obtain ⟨-, -, horiginal, -⟩ := h.source hhonest hstart hmem
      refine ⟨horiginal, ⟨crateDir, h.next_crateDir, rfl⟩, ?_⟩
      rw [h.crateDir_eq]
      exact hcomposes.elsewhere plan sources h.plan_eq h.sources_eq path ((h.edited_iff path).mp hmem)
    · obtain ⟨horiginal, ⟨known, hknown, rfl⟩, hwork⟩ := hinv.overlaid path patched hpatched
      refine ⟨horiginal, ⟨crateDir, h.next_crateDir, ?_⟩, hwork⟩
      rw [h.crateDir_eq, hknown, Option.getD_some]
  · have hbefore := hinv.text path hpath text htext
    rw [composedText, hstart]
    dsimp only
    rw [← h.accepted_eq]
    by_cases hmem : path ∈ editedFiles accepted
    · exact h.read_edited hset hhonest hstart hcomposes hmem hbefore
    · rw [replaceAll_of_notMem hmem, ← hbefore]
      exact h.read_other hset hhonest hstart hinv hcomposes hpath hmem

end Invariant

/-! ## Whole runs -/

section Runs

variable {driver : Driver} {main : Nat → ChildOutput} {children : Nat → Nat → ChildOutput}
  {files : DriverDisk}

theorem inOutput_of_next {round : Nat} {answer : ChildOutput} {st next : RunState}
    (hst : st.InOutput driver)
    (h : (roundBody driver children round answer st).result = .ok (.next next)) :
    next.InOutput driver := by
  obtain ⟨-, plan, -, -, -, hcrate, -, -⟩ := roundBody_next h
  intro crateDir hmem
  rw [hcrate] at hmem
  obtain rfl := Option.mem_some_iff.mp hmem
  cases hdir : st.crateDir with
  | none => exact List.prefix_append _ _
  | some known => exact hst known hdir

/-- A run writes below the output root and to its work directory only. -/
theorem runRounds_staysIn : ∀ (rounds : List Nat) {st : RunState}, st.InOutput driver →
    Emits (StaysInOutput driver) (runRounds driver main children rounds st)
  | [], _, _ => .pure none
  | round :: rounds, st, hst => by
    refine .bind_of_ok (roundBody_staysIn children round (main round) hst) fun last hlast => ?_
    cases last with
    | next next => exact runRounds_staysIn rounds (inOutput_of_next hst hlast)
    | done outcome => exact .pure _

theorem runRounds_countP_main : ∀ (rounds : List Nat) {st : RunState}, st.InOutput driver →
    (runRounds driver main children rounds st).log.countP isMainCompilation ≤ rounds.length
  | [], _, _ => le_rfl
  | round :: rounds, st, hst => by
    have hround := roundBody_countP_main children round (main round) hst
    refine (Logged.countP_bind_le (n := rounds.length) _ _ fun last hlast => ?_).trans ?_
    · cases last with
      | next next => exact runRounds_countP_main rounds (inOutput_of_next hst hlast)
      | done outcome => exact Nat.zero_le _
    · rw [List.length_cons]
      omega

/-- **There is no way past the last round.** -/
theorem runRounds_ne_none : ∀ (rounds : List Nat) (st : RunState), maxRepairRounds ∈ rounds →
    (runRounds driver main children rounds st).result ≠ .ok none
  | round :: rounds, st, hmem, h => by
    obtain ⟨last, hlast, hrest, -⟩ := Logged.bind_eq_ok h
    cases last with
    | done outcome => cases hrest
    | next next =>
      have hround := (roundBody_next hlast).1
      rcases List.mem_cons.mp hmem with hmax | hmem
      · exact hround hmax.symm
      · exact runRounds_ne_none rounds next hmem hrest

/-- The program of a run continues from the start of every round it gets to. -/
theorem run_from_roundStart : ∀ {round : Nat} {start : RoundStart},
    roundStart driver main children files round = some start →
    round ≤ maxRepairRounds ∧ ∃ log, start.files = afterLog log files
      ∧ (runRounds driver main children (List.range (maxRepairRounds + 1)) {}).log
        = log ++ (runRounds driver main children
          (List.range' round (maxRepairRounds + 1 - round)) start.st).log
      ∧ (runRounds driver main children (List.range (maxRepairRounds + 1)) {}).result
        = (runRounds driver main children
          (List.range' round (maxRepairRounds + 1 - round)) start.st).result
  | 0, start, h => by
    obtain rfl := Option.some.inj h
    exact ⟨Nat.zero_le _, [], rfl, rfl, rfl⟩
  | round + 1, start, h => by
    obtain ⟨before, hbefore, hnext⟩ := Option.bind_eq_some_iff.mp h
    obtain ⟨hle, log, hfiles, hlog, hresult⟩ := run_from_roundStart hbefore
    unfold nextRound at hnext
    split at hnext
    · rename_i st hst
      obtain rfl := Option.some.inj hnext
      have hlt : round < maxRepairRounds := lt_of_le_of_ne hle (roundBody_next hst).1
      -- The rounds that are left start with this one, and it hands over to the next.
      have hrange : List.range' round (maxRepairRounds + 1 - round)
          = round :: List.range' (round + 1) (maxRepairRounds + 1 - (round + 1)) := by
        rw [show maxRepairRounds + 1 - round = maxRepairRounds + 1 - (round + 1) + 1 by omega]
        rfl
      have hrest : runRounds driver main children
          (List.range' round (maxRepairRounds + 1 - round)) before.st
          = ⟨(roundBody driver children round (main round) before.st).log
              ++ (runRounds driver main children
                (List.range' (round + 1) (maxRepairRounds + 1 - (round + 1))) st).log,
            (runRounds driver main children
              (List.range' (round + 1) (maxRepairRounds + 1 - (round + 1))) st).result⟩ := by
        rw [hrange]
        change Logged.bind _ _ = _
        unfold Logged.bind
        rw [hst]
      refine ⟨hlt, log ++ (roundBody driver children round (main round) before.st).log, ?_, ?_, ?_⟩
      · rw [afterLog_append, hfiles]
      · rw [hlog, hrest, List.append_assoc]
      · rw [hresult, hrest]
    · cases hnext

/-- The invariant at the start of a round whose earlier rounds compose. -/
theorem roundInv_of_roundStart {originals : Set Path} (hset : Setting driver files originals)
    (hhonest : Honest driver main children files originals) :
    ∀ {round : Nat} {start : RoundStart}, roundStart driver main children files round = some start →
    (∀ earlier < round, ∀ before, roundStart driver main children files earlier = some before →
      RoundComposes driver (main earlier) before.st) →
    RoundInv driver main children files originals round start
  | 0, start, hstart, _ => Option.some.inj hstart ▸ roundInv_init
  | round + 1, start, hstart, hcomposes => by
    obtain ⟨before, hbefore, hnext⟩ := Option.bind_eq_some_iff.mp hstart
    have hinv := roundInv_of_roundStart hset hhonest hbefore fun earlier hlt =>
      hcomposes earlier (Nat.lt_succ_of_lt hlt)
    exact roundInv_step hset hhonest hbefore hinv
      (hcomposes round (Nat.lt_succ_self round) before hbefore) hnext

theorem inOutput_init : RunState.InOutput driver {} := fun _ h => nomatch h

/-- A run starts at most one main compilation per round. -/
theorem run_countP_main :
    (run driver main children).log.countP isMainCompilation ≤ maxRepairRounds + 1 := by
  have hrounds : (runRounds driver main children (List.range (maxRepairRounds + 1)) {}).log.countP
      isMainCompilation ≤ (List.range (maxRepairRounds + 1)).length :=
    runRounds_countP_main _ inOutput_init
  have hall : (allRounds driver main children).log.countP isMainCompilation ≤ _ + 0 :=
    Logged.countP_bind_le _ _ fun outcome _ => by cases outcome <;> exact le_rfl
  rw [run, List.countP_append]
  exact hall.trans (hrounds.trans (List.length_range).le)

theorem allRounds_staysIn : Emits (StaysInOutput driver) (allRounds driver main children) :=
  .bind (runRounds_staysIn _ inOutput_init) fun outcome => by
    cases outcome with
    | none => exact .fail _
    | some outcome => exact .pure _

/-- A run touches nothing outside the output root and its work directory. -/
theorem run_not_touches {path : Path} (hroot : ¬ driver.outputRoot <+: path)
    (hwork : ¬ driver.workDir <+: path) :
    ∀ effect ∈ effectsOf (run driver main children).log, ¬ effect.Touches path := by
  intro effect heffect
  rcases List.mem_append.mp (mem_effectsOf.mp heffect) with hmem | hmem
  · rcases allRounds_staysIn _ hmem with hin | hin
    · exact Effect.not_touches hin hroot
    · exact Effect.not_touches hin hwork
  · obtain rfl := DriverEvent.disk.inj (List.mem_singleton.mp hmem)
    exact Effect.not_touches List.prefix_rfl hwork

/-- **Autofix rounds compose.**  In a run whose children are honest about the texts they read, every
original reads, at the start of a round, as its text with the accepted edits of the earlier rounds
applied one round after the other, provided those rounds meet `RoundComposes`.  Whatever the
children do, there are at most five main compilations, the loop is not left past its last round, and
no original is written or removed. -/
theorem rounds_compose {originals : Set Path} (hset : Setting driver files originals)
    (hhonest : Honest driver main children files originals) :
    (∀ round start, roundStart driver main children files round = some start →
      (∀ earlier < round, ∀ before, roundStart driver main children files earlier = some before →
        RoundComposes driver (main earlier) before.st) →
      ∀ path ∈ originals, ∀ text, files path = some (.source text) →
        start.read path = some (composedText driver main children files path text round))
    ∧ (run driver main children).log.countP isMainCompilation ≤ maxRepairRounds + 1
    ∧ (runRounds driver main children (List.range (maxRepairRounds + 1)) {}).result ≠ .ok none
    ∧ ∀ path ∈ originals, ∀ effect ∈ effectsOf (run driver main children).log,
      ¬ effect.Touches path := by
  refine ⟨fun round start hstart hcomposes => ?_, run_countP_main, ?_, fun path hpath => ?_⟩
  · exact (roundInv_of_roundStart hset hhonest hstart hcomposes).text
  · exact runRounds_ne_none _ _ (List.mem_range.mpr (Nat.lt_succ_self _))
  · exact run_not_touches (hset.outside path hpath) fun hwork => by
      obtain ⟨text, htext⟩ := hset.exist path hpath
      exact nomatch (hset.fresh path hwork).symm.trans htext

end Runs

/-! ## Two runs -/

def mainFile : Path := ["", "w", "main.rs"]

def repairDriver : Driver where
  args := ["main.rs"]
  outputRoot := ["", "out"]
  workDir := ["", "tmp", "work"]
  workspace := ["", "w"]

/-- One source file with the text `ab`. -/
def oneFile : DriverDisk := fun path => if path = mainFile then some (.source ['a', 'b']) else none

/-- A plan with one repair. -/
def repairPlan (edits : List RepairEdit) : AutofixPlan where
  sources := [⟨mainFile, "", some ['a', 'b']⟩]
  repairs := [⟨.makeBindingMutable, none, edits⟩]
  crateName := "main"
  stableCrateId := 0
  wrapperVariants := []
  wrapperRejections := []

/-- The first child fails with the plan, the second succeeds. -/
def repairOnce (edits : List RepairEdit) : Nat → ChildOutput
  | 0 => ⟨false, "", "", .ok (some (repairPlan edits))⟩
  | _ => ⟨true, "", "", .ok none⟩

/-- There are no variants to compile. -/
def noChildren : Nat → Nat → ChildOutput := fun _ _ => ⟨true, "", "", .ok none⟩

theorem oneFile_setting : Setting repairDriver oneFile {mainFile} where
  exist := by
    rintro path rfl
    exact ⟨['a', 'b'], rfl⟩
  outside := by
    rintro path rfl
    decide
  noExternal := by
    rintro path rfl
    decide
  fresh := by
    rintro path ⟨rest, rfl⟩
    exact if_neg fun h => absurd (congrArg (fun path => path[1]?) h) (by simp [repairDriver, mainFile])

theorem repairOnce_honest (edits : List RepairEdit) :
    Honest repairDriver (repairOnce edits) noChildren oneFile {mainFile} := by
  intro round start plan hstart hplan source hsource
  cases round with
  | zero =>
    obtain rfl := Option.some.inj hstart
    obtain rfl := Option.some.inj (Except.ok.inj hplan)
    obtain rfl := List.mem_singleton.mp hsource
    exact ⟨rfl, fun text htext => htext ▸ rfl⟩
  | succ round => cases Except.ok.inj hplan

/-- A plan that inserts one letter composes. -/
theorem insertion_composes :
    RoundComposes repairDriver (repairOnce [⟨mainFile, 0, 0, ['x']⟩] 0) {} := by
  have hedited : ∀ path, EditedPath [(mainFile, ['a', 'b'])]
      (repairPlan [⟨mainFile, 0, 0, ['x']⟩]).repairs path → path = mainFile := by
    intro path hpath
    have hmem := (@mem_editedFiles_iff _ _ 0 [] _).mpr hpath
    have hfiles : editedFiles (considerRepairs [(mainFile, ['a', 'b'])] 0 []
        (repairPlan [⟨mainFile, 0, 0, ['x']⟩]).repairs).accepted = [mainFile] := by decide +kernel
    rw [hfiles] at hmem
    exact List.mem_singleton.mp hmem
  refine ⟨fun plan sources hplan hsources => ?_,
    fun plan sources hplan hsources path other hpath _ hout => ?_,
    fun plan sources hplan hsources path hpath => ?_⟩
  all_goals
    obtain rfl := Option.some.inj (Except.ok.inj hplan)
    obtain rfl := Except.ok.inj hsources
  · exact (accepted_nodup_iff _ 0 [] _).mp (by decide +kernel)
  · obtain rfl := hedited path hpath
    exact absurd (by decide) hout
  · obtain rfl := hedited path hpath
    decide +kernel

/-- After one inserted letter the second child reads `xab`. -/
theorem inserted_letter_read :
    ∃ start, roundStart repairDriver (repairOnce [⟨mainFile, 0, 0, ['x']⟩]) noChildren oneFile 1
        = some start ∧ start.read mainFile = some ['x', 'a', 'b'] := by
  obtain ⟨start, hstart⟩ : ∃ start, roundStart repairDriver
      (repairOnce [⟨mainFile, 0, 0, ['x']⟩]) noChildren oneFile 1 = some start := ⟨_, rfl⟩
  refine ⟨start, hstart, ?_⟩
  have hcomposes : ∀ earlier < 1, ∀ before, roundStart repairDriver
      (repairOnce [⟨mainFile, 0, 0, ['x']⟩]) noChildren oneFile earlier = some before →
      RoundComposes repairDriver (repairOnce [⟨mainFile, 0, 0, ['x']⟩] earlier) before.st := by
    intro earlier hearlier before hbefore
    obtain rfl : earlier = 0 := Nat.lt_one_iff.mp hearlier
    obtain rfl := Option.some.inj hbefore
    exact insertion_composes
  exact (rounds_compose oneFile_setting (repairOnce_honest _)).1 1 start hstart hcomposes mainFile
    rfl ['a', 'b'] rfl

/-- The same replacement of the first letter, listed twice. -/
def repeatedEdit : List RepairEdit :=
  [⟨mainFile, 0, 1, ['x', 'y']⟩, ⟨mainFile, 0, 1, ['x', 'y']⟩]

/-- The second time the edit takes a letter of the new text for the old one: the next child reads
`xyyb` in place of `xyb`. -/
theorem repeated_edit_read :
    Setting repairDriver oneFile {mainFile}
      ∧ Honest repairDriver (repairOnce repeatedEdit) noChildren oneFile {mainFile}
      ∧ ∃ start, roundStart repairDriver (repairOnce repeatedEdit) noChildren oneFile 1 = some start
        ∧ start.read mainFile = some ['x', 'y', 'y', 'b']
        ∧ composedText repairDriver (repairOnce repeatedEdit) noChildren oneFile mainFile ['a', 'b'] 1
          = ['x', 'y', 'b'] := by
  refine ⟨oneFile_setting, repairOnce_honest _, _, rfl, ?_, ?_⟩
  · decide +kernel
  · decide +kernel

end RustWorkbench.Compiler
