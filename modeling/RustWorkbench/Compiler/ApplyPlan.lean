import RustWorkbench.Compiler.Footprint
import Mathlib.Data.List.Induction

/-!
# Applying a plan of repairs

The loop of `apply_plan` takes the repairs in order and keeps one if its edits are in range and
conflict neither with each other nor with an edit kept before: a greedy choice, stated on the
repairs alone as `chosenRepairs`.

* `applyPlan_exact_iff` — the plan is applied as one simultaneous replacement exactly if no chosen
  repair lists a new edit twice and the patched files keep the texts apart.
-/

namespace RustWorkbench.Compiler

open Disk (Logged)
open StableSort (mem_sortByKey)

/-! ## The greedy choice -/

/-- The edits of a repair are in range and free of conflicts among themselves and with those of
the repairs chosen before it. -/
def choosable (sources : List (Path × Text)) (chosen : List RepairGroup)
    (repair : RepairGroup) : Bool :=
  repair.edits.all (InSource sources)
    && repair.edits.all (fun e => repair.edits.all fun f => !editsConflict e f)
    && chosen.all (fun old =>
      old.edits.all fun e => repair.edits.all fun f => !editsConflict e f)

/-- Take each repair that can still be taken. -/
def chosenRepairs (sources : List (Path × Text)) (repairs : List RepairGroup) :
    List RepairGroup :=
  repairs.foldl
    (fun chosen repair => if choosable sources chosen repair then chosen ++ [repair] else chosen) []

/-- The edits of a repair that no repair chosen before it has. -/
def newEdits (chosen : List RepairGroup) (repair : RepairGroup) : List RepairEdit :=
  repair.edits.filter fun e => chosen.all fun old => e ∉ old.edits

variable {repair : RepairGroup}

theorem choosable_iff {sources : List (Path × Text)} {chosen : List RepairGroup} :
    choosable sources chosen repair = true ↔
      (∀ e ∈ repair.edits, InSource sources e = true) ∧
      (∀ e ∈ repair.edits, ∀ f ∈ repair.edits, editsConflict e f = false) ∧
      ∀ old ∈ chosen, ∀ e ∈ old.edits, ∀ f ∈ repair.edits, editsConflict e f = false := by
  simp [choosable, List.all_eq_true, and_assoc]

theorem chosenRepairs_append_singleton (sources : List (Path × Text)) (pre : List RepairGroup)
    (repair : RepairGroup) :
    chosenRepairs sources (pre ++ [repair])
      = if choosable sources (chosenRepairs sources pre) repair
        then chosenRepairs sources pre ++ [repair] else chosenRepairs sources pre := by
  rw [chosenRepairs, List.foldl_append]
  rfl

/-! ## The edits of one repair -/

/-- **The loop over the edits of a repair** ends without a reason to skip it exactly if the
edits pass, and then its candidates are the edits not seen before, with their repetitions. -/
theorem checkEdits_eq_ok_iff {sources : List (Path × Text)} {accepted : List RepairEdit} :
    ∀ {edits candidate result : List RepairEdit},
    checkEdits sources accepted accepted candidate edits = .ok result ↔
      Passes sources (accepted ++ candidate) edits ∧
        result = candidate ++ edits.filter fun e => e ∉ accepted
  | [], candidate, result => by
    simp [checkEdits, passes_nil, eq_comm]
  | edit :: edits, candidate, result => by
    rw [passes_cons_iff]
    unfold checkEdits
    cases hsource : sourceOf sources edit.path with
    | none =>
      have hout : InSource sources edit = false := by simp [InSource, hsource]
      simp [hout]
    | some source =>
      dsimp only
      by_cases hvalid : invalidRange source edit = true
      · have hout : InSource sources edit = false := by simp [InSource, hsource, hvalid]
        simp [hvalid, hout]
      have hin : InSource sources edit = true := by simp [InSource, hsource, hvalid]
      rw [if_neg hvalid]
      by_cases hconf : (accepted.any (fun old => editsConflict old edit)
          || candidate.any fun old => editsConflict old edit) = true
      · rw [if_pos hconf]
        have hsome : ¬ ∀ o ∈ accepted ++ candidate, editsConflict o edit = false := by
          intro hall
          rw [Bool.or_eq_true, List.any_eq_true, List.any_eq_true] at hconf
          rcases hconf with ⟨o, ho, hoe⟩ | ⟨o, ho, hoe⟩
          · simp [hall o (List.mem_append_left _ ho)] at hoe
          · simp [hall o (List.mem_append_right _ ho)] at hoe
        simp only [reduceCtorEq, false_iff, not_and]
        exact fun h => absurd h.2.1 hsome
      · rw [if_neg hconf, checkEdits_eq_ok_iff]
        have hfree : ∀ o ∈ accepted ++ candidate, editsConflict o edit = false := by
          rw [Bool.not_eq_true, Bool.or_eq_false_iff, List.any_eq_false, List.any_eq_false] at hconf
          intro o ho
          rcases List.mem_append.mp ho with ho | ho
          · simpa using hconf.1 o ho
          · simpa using hconf.2 o ho
        by_cases hseen : edit ∈ accepted
        · -- an accepted edit is not a candidate again; it is among the earlier edits as it is
          rw [if_pos hseen, List.filter_cons_of_neg (by simpa using hseen),
            passes_append_of_mem (List.mem_append_left candidate hseen)]
          simp only [hin, iff_true_intro hfree, true_and]
        · rw [if_neg hseen, List.filter_cons_of_pos (by simpa using hseen), List.append_assoc,
            ← List.append_assoc accepted]
          simp only [hin, iff_true_intro hfree, true_and, List.cons_append, List.nil_append]

/-! ## The loop over the repairs -/

/-- The invariant of the loop after the repairs `done`. -/
structure LoopInv (sources : List (Path × Text)) (done : List RepairGroup)
    (st : Acceptance) : Prop where
  seen_eq : st.seen = st.accepted
  mem_iff : ∀ e, e ∈ st.accepted ↔ ∃ r ∈ chosenRepairs sources done, e ∈ r.edits
  inSource : ∀ e ∈ st.accepted, InSource sources e = true
  free : ∀ e ∈ st.accepted, ∀ f ∈ st.accepted, editsConflict e f = false

variable {sources : List (Path × Text)} {done : List RepairGroup} {st : Acceptance}

theorem LoopInv.passes_iff (h : LoopInv sources done st) (repair : RepairGroup) :
    Passes sources st.accepted repair.edits ↔
      choosable sources (chosenRepairs sources done) repair = true := by
  rw [choosable_iff]
  constructor
  · intro p
    exact ⟨p.inSource, p.free, fun old hold e he => p.apart e ((h.mem_iff e).mpr ⟨old, hold, he⟩)⟩
  · rintro ⟨hin, hfree, hold⟩
    refine ⟨hin, hfree, fun o ho e he => ?_⟩
    obtain ⟨old, hmem, hoe⟩ := (h.mem_iff o).mp ho
    exact hold old hmem o hoe e he

/-- The candidates of a repair are its new edits. -/
theorem LoopInv.filter_eq (h : LoopInv sources done st) (repair : RepairGroup) :
    repair.edits.filter (fun e => e ∉ st.accepted)
      = newEdits (chosenRepairs sources done) repair := by
  unfold newEdits
  refine List.filter_congr fun e _ => ?_
  rw [Bool.eq_iff_iff, decide_eq_true_eq, List.all_eq_true]
  simp only [decide_eq_true_eq, h.mem_iff e, not_exists, not_and]

/-- **One repair.**  It is taken with all its new edits, or it is recorded as skipped and
nothing else changes. -/
theorem considerRepair_spec (round : Nat) (h : LoopInv sources done st) (repair : RepairGroup) :
    if choosable sources (chosenRepairs sources done) repair = true then
      (considerRepair sources round st repair).accepted
          = st.accepted ++ newEdits (chosenRepairs sources done) repair ∧
        (considerRepair sources round st repair).seen
          = (considerRepair sources round st repair).accepted ∧
        (considerRepair sources round st repair).skippedRepairs = st.skippedRepairs
    else
      ∃ reason, considerRepair sources round st repair
        = { st with skippedRepairs := st.skippedRepairs ++ [⟨round, reason, repair⟩] } := by
  unfold considerRepair
  rw [h.seen_eq]
  cases hcheck : checkEdits sources st.accepted st.accepted [] repair.edits with
  | error reason =>
    have hnot : ¬ choosable sources (chosenRepairs sources done) repair = true := by
      intro hchoose
      have hpass : Passes sources (st.accepted ++ []) repair.edits := by
        rw [List.append_nil]
        exact (h.passes_iff repair).mpr hchoose
      have hok := checkEdits_eq_ok_iff.mpr ⟨hpass, rfl⟩
      rw [hcheck] at hok
      cases hok
    rw [if_neg hnot]
    exact ⟨reason, rfl⟩
  | ok candidate =>
    obtain ⟨hpass, hcand⟩ := checkEdits_eq_ok_iff.mp hcheck
    rw [List.nil_append, h.filter_eq] at hcand
    rw [List.append_nil, h.passes_iff] at hpass
    rw [if_pos hpass, hcand]
    dsimp only
    split
    · rename_i hempty
      rw [List.isEmpty_iff] at hempty
      rw [hempty, List.append_nil]
      exact ⟨rfl, h.seen_eq, rfl⟩
    · exact ⟨rfl, rfl, rfl⟩

theorem mem_newEdits {chosen : List RepairGroup} {e : RepairEdit} :
    e ∈ newEdits chosen repair ↔ e ∈ repair.edits ∧ ∀ old ∈ chosen, e ∉ old.edits := by
  simp [newEdits]

/-- The loop keeps its invariant. -/
theorem loopInv_considerRepair (round : Nat) (h : LoopInv sources done st)
    (repair : RepairGroup) :
    LoopInv sources (done ++ [repair]) (considerRepair sources round st repair) := by
  have hspec := considerRepair_spec round h repair
  split at hspec
  · rename_i hchoose
    obtain ⟨hacc, hseen, _⟩ := hspec
    have hpass := (h.passes_iff repair).mpr hchoose
    have hnew : ∀ e ∈ newEdits (chosenRepairs sources done) repair, e ∈ repair.edits :=
      fun e he => (mem_newEdits.mp he).1
    refine ⟨hseen, fun e => ?_, fun e he => ?_, fun e he f hf => ?_⟩
    · rw [hacc, chosenRepairs_append_singleton, if_pos hchoose, List.mem_append, mem_newEdits,
        h.mem_iff]
      constructor
      · rintro (⟨r, hr, her⟩ | ⟨her, _⟩)
        · exact ⟨r, List.mem_append_left _ hr, her⟩
        · exact ⟨repair, by simp, her⟩
      · rintro ⟨r, hr, her⟩
        rcases List.mem_append.mp hr with hr | hr
        · exact Or.inl ⟨r, hr, her⟩
        · rw [List.mem_singleton.mp hr] at her
          by_cases hold : ∃ old ∈ chosenRepairs sources done, e ∈ old.edits
          · exact Or.inl hold
          · exact Or.inr ⟨her, fun old ho hmem => hold ⟨old, ho, hmem⟩⟩
    · rw [hacc] at he
      rcases List.mem_append.mp he with he | he
      · exact h.inSource e he
      · exact hpass.inSource e (hnew e he)
    · rw [hacc] at he hf
      rcases List.mem_append.mp he with he | he <;> rcases List.mem_append.mp hf with hf | hf
      · exact h.free e he f hf
      · exact hpass.apart e he f (hnew f hf)
      · rw [editsConflict_comm]
        exact hpass.apart f hf e (hnew e he)
      · exact hpass.free e (hnew e he) f (hnew f hf)
  · rename_i hchoose
    obtain ⟨reason, heq⟩ := hspec
    rw [heq]
    refine ⟨h.seen_eq, ?_, h.inSource, h.free⟩
    rw [chosenRepairs_append_singleton, if_neg hchoose]
    exact h.mem_iff

theorem considerRepairs_append_singleton (sources : List (Path × Text)) (round : Nat)
    (skipped : List SkippedRepair) (pre : List RepairGroup) (repair : RepairGroup) :
    considerRepairs sources round skipped (pre ++ [repair])
      = considerRepair sources round (considerRepairs sources round skipped pre) repair := by
  rw [considerRepairs, List.foldl_append]
  rfl

/-- **The whole loop.** -/
theorem considerRepairs_inv (sources : List (Path × Text)) (round : Nat)
    (skipped : List SkippedRepair) (repairs : List RepairGroup) :
    LoopInv sources repairs (considerRepairs sources round skipped repairs) := by
  induction repairs using List.reverseRecOn with
  | nil => exact ⟨rfl, by simp [considerRepairs, chosenRepairs], by simp [considerRepairs],
      by simp [considerRepairs]⟩
  | append_singleton pre repair ih =>
    rw [considerRepairs_append_singleton]
    exact loopInv_considerRepair round ih repair

/-- Later repairs neither take an accepted edit away nor a record of a skipped repair. -/
theorem considerRepairs_mono (sources : List (Path × Text)) (round : Nat)
    (skipped : List SkippedRepair) (pre post : List RepairGroup) :
    (considerRepairs sources round skipped pre).accepted
        ⊆ (considerRepairs sources round skipped (pre ++ post)).accepted ∧
      (considerRepairs sources round skipped pre).skippedRepairs
        ⊆ (considerRepairs sources round skipped (pre ++ post)).skippedRepairs := by
  induction post using List.reverseRecOn with
  | nil =>
    rw [List.append_nil]
    exact ⟨List.Subset.refl _, List.Subset.refl _⟩
  | append_singleton post repair ih =>
    rw [← List.append_assoc, considerRepairs_append_singleton]
    have hspec := considerRepair_spec round
      (considerRepairs_inv sources round skipped (pre ++ post)) repair
    split at hspec
    · obtain ⟨hacc, _, hskip⟩ := hspec
      rw [hacc, hskip]
      exact ⟨fun e he => List.mem_append_left _ (ih.1 he), ih.2⟩
    · obtain ⟨reason, heq⟩ := hspec
      rw [heq]
      exact ⟨ih.1, fun e he => List.mem_append_left _ (ih.2 he)⟩

/-- Each repair is either accepted with all its edits, or it is recorded as skipped and the
round that considered it accepted nothing. -/
def AllOrNothing (sources : List (Path × Text)) (round : Nat) (skipped : List SkippedRepair)
    (repairs : List RepairGroup) : Prop :=
  ∀ pre repair post, repairs = pre ++ repair :: post →
    (∀ e ∈ repair.edits, e ∈ (considerRepairs sources round skipped repairs).accepted) ∨
    (∃ reason, ⟨round, reason, repair⟩
        ∈ (considerRepairs sources round skipped repairs).skippedRepairs) ∧
      (considerRepairs sources round skipped (pre ++ [repair])).accepted
        = (considerRepairs sources round skipped pre).accepted

theorem considerRepairs_allOrNothing (sources : List (Path × Text)) (round : Nat)
    (skipped : List SkippedRepair) (repairs : List RepairGroup) :
    AllOrNothing sources round skipped repairs := by
  rintro pre repair post rfl
  have hmono := considerRepairs_mono sources round skipped (pre ++ [repair]) post
  have hinv := considerRepairs_inv sources round skipped (pre ++ [repair])
  have hspec := considerRepair_spec round (considerRepairs_inv sources round skipped pre) repair
  rw [← considerRepairs_append_singleton] at hspec
  rw [List.append_assoc, List.singleton_append] at hmono
  split at hspec
  · rename_i hchoose
    refine Or.inl fun e he => hmono.1 ((hinv.mem_iff e).mpr ⟨repair, ?_, he⟩)
    rw [chosenRepairs_append_singleton, if_pos hchoose]
    simp
  · obtain ⟨reason, heq⟩ := hspec
    refine Or.inr ⟨⟨reason, hmono.2 ?_⟩, ?_⟩
    · rw [heq]
      simp
    · rw [heq]

/-! ## Repeated edits -/

/-- No repair, when it is chosen, lists an edit twice that no repair before it has. -/
def NoRepeatedEdit (sources : List (Path × Text)) (repairs : List RepairGroup) : Prop :=
  ∀ pre repair post, repairs = pre ++ repair :: post →
    choosable sources (chosenRepairs sources pre) repair = true →
    (newEdits (chosenRepairs sources pre) repair).Nodup

theorem noRepeatedEdit_append_singleton {sources : List (Path × Text)} {pre : List RepairGroup} :
    NoRepeatedEdit sources (pre ++ [repair]) ↔ NoRepeatedEdit sources pre ∧
      (choosable sources (chosenRepairs sources pre) repair = true →
        (newEdits (chosenRepairs sources pre) repair).Nodup) := by
  constructor
  · intro h
    refine ⟨fun p r post heq => h p r (post ++ [repair]) ?_, h pre repair [] rfl⟩
    rw [heq]
    simp
  · rintro ⟨hpre, hlast⟩ p r post heq
    rcases List.eq_nil_or_concat post with rfl | ⟨post', last, rfl⟩
    · obtain ⟨rfl, hr⟩ := List.append_inj' heq rfl
      rw [List.singleton_inj.mp hr] at hlast
      exact hlast
    · rw [List.concat_eq_append, ← List.cons_append, ← List.append_assoc] at heq
      exact hpre p r post' (List.append_inj_left' heq rfl)

/-- **Repetitions.**  Candidates are compared with the edits accepted from earlier repairs, so a
repetition can come only from within one repair. -/
theorem accepted_nodup_iff (sources : List (Path × Text)) (round : Nat)
    (skipped : List SkippedRepair) (repairs : List RepairGroup) :
    (considerRepairs sources round skipped repairs).accepted.Nodup ↔
      NoRepeatedEdit sources repairs := by
  induction repairs using List.reverseRecOn with
  | nil => simp [considerRepairs, NoRepeatedEdit]
  | append_singleton pre repair ih =>
    have hinv := considerRepairs_inv sources round skipped pre
    rw [noRepeatedEdit_append_singleton, ← ih, considerRepairs_append_singleton]
    have hspec := considerRepair_spec round hinv repair
    split at hspec
    · rename_i hchoose
      have hdisjoint : ∀ e ∈ (considerRepairs sources round skipped pre).accepted,
          ∀ f ∈ newEdits (chosenRepairs sources pre) repair, e ≠ f := by
        rintro e he _ hf rfl
        obtain ⟨old, hold, hmem⟩ := (hinv.mem_iff e).mp he
        exact (mem_newEdits.mp hf).2 old hold hmem
      rw [hspec.1, List.nodup_append]
      simp only [hchoose, true_implies, iff_true_intro hdisjoint, and_true]
    · rename_i hchoose
      obtain ⟨reason, heq⟩ := hspec
      rw [heq]
      simp only [hchoose, Bool.false_eq_true, false_implies, and_true]

/-! ## The files that a plan writes -/

/-- The files that the chosen repairs edit. -/
def EditedPath (sources : List (Path × Text)) (repairs : List RepairGroup) (path : Path) : Prop :=
  ∃ repair ∈ chosenRepairs sources repairs, ∃ edit ∈ repair.edits, edit.path = path

/-- The edits of the chosen repairs. -/
def chosenEdits (sources : List (Path × Text)) (repairs : List RepairGroup) : List RepairEdit :=
  (chosenRepairs sources repairs).flatMap RepairGroup.edits

/-- The files that a plan writes, with their texts. -/
def patchedTexts (workspace directory : Path) (sources : List (Path × Text))
    (accepted : List RepairEdit) : List (Path × DriverFile) :=
  (editedFiles accepted).map fun original => (patchedFile workspace directory original,
    .source (replaceAll original ((sourceOf sources original).getD []) accepted))

variable {path : Path} {accepted : List RepairEdit}

theorem mem_editedFiles : path ∈ editedFiles accepted ↔ ∃ edit ∈ accepted, edit.path = path := by
  rw [editedFiles, mem_sortByKey, mem_touchedPaths]

/-- The edited files are those of the chosen repairs. -/
theorem mem_editedFiles_iff {round : Nat} {skipped : List SkippedRepair}
    {repairs : List RepairGroup} :
    path ∈ editedFiles (considerRepairs sources round skipped repairs).accepted
      ↔ EditedPath sources repairs path := by
  have hinv := considerRepairs_inv sources round skipped repairs
  rw [mem_editedFiles]
  constructor
  · rintro ⟨edit, hedit, rfl⟩
    obtain ⟨repair, hrepair, hmem⟩ := (hinv.mem_iff edit).mp hedit
    exact ⟨repair, hrepair, edit, hmem, rfl⟩
  · rintro ⟨repair, hrepair, edit, hmem, rfl⟩
    exact ⟨edit, (hinv.mem_iff edit).mpr ⟨repair, hrepair, hmem⟩, rfl⟩

/-- A file without edits keeps its text. -/
theorem replaceAll_of_notMem {edits : List RepairEdit} (h : path ∉ editedFiles edits)
    (text : Text) : replaceAll path text edits = text := by
  have hnone : editsFor path edits = [] := by
    rw [editsFor, List.filter_eq_nil_iff]
    intro edit hedit hpath
    exact h (mem_editedFiles.mpr ⟨edit, hedit, by simpa using hpath⟩)
  rw [replaceAll, hnone]
  exact Splice.substituteFrom_nil 0 text

/-- The replacement by the accepted edits is that by the edits of the chosen repairs. -/
theorem replaceAll_chosenEdits {round : Nat} {skipped : List SkippedRepair}
    {repairs : List RepairGroup}
    (h : (considerRepairs sources round skipped repairs).accepted.Nodup) (path : Path)
    (source : Text) : replaceAll path source (considerRepairs sources round skipped repairs).accepted
      = replaceAll path source (chosenEdits sources repairs) := by
  have hinv := considerRepairs_inv sources round skipped repairs
  refine replaceAll_congr ⟨h, hinv.inSource, hinv.free⟩ (fun e => ?_) path source
  rw [hinv.mem_iff, chosenEdits, List.mem_flatMap]

/-- The loop of `apply_plan` writes every edited file and puts it into the overlay. -/
theorem patchFiles_eq (workspace directory : Path) (h : Compatible sources accepted) :
    ∀ (originals : List Path) (overlay : OverlayMap),
    (∀ original ∈ originals, ∃ source, sourceOf sources original = some source) →
    effectsOf (patchFiles workspace directory sources accepted originals overlay).log
        = (originals.map fun original => (patchedFile workspace directory original,
          DriverFile.source (replaceAll original ((sourceOf sources original).getD []) accepted))).map
          (fun file => .write file.1 file.2)
      ∧ (patchFiles workspace directory sources accepted originals overlay).result
        = .ok (originals.foldl (fun overlay original =>
          overlay.insert original (patchedFile workspace directory original)) overlay)
  | [], _, _ => ⟨rfl, rfl⟩
  | original :: originals, overlay, hsources => by
    obtain ⟨source, hsource⟩ := hsources original List.mem_cons_self
    obtain ⟨hlog, hresult⟩ := patchFiles_eq workspace directory h originals
      (overlay.insert original (patchedFile workspace directory original))
      fun other hother => hsources other (List.mem_cons_of_mem _ hother)
    unfold patchFiles
    rw [hsource]
    dsimp only
    rw [patchText_eq h hsource]
    refine ⟨?_, hresult⟩
    change effectsOf (.disk _ :: (patchFiles _ _ _ _ _ _).log) = _
    rw [List.map_cons, List.map_cons, ← hlog, hsource]
    rfl

/-- **A plan with edits accepted once each** is written file by file. -/
theorem applyPlan_of_nodup (workspace directory : Path) {plan : RepairPlan} {round : Nat}
    (overlay : OverlayMap) (applied : List AppliedRepair) {skipped : List SkippedRepair}
    (hsources : planSourceTexts plan = .ok sources)
    (haccepted : accepted = (considerRepairs sources round skipped plan.repairs).accepted)
    (hnodup : accepted.Nodup) :
    ∃ after, (applyPlan workspace directory plan round overlay applied skipped).result = .ok after
      ∧ after.skippedRepairs
        = (considerRepairs sources round skipped plan.repairs).skippedRepairs
      ∧ effectsOf (applyPlan workspace directory plan round overlay applied skipped).log
        = (patchedTexts workspace directory sources accepted).map (fun file => .write file.1 file.2)
      ∧ ∀ path, after.overlay.get? path = if path ∈ editedFiles accepted
        then some (patchedFile workspace directory path) else overlay.get? path := by
  subst haccepted
  have hinv := considerRepairs_inv sources round skipped plan.repairs
  obtain ⟨hlog, hresult⟩ := patchFiles_eq workspace directory ⟨hnodup, hinv.inSource, hinv.free⟩
    (editedFiles (considerRepairs sources round skipped plan.repairs).accepted) overlay
    fun path hpath => exists_source_of_touched hinv.inSource ((mem_sortByKey id).mp hpath)
  unfold applyPlan
  rw [hsources]
  dsimp only
  split
  · rename_i hempty
    rw [List.isEmpty_iff] at hempty
    rw [hempty]
    exact ⟨_, rfl, rfl, rfl, fun path => rfl⟩
  · rw [Logged.bind_of_ok hresult, effectsOf_append, hlog]
    refine ⟨_, rfl, rfl, List.append_nil _, fun path => ?_⟩
    rw [Assoc.Map.get?_foldl_insert]
    by_cases hmem : path ∈ editedFiles (considerRepairs sources round skipped plan.repairs).accepted
    · rw [if_pos hmem, if_pos hmem]
    · rw [if_neg hmem, if_neg hmem]

/-! ## The result -/

/-- What a compilation reads under a path: `OverlayFileLoader`. -/
def readOverlaid (overlay : OverlayMap) (files : DriverDisk) (path : Path) : Option Text :=
  match files ((overlay.get? path).getD path) with
  | some (.source text) => some text
  | _ => none

/-- What applying a plan should do: return the error for a source without text, and otherwise
accept edits without repetition and free of conflicts, take each repair as a whole, and leave every
source of the plan, if it is edited or was read before as the plan has it, to be read with its edits
applied at once. -/
def AppliesExactly (workspace directory : Path) (plan : RepairPlan) (round : Nat)
    (overlay : OverlayMap) (files : DriverDisk) (applied : List AppliedRepair)
    (skipped : List SkippedRepair) : Prop :=
  let program := applyPlan workspace directory plan round overlay applied skipped
  match planSourceTexts plan with
  | .error message => program.result = .error (.error message)
  | .ok sources =>
    let accepted := (considerRepairs sources round skipped plan.repairs).accepted
    (∀ e ∈ accepted, ∀ f ∈ accepted, editsConflict e f = false) ∧
    accepted.Nodup ∧
    AllOrNothing sources round skipped plan.repairs ∧
    ∃ after, program.result = .ok after ∧
      after.skippedRepairs = (considerRepairs sources round skipped plan.repairs).skippedRepairs ∧
      (∀ path, path ∉ touchedPaths accepted → after.overlay.get? path = overlay.get? path) ∧
      ∀ path source, sourceOf sources path = some source →
        path ∈ touchedPaths accepted ∨ readOverlaid overlay files path = some source →
        readOverlaid after.overlay (afterLog program.log files) path
          = some (replaceAll path source accepted)

/-- The file that holds a source once the chosen repairs have been applied. -/
def fileAfter (workspace directory : Path) (overlay : OverlayMap) (edits : List RepairEdit)
    (path : Path) : Path :=
  if ∃ edit ∈ edits, edit.path = path then patchedFile workspace directory path
  else (overlay.get? path).getD path

/-- A source that is read from the patched file of another one has the same text after the plan. -/
def PatchesKept (workspace directory : Path) (overlay : OverlayMap) (files : DriverDisk)
    (sources : List (Path × Text)) (repairs : List RepairGroup) : Prop :=
  ∀ path source other text, sourceOf sources path = some source →
    EditedPath sources repairs path ∨ readOverlaid overlay files path = some source →
    sourceOf sources other = some text → EditedPath sources repairs other →
    fileAfter workspace directory overlay (chosenEdits sources repairs) path
      = patchedFile workspace directory other →
    replaceAll path source (chosenEdits sources repairs)
      = replaceAll other text (chosenEdits sources repairs)

/-- Two paths that are read from one file have one text. -/
theorem readOverlaid_congr {overlay : OverlayMap} {path other : Path} (files : DriverDisk)
    (h : (overlay.get? path).getD path = (overlay.get? other).getD other) :
    readOverlaid overlay files path = readOverlaid overlay files other := by
  rw [readOverlaid, readOverlaid, h]

section Result

variable {workspace directory : Path} {repairs : List RepairGroup} {round : Nat}
  {skipped : List SkippedRepair} {overlay after : OverlayMap} {files : DriverDisk}

variable (haccepted : accepted = (considerRepairs sources round skipped repairs).accepted)
include haccepted

theorem mem_editedFiles_chosenEdits :
    path ∈ editedFiles (chosenEdits sources repairs) ↔ path ∈ editedFiles accepted := by
  have hinv := considerRepairs_inv sources round skipped repairs
  subst haccepted
  simp only [mem_editedFiles, chosenEdits, List.mem_flatMap, hinv.mem_iff]

theorem exists_source_of_editedFiles (hpath : path ∈ editedFiles accepted) :
    ∃ source, sourceOf sources path = some source :=
  exists_source_of_touched (haccepted ▸ (considerRepairs_inv sources round skipped repairs).inSource)
    ((mem_sortByKey id).mp hpath)

variable (hafter : ∀ path, after.get? path = if path ∈ editedFiles accepted
  then some (patchedFile workspace directory path) else overlay.get? path)
include hafter

/-- After the plan a source is read from `fileAfter`. -/
theorem fileAfter_eq (path : Path) : (after.get? path).getD path
    = fileAfter workspace directory overlay (chosenEdits sources repairs) path := by
  rw [hafter, fileAfter]
  simp only [← mem_editedFiles, mem_editedFiles_chosenEdits haccepted]
  split <;> rfl

/-- **What is read after the plan** is right for all sources exactly if none of them is read from
the patched file of another one with a different text. -/
theorem reads_replaced_iff (hnodup : accepted.Nodup) :
    (∀ path source, sourceOf sources path = some source →
        path ∈ editedFiles accepted ∨ readOverlaid overlay files path = some source →
        readOverlaid after (Disk.run ((patchedTexts workspace directory sources accepted).map
          fun file => .write file.1 file.2) files) path = some (replaceAll path source accepted)) ↔
      PatchesKept workspace directory overlay files sources repairs := by
  have hreplace : ∀ path source, replaceAll path source (chosenEdits sources repairs)
      = replaceAll path source accepted := fun path source => by
    rw [haccepted, replaceAll_chosenEdits (haccepted ▸ hnodup)]
  have hedited : ∀ path, EditedPath sources repairs path ↔ path ∈ editedFiles accepted :=
    fun path => haccepted ▸ mem_editedFiles_iff.symm
  have hplace := fileAfter_eq haccepted hafter
  unfold PatchesKept
  simp only [hreplace, hedited, ← hplace]
  constructor
  · intro h path source other text hsource hread hother hmem hsame
    have hfile : (after.get? path).getD path = (after.get? other).getD other := by
      rw [hsame, hafter other, if_pos hmem, Option.getD_some]
    have hreads := h path source hsource hread
    rw [readOverlaid_congr _ hfile, h other text hother (.inl hmem)] at hreads
    exact (Option.some.inj hreads).symm
  · intro h path source hsource hread
    by_cases hwritten : (after.get? path).getD path
        ∈ (patchedTexts workspace directory sources accepted).map Prod.fst
    · -- Whatever is written to the file is the text of this source.
      have hcontents : Disk.run ((patchedTexts workspace directory sources accepted).map
          fun file => .write file.1 file.2) files ((after.get? path).getD path)
            = some (.source (replaceAll path source accepted)) := by
        refine Disk.run_writes (fun file hfile hsame => ?_) hwritten
        obtain ⟨other, hother, rfl⟩ := List.mem_map.mp hfile
        obtain ⟨text, htext⟩ := exists_source_of_editedFiles haccepted hother
        rw [htext, Option.getD_some, h path source other text hsource hread htext hother hsame.symm]
      rw [readOverlaid, hcontents]
    · have hmem : path ∉ editedFiles accepted := fun hmem => by
        refine hwritten (List.mem_map.mpr ⟨_, List.mem_map.mpr ⟨path, hmem, rfl⟩, ?_⟩)
        rw [hafter, if_pos hmem, Option.getD_some]
      rw [replaceAll_of_notMem hmem, ← hread.resolve_left hmem, readOverlaid, readOverlaid,
        Disk.run_of_untouched fun effect heffect => ?_, hafter, if_neg hmem]
      obtain ⟨file, hfile, rfl⟩ := List.mem_map.mp heffect
      exact fun hsame => hwritten (List.mem_map.mpr ⟨file, hfile, hsame⟩)

end Result

/-- **`apply_plan` is an exact simultaneous substitution** exactly for the plans in which no
chosen repair lists a new edit twice and no source is read from the patched file of another one
that gets a different text. -/
theorem applyPlan_exact_iff (workspace directory : Path) (plan : RepairPlan) (round : Nat)
    (overlay : OverlayMap) (files : DriverDisk) (applied : List AppliedRepair)
    (skipped : List SkippedRepair) :
    AppliesExactly workspace directory plan round overlay files applied skipped ↔
      ∀ sources, planSourceTexts plan = .ok sources → NoRepeatedEdit sources plan.repairs ∧
        PatchesKept workspace directory overlay files sources plan.repairs := by
  unfold AppliesExactly
  cases hsources : planSourceTexts plan with
  | error message =>
    simp [applyPlan, hsources, Disk.Logged.fail]
  | ok sources =>
    simp only [Except.ok.injEq, forall_eq']
    rw [← accepted_nodup_iff sources round skipped]
    have htouched : ∀ {path edits}, path ∈ touchedPaths edits ↔ path ∈ editedFiles edits :=
      (mem_sortByKey id).symm
    constructor
    · rintro ⟨-, hnodup, -, after, hok, -, -, hreads⟩
      obtain ⟨made, hmade, -, hlog, hafter⟩ := applyPlan_of_nodup workspace directory
        overlay applied hsources rfl hnodup
      obtain rfl := Except.ok.inj (hmade.symm.trans hok)
      refine ⟨hnodup, (reads_replaced_iff rfl hafter hnodup).mp ?_⟩
      simpa only [afterLog, hlog, htouched] using hreads
    · rintro ⟨hnodup, hkept⟩
      obtain ⟨after, hok, hskipped, hlog, hafter⟩ := applyPlan_of_nodup workspace directory
        overlay applied hsources rfl hnodup
      have hreads := (reads_replaced_iff rfl hafter hnodup).mpr hkept
      refine ⟨(considerRepairs_inv sources round skipped plan.repairs).free, hnodup,
        considerRepairs_allOrNothing sources round skipped plan.repairs, after, hok, hskipped,
        fun path hpath => ?_, ?_⟩
      · rw [hafter, if_neg fun hmem => hpath (htouched.mpr hmem)]
      · simpa only [afterLog, hlog, htouched] using hreads

/-- A repair that lists the deletion of a whole file twice. -/
def repeatedDeletion : RepairPlan where
  sources := [⟨["main.rs"], "", some ['f', 'n']⟩]
  repairs := [⟨.cloneMovedValue, none,
    [⟨["main.rs"], 0, 2, []⟩, ⟨["main.rs"], 0, 2, []⟩]⟩]

/-- Both deletions are accepted; the second one is out of range and panics. -/
theorem repeated_deletion_panics :
    (applyPlan [] [] repeatedDeletion 0 [] [] []).result = .error .panic ∧
      ¬ AppliesExactly [] [] repeatedDeletion 0 [] (fun _ => none) [] [] := by
  have hpanic : (applyPlan [] [] repeatedDeletion 0 [] [] []).result = .error .panic := by
    decide +kernel
  refine ⟨hpanic, fun h => ?_⟩
  obtain ⟨_, _, _, after, hok, _⟩ := h
  rw [hpanic] at hok
  cases hok

end RustWorkbench.Compiler
