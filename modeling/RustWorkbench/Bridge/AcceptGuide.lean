import RustWorkbench.Analyzer.Clusters
import RustWorkbench.Bridge.AcceptProblems

/-!
# Which guides the editor accepts

The analyzer cuts a guide to a hundred clusters, the editor takes at most sixty-four; and the
frames of the journey carry the ids of stored events.

* `workspaceGuide_accepted_iff` — what the stored facts must satisfy.
-/

namespace RustWorkbench.Bridge

open Analyzer PushNew StableSort

/-! ## Ranges -/

/-- No stored range is inverted. -/
structure StoredRangesOk (snap : Snapshot) : Prop where
  diagnostic : ∀ fileId, ∀ d ∈ snap.diagnosticsOf fileId, d.range.WellFormed
  related : ∀ fileId, ∀ d ∈ snap.diagnosticsOf fileId, ∀ related ∈ d.related,
    related.range.WellFormed
  event : ∀ fileId, ∀ e ∈ snap.eventsOf fileId, e.range.WellFormed
  eventBinding : ∀ fileId, ∀ e ∈ snap.eventsOf fileId, e.bindingRange.WellFormed
  binding : ∀ fileId, ∀ binding ∈ (snap.tutorialOf fileId).bindings, binding.range.WellFormed

/-- A problem of the workspace with no inverted range. -/
structure EntryOk (entry : WorkspaceOwnershipProblem) : Prop where
  primary : entry.problem.primaryRange.WellFormed
  binding : entry.problem.bindingRange.WellFormed
  related : ∀ related ∈ entry.problem.related, related.range.WellFormed

variable {snap : Snapshot} {entries : List WorkspaceOwnershipProblem}
  {selectedProblemId selectedCauseId : Option String} {request : Range} {activeFileId : FileId}

variable {entry : WorkspaceOwnershipProblem} {root : WorkspaceOwnershipProblem}

/-- A problem of the guide is that of a stored diagnostic. -/
theorem mem_guideProblems (h : entry ∈ guideProblems snap activeFileId) :
    ∃ fileId, ∃ d ∈ snap.diagnosticsOf fileId, entry = workspaceProblem snap fileId d := by
  have hmem := (mem_sortByKey _).mp (List.mem_of_mem_take h)
  obtain ⟨fileId, -, hfile⟩ := List.mem_flatMap.mp hmem
  unfold workspaceProblemsOf at hfile
  split at hfile
  · cases hfile
  · obtain ⟨d, hd, rfl⟩ := List.mem_map.mp hfile
    exact ⟨fileId, d, hd, rfl⟩

theorem entryOk_of_mem (h : StoredRangesOk snap)
    (hentry : entry ∈ guideProblems snap activeFileId) : EntryOk entry := by
  obtain ⟨fileId, d, hd, rfl⟩ := mem_guideProblems hentry
  refine ⟨h.diagnostic fileId d hd, ?_, fun related hrelated => ?_⟩
  · exact diagnostic_bindingRange_wellFormed (h.diagnostic fileId d hd) (h.binding fileId)
      (h.eventBinding fileId)
  · obtain ⟨stored, hstored, rfl⟩ := List.mem_map.mp hrelated
    exact h.related fileId d hd stored hstored

/-- The root of a cluster is at an event or at the problem itself. -/
theorem rootSite_wellFormed (hentry : EntryOk entry) {events : List Analyzer.OwnershipEvent}
    (hevents : ∀ e ∈ events, e.range.WellFormed) :
    (ownershipProblemRootSite entry events selectedProblemId).location.range.WellFormed := by
  unfold ownershipProblemRootSite
  split
  · exact hentry.primary
  · rename_i event hevent
    exact hevents event (List.mem_of_mem_filter (List.argmin_mem (Option.mem_def.mpr hevent)))

/-- An impact is at a problem of the group or at a span related to its root. -/
theorem impactSites_wellFormed {grouped : List WorkspaceOwnershipProblem}
    (hgrouped : ∀ entry ∈ grouped, EntryOk entry) (hroot : EntryOk root)
    {site : OwnershipWorkspaceSite}
    (h : site ∈ impactSites grouped root selectedProblemId request) :
    site.location.range.WellFormed := by
  have hmem := (mem_sortByKey _).mp ((dedupBy_sublist _).subset h)
  rcases List.mem_append.mp hmem with hmem | hmem
  · obtain ⟨entry, hentry, rfl⟩ := List.mem_map.mp hmem
    exact (hgrouped entry hentry).primary
  · obtain ⟨related, hrelated, rfl⟩ := List.mem_map.mp hmem
    exact hroot.related related hrelated

/-- What the editor asks of one cluster. -/
structure ClusterOk (cluster : OwnershipProblemCluster) : Prop where
  impacts : cluster.impacts.length ≤ 64
  constraints : cluster.relatedConstraints.length ≤ 64
  root : cluster.root.location.range.WellFormed
  sites : ∀ site ∈ cluster.impacts ++ cluster.relatedConstraints,
    site.location.range.WellFormed

/-- Every cluster the analyzer makes is acceptable by itself. -/
theorem clusterOk_of_mem (hevents : ∀ fileId, ∀ e ∈ snap.eventsOf fileId, e.range.WellFormed)
    (hentries : ∀ entry ∈ entries, EntryOk entry) {cluster : OwnershipProblemCluster}
    (h : cluster ∈ guideClusters snap entries selectedProblemId selectedCauseId request) :
    ClusterOk cluster := by
  obtain ⟨causeId, hcluster⟩ := mem_guideClusters h
  obtain ⟨root, hroot, rfl⟩ := Option.map_eq_some_iff.mp hcluster
  have hrootOk : EntryOk root := hentries root (groupRoot_mem hroot).1
  refine ⟨?_, Nat.zero_le _, rootSite_wellFormed hrootOk (hevents root.fileId), ?_⟩
  · refine (List.length_take_le _ _).trans ?_
    decide
  · intro site hsite
    rw [List.append_nil] at hsite
    exact impactSites_wellFormed (fun entry hentry => hentries entry (List.mem_of_mem_filter hentry))
      hrootOk (List.mem_of_mem_take hsite)

/-- The constraints of a root are few and none is inverted. -/
theorem rootConstraints_ok :
    (rootConstraints snap selectedProblemId root).length ≤ 64 ∧
      ∀ site ∈ rootConstraints snap selectedProblemId root, site.location.range.WellFormed := by
  constructor
  · rw [rootConstraints, List.length_map]
    exact (List.length_take_le _ _).trans (by decide)
  · intro site hsite
    obtain ⟨call, -, rfl⟩ := List.mem_map.mp hsite
    exact LineIndex.range_wellFormed _ _

/-- A cluster stays acceptable when it gets the constraints. -/
theorem ClusterOk.addConstraints {cluster : OwnershipProblemCluster} (h : ClusterOk cluster)
    (hconstraints : cluster.relatedConstraints = []) (clusterId : Option String)
    (root : Option WorkspaceOwnershipProblem) :
    ClusterOk (Analyzer.addConstraints clusterId
      ((root.map (rootConstraints snap selectedProblemId)).getD []) cluster) := by
  unfold Analyzer.addConstraints
  split
  · cases root with
    | none =>
      rw [Option.map_none, Option.getD_none, ← hconstraints]
      exact h
    | some root =>
      obtain ⟨hcount, hwf⟩ := @rootConstraints_ok snap selectedProblemId root
      refine ⟨h.impacts, hcount, h.root, fun site hsite => ?_⟩
      rcases List.mem_append.mp hsite with hsite | hsite
      · exact h.sites site (List.mem_append_left _ hsite)
      · exact hwf site hsite
  · exact h

/-- No frame of a journey has an inverted range. -/
theorem journey_wellFormed (hevents : ∀ fileId, ∀ e ∈ snap.eventsOf fileId, e.range.WellFormed)
    (hroot : EntryOk root) {frame : OwnershipJourneyFrame}
    (h : frame ∈ ownershipWorkspaceJourney snap root MAX_JOURNEY_FRAMES) :
    frame.location.range.WellFormed := by
  rw [ownershipWorkspaceJourney_eq, List.cons_append, List.mem_cons, List.mem_append,
    List.mem_singleton] at h
  rcases h with rfl | h | rfl
  · exact hroot.binding
  · obtain ⟨event, hevent, rfl⟩ := List.mem_map.mp h
    have hstored := (mem_sortByKey _).mp (List.mem_of_mem_take hevent)
    exact hevents root.fileId event (List.mem_of_mem_filter hstored)
  · exact hroot.primary

/-! ## The answer of the handler -/

theorem ownershipIntentQuestion_choices {category : String} {question : OwnershipIntentQuestion}
    (h : ownershipIntentQuestion category = some question) : question.choices.length ≤ 16 := by
  unfold ownershipIntentQuestion at h
  split at h
  all_goals cases h
  all_goals decide

/-- What the editor accepts from the analyzer. -/
theorem validateWorkspaceGuide_ok_iff {guide : OwnershipWorkspaceGuide}
    (hstatus : guide.status = "ready" ∨ guide.status = "ready_empty" ∨ guide.status = "refreshed") :
    validateWorkspaceGuide guide = .ok () ↔
      (0 < guide.schemaVersion ∧ guide.schemaVersion ≤ 1) ∧
      guide.clusters.length ≤ MAX_OWNERSHIP_WORKSPACE_CLUSTERS ∧
      guide.journey.length ≤ 64 ∧
      ((∀ id ∈ guide.clusters.map (·.id), id ≠ "") ∧ (guide.clusters.map (·.id)).Nodup) ∧
      ((∀ id ∈ guide.journey.map (·.id), id ≠ "") ∧ (guide.journey.map (·.id)).Nodup) ∧
      (∀ cluster ∈ guide.clusters, ClusterOk cluster) ∧
      (∀ frame ∈ guide.journey, frame.location.range.WellFormed) ∧
      ∀ question, guide.intentQuestion = some question → question.choices.length ≤ 16 := by
  have havailable : (guide.status == "rust_analyzer_unavailable") = false := by
    rcases hstatus with h | h | h
    all_goals rw [h]; decide
  have hknown : ["ready", "ready_empty", "refreshed", "rust_analyzer_unavailable"].contains
      guide.status = true := by
    rcases hstatus with h | h | h
    all_goals rw [h]; decide
  have hcluster : ∀ cluster, ClusterOk cluster ↔
      cluster.impacts.length ≤ 64 ∧ cluster.relatedConstraints.length ≤ 64 ∧
        cluster.root.location.range.WellFormed ∧
        ∀ site ∈ cluster.impacts ++ cluster.relatedConstraints,
          site.location.range.WellFormed := fun cluster =>
    ⟨fun h => ⟨h.1, h.2, h.3, h.4⟩, fun ⟨h₁, h₂, h₃, h₄⟩ => ⟨h₁, h₂, h₃, h₄⟩⟩
  unfold validateWorkspaceGuide
  simp only [Checks.seq_ok_iff, Checks.ensure_ok_iff, Checks.forEach_ok_iff,
    Checks.uniqueIds_ok_iff, validateRange_ok_iff, havailable, hknown, validateSchema_ok_iff,
    decide_eq_true_eq, true_and, hcluster, Option.mem_toList]

/-! ## Acceptance -/

/-- The ids of the events on a journey are non-empty, different, and different from those of the
two frames for the problem itself. -/
structure JourneyIdsOk (snap : Snapshot) (root : WorkspaceOwnershipProblem) : Prop where
  nonempty : ∀ event ∈ shownEvents snap root, event.eventId ≠ ""
  distinct : ((shownEvents snap root).map (·.eventId)).Nodup
  binding : ∀ event ∈ shownEvents snap root, event.eventId ≠ root.problem.id ++ "-binding"
  diagnostic : ∀ event ∈ shownEvents snap root, event.eventId ≠ root.problem.id ++ "-diagnostic"

/-- What the editor asks of the stored facts. -/
structure GuideFits (snap : Snapshot) (activeFileId : FileId)
    (params : OwnershipWorkspaceGuideParams) : Prop where
  /-- The first 2000 problems have at most 64 causes. -/
  causes : ((guideProblems snap activeFileId).map (·.causeId)).dedup.length ≤ 64
  /-- The events on the journey of the selected problem have ids of their own. -/
  journey : ∀ root, guideJourneyRoot snap activeFileId params = some root → JourneyIdsOk snap root

theorem append_suffix_ne_empty {id suffix : String} (h : suffix ≠ "") : id ++ suffix ≠ "" := by
  intro heq
  have hnil : id.toList ++ suffix.toList = [] := by
    rw [← String.toList_append, heq]
    rfl
  exact h (String.toList_inj.mp (List.append_eq_nil_iff.mp hnil).2)

theorem append_suffix_ne {id suffix suffix' : String} (h : suffix ≠ suffix') :
    id ++ suffix ≠ id ++ suffix' := by
  intro heq
  have hlist : id.toList ++ suffix.toList = id.toList ++ suffix'.toList := by
    rw [← String.toList_append, ← String.toList_append, heq]
  exact h (String.toList_inj.mp (List.append_cancel_left hlist))

/-- The frames of a journey have non-empty, different ids exactly if its events do. -/
theorem journeyIds_ok_iff (root : WorkspaceOwnershipProblem) :
    ((∀ id ∈ (ownershipWorkspaceJourney snap root MAX_JOURNEY_FRAMES).map (·.id), id ≠ "") ∧
        ((ownershipWorkspaceJourney snap root MAX_JOURNEY_FRAMES).map (·.id)).Nodup) ↔
      JourneyIdsOk snap root := by
  have hids : (ownershipWorkspaceJourney snap root MAX_JOURNEY_FRAMES).map (·.id)
      = (root.problem.id ++ "-binding") :: ((shownEvents snap root).map (·.eventId)
        ++ [root.problem.id ++ "-diagnostic"]) := by
    rw [ownershipWorkspaceJourney_eq, List.map_append, List.map_cons, List.map_map]
    rfl
  have hbinding : root.problem.id ++ "-binding" ≠ "" := append_suffix_ne_empty (by decide)
  have hdiagnostic : root.problem.id ++ "-diagnostic" ≠ "" := append_suffix_ne_empty (by decide)
  have hends : root.problem.id ++ "-binding" ≠ root.problem.id ++ "-diagnostic" :=
    append_suffix_ne (by decide)
  rw [hids, List.nodup_cons, List.nodup_append]
  constructor
  · rintro ⟨hne, hnot, hnodup, -, hdisjoint⟩
    have hmem : ∀ event ∈ shownEvents snap root,
        event.eventId ∈ (shownEvents snap root).map (·.eventId) :=
      fun event hevent => List.mem_map.mpr ⟨event, hevent, rfl⟩
    refine ⟨fun event hevent => hne _ ?_, hnodup, fun event hevent heq => hnot ?_, ?_⟩
    · exact List.mem_cons_of_mem _ (List.mem_append_left _ (hmem event hevent))
    · exact List.mem_append_left _ (heq ▸ hmem event hevent)
    · exact fun event hevent => hdisjoint _ (hmem event hevent) _ (List.mem_singleton_self _)
  · intro h
    refine ⟨?_, ?_, h.distinct, List.nodup_singleton _, ?_⟩
    · intro id hid
      rw [List.mem_cons, List.mem_append, List.mem_singleton, List.mem_map] at hid
      rcases hid with rfl | ⟨event, hevent, rfl⟩ | rfl
      · exact hbinding
      · exact h.nonempty event hevent
      · exact hdiagnostic
    · rw [List.mem_append, List.mem_singleton, List.mem_map]
      rintro (⟨event, hevent, heq⟩ | heq)
      · exact h.binding event hevent heq
      · exact hends heq
    · intro id hid last hlast
      obtain ⟨event, hevent, rfl⟩ := List.mem_map.mp hid
      obtain rfl := List.mem_singleton.mp hlast
      exact h.diagnostic event hevent

/-- Cause ids are never empty. -/
theorem causeId_ne_empty (h : entry ∈ guideProblems snap activeFileId) : entry.causeId ≠ "" := by
  obtain ⟨fileId, d, -, rfl⟩ := mem_guideProblems h
  intro heq
  have hmem : 'c' ∈ (workspaceProblem snap fileId d).causeId.toList := by
    simp [workspaceProblem, ownershipProblemCauseId, String.toList_append]
  rw [heq] at hmem
  cases hmem

theorem guideStatus_cases (expectedRevision : Option String) (revision : String) :
    guideStatus entries expectedRevision revision = "ready" ∨
      guideStatus entries expectedRevision revision = "ready_empty" ∨
      guideStatus entries expectedRevision revision = "refreshed" := by
  unfold guideStatus
  split
  · exact Or.inr (Or.inr rfl)
  · split
    · exact Or.inr (Or.inl rfl)
    · exact Or.inl rfl

/-- **Which guides are accepted.**  If no stored range is inverted, the editor accepts the guide
for a request exactly if the problems have at most 64 causes and the events on the journey have
ids of their own. -/
theorem workspaceGuide_accepted_iff (snap : Snapshot) (params : OwnershipWorkspaceGuideParams)
    {activeFileId : FileId} (hfile : snap.urlToFileId params.uri = .ok (some activeFileId))
    (hranges : StoredRangesOk snap) {guide : OwnershipWorkspaceGuide}
    (hguide : handleOwnershipWorkspaceGuide snap params = .ok guide) :
    validateWorkspaceGuide guide = .ok () ↔ GuideFits snap activeFileId params := by
  have hanswer := workspaceGuide_spec hfile hguide
  have hentries : ∀ entry ∈ guideProblems snap activeFileId, EntryOk entry :=
    fun entry => entryOk_of_mem hranges
  have hids := hanswer.map_id
  have hclusters : ∀ cluster ∈ guide.clusters, ClusterOk cluster := by
    rw [hanswer.clusters]
    intro cluster hcluster
    obtain ⟨made, hmade, rfl⟩ := List.mem_map.mp hcluster
    exact (clusterOk_of_mem hranges.event hentries hmade).addConstraints
      (guideClusters_relatedConstraints hmade) _ _
  have hlength : guide.clusters.length
      = min MAX_CLUSTERS ((guideProblems snap activeFileId).map (·.causeId)).dedup.length := by
    rw [← List.length_map (fun cluster : OwnershipProblemCluster => cluster.id), hids,
      List.length_take, guideCauseIds_perm.length_eq]
  rw [validateWorkspaceGuide_ok_iff (hanswer.status ▸ guideStatus_cases _ _)]
  constructor
  · rintro ⟨-, hcount, -, -, hjourneyIds, -⟩
    refine ⟨?_, fun root hrootEntry => ?_⟩
    · unfold MAX_OWNERSHIP_WORKSPACE_CLUSTERS at hcount
      unfold MAX_CLUSTERS at hlength
      omega
    · rw [hanswer.journey, hrootEntry, Option.map_some, Option.getD_some] at hjourneyIds
      exact (journeyIds_ok_iff root).mp hjourneyIds
  · intro hfits
    have hcauses := hfits.causes
    have hcases : guide.journey = [] ∨ ∃ root, guideJourneyRoot snap activeFileId params = some root
        ∧ guide.journey = ownershipWorkspaceJourney snap root MAX_JOURNEY_FRAMES := by
      rw [hanswer.journey]
      cases guideJourneyRoot snap activeFileId params with
      | none => exact Or.inl rfl
      | some root => exact Or.inr ⟨root, rfl, rfl⟩
    refine ⟨?_, ?_, ?_, ⟨?_, ?_⟩, ?_, hclusters, ?_, ?_⟩
    · rw [hanswer.schemaVersion]
      exact ⟨Nat.one_pos, le_rfl⟩
    · unfold MAX_OWNERSHIP_WORKSPACE_CLUSTERS
      omega
    · rcases hcases with hnil | ⟨root, -, hshown⟩
      · rw [hnil]
        exact Nat.zero_le _
      · rw [hshown]
        exact (length_ownershipWorkspaceJourney snap root).trans (by decide)
    · rw [hids]
      intro id hid
      obtain ⟨entry, hentry, rfl⟩ := mem_guideCauseIds.mp (List.mem_of_mem_take hid)
      exact causeId_ne_empty hentry
    · rw [hids]
      exact nodup_guideCauseIds.sublist (List.take_sublist _ _)
    · rcases hcases with hnil | ⟨root, hrootEntry, hshown⟩
      · rw [hnil]
        exact ⟨fun _ hid => (nomatch hid), List.nodup_nil⟩
      · rw [hshown]
        exact (journeyIds_ok_iff root).mpr (hfits.journey root hrootEntry)
    · rcases hcases with hnil | ⟨root, hrootEntry, hshown⟩
      · rw [hnil]
        exact fun _ hframe => nomatch hframe
      · rw [hshown]
        obtain ⟨causeId, -, hfound⟩ := Option.bind_eq_some_iff.mp hrootEntry
        exact fun frame =>
          journey_wellFormed hranges.event (hentries root (journeyRoot_mem hfound))
    · intro question hquestion
      obtain ⟨category, hcategory⟩ := hanswer.question
      rw [hcategory] at hquestion
      obtain ⟨category, -, hchosen⟩ := Option.bind_eq_some_iff.mp hquestion
      exact ownershipIntentQuestion_choices hchosen

/-- A file without functions. -/
def emptyFile : SourceFile :=
  ⟨[], fun _ => none, fun _ => none, fun _ _ => none, fun _ => none, fun _ => [], fun _ => none⟩

/-- One use of a moved value. -/
def oneUse : Snapshot :=
  { diagnosticsOnly [innerError] with parse := fun _ => some emptyFile }

/-- A store with one entry holds only that. -/
theorem eq_of_mem_forFile {ν : Type} {stored value : ν} {fileId : FileId}
    (h : value ∈ PerFlycheck.forFile [[(none, [(0, stored)])]] fileId) : value = stored := by
  by_cases hfile : 0 = fileId
  · subst hfile
    simpa [PerFlycheck.forFile, Assoc.Map.values, Assoc.Map.get?] using h
  · simp [PerFlycheck.forFile, Assoc.Map.values, Assoc.Map.get?, hfile] at h

/-- What is read for a file from such a store. -/
theorem mem_of_mem_forFile {α : Type} [DecidableEq α] {key : α → Range} {values : List α} {a : α}
    {fileId : FileId} (h : a ∈ sortByKey key
      ((PerFlycheck.forFile [[(none, [(0, values)])]] fileId).flatten.foldl pushNew [])) :
    a ∈ values := by
  have hmem := (mem_foldl_pushNew _ _).mp ((mem_sortByKey _).mp h)
  rw [List.mem_flatten] at hmem
  rcases hmem with hmem | ⟨stored, hstored, ha⟩
  · cases hmem
  · exact eq_of_mem_forFile hstored ▸ ha

theorem oneUse_ranges : StoredRangesOk oneUse where
  diagnostic fileId d hd :=
    (by decide : ∀ d ∈ [innerError], d.range.WellFormed) d (mem_of_mem_forFile hd)
  related fileId d hd :=
    (by decide : ∀ d ∈ [innerError], ∀ related ∈ d.related, related.range.WellFormed) d
      (mem_of_mem_forFile hd)
  event _ e he := absurd he List.not_mem_nil
  eventBinding _ e he := absurd he List.not_mem_nil
  binding _ binding hbinding := absurd hbinding List.not_mem_nil

/-- The guide of a single diagnostic is accepted. -/
theorem one_use_guide_accepted :
    ∃ guide, handleOwnershipWorkspaceGuide oneUse { uri := "main.rs", position := ⟨0, 5⟩ }
        = .ok guide ∧
      validateWorkspaceGuide guide = .ok () := by
  obtain ⟨guide, hguide⟩ : ∃ guide, handleOwnershipWorkspaceGuide oneUse
      { uri := "main.rs", position := ⟨0, 5⟩ } = .ok guide := ⟨_, rfl⟩
  refine ⟨guide, hguide, (workspaceGuide_accepted_iff oneUse _ rfl oneUse_ranges hguide).mpr
    ⟨by decide +kernel, fun root _ => ?_⟩⟩
  have hshown : shownEvents oneUse root = [] := rfl
  refine ⟨?_, ?_, ?_, ?_⟩
  all_goals rw [hshown]; simp

/-- The event stored for a use of `b` after its move: its id has the line but not the column. -/
def useOfMoved (start stop : Nat) : Analyzer.OwnershipEvent where
  eventId := "invalid-use-b-0"
  bodyId := 0
  basicBlock := 0
  statementIndex := 0
  kind := .invalidUse
  state := .moved
  range := columns start stop
  bindingRange := columns start stop
  name := "b"
  place := "b"
  loanId := none
  exact := true
  detail := some "rustc rejected this use because the value was already moved"
  destination := none

def usesOfMoved : List OwnershipDiagnostic :=
  [⟨"E0382", "use of moved value: `b`", columns 5 6, []⟩,
    ⟨"E0382", "use of moved value: `b`", columns 8 9, []⟩]

/-- Two uses of a moved value on one line. -/
def twoUses : Snapshot :=
  { diagnosticsOnly usesOfMoved with
    ownershipEvents := [[(none, [(0, [useOfMoved 5 6, useOfMoved 8 9])])]]
    parse := fun _ => some emptyFile }

theorem twoUses_ranges : StoredRangesOk twoUses where
  diagnostic fileId d hd :=
    (by decide : ∀ d ∈ usesOfMoved, d.range.WellFormed) d (mem_of_mem_forFile hd)
  related fileId d hd :=
    (by decide : ∀ d ∈ usesOfMoved, ∀ related ∈ d.related, related.range.WellFormed) d
      (mem_of_mem_forFile hd)
  event fileId e he :=
    (by decide : ∀ e ∈ [useOfMoved 5 6, useOfMoved 8 9], e.range.WellFormed) e
      (mem_of_mem_forFile he)
  eventBinding fileId e he :=
    (by decide : ∀ e ∈ [useOfMoved 5 6, useOfMoved 8 9], e.bindingRange.WellFormed) e
      (mem_of_mem_forFile he)
  binding _ binding hbinding := absurd hbinding List.not_mem_nil

/-- Both events are frames of the journey, under one id. -/
theorem two_uses_guide_rejected :
    StoredRangesOk twoUses ∧ ∃ guide, handleOwnershipWorkspaceGuide twoUses { uri := "main.rs", position := ⟨0, 5⟩ }
        = .ok guide ∧
      validateWorkspaceGuide guide
        = .error "workspace guide journey contains duplicate id `invalid-use-b-0`" :=
  ⟨twoUses_ranges, _, rfl, by decide +kernel⟩

end RustWorkbench.Bridge
