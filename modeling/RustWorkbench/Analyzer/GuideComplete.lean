import RustWorkbench.Analyzer.Clusters
import RustWorkbench.Analyzer.RoundTrip

/-!
# What a guide leaves out

A guide is cut at five limits: problems, clusters, impacts, journey frames and caller
constraints.  The first three set a flag when they cut something.  The journey is cut before its
length is compared with the limit, and nothing tells that callers were left out; besides, the
removal of repeated impacts compares place and text only and so drops a second problem there.

* `workspace_guide_complete_iff` — what the problems, events and calls must satisfy.
-/

namespace RustWorkbench.Analyzer

open StableSort

/-! ## Complete guides -/

/-- The site is the symptom of a problem. -/
def IsSymptomOf (entry : WorkspaceOwnershipProblem) (site : OwnershipWorkspaceSite) : Prop :=
  site.role = "symptom" ∧ site.problemId = some entry.problem.id ∧
    site.location = ⟨entry.uri, entry.problem.primaryRange⟩

/-- A cluster lists a problem as a symptom. -/
def Lists (cluster : OwnershipProblemCluster) (entry : WorkspaceOwnershipProblem) : Prop :=
  ∃ site ∈ cluster.impacts, IsSymptomOf entry site

/-- What makes an impact a repeat of the one before it. -/
def siteKey (site : OwnershipWorkspaceSite) : Location × String := (site.location, site.label)

/-- The order of the impacts. -/
def siteOrder (site : OwnershipWorkspaceSite) : String ×ₗ Position :=
  toLex (site.location.uri, site.location.range.start)

/-- The site of a problem among the impacts of its cluster. -/
def symptomSite (selectedProblemId : Option String) (entry : WorkspaceOwnershipProblem) :
    OwnershipWorkspaceSite :=
  ownershipProblemSite entry "symptom" "rustc rejected this site because of the root event above"
    selectedProblemId

section Request

variable (snap : Snapshot) (activeFileId : FileId) (params : OwnershipWorkspaceGuideParams)

/-- The selected problem, if it is kept: the first with the id of the request or, without an id,
the first of the active file at the position. -/
def requestEntry : Option WorkspaceOwnershipProblem :=
  match params.selectedProblemId with
  | some id => (guideProblems snap activeFileId).find? fun entry => entry.problem.id == id
  | none => (guideProblems snap activeFileId).find? fun entry =>
    decide (entry.fileId = activeFileId)
      && (rangesTouch entry.problem.primaryRange (Range.point params.position)
        || entry.problem.relatedRanges.any fun range =>
          rangesTouch range (Range.point params.position))

/-- The sites of a cause by file and start: its problems, then the spans related to its root. -/
def causeSites (causeId : String) : List OwnershipWorkspaceSite :=
  ((groupRoot (guideProblems snap activeFileId) causeId).map fun root =>
    sortByKey siteOrder
      ((groupedProblems (guideProblems snap activeFileId) causeId).map
          (symptomSite (requestProblemId snap activeFileId params))
        ++ root.problem.related.map (evidenceSite root (Range.point params.position)))).getD []

/-- The impacts of a cause without the limit. -/
def causeImpacts (causeId : String) : List OwnershipWorkspaceSite :=
  dedupBy (sameKey siteKey) (causeSites snap activeFileId params causeId)

/-- All events of a root, between its binding and its diagnostic. -/
def fullJourney (root : WorkspaceOwnershipProblem) : List OwnershipJourneyFrame :=
  journeyBindingFrame root
    :: (journeyEvents root (ownershipEventsForFile snap.ownershipEvents root.fileId)).map
      (journeyEventFrame root)
    ++ [journeyDiagnosticFrame root]

/-- All local callers of the function around a root. -/
def allConstraints (root : WorkspaceOwnershipProblem) : List OwnershipWorkspaceSite :=
  (localCalls snap root.fileId root.problem.primaryRange).map
    (callerSite snap (requestProblemId snap activeFileId params))

/-- **The guide is complete or says so.** -/
structure GuideComplete (guide : OwnershipWorkspaceGuide) : Prop where
  /-- A kept problem is a symptom in the cluster of its cause and in no other, unless that
  cluster was dropped or is marked. -/
  symptoms : ∀ entry ∈ guideProblems snap activeFileId, ∀ cluster ∈ guide.clusters,
    cluster.id = entry.causeId → cluster.truncated = true ∨
      (Lists cluster entry ∧ ∀ other ∈ guide.clusters, other.id ≠ cluster.id → ¬ Lists other entry)
  /-- The cluster of the selected problem is there, is the selected one and lists it. -/
  selected : ∀ entry, requestEntry snap activeFileId params = some entry →
    ∃ cluster ∈ guide.clusters, cluster.id = entry.causeId ∧
      guide.selectedClusterId = some cluster.id ∧ Lists cluster entry
  problems : guide.truncated = true ∨
    guideProblems snap activeFileId = workspaceProblems snap activeFileId
  clusters : guide.truncated = true ∨ ∀ entry ∈ guideProblems snap activeFileId,
    ∃ cluster ∈ guide.clusters, cluster.id = entry.causeId
  impacts : ∀ cluster ∈ guide.clusters, cluster.truncated = true ∨
    cluster.impacts = causeImpacts snap activeFileId params cluster.id
  journey : ∀ cluster ∈ guide.clusters, guide.selectedClusterId = some cluster.id →
    ∀ root, guideJourneyRoot snap activeFileId params = some root →
      guide.truncated = true ∨ cluster.truncated = true ∨ guide.journey = fullJourney snap root
  constraints : ∀ cluster ∈ guide.clusters, guide.selectedClusterId = some cluster.id →
    ∀ root, guideJourneyRoot snap activeFileId params = some root →
      guide.truncated = true ∨ cluster.truncated = true ∨
        cluster.relatedConstraints = allConstraints snap activeFileId params root

/-! ## When a guide is complete -/

/-- The causes that get a cluster. -/
def shownCauses : List String :=
  (guideCauseIds (guideProblems snap activeFileId) (requestCauseId snap activeFileId params)).take
    MAX_CLUSTERS

/-- A symptom of the problem has one of the first fifty places among the sites of a cause: it
does not stand directly behind a site with its place and text, and fewer than fifty different
sites come before it. -/
def HasPlace (causeId : String) (entry : WorkspaceOwnershipProblem) : Prop :=
  ∃ before site after,
    causeSites snap activeFileId params causeId = before ++ site :: after ∧
      IsSymptomOf entry site ∧
      (∀ last, before.getLast? = some last → siteKey site ≠ siteKey last) ∧
      (dedupBy (sameKey siteKey) before).length < MAX_IMPACTS

/-- No limit that sets a flag is exceeded for the selected cluster. -/
structure Unflagged : Prop where
  problems : (workspaceProblems snap activeFileId).length ≤ MAX_PROBLEMS
  causes : ((guideProblems snap activeFileId).map (·.causeId)).dedup.length ≤ MAX_CLUSTERS
  impacts : ∀ causeId, selectedGroup (guideProblems snap activeFileId)
      (requestCauseId snap activeFileId params) = some causeId →
    (causeImpacts snap activeFileId params causeId).length ≤ MAX_IMPACTS

/-- What the stored facts must satisfy. -/
structure NothingHidden : Prop where
  /-- A problem has a place among the sites of its cause and among those of no other. -/
  symptoms : ∀ entry ∈ guideProblems snap activeFileId,
    entry.causeId ∈ shownCauses snap activeFileId params →
    (causeImpacts snap activeFileId params entry.causeId).length ≤ MAX_IMPACTS →
      HasPlace snap activeFileId params entry.causeId entry ∧
        ∀ causeId ∈ shownCauses snap activeFileId params, causeId ≠ entry.causeId →
          ¬ HasPlace snap activeFileId params causeId entry
  /-- The selected problem has the cause of the first problem with its id, and a place. -/
  selected : ∀ entry, requestEntry snap activeFileId params = some entry →
    (∀ first, (guideProblems snap activeFileId).find? (fun other =>
        other.problem.id == entry.problem.id) = some first → first.causeId = entry.causeId) ∧
      HasPlace snap activeFileId params entry.causeId entry
  /-- At most fourteen events belong to the journey. -/
  journey : Unflagged snap activeFileId params → ∀ root,
    guideJourneyRoot snap activeFileId params = some root →
      (journeyEvents root (ownershipEventsForFile snap.ownershipEvents root.fileId)).length
        ≤ MAX_JOURNEY_FRAMES - 2
  /-- At most sixteen local calls reach the function. -/
  constraints : Unflagged snap activeFileId params → ∀ root,
    guideJourneyRoot snap activeFileId params = some root →
      (localCalls snap root.fileId root.problem.primaryRange).length ≤ MAX_RELATED_CONSTRAINTS

end Request

variable {snap : Snapshot} {activeFileId : FileId} {params : OwnershipWorkspaceGuideParams}
  {guide : OwnershipWorkspaceGuide} {entry root : WorkspaceOwnershipProblem}

/-! ## The clusters of the answer -/

/-- A returned cluster. -/
structure ClusterAnswer (snap : Snapshot) (activeFileId : FileId)
    (params : OwnershipWorkspaceGuideParams) (guide : OwnershipWorkspaceGuide)
    (cluster : OwnershipProblemCluster) : Prop where
  shown : cluster.id ∈ shownCauses snap activeFileId params
  impacts : cluster.impacts = (causeImpacts snap activeFileId params cluster.id).take MAX_IMPACTS
  truncated : cluster.truncated = true ↔
    MAX_IMPACTS < (causeImpacts snap activeFileId params cluster.id).length
  constraints : guide.selectedClusterId = some cluster.id →
    ∀ root, guideJourneyRoot snap activeFileId params = some root →
      cluster.relatedConstraints
        = rootConstraints snap (requestProblemId snap activeFileId params) root

theorem GuideAnswer.cluster (h : GuideAnswer snap activeFileId params guide)
    {cluster : OwnershipProblemCluster} (hcluster : cluster ∈ guide.clusters) :
    ClusterAnswer snap activeFileId params guide cluster := by
  have hshown : cluster.id ∈ shownCauses snap activeFileId params := by
    unfold shownCauses
    rw [← h.map_id]
    exact List.mem_map.mpr ⟨cluster, hcluster, rfl⟩
  rw [h.clusters] at hcluster
  obtain ⟨made, hmade, rfl⟩ := List.mem_map.mp hcluster
  obtain ⟨causeId, hcause⟩ := mem_guideClusters hmade
  obtain ⟨root, hroot, rfl⟩ := Option.map_eq_some_iff.mp hcause
  have himpacts : causeImpacts snap activeFileId params causeId
      = impactSites (groupedProblems (guideProblems snap activeFileId) causeId) root
        (requestProblemId snap activeFileId params) (Range.point params.position) := by
    unfold causeImpacts causeSites
    rw [hroot]
    rfl
  refine ⟨hshown, ?_, ?_, ?_⟩
  · rw [addConstraints_impacts, addConstraints_id, himpacts]
  · rw [addConstraints_truncated, addConstraints_id, himpacts]
    simp only [decide_eq_true_eq, gt_iff_lt]
  · intro hselected root hroot
    rw [addConstraints_id] at hselected
    rw [addConstraints, if_pos hselected.symm, hroot]
    rfl

/-- Every shown cause has a cluster. -/
theorem GuideAnswer.exists_cluster (h : GuideAnswer snap activeFileId params guide)
    {causeId : String} (hcause : causeId ∈ shownCauses snap activeFileId params) :
    ∃ cluster ∈ guide.clusters, cluster.id = causeId := by
  unfold shownCauses at hcause
  rw [← h.map_id] at hcause
  exact List.mem_map.mp hcause

/-- **A cluster lists the problems that have a place.** -/
theorem ClusterAnswer.lists_iff {cluster : OwnershipProblemCluster}
    (h : ClusterAnswer snap activeFileId params guide cluster) :
    Lists cluster entry ↔ HasPlace snap activeFileId params cluster.id entry := by
  unfold Lists HasPlace
  rw [h.impacts]
  constructor
  · rintro ⟨site, hsite, hsymptom⟩
    obtain ⟨before, after, hsplit, hfirst, hcount⟩ := mem_take_dedupBy_iff.mp hsite
    exact ⟨before, site, after, hsplit, hsymptom, hfirst, hcount⟩
  · rintro ⟨before, site, after, hsplit, hsymptom, hfirst, hcount⟩
    exact ⟨site, mem_take_dedupBy_iff.mpr ⟨before, after, hsplit, hfirst, hcount⟩, hsymptom⟩

/-! ## Journeys and constraints -/

/-- The journey of a root is whole if its events have room. -/
theorem journey_eq_fullJourney_iff :
    ownershipWorkspaceJourney snap root MAX_JOURNEY_FRAMES = fullJourney snap root ↔
      (journeyEvents root (ownershipEventsForFile snap.ownershipEvents root.fileId)).length
        ≤ MAX_JOURNEY_FRAMES - 2 := by
  rw [ownershipWorkspaceJourney_eq, fullJourney, shownEvents]
  constructor
  · intro h
    have hlength := congrArg List.length h
    simp only [List.length_append, List.length_cons, List.length_map, List.length_take,
      List.length_nil] at hlength
    omega
  · intro h
    rw [List.take_of_length_le h]

/-- The constraints of a root are whole if there are few calls. -/
theorem constraints_eq_allConstraints_iff :
    rootConstraints snap (requestProblemId snap activeFileId params) root
        = allConstraints snap activeFileId params root ↔
      (localCalls snap root.fileId root.problem.primaryRange).length
        ≤ MAX_RELATED_CONSTRAINTS := by
  rw [rootConstraints, allConstraints]
  constructor
  · intro h
    have hlength := congrArg List.length h
    rw [List.length_map, List.length_map, List.length_take] at hlength
    omega
  · intro h
    rw [List.take_of_length_le h]

/-! ## The selected problem -/

section Entry

variable (h : requestEntry snap activeFileId params = some entry)

include h

/-- The id of the selected problem is the selected id. -/
theorem requestProblemId_of_requestEntry :
    requestProblemId snap activeFileId params = some entry.problem.id := by
  unfold requestEntry at h
  unfold requestProblemId guideSelectedProblemId
  split at h
  · rename_i id hid
    have hfound := List.find?_some h
    rw [hid, ← beq_iff_eq.mp hfound]
    rfl
  · rename_i hid
    rw [hid, h]
    rfl

theorem mem_of_requestEntry : entry ∈ guideProblems snap activeFileId := by
  unfold requestEntry at h
  split at h
  all_goals exact List.mem_of_find?_eq_some h

/-- The selected cause is that of the first problem with the selected id. -/
theorem requestCauseId_of_requestEntry :
    ∃ first, (guideProblems snap activeFileId).find? (fun other =>
        other.problem.id == entry.problem.id) = some first ∧
      requestCauseId snap activeFileId params = some first.causeId := by
  obtain ⟨first, hfirst⟩ : ∃ first, (guideProblems snap activeFileId).find? (fun other =>
      other.problem.id == entry.problem.id) = some first := by
    rw [← Option.isSome_iff_exists, List.find?_isSome]
    exact ⟨entry, mem_of_requestEntry h, beq_self_eq_true _⟩
  refine ⟨first, hfirst, ?_⟩
  unfold requestCauseId guideSelectedCauseId
  rw [requestProblemId_of_requestEntry h, Option.bind_some, hfirst]
  rfl

end Entry

section Answer

variable (h : GuideAnswer snap activeFileId params guide)

include h

/-- The selected group has a cluster, whatever the limit. -/
theorem GuideAnswer.exists_selected {causeId : String}
    (hgroup : selectedGroup (guideProblems snap activeFileId)
      (requestCauseId snap activeFileId params) = some causeId) :
    ∃ cluster ∈ guide.clusters, cluster.id = causeId ∧
      guide.selectedClusterId = some cluster.id := by
  obtain ⟨cluster, hcluster, rfl⟩ := h.exists_cluster
    (selectedGroup_mem_take (fun causeId => guideSelectedCauseId_mem) hgroup)
  exact ⟨cluster, hcluster, rfl, h.selected.trans hgroup⟩

/-- The flags of the guide and of the selected cluster. -/
theorem GuideAnswer.unflagged_iff {cluster : OwnershipProblemCluster}
    (hcluster : cluster ∈ guide.clusters) (hselected : guide.selectedClusterId = some cluster.id) :
    Unflagged snap activeFileId params ↔ ¬ (guide.truncated = true ∨ cluster.truncated = true) := by
  rw [h.truncated, (h.cluster hcluster).truncated]
  constructor
  · rintro ⟨hproblems, hcauses, himpacts⟩ ((hover | hover) | hover)
    · omega
    · omega
    · have := himpacts cluster.id (h.selected.symm.trans hselected)
      omega
  · intro hflags
    refine ⟨by omega, by omega, fun causeId hgroup => ?_⟩
    obtain rfl := Option.some.inj (hselected.symm.trans (h.selected.trans hgroup))
    omega

/-! ## The parts -/

/-- Symptoms are shown in their own cluster only, if they have a place there only. -/
theorem GuideAnswer.symptoms_iff :
    (∀ cluster ∈ guide.clusters, cluster.id = entry.causeId → cluster.truncated = true ∨
        (Lists cluster entry ∧
          ∀ other ∈ guide.clusters, other.id ≠ cluster.id → ¬ Lists other entry)) ↔
      (entry.causeId ∈ shownCauses snap activeFileId params →
        (causeImpacts snap activeFileId params entry.causeId).length ≤ MAX_IMPACTS →
          HasPlace snap activeFileId params entry.causeId entry ∧
            ∀ causeId ∈ shownCauses snap activeFileId params, causeId ≠ entry.causeId →
              ¬ HasPlace snap activeFileId params causeId entry) := by
  constructor
  · intro hshown hcause hsmall
    obtain ⟨cluster, hmem, hid⟩ := h.exists_cluster hcause
    have hspec := h.cluster hmem
    rcases hshown cluster hmem hid with htruncated | ⟨hlists, hothers⟩
    · have hover := hspec.truncated.mp htruncated
      rw [hid] at hover
      omega
    · refine ⟨hid ▸ hspec.lists_iff.mp hlists, fun causeId hcause hne hplace => ?_⟩
      obtain ⟨other, hother, rfl⟩ := h.exists_cluster hcause
      exact hothers other hother (hid ▸ hne) ((h.cluster hother).lists_iff.mpr hplace)
  · intro hplaces cluster hmem hid
    have hspec := h.cluster hmem
    by_cases htruncated : cluster.truncated = true
    · exact Or.inl htruncated
    · have hsmall := Nat.not_lt.mp (mt hspec.truncated.mpr htruncated)
      obtain ⟨hplace, hothers⟩ := hplaces (hid ▸ hspec.shown) (hid ▸ hsmall)
      refine Or.inr ⟨hspec.lists_iff.mpr (hid ▸ hplace), fun other hother hne hlists => ?_⟩
      have hspec' := h.cluster hother
      exact hothers other.id hspec'.shown (hid ▸ hne) (hspec'.lists_iff.mp hlists)

/-- The selected cluster is that of the first problem with the selected id. -/
theorem GuideAnswer.selected_iff (hentry : requestEntry snap activeFileId params = some entry) :
    (∃ cluster ∈ guide.clusters, cluster.id = entry.causeId ∧
        guide.selectedClusterId = some cluster.id ∧ Lists cluster entry) ↔
      (∀ first, (guideProblems snap activeFileId).find? (fun other =>
          other.problem.id == entry.problem.id) = some first → first.causeId = entry.causeId) ∧
        HasPlace snap activeFileId params entry.causeId entry := by
  obtain ⟨first, hfirst, hcause⟩ := requestCauseId_of_requestEntry hentry
  constructor
  · rintro ⟨cluster, hmem, hid, hselected, hlists⟩
    refine ⟨fun found hfound => ?_, hid ▸ (h.cluster hmem).lists_iff.mp hlists⟩
    obtain rfl := Option.some.inj (hfirst.symm.trans hfound)
    rw [h.selected, hcause, hid] at hselected
    exact Option.some.inj hselected
  · rintro ⟨hsame, hplace⟩
    have hgroup : selectedGroup (guideProblems snap activeFileId)
        (requestCauseId snap activeFileId params) = some entry.causeId := by
      rw [hcause, hsame first hfirst]
      rfl
    obtain ⟨cluster, hmem, hid, hselected⟩ := h.exists_selected hgroup
    exact ⟨cluster, hmem, hid, hselected, (h.cluster hmem).lists_iff.mpr (hid ▸ hplace)⟩

/-- A list of the selected cluster is whole or flagged exactly if, without a flag for another
reason, it fits. -/
theorem GuideAnswer.whole_iff {Whole : OwnershipProblemCluster → WorkspaceOwnershipProblem → Prop}
    {Fits : WorkspaceOwnershipProblem → Prop}
    (hfits : ∀ cluster ∈ guide.clusters, guide.selectedClusterId = some cluster.id →
      ∀ root, guideJourneyRoot snap activeFileId params = some root →
        (Whole cluster root ↔ Fits root)) :
    (∀ cluster ∈ guide.clusters, guide.selectedClusterId = some cluster.id →
        ∀ root, guideJourneyRoot snap activeFileId params = some root →
          guide.truncated = true ∨ cluster.truncated = true ∨ Whole cluster root) ↔
      (Unflagged snap activeFileId params → ∀ root,
        guideJourneyRoot snap activeFileId params = some root → Fits root) := by
  constructor
  · intro hwhole hunflagged root hroot
    -- With a root there is a selected cluster.
    obtain ⟨causeId, hgroup, -⟩ := Option.bind_eq_some_iff.mp hroot
    obtain ⟨cluster, hmem, -, hselected⟩ := h.exists_selected hgroup
    have hflags := (h.unflagged_iff hmem hselected).mp hunflagged
    rcases hwhole cluster hmem hselected root hroot with hflag | hflag | hwhole
    · exact absurd (Or.inl hflag) hflags
    · exact absurd (Or.inr hflag) hflags
    · exact (hfits cluster hmem hselected root hroot).mp hwhole
  · intro hfit cluster hmem hselected root hroot
    rw [← or_assoc]
    by_cases hunflagged : Unflagged snap activeFileId params
    · exact Or.inr ((hfits cluster hmem hselected root hroot).mpr (hfit hunflagged root hroot))
    · exact Or.inl (not_not.mp (mt (h.unflagged_iff hmem hselected).mpr hunflagged))

theorem GuideAnswer.journey_iff :
    (∀ cluster ∈ guide.clusters, guide.selectedClusterId = some cluster.id →
        ∀ root, guideJourneyRoot snap activeFileId params = some root →
          guide.truncated = true ∨ cluster.truncated = true ∨
            guide.journey = fullJourney snap root) ↔
      (Unflagged snap activeFileId params → ∀ root,
        guideJourneyRoot snap activeFileId params = some root →
          (journeyEvents root (ownershipEventsForFile snap.ownershipEvents root.fileId)).length
            ≤ MAX_JOURNEY_FRAMES - 2) := by
  refine h.whole_iff fun cluster _ _ root hroot => ?_
  rw [h.journey, hroot]
  exact journey_eq_fullJourney_iff

theorem GuideAnswer.constraints_iff :
    (∀ cluster ∈ guide.clusters, guide.selectedClusterId = some cluster.id →
        ∀ root, guideJourneyRoot snap activeFileId params = some root →
          guide.truncated = true ∨ cluster.truncated = true ∨
            cluster.relatedConstraints = allConstraints snap activeFileId params root) ↔
      (Unflagged snap activeFileId params → ∀ root,
        guideJourneyRoot snap activeFileId params = some root →
          (localCalls snap root.fileId root.problem.primaryRange).length
            ≤ MAX_RELATED_CONSTRAINTS) := by
  refine h.whole_iff fun cluster hmem hselected root hroot => ?_
  rw [(h.cluster hmem).constraints hselected root hroot]
  exact constraints_eq_allConstraints_iff

/-- Dropped problems are flagged. -/
theorem GuideAnswer.problems :
    guide.truncated = true ∨
      guideProblems snap activeFileId = workspaceProblems snap activeFileId := by
  rw [h.truncated]
  rcases Nat.lt_or_ge MAX_PROBLEMS (workspaceProblems snap activeFileId).length with hover | hle
  · exact Or.inl (Or.inl hover)
  · exact Or.inr (List.take_of_length_le hle)

/-- Dropped clusters are flagged. -/
theorem GuideAnswer.all_clusters :
    guide.truncated = true ∨ ∀ entry ∈ guideProblems snap activeFileId,
      ∃ cluster ∈ guide.clusters, cluster.id = entry.causeId := by
  rw [h.truncated]
  rcases Nat.lt_or_ge MAX_CLUSTERS
    ((guideProblems snap activeFileId).map (·.causeId)).dedup.length with hover | hle
  · exact Or.inl (Or.inr hover)
  · refine Or.inr fun entry hentry => h.exists_cluster ?_
    unfold shownCauses
    rw [List.take_of_length_le (guideCauseIds_perm.length_eq.trans_le hle)]
    exact mem_guideCauseIds.mpr ⟨entry, hentry, rfl⟩

end Answer

/-- Dropped impacts are flagged. -/
theorem ClusterAnswer.all_impacts {cluster : OwnershipProblemCluster}
    (h : ClusterAnswer snap activeFileId params guide cluster) :
    cluster.truncated = true ∨
      cluster.impacts = causeImpacts snap activeFileId params cluster.id := by
  rw [h.truncated, h.impacts]
  rcases Nat.lt_or_ge MAX_IMPACTS
    (causeImpacts snap activeFileId params cluster.id).length with hover | hle
  · exact Or.inl hover
  · exact Or.inr (List.take_of_length_le hle)

/-! ## The condition -/

/-- **When a guide is complete or says so.**  Exactly if every kept problem of a small enough
shown cluster has a place there and nowhere else, the selected problem has a place in the
cluster of its id, and, as long as no flag is set for another reason, at most fourteen events
and sixteen local calls belong to the selected cluster. -/
theorem workspace_guide_complete_iff (snap : Snapshot) (params : OwnershipWorkspaceGuideParams)
    {activeFileId : FileId} (hfile : snap.urlToFileId params.uri = .ok (some activeFileId))
    {guide : OwnershipWorkspaceGuide}
    (hguide : handleOwnershipWorkspaceGuide snap params = .ok guide) :
    GuideComplete snap activeFileId params guide ↔ NothingHidden snap activeFileId params := by
  have hanswer := workspaceGuide_spec hfile hguide
  constructor
  · intro hcomplete
    exact {
      symptoms := fun entry hentry =>
        hanswer.symptoms_iff.mp (hcomplete.symptoms entry hentry)
      selected := fun entry hentry =>
        (hanswer.selected_iff hentry).mp (hcomplete.selected entry hentry)
      journey := hanswer.journey_iff.mp hcomplete.journey
      constraints := hanswer.constraints_iff.mp hcomplete.constraints }
  · intro hhidden
    exact {
      symptoms := fun entry hentry =>
        hanswer.symptoms_iff.mpr (hhidden.symptoms entry hentry)
      selected := fun entry hentry =>
        (hanswer.selected_iff hentry).mpr (hhidden.selected entry hentry)
      problems := hanswer.problems
      clusters := hanswer.all_clusters
      impacts := fun cluster hmem => (hanswer.cluster hmem).all_impacts
      journey := hanswer.journey_iff.mpr hhidden.journey
      constraints := hanswer.constraints_iff.mpr hhidden.constraints }

/-- If problems of one cause with one place and text have one id, each has a place as long as
there are few impacts: the sort is stable, so a related span never stands before a problem. -/
theorem hasPlace_of_distinct (hentry : entry ∈ guideProblems snap activeFileId)
    (hdistinct : ∀ other ∈ guideProblems snap activeFileId, other.causeId = entry.causeId →
      other.uri = entry.uri → other.problem.primaryRange = entry.problem.primaryRange →
      other.problem.message = entry.problem.message → other.problem.id = entry.problem.id)
    (hsmall : (causeImpacts snap activeFileId params entry.causeId).length ≤ MAX_IMPACTS) :
    HasPlace snap activeFileId params entry.causeId entry := by
  obtain ⟨root, hroot⟩ := groupRoot_isSome ⟨entry, hentry, rfl⟩
  have horder : ∀ a b, siteKey a = siteKey b → siteOrder a = siteOrder b := by
    intro a b hab
    rw [siteOrder, siteOrder, (Prod.mk.inj hab).1]
  have hmem : symptomSite (requestProblemId snap activeFileId params) entry
      ∈ (groupedProblems (guideProblems snap activeFileId) entry.causeId).map
        (symptomSite (requestProblemId snap activeFileId params)) :=
    List.mem_map.mpr ⟨entry, List.mem_filter.mpr ⟨hentry, by simp⟩, rfl⟩
  obtain ⟨kept, hkept, hkey, himpact⟩ := @exists_mem_dedupBy_sortByKey_append _ _ _ _ _ _ _ horder _
    (root.problem.related.map (evidenceSite root (Range.point params.position))) _ hmem
  obtain ⟨other, hother, rfl⟩ := List.mem_map.mp hkept
  obtain ⟨hotherMem, hcause⟩ := List.mem_filter.mp hother
  obtain ⟨hlocation, hlabel⟩ := Prod.mk.inj hkey
  obtain ⟨huri, hrange⟩ := Location.mk.inj hlocation
  have hplace : symptomSite (requestProblemId snap activeFileId params) other
      ∈ (causeImpacts snap activeFileId params entry.causeId).take MAX_IMPACTS := by
    rw [List.take_of_length_le hsmall, causeImpacts, causeSites, hroot]
    exact himpact
  obtain ⟨before, after, hsplit, hfirst, hcount⟩ := mem_take_dedupBy_iff.mp hplace
  refine ⟨before, _, after, hsplit, ⟨rfl, ?_, hlocation⟩, hfirst, hcount⟩
  exact congrArg some (hdistinct other hotherMem (by simpa using hcause) huri hrange hlabel)

/-! ## One use, many events -/

def noFunctions : SourceFile :=
  ⟨[], fun _ => none, fun _ => none, fun _ _ => none, fun _ => none, fun _ => [], fun _ => none⟩

/-- A borrow of `b` in the given column. -/
def borrowAt (column : Nat) : OwnershipEvent where
  eventId := "borrow-b-" ++ toString column
  bodyId := 0
  basicBlock := 0
  statementIndex := 0
  kind := .borrowShared
  state := .sharedBorrowed
  range := columns column (column + 1)
  bindingRange := columns 0 1
  name := "b"
  place := "b"
  loanId := none
  exact := true
  detail := none
  destination := none

/-- A use of the moved `b`, which was borrowed before in `count` places. -/
def borrowedOften (count : Nat) : Snapshot :=
  { diagnosticsOnly [innerError] with
    ownershipEvents := [[(none, [(0, (List.range count).map fun i => borrowAt (10 + 2 * i))])]]
    parse := fun _ => some noFunctions }

def atUse : OwnershipWorkspaceGuideParams := { uri := "main.rs", position := ⟨0, 5⟩ }

/-- Two borrows are shown. -/
theorem two_borrows_complete : ∃ guide, handleOwnershipWorkspaceGuide (borrowedOften 2) atUse
    = .ok guide ∧ GuideComplete (borrowedOften 2) 0 atUse guide := by
  obtain ⟨guide, hguide⟩ : ∃ guide, handleOwnershipWorkspaceGuide (borrowedOften 2) atUse
    = .ok guide := ⟨_, rfl⟩
  have hsmall : ∀ entry ∈ guideProblems (borrowedOften 2) 0,
      (causeImpacts (borrowedOften 2) 0 atUse entry.causeId).length ≤ MAX_IMPACTS := by
    decide +kernel
  have hone : ∀ entry ∈ guideProblems (borrowedOften 2) 0,
      ∀ other ∈ guideProblems (borrowedOften 2) 0, other = entry := by
    decide +kernel
  have hplace : ∀ entry ∈ guideProblems (borrowedOften 2) 0,
      HasPlace (borrowedOften 2) 0 atUse entry.causeId entry := fun entry hentry =>
    hasPlace_of_distinct hentry
      (fun other hother _ _ _ _ => by rw [hone entry hentry other hother]) (hsmall entry hentry)
  refine ⟨guide, hguide, (workspace_guide_complete_iff (borrowedOften 2) atUse rfl hguide).mpr
    ⟨?_, ?_, ?_, ?_⟩⟩
  · intro entry hentry _ _
    refine ⟨hplace entry hentry, fun causeId hcause hne => absurd ?_ hne⟩
    obtain ⟨other, hother, rfl⟩ := mem_guideCauseIds.mp (List.mem_of_mem_take hcause)
    rw [hone entry hentry other hother]
  · intro entry hentry
    have hmem := mem_of_requestEntry hentry
    refine ⟨fun first hfirst => ?_, hplace entry hmem⟩
    rw [hone entry hmem first (List.mem_of_find?_eq_some hfirst)]
  · intro _ root hroot
    have hcount : ((guideJourneyRoot (borrowedOften 2) 0 atUse).all fun root =>
        (journeyEvents root (ownershipEventsForFile (borrowedOften 2).ownershipEvents
          root.fileId)).length ≤ MAX_JOURNEY_FRAMES - 2) = true := by
      decide +kernel
    rw [hroot] at hcount
    simpa using hcount
  · intro _ root _
    have hnone : localCalls (borrowedOften 2) root.fileId root.problem.primaryRange = [] := rfl
    rw [hnone]
    exact Nat.zero_le _

/-- There is one problem, so one cause and few impacts. -/
theorem borrowedOften_unflagged : Unflagged (borrowedOften 15) 0 atUse := by
  refine ⟨by decide +kernel, by decide +kernel, fun causeId hcause => ?_⟩
  have himpacts : ((selectedGroup (guideProblems (borrowedOften 15) 0)
      (requestCauseId (borrowedOften 15) 0 atUse)).all fun causeId =>
        (causeImpacts (borrowedOften 15) 0 atUse causeId).length ≤ MAX_IMPACTS) = true := by
    decide +kernel
  rw [hcause] at himpacts
  simpa using himpacts

/-- Of fifteen borrows fourteen are shown, and nothing says so. -/
theorem fifteenth_borrow_hidden : ∃ guide,
    handleOwnershipWorkspaceGuide (borrowedOften 15) atUse = .ok guide ∧
      ¬ GuideComplete (borrowedOften 15) 0 atUse guide := by
  obtain ⟨guide, hguide⟩ : ∃ guide, handleOwnershipWorkspaceGuide (borrowedOften 15) atUse
    = .ok guide := ⟨_, rfl⟩
  refine ⟨guide, hguide, fun hcomplete => ?_⟩
  have hfits := (workspaceGuide_spec rfl hguide).journey_iff.mp hcomplete.journey
    borrowedOften_unflagged
  have hcount : (guideJourneyRoot (borrowedOften 15) 0 atUse).map (fun root =>
      (journeyEvents root (ownershipEventsForFile (borrowedOften 15).ownershipEvents
        root.fileId)).length) = some 15 := by
    decide +kernel
  obtain ⟨root, hroot, hlength⟩ := Option.map_eq_some_iff.mp hcount
  have hle := hfits root hroot
  rw [hlength] at hle
  exact absurd hle (by decide)

end RustWorkbench.Analyzer
