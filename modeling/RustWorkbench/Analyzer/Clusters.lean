import RustWorkbench.Analyzer.Guide

/-!
# What a guide contains

The clusters and the journey of a guide, read off the problems it is made from.
-/

namespace RustWorkbench.Analyzer

open PushNew

/-! ## Distinct causes -/

theorem swapToFront_perm {α : Type} (l : List α) (index : Nat) : (swapToFront l index).Perm l := by
  unfold swapToFront
  split
  · rename_i first rest a ha
    obtain ⟨hindex, rfl⟩ := List.getElem?_eq_some_iff.mp ha
    exact List.set_set_perm (Nat.zero_lt_succ _) hindex
  · exact List.Perm.refl _

theorem head?_swapToFront {α : Type} {l : List α} {index : Nat} {a : α}
    (h : l[index]? = some a) : (swapToFront l index).head? = some a := by
  cases l with
  | nil => cases h
  | cons first rest =>
    unfold swapToFront
    simp only [h]
    cases index with
    | zero => exact h
    | succ index => rfl

variable {snap : Snapshot} {entries : List WorkspaceOwnershipProblem}
  {selectedProblemId selectedCauseId : Option String} {request : Range}

/-- **The causes of a guide** are those of its problems, each once. -/
theorem guideCauseIds_perm :
    (guideCauseIds entries selectedCauseId).Perm (entries.map (·.causeId)).dedup := by
  unfold guideCauseIds
  dsimp only
  split
  · exact foldl_pushNew_perm _
  · split
    · exact foldl_pushNew_perm _
    · exact (swapToFront_perm _ _).trans (foldl_pushNew_perm _)

variable {causeId : String} {cluster : OwnershipProblemCluster}

theorem mem_guideCauseIds :
    causeId ∈ guideCauseIds entries selectedCauseId ↔ ∃ entry ∈ entries, entry.causeId = causeId := by
  rw [guideCauseIds_perm.mem_iff, List.mem_dedup, List.mem_map]

theorem nodup_guideCauseIds : (guideCauseIds entries selectedCauseId).Nodup :=
  guideCauseIds_perm.nodup_iff.mpr (List.nodup_dedup _)

/-! ## Clusters -/

/-- A cause that occurs has a first problem. -/
theorem groupRoot_isSome (h : ∃ entry ∈ entries, entry.causeId = causeId) :
    ∃ root, groupRoot entries causeId = some root := by
  obtain ⟨entry, hentry, hcause⟩ := h
  cases hroot : groupRoot entries causeId with
  | some root => exact ⟨root, rfl⟩
  | none =>
    have hnil := List.argmin_eq_none.mp hroot
    have hmem : entry ∈ groupedProblems entries causeId :=
      List.mem_filter.mpr ⟨hentry, by simp [hcause]⟩
    rw [hnil] at hmem
    cases hmem

theorem groupRoot_mem {root : WorkspaceOwnershipProblem}
    (h : groupRoot entries causeId = some root) : root ∈ entries ∧ root.causeId = causeId := by
  obtain ⟨hmem, hcause⟩ := List.mem_filter.mp (List.argmin_mem (Option.mem_def.mpr h))
  exact ⟨hmem, by simpa using hcause⟩

theorem guideCluster_id
    (h : guideCluster snap entries selectedProblemId request causeId = some cluster) :
    cluster.id = causeId := by
  obtain ⟨root, -, rfl⟩ := Option.map_eq_some_iff.mp h
  rfl

/-- **One cluster per cause**, under its id, up to the limit. -/
theorem map_id_guideClusters :
    (guideClusters snap entries selectedProblemId selectedCauseId request).map (·.id)
      = (guideCauseIds entries selectedCauseId).take MAX_CLUSTERS := by
  unfold guideClusters
  rw [List.map_filterMap]
  refine (List.filterMap_congr fun causeId hcause => ?_).trans List.filterMap_some
  obtain ⟨root, hroot⟩ := groupRoot_isSome (mem_guideCauseIds.mp (List.mem_of_mem_take hcause))
  simp [guideCluster, hroot]

theorem mem_guideClusters
    (h : cluster ∈ guideClusters snap entries selectedProblemId selectedCauseId request) :
    ∃ causeId, guideCluster snap entries selectedProblemId request causeId = some cluster := by
  obtain ⟨causeId, -, hcluster⟩ := List.mem_filterMap.mp h
  exact ⟨causeId, hcluster⟩

/-! ## The selected group -/

/-- The selected cause, or that of the first problem. -/
def selectedGroup (entries : List WorkspaceOwnershipProblem) (selectedCauseId : Option String) :
    Option String :=
  selectedCauseId <|> entries.head?.map (·.causeId)

/-- The first problem of a group with the id of the group's root. -/
def journeyRoot (entries : List WorkspaceOwnershipProblem) (causeId : String) :
    Option WorkspaceOwnershipProblem :=
  (groupRoot entries causeId).bind fun root =>
    (groupedProblems entries causeId).find? fun entry => entry.problem.id == root.problem.id

theorem journeyRoot_mem {root : WorkspaceOwnershipProblem}
    (h : journeyRoot entries causeId = some root) : root ∈ entries := by
  obtain ⟨first, -, hfind⟩ := Option.bind_eq_some_iff.mp h
  exact List.mem_of_mem_filter (List.mem_of_find?_eq_some hfind)

/-- A selected cause is the cause of a problem. -/
theorem guideSelectedCauseId_mem
    (h : guideSelectedCauseId entries selectedProblemId = some causeId) :
    ∃ entry ∈ entries, entry.causeId = causeId := by
  obtain ⟨selected, -, hfind⟩ := Option.bind_eq_some_iff.mp h
  obtain ⟨entry, hentry, hcause⟩ := Option.map_eq_some_iff.mp hfind
  exact ⟨entry, List.mem_of_find?_eq_some hentry, hcause⟩

section Selected

variable (hselected : ∀ causeId, selectedCauseId = some causeId →
  ∃ entry ∈ entries, entry.causeId = causeId)

include hselected

/-- **The selected group comes first.** -/
theorem head?_guideCauseIds :
    (guideCauseIds entries selectedCauseId).head? = selectedGroup entries selectedCauseId := by
  unfold guideCauseIds selectedGroup
  cases selectedCauseId with
  | none =>
    rw [← List.head?_map]
    exact head?_foldl_pushNew _
  | some causeId =>
    obtain ⟨entry, hentry, hcause⟩ := hselected causeId rfl
    have hmem : causeId ∈ (entries.map (·.causeId)).foldl pushNew [] :=
      (mem_foldl_pushNew _ _).mpr (Or.inr (List.mem_map.mpr ⟨entry, hentry, hcause⟩))
    cases hindex : ((entries.map (·.causeId)).foldl pushNew []).findIdx? (· == causeId) with
    | none =>
      have hnot := List.findIdx?_eq_none_iff.mp hindex causeId hmem
      simp at hnot
    | some index =>
      obtain ⟨hlt, hfound, -⟩ := List.findIdx?_eq_some_iff_getElem.mp hindex
      simp only [hindex]
      exact head?_swapToFront (List.getElem?_eq_some_iff.mpr ⟨hlt, by simpa using hfound⟩)

/-- The limit does not reach the selected group. -/
theorem selectedGroup_mem_take {causeId : String}
    (h : selectedGroup entries selectedCauseId = some causeId) :
    causeId ∈ (guideCauseIds entries selectedCauseId).take MAX_CLUSTERS := by
  refine List.mem_of_mem_head? ?_
  rw [List.head?_take, if_neg (by decide), head?_guideCauseIds hselected, h]
  rfl

/-- The selected cluster is that of the selected group. -/
theorem guideSelectedClusterId_eq :
    guideSelectedClusterId
        (guideClusters snap entries selectedProblemId selectedCauseId request) selectedCauseId
      = selectedGroup entries selectedCauseId := by
  have hids := @map_id_guideClusters snap entries selectedProblemId selectedCauseId request
  have hfirst : (guideClusters snap entries selectedProblemId selectedCauseId request).head?.map
      (·.id) = selectedGroup entries selectedCauseId := by
    rw [← List.head?_map, hids, List.head?_take, if_neg (by decide),
      head?_guideCauseIds hselected]
  unfold guideSelectedClusterId
  rw [hfirst]
  cases hcause : selectedCauseId with
  | none => rfl
  | some causeId =>
    subst hcause
    have hmem : causeId ∈ (guideCauseIds entries (some causeId)).take MAX_CLUSTERS :=
      selectedGroup_mem_take hselected rfl
    rw [← hids, List.mem_map] at hmem
    obtain ⟨cluster, hcluster, hid⟩ := hmem
    rw [Option.filter_some, if_pos]
    · rfl
    · rw [List.any_eq_true]
      exact ⟨cluster, hcluster, by simp [hid]⟩

end Selected

/-- **The journey is about the root of its group.** -/
theorem guideRootEntry_eq
    (h : causeId ∈ (guideCauseIds entries selectedCauseId).take MAX_CLUSTERS) :
    guideRootEntry entries
        (guideClusters snap entries selectedProblemId selectedCauseId request) causeId
      = journeyRoot entries causeId := by
  have hids := @map_id_guideClusters snap entries selectedProblemId selectedCauseId request
  rw [← hids, List.mem_map] at h
  obtain ⟨cluster, hcluster, hid⟩ := h
  obtain ⟨found, hfound⟩ : ∃ found, (guideClusters snap entries selectedProblemId selectedCauseId
      request).find? (fun cluster => cluster.id == causeId) = some found := by
    rw [← Option.isSome_iff_exists, List.find?_isSome]
    exact ⟨cluster, hcluster, by simp [hid]⟩
  -- The cluster found under the id was made for this cause, so its root is the group's.
  have hfoundId : found.id = causeId := by simpa using List.find?_some hfound
  obtain ⟨cause, hcause⟩ := mem_guideClusters (List.mem_of_find?_eq_some hfound)
  obtain rfl : cause = causeId := (guideCluster_id hcause).symm.trans hfoundId
  obtain ⟨root, hroot, rfl⟩ := Option.map_eq_some_iff.mp hcause
  unfold guideRootEntry journeyRoot
  rw [hfound, hroot, Option.bind_some, groupedProblems, List.find?_filter]
  simp only [Option.map_some, Option.getD_some, Bool.decide_and, Bool.decide_eq_true]

/-! ## Journeys -/

/-- The events that get a frame. -/
def shownEvents (snap : Snapshot) (root : WorkspaceOwnershipProblem) : List OwnershipEvent :=
  (journeyEvents root (ownershipEventsForFile snap.ownershipEvents root.fileId)).take
    (MAX_JOURNEY_FRAMES - 2)

theorem pushJourneyFrames_eq (root : WorkspaceOwnershipProblem) (limit : Nat) :
    ∀ (events : List OwnershipEvent) (result : List OwnershipJourneyFrame),
      pushJourneyFrames root limit result events
        = result ++ (events.take (limit - 1 - result.length)).map (journeyEventFrame root)
  | [], result => by simp [pushJourneyFrames]
  | event :: events, result => by
    unfold pushJourneyFrames
    split
    · rename_i hfull
      rw [show limit - 1 - result.length = 0 by omega]
      simp
    · rename_i hroom
      obtain ⟨room, hlimit⟩ : ∃ room, limit - 1 - result.length = room + 1 :=
        ⟨limit - 1 - result.length - 1, by omega⟩
      rw [pushJourneyFrames_eq root limit events, List.length_append, List.length_singleton,
        show limit - 1 - (result.length + 1) = room by omega, hlimit]
      simp

/-- **The frames of a journey.** -/
theorem ownershipWorkspaceJourney_eq (snap : Snapshot) (root : WorkspaceOwnershipProblem) :
    ownershipWorkspaceJourney snap root MAX_JOURNEY_FRAMES
      = journeyBindingFrame root :: (shownEvents snap root).map (journeyEventFrame root)
        ++ [journeyDiagnosticFrame root] := by
  unfold ownershipWorkspaceJourney
  dsimp only
  rw [pushJourneyFrames_eq]
  refine List.take_of_length_le ?_
  simp only [List.length_append, List.length_map, List.length_singleton, List.length_take]
  unfold MAX_JOURNEY_FRAMES
  omega

theorem length_ownershipWorkspaceJourney (snap : Snapshot) (root : WorkspaceOwnershipProblem) :
    (ownershipWorkspaceJourney snap root MAX_JOURNEY_FRAMES).length ≤ MAX_JOURNEY_FRAMES :=
  List.length_take_le _ _

/-! ## Caller constraints -/

theorem pushCallerSites_eq (snap : Snapshot) (selectedProblemId : Option String) (limit : Nat) :
    ∀ (calls : List (String × FileId × TextRange)) (result : List OwnershipWorkspaceSite),
      pushCallerSites snap selectedProblemId limit result calls
        = result ++ ((calls.filter fun call => snap.isLocal call.2.1).take
          (limit - result.length)).map (callerSite snap selectedProblemId)
  | [], result => by simp [pushCallerSites]
  | call :: calls, result => by
    unfold pushCallerSites
    split
    · rename_i hfull
      rw [Nat.sub_eq_zero_of_le hfull]
      simp
    · rename_i hroom
      split
      · rename_i houtside
        rw [pushCallerSites_eq snap selectedProblemId limit calls,
          List.filter_cons_of_neg (by simpa using houtside)]
      · rename_i hlocal
        obtain ⟨room, hlimit⟩ : ∃ room, limit - result.length = room + 1 :=
          ⟨limit - result.length - 1, by omega⟩
        rw [pushCallerSites_eq snap selectedProblemId limit calls, List.length_append,
          List.length_singleton, show limit - (result.length + 1) = room by omega, hlimit,
          List.filter_cons_of_pos (by simpa using hlocal)]
        simp

/-- The calls inside the workspace of the function around a range. -/
def localCalls (snap : Snapshot) (fileId : FileId) (range : Range) :
    List (String × FileId × TextRange) :=
  match (snap.fileLineIndex fileId).offset range.start, snap.parse fileId with
  | .ok offset, some file =>
    let callers := (file.functionNameAt offset).bind fun functionName =>
      snap.incomingCalls fileId functionName.start
    ((callers.getD []).flatMap fun caller => caller.ranges.map (caller.name, ·)).filter
      fun call => snap.isLocal call.2.1
  | _, _ => []

/-- **The constraints of a problem** are the first local calls of its function. -/
theorem incomingCallConstraints_eq {fileId : FileId} {range : Range} {limit : Nat}
    {constraints : List OwnershipWorkspaceSite}
    (h : ownershipIncomingCallConstraints snap fileId range selectedProblemId limit
      = .ok constraints) :
    constraints
      = ((localCalls snap fileId range).take limit).map (callerSite snap selectedProblemId) := by
  unfold ownershipIncomingCallConstraints at h
  unfold localCalls
  split at h
  · cases h
  · rename_i offset hoffset
    rw [hoffset]
    split at h
    · cases h
    · rename_i file hfile
      rw [hfile]
      dsimp only
      split at h
      · rename_i hname
        obtain rfl := Except.ok.inj h
        simp [hname]
      · rename_i functionName hname
        rw [hname, Option.bind_some]
        split at h
        · rename_i hcallers
          obtain rfl := Except.ok.inj h
          simp [hcallers]
        · rename_i callers hcallers
          obtain rfl := Except.ok.inj h
          rw [hcallers, pushCallerSites_eq]
          simp

/-! ## The answer -/

/-- The problem that the journey of a request is about. -/
def guideJourneyRoot (snap : Snapshot) (activeFileId : FileId)
    (params : OwnershipWorkspaceGuideParams) : Option WorkspaceOwnershipProblem :=
  let entries := guideProblems snap activeFileId
  let selectedProblemId := guideSelectedProblemId entries activeFileId params
  (selectedGroup entries (guideSelectedCauseId entries selectedProblemId)).bind
    (journeyRoot entries)

/-- The id of the selected problem. -/
def requestProblemId (snap : Snapshot) (activeFileId : FileId)
    (params : OwnershipWorkspaceGuideParams) : Option String :=
  guideSelectedProblemId (guideProblems snap activeFileId) activeFileId params

/-- The selected cause. -/
def requestCauseId (snap : Snapshot) (activeFileId : FileId)
    (params : OwnershipWorkspaceGuideParams) : Option String :=
  guideSelectedCauseId (guideProblems snap activeFileId)
    (requestProblemId snap activeFileId params)

/-- The clusters of a request before the selected one gets its constraints. -/
def requestClusters (snap : Snapshot) (activeFileId : FileId)
    (params : OwnershipWorkspaceGuideParams) : List OwnershipProblemCluster :=
  guideClusters snap (guideProblems snap activeFileId) (requestProblemId snap activeFileId params)
    (requestCauseId snap activeFileId params) (Range.point params.position)

/-- The selected cluster with the constraints. -/
def addConstraints (selectedClusterId : Option String) (constraints : List OwnershipWorkspaceSite)
    (cluster : OwnershipProblemCluster) : OwnershipProblemCluster :=
  if some cluster.id = selectedClusterId then { cluster with relatedConstraints := constraints }
  else cluster

section Constraints

variable (selectedClusterId : Option String) (constraints : List OwnershipWorkspaceSite)
  (cluster : OwnershipProblemCluster)

@[simp] theorem addConstraints_id :
    (addConstraints selectedClusterId constraints cluster).id = cluster.id := by
  unfold addConstraints
  split
  all_goals rfl

@[simp] theorem addConstraints_impacts :
    (addConstraints selectedClusterId constraints cluster).impacts = cluster.impacts := by
  unfold addConstraints
  split
  all_goals rfl

@[simp] theorem addConstraints_truncated :
    (addConstraints selectedClusterId constraints cluster).truncated = cluster.truncated := by
  unfold addConstraints
  split
  all_goals rfl

end Constraints

/-- The constraints of a root: the sites of the first calls of its function. -/
def rootConstraints (snap : Snapshot) (selectedProblemId : Option String)
    (root : WorkspaceOwnershipProblem) : List OwnershipWorkspaceSite :=
  ((localCalls snap root.fileId root.problem.primaryRange).take MAX_RELATED_CONSTRAINTS).map
    (callerSite snap selectedProblemId)

theorem nodup_map_id_guideClusters :
    ((guideClusters snap entries selectedProblemId selectedCauseId request).map (·.id)).Nodup := by
  rw [map_id_guideClusters]
  exact nodup_guideCauseIds.sublist (List.take_sublist _ _)

/-- A cluster is made without constraints. -/
theorem guideClusters_relatedConstraints
    (h : cluster ∈ guideClusters snap entries selectedProblemId selectedCauseId request) :
    cluster.relatedConstraints = [] := by
  obtain ⟨causeId, hcluster⟩ := mem_guideClusters h
  obtain ⟨root, -, rfl⟩ := Option.map_eq_some_iff.mp hcluster
  rfl

/-- The journey step gives the selected cluster its constraints; the frames are those of the
root. -/
theorem guideJourney_spec {clusters clusters' : List OwnershipProblemCluster}
    {clusterId : Option String} {journey : List OwnershipJourneyFrame}
    (hids : (clusters.map (·.id)).Nodup)
    (hempty : ∀ cluster ∈ clusters, cluster.relatedConstraints = [])
    (h : guideJourney snap entries clusters selectedProblemId clusterId
      = .ok (clusters', journey)) :
    let root := clusterId.bind (guideRootEntry entries clusters)
    clusters' = clusters.map (addConstraints clusterId
        ((root.map (rootConstraints snap selectedProblemId)).getD [])) ∧
      journey = (root.map (ownershipWorkspaceJourney snap · MAX_JOURNEY_FRAMES)).getD [] := by
  have hsame : ∀ clusterId, clusters.map (addConstraints clusterId []) = clusters := by
    intro clusterId
    refine (List.map_congr_left fun cluster hcluster => ?_).trans (List.map_id clusters)
    unfold addConstraints
    split
    · rw [← hempty cluster hcluster]
      rfl
    · rfl
  unfold guideJourney at h
  cases clusterId with
  | none =>
    obtain ⟨rfl, rfl⟩ := Prod.mk.inj (Except.ok.inj h)
    exact ⟨(hsame none).symm, rfl⟩
  | some clusterId =>
    rw [Option.bind_some]
    cases hroot : guideRootEntry entries clusters clusterId with
    | none =>
      simp only [hroot] at h
      obtain ⟨rfl, rfl⟩ := Prod.mk.inj (Except.ok.inj h)
      exact ⟨(hsame (some clusterId)).symm, rfl⟩
    | some root =>
      simp only [hroot] at h
      split at h
      · cases h
      · rename_i constraints hconstraints
        obtain ⟨rfl, rfl⟩ := Prod.mk.inj (Except.ok.inj h)
        obtain rfl := incomingCallConstraints_eq hconstraints
        refine ⟨?_, ?_⟩
        · rw [Assoc.modify_findIdx hids]
          refine List.map_congr_left fun cluster _ => ?_
          simp only [addConstraints, Option.some.injEq]
          rfl
        · rw [if_neg]
          · rfl
          · rw [ownershipWorkspaceJourney_eq]
            simp

/-- What the handler answers to a request for a known file. -/
structure GuideAnswer (snap : Snapshot) (activeFileId : FileId)
    (params : OwnershipWorkspaceGuideParams) (guide : OwnershipWorkspaceGuide) : Prop where
  schemaVersion : guide.schemaVersion = 1
  status : guide.status
    = guideStatus (guideProblems snap activeFileId) params.expectedRevision guide.revision
  question : ∃ category : Option String,
    guide.intentQuestion = category.bind ownershipIntentQuestion
  selected : guide.selectedClusterId = selectedGroup (guideProblems snap activeFileId)
    (requestCauseId snap activeFileId params)
  clusters : guide.clusters = (requestClusters snap activeFileId params).map
    (addConstraints guide.selectedClusterId (((guideJourneyRoot snap activeFileId params).map
      (rootConstraints snap (requestProblemId snap activeFileId params))).getD []))
  journey : guide.journey = ((guideJourneyRoot snap activeFileId params).map
    (ownershipWorkspaceJourney snap · MAX_JOURNEY_FRAMES)).getD []
  truncated : guide.truncated = true ↔
    (workspaceProblems snap activeFileId).length > MAX_PROBLEMS ∨
      ((guideProblems snap activeFileId).map (·.causeId)).dedup.length > MAX_CLUSTERS

/-- **The answer of the handler.**  The flag for a long journey is never set: the journey was
cut before it is compared with the limit. -/
theorem workspaceGuide_spec {params : OwnershipWorkspaceGuideParams} {activeFileId : FileId}
    (hfile : snap.urlToFileId params.uri = .ok (some activeFileId))
    {guide : OwnershipWorkspaceGuide}
    (hguide : handleOwnershipWorkspaceGuide snap params = .ok guide) :
    GuideAnswer snap activeFileId params guide := by
  have hselected : ∀ causeId, requestCauseId snap activeFileId params = some causeId →
      ∃ entry ∈ guideProblems snap activeFileId, entry.causeId = causeId :=
    fun causeId => guideSelectedCauseId_mem
  have hcluster : guideSelectedClusterId (requestClusters snap activeFileId params)
      (requestCauseId snap activeFileId params) = selectedGroup (guideProblems snap activeFileId)
        (requestCauseId snap activeFileId params) := guideSelectedClusterId_eq hselected
  have hroot : (selectedGroup (guideProblems snap activeFileId)
      (requestCauseId snap activeFileId params)).bind (guideRootEntry
        (guideProblems snap activeFileId) (requestClusters snap activeFileId params))
      = guideJourneyRoot snap activeFileId params := by
    show _ = (selectedGroup (guideProblems snap activeFileId)
      (requestCauseId snap activeFileId params)).bind _
    cases hgroup : selectedGroup (guideProblems snap activeFileId)
        (requestCauseId snap activeFileId params) with
    | none => rfl
    | some causeId => exact guideRootEntry_eq (selectedGroup_mem_take hselected hgroup)
  unfold handleOwnershipWorkspaceGuide at hguide
  simp only [hfile] at hguide
  split at hguide
  · cases hguide
  · rename_i clusters journey hjourney
    obtain rfl := Except.ok.inj hguide
    change guideJourney snap (guideProblems snap activeFileId)
      (requestClusters snap activeFileId params) (requestProblemId snap activeFileId params)
      (guideSelectedClusterId (requestClusters snap activeFileId params)
        (requestCauseId snap activeFileId params)) = .ok (clusters, journey) at hjourney
    have hids : ((requestClusters snap activeFileId params).map (·.id)).Nodup :=
      nodup_map_id_guideClusters
    obtain ⟨hclusters, hframes⟩ :=
      guideJourney_spec hids (fun cluster => guideClusters_relatedConstraints) hjourney
    rw [hcluster, hroot] at hclusters hframes
    have hlength : journey.length ≤ MAX_JOURNEY_FRAMES := by
      rw [hframes]
      cases guideJourneyRoot snap activeFileId params with
      | none => exact Nat.zero_le _
      | some root => exact length_ownershipWorkspaceJourney snap root
    refine ⟨rfl, rfl, ⟨_, rfl⟩, hcluster, ?_, ?_, ?_⟩
    · rw [hclusters, ← hcluster]
      rfl
    · exact (List.take_of_length_le hlength).trans hframes
    · have hshort : ¬ journey.length > MAX_JOURNEY_FRAMES := Nat.not_lt.mpr hlength
      simp only [Bool.or_eq_true, decide_eq_true_eq, hshort, or_false,
        guideCauseIds_perm.length_eq]

/-- The clusters of the answer have the ids of the first causes. -/
theorem GuideAnswer.map_id {params : OwnershipWorkspaceGuideParams} {activeFileId : FileId}
    {guide : OwnershipWorkspaceGuide} (h : GuideAnswer snap activeFileId params guide) :
    guide.clusters.map (·.id) = (guideCauseIds (guideProblems snap activeFileId)
      (requestCauseId snap activeFileId params)).take MAX_CLUSTERS := by
  rw [h.clusters, List.map_map, ← map_id_guideClusters]
  exact List.map_congr_left fun cluster _ => addConstraints_id ..

end RustWorkbench.Analyzer
