import RustWorkbench.Analyzer.Server
import RustWorkbench.Analyzer.Stored

/-!
# What a commit does to a file

A commit replaces the exact events of a file, under whatever flycheck and package they were stored,
and its tutorial model.  This file says so for the events that a request sees.

* `mem_listed_replaceExact` — the events at a place after a replacement.
* `replacement_exact_and_local` — the file has the new events and those that were not exact, and no
  other file is touched.
-/

namespace RustWorkbench.Analyzer

open StableSort (sortByKey dedupBy)

/-! ## Lookup for a file -/

theorem mem_ownershipEventsForFile {events : OwnershipEvents} {fileId : FileId}
    {event : OwnershipEvent} :
    event ∈ ownershipEventsForFile events fileId
      ↔ ∃ stored ∈ events.forFile fileId, event ∈ stored := by
  unfold ownershipEventsForFile
  rw [StableSort.mem_sortByKey, PushNew.mem_foldl_pushNew, List.mem_flatten]
  simp only [List.not_mem_nil, false_or]

namespace PerFlycheck

variable {ν : Type}

variable (store : PerFlycheck ν)

/-- What a store has for a file, flycheck by flycheck. -/
theorem forFile_eq_flatMap (fileId : FileId) :
    store.forFile fileId
      = store.flatMap fun flycheck => flycheck.values.filterMap (·.get? fileId) := by
  unfold forFile
  rw [List.filterMap_flatMap]

/-- A change of every package map changes what is found in it. -/
theorem forFile_mapPackages (f : HashMap FileId ν → HashMap FileId ν) (fileId : FileId) :
    (store.mapPackages f).forFile fileId
      = store.flatMap fun flycheck => flycheck.values.filterMap fun package =>
          (f package).get? fileId := by
  rw [forFile_eq_flatMap, mapPackages, List.flatMap_map]
  refine List.flatMap_congr fun flycheck _ => ?_
  simp only [Assoc.Map.values, Assoc.Map.mapValues, List.map_map, List.filterMap_map]
  rfl

/-- A change of one element that a function does not see. -/
theorem flatMap_modify {α β : Type} {f : α → α} {g : α → List β} (h : ∀ a, g (f a) = g a) :
    ∀ (index : Nat) (l : List α), (l.modify index f).flatMap g = l.flatMap g
  | _, [] => by simp
  | 0, a :: l => by simp [h]
  | index + 1, a :: l => by simp [flatMap_modify h index l]

/-- An update of one file leaves what is stored for the others. -/
theorem forFile_update_of_ne (flycheckId : Nat) (packageId : Option PackageSpecifier)
    {fileId fileId' : FileId} (default : ν) (f : ν → ν) (hne : fileId' ≠ fileId) :
    (store.update flycheckId packageId fileId default f).forFile fileId' = store.forFile fileId' := by
  have hpackage : ∀ package : HashMap FileId ν,
      (package.modify fileId default f).get? fileId' = package.get? fileId' := fun package => by
    rw [Assoc.Map.get?_modify, if_neg hne]
  rw [forFile_eq_flatMap, forFile_eq_flatMap, update, updateFlycheck, flatMap_modify,
    List.flatMap_append]
  · have hpadding : ((List.replicate (flycheckId + 1 - store.length) []).flatMap
        fun flycheck : HashMap (Option PackageSpecifier) (HashMap FileId ν) =>
          flycheck.values.filterMap (·.get? fileId')) = [] := by
      rw [List.flatMap_eq_nil_iff]
      intro flycheck hmem
      rw [List.eq_of_mem_replicate hmem]
      rfl
    rw [hpadding, List.append_nil]
  · intro flycheck
    exact Assoc.Map.filterMap_values_modify packageId (hpackage []) hpackage flycheck

end PerFlycheck

/-! ## Replacing exact events -/

theorem mem_dedup_sort {events : List OwnershipEvent} {event : OwnershipEvent} :
    event ∈ dedupBy (· == ·) (sortByKey OwnershipEvent.range events) ↔ event ∈ events := by
  rw [← StableSort.mem_sortByKey OwnershipEvent.range (l := events)]
  constructor
  · exact fun h => (StableSort.dedupBy_sublist _).subset h
  · intro h
    obtain ⟨kept, hkept, rfl : kept = event⟩ := StableSort.exists_mem_dedupBy (g := id) h
    exact hkept

/-- The events of a package without the exact ones of a file. -/
theorem get?_dropExactEvents (fileId : FileId) (package : HashMap FileId (List OwnershipEvent))
    (fileId' : FileId) :
    (DiagnosticCollection.dropExactEvents fileId package).get? fileId'
      = if fileId' = fileId then
          (package.get? fileId').map fun events => events.filter fun event => !event.exact
        else package.get? fileId' := by
  unfold DiagnosticCollection.dropExactEvents
  cases hfile : package.get? fileId with
  | none =>
    dsimp only
    split
    · rename_i heq
      rw [heq, hfile]
      rfl
    · rfl
  | some events =>
    dsimp only
    split
    · rw [Assoc.Map.get?_insert]
      split
      · rename_i heq
        rw [heq, hfile]
        rfl
      · rfl
    · rename_i hnone
      split
      · rename_i heq
        rw [heq, hfile, Option.map_some]
        rw [Bool.not_eq_true, List.any_eq_false] at hnone
        rw [List.filter_eq_self.mpr fun event hmem => ?_]
        simpa using hnone event hmem
      · rfl

theorem listed_dropExact (store : OwnershipEvents) (fileId : FileId) (place : Place) :
    (store.mapPackages (DiagnosticCollection.dropExactEvents fileId)).listed place
      = if place.fileId = fileId then (store.listed place).filter fun event => !event.exact
        else store.listed place := by
  rw [PerFlycheck.listed_mapPackages, PerFlycheck.listed]
  cases (store[place.flycheckId]?.getD []).get? place.packageId with
  | none => split <;> rfl
  | some package =>
    rw [Option.bind_some, Option.bind_some, get?_dropExactEvents]
    split
    · cases package.get? place.fileId <;> rfl
    · rfl

namespace DiagnosticCollection

variable (collection : DiagnosticCollection)

/-- **The events at a place after a replacement**: those that are kept, and at its own place the new
ones. -/
theorem mem_listed_replaceExact (place place' : Place) (newEvents : List OwnershipEvent)
    (event : OwnershipEvent) :
    event ∈ (collection.replaceExactOwnershipEvents place.flycheckId place.packageId place.fileId
        newEvents).ownershipEvents.listed place'
      ↔ event ∈ collection.ownershipEvents.listed place'
          ∧ (place'.fileId = place.fileId → event.exact = false)
        ∨ place' = place ∧ event ∈ newEvents := by
  have hkept : ∀ at', event ∈ (collection.ownershipEvents.mapPackages
      (dropExactEvents place.fileId)).listed at'
      ↔ event ∈ collection.ownershipEvents.listed at'
        ∧ (at'.fileId = place.fileId → event.exact = false) := by
    intro at'
    rw [listed_dropExact]
    split
    · rename_i hfile
      simp [List.mem_filter, hfile]
    · rename_i hfile
      simp [hfile]
  simp only [replaceExactOwnershipEvents, PerFlycheck.listed_update]
  split
  · rename_i hplace
    rw [mem_dedup_sort, List.mem_append, hkept, hplace]
    simp
  · rename_i hplace
    rw [hkept]
    simp [hplace]

variable (place : Place) (newEvents : List OwnershipEvent)

theorem forFile_replaceExact_of_ne {fileId : FileId} (hne : fileId ≠ place.fileId) :
    (collection.replaceExactOwnershipEvents place.flycheckId place.packageId place.fileId
      newEvents).ownershipEvents.forFile fileId = collection.ownershipEvents.forFile fileId := by
  simp only [replaceExactOwnershipEvents]
  rw [PerFlycheck.forFile_update_of_ne _ _ _ _ _ hne, PerFlycheck.forFile_mapPackages,
    PerFlycheck.forFile_eq_flatMap]
  simp only [get?_dropExactEvents, if_neg hne]

/-- What the packages keep for the file are the events that are not exact. -/
theorem mem_forFile_dropExact {store : OwnershipEvents} {fileId : FileId} {event : OwnershipEvent} :
    (∃ kept ∈ (store.mapPackages (dropExactEvents fileId)).forFile fileId, event ∈ kept)
      ↔ (∃ stored ∈ store.forFile fileId, event ∈ stored) ∧ event.exact = false := by
  rw [PerFlycheck.forFile_mapPackages, PerFlycheck.forFile_eq_flatMap]
  simp only [List.mem_flatMap, List.mem_filterMap, get?_dropExactEvents, if_true]
  constructor
  · rintro ⟨kept, ⟨flycheck, hflycheck, package, hpackage, hget⟩, hevent⟩
    obtain ⟨events, hevents, rfl⟩ := Option.map_eq_some_iff.mp hget
    obtain ⟨hmem, hexact⟩ := List.mem_filter.mp hevent
    exact ⟨⟨events, ⟨flycheck, hflycheck, package, hpackage, hevents⟩, hmem⟩, by simpa using hexact⟩
  · rintro ⟨⟨events, ⟨flycheck, hflycheck, package, hpackage, hevents⟩, hmem⟩, hexact⟩
    refine ⟨_, ⟨flycheck, hflycheck, package, hpackage, by rw [hevents]; rfl⟩, ?_⟩
    exact List.mem_filter.mpr ⟨hmem, by simp [hexact]⟩

/-- **The events of a file after a replacement** are those that were not exact and the new ones. -/
theorem mem_eventsForFile_replace (event : OwnershipEvent) :
    event ∈ ownershipEventsForFile (collection.replaceExactOwnershipEvents place.flycheckId
        place.packageId place.fileId newEvents).ownershipEvents place.fileId
      ↔ event ∈ ownershipEventsForFile collection.ownershipEvents place.fileId
          ∧ event.exact = false
        ∨ event ∈ newEvents := by
  rw [mem_ownershipEventsForFile, mem_ownershipEventsForFile, ← mem_forFile_dropExact]
  constructor
  · rintro ⟨stored, hstored, hmem⟩
    rcases PerFlycheck.mem_forFile_update hstored with hold | ⟨-, old, rfl, hold⟩
    · exact .inl ⟨stored, hold, hmem⟩
    · rw [mem_dedup_sort, List.mem_append] at hmem
      refine hmem.imp_left fun hevent => ?_
      rcases hold with rfl | hold
      · exact nomatch hevent
      · exact ⟨old, hold, hevent⟩
  · rintro (⟨kept, hkept, hmem⟩ | hnew)
    · -- The list of the place is sorted and deduplicated; the others are as they were.
      rcases PerFlycheck.mem_forFile_update_of_mem hkept with hsame | hchanged
      · exact ⟨kept, hsame, hmem⟩
      · exact ⟨_, hchanged, mem_dedup_sort.mpr (List.mem_append_left _ hmem)⟩
    · exact PerFlycheck.listed_mem_forFile
        ((collection.mem_listed_replaceExact place place newEvents event).mpr (.inr ⟨rfl, hnew⟩))

/-- The exact events of a file after a replacement are the new ones. -/
theorem exact_mem_eventsForFile_replace {event : OwnershipEvent} (hexact : event.exact = true) :
    event ∈ ownershipEventsForFile (collection.replaceExactOwnershipEvents place.flycheckId
        place.packageId place.fileId newEvents).ownershipEvents place.fileId
      ↔ event ∈ newEvents := by
  rw [mem_eventsForFile_replace, hexact]
  simp only [Bool.true_eq_false, and_false, false_or]

theorem eventsForFile_replace_of_ne {fileId : FileId} (hne : fileId ≠ place.fileId) :
    ownershipEventsForFile (collection.replaceExactOwnershipEvents place.flycheckId
        place.packageId place.fileId newEvents).ownershipEvents fileId
      = ownershipEventsForFile collection.ownershipEvents fileId := by
  unfold ownershipEventsForFile
  rw [collection.forFile_replaceExact_of_ne place newEvents hne]

/-- **A replacement is exact and local**: the file has its events that were not exact and the new
ones, in order, and no model; it is marked as changed, and no other file is touched. -/
theorem replacement_exact_and_local (place : Place) (newEvents : List OwnershipEvent) :
    let after := collection.replaceExactOwnershipEvents place.flycheckId place.packageId
      place.fileId newEvents
    (∀ event, event ∈ ownershipEventsForFile after.ownershipEvents place.fileId
      ↔ event ∈ ownershipEventsForFile collection.ownershipEvents place.fileId
          ∧ event.exact = false
        ∨ event ∈ newEvents)
    ∧ (∀ fileId, fileId ≠ place.fileId →
        ownershipEventsForFile after.ownershipEvents fileId
          = ownershipEventsForFile collection.ownershipEvents fileId)
    ∧ after.ownershipTutorialModels.get? place.fileId = none
    ∧ (∀ fileId, fileId ≠ place.fileId →
        after.ownershipTutorialModels.get? fileId = collection.ownershipTutorialModels.get? fileId)
    ∧ (∀ fileId, fileId ∈ after.changes ↔ fileId ∈ collection.changes ∨ fileId = place.fileId)
    ∧ (after.ownershipEvents.listed place).Pairwise (fun left right => left.range ≤ right.range)
    ∧ ∀ fileId, (ownershipEventsForFile after.ownershipEvents fileId).Pairwise
        fun left right => left.range ≤ right.range := by
  intro after
  refine ⟨collection.mem_eventsForFile_replace place newEvents,
    fun fileId => collection.eventsForFile_replace_of_ne place newEvents, ?_, ?_, ?_, ?_, ?_⟩
  · exact (Assoc.Map.get?_erase _ _ _).trans (if_pos rfl)
  · intro fileId hne
    exact (Assoc.Map.get?_erase _ _ _).trans (if_neg hne)
  · intro fileId
    have hmem := PushNew.mem_foldl_pushNew (a := fileId) [place.fileId] collection.changes
    rw [List.mem_singleton] at hmem
    exact hmem
  · have hlisted : after.ownershipEvents.listed place = dedupBy (· == ·)
        (sortByKey OwnershipEvent.range ((collection.ownershipEvents.mapPackages
          (dropExactEvents place.fileId)).listed place ++ newEvents)) := by
      simp only [after, replaceExactOwnershipEvents, PerFlycheck.listed_update, if_true]
    rw [hlisted]
    exact (StableSort.sortByKey_pairwise _ _).sublist (StableSort.dedupBy_sublist _)
  · exact fun fileId => StableSort.sortByKey_pairwise _ _

end DiagnosticCollection

/-! ## Commits -/

variable {Contents Hash : Type}

namespace GlobalState

/-- The step does not touch a file: its content hash and its sequence number, its exact events and
its tutorial model. -/
structure LeavesFile (fileId : FileId) (state state' : GlobalState Contents Hash) : Prop where
  hash : state'.ownershipFileHashes.get? fileId = state.ownershipFileHashes.get? fileId
  sequence : state'.ownershipFileSequences.get? fileId = state.ownershipFileSequences.get? fileId
  events : ∀ event, event.exact = true →
    (event ∈ ownershipEventsForFile state'.diagnostics.ownershipEvents fileId
      ↔ event ∈ ownershipEventsForFile state.diagnostics.ownershipEvents fileId)
  model : state'.diagnostics.ownershipTutorialModels.get? fileId
    = state.diagnostics.ownershipTutorialModels.get? fileId

/-- The file is as a commit of `file` under `sequence` leaves it. -/
structure InstalledFile (sequence : Nat) (file : PreparedOwnershipFile Hash)
    (state : GlobalState Contents Hash) : Prop where
  sequence : state.ownershipFileSequences.get? file.fileId = some sequence
  events : ∀ event, event.exact = true →
    (event ∈ ownershipEventsForFile state.diagnostics.ownershipEvents file.fileId
      ↔ event ∈ file.events)
  model : state.diagnostics.ownershipTutorialModels.get? file.fileId = file.model

section Commits

variable {fileId : FileId} {file : PreparedOwnershipFile Hash}
  {state state' state'' : GlobalState Contents Hash}

theorem LeavesFile.refl (fileId : FileId) (state : GlobalState Contents Hash) :
    LeavesFile fileId state state :=
  ⟨rfl, rfl, fun _ _ => .rfl, rfl⟩

theorem LeavesFile.trans (h : LeavesFile fileId state state')
    (h' : LeavesFile fileId state' state'') : LeavesFile fileId state state'' :=
  ⟨h'.hash.trans h.hash, h'.sequence.trans h.sequence,
    fun event hexact => (h'.events event hexact).trans (h.events event hexact),
    h'.model.trans h.model⟩

theorem InstalledFile.leavesFile {sequence : Nat} (h : InstalledFile sequence file state)
    (h' : LeavesFile file.fileId state state') : InstalledFile sequence file state' :=
  ⟨h'.sequence.trans h.sequence,
    fun event hexact => (h'.events event hexact).trans (h.events event hexact),
    h'.model.trans h.model⟩

variable (batch : PreparedOwnershipBatch Hash)

theorem ownershipEvents_install (file : PreparedOwnershipFile Hash)
    (state : GlobalState Contents Hash) :
    (state.install batch file).diagnostics.ownershipEvents
      = (state.diagnostics.replaceExactOwnershipEvents batch.flycheckId batch.packageId file.fileId
        file.events).ownershipEvents := by
  unfold install
  cases file.model <;> rfl

theorem leavesFile_install_of_ne (hne : fileId ≠ file.fileId) :
    LeavesFile fileId state (state.install batch file) where
  hash := rfl
  sequence := by
    simp only [install]
    rw [Assoc.Map.get?_insert, if_neg hne]
  events event _ := by
    have hforFile := state.diagnostics.forFile_replaceExact_of_ne
      ⟨batch.flycheckId, batch.packageId, file.fileId⟩ file.events hne
    rw [mem_ownershipEventsForFile, mem_ownershipEventsForFile, ownershipEvents_install, hforFile]
  model := by
    unfold install
    cases file.model with
    | none => exact (Assoc.Map.get?_erase _ _ _).trans (if_neg hne)
    | some model =>
      exact (Assoc.Map.get?_insert _ _ _ _).trans
        ((if_neg hne).trans ((Assoc.Map.get?_erase _ _ _).trans (if_neg hne)))

theorem installedFile_install (file : PreparedOwnershipFile Hash)
    (state : GlobalState Contents Hash) :
    InstalledFile batch.sequence file (state.install batch file) where
  sequence := by
    simp only [install]
    rw [Assoc.Map.get?_insert, if_pos rfl]
  events event hexact := by
    rw [ownershipEvents_install]
    exact state.diagnostics.exact_mem_eventsForFile_replace
      ⟨batch.flycheckId, batch.packageId, file.fileId⟩ file.events hexact
  model := by
    unfold install
    cases file.model with
    | none => exact (Assoc.Map.get?_erase _ _ _).trans (if_pos rfl)
    | some model => exact (Assoc.Map.get?_insert _ _ _ _).trans (if_pos rfl)

variable [DecidableEq Hash]

theorem leavesFile_commitFile_of_ne (hne : fileId ≠ file.fileId) :
    LeavesFile fileId state (commitFile batch state file) := by
  unfold commitFile
  split
  · exact leavesFile_install_of_ne batch hne
  · exact .refl fileId state

theorem leavesFile_foldl_commitFile :
    ∀ (files : List (PreparedOwnershipFile Hash)) (state : GlobalState Contents Hash),
      (∀ file ∈ files, fileId ≠ file.fileId) →
      LeavesFile fileId state (files.foldl (commitFile batch) state)
  | [], state, _ => .refl fileId state
  | file :: files, state, h => by
    have hrest := leavesFile_foldl_commitFile files (commitFile batch state file)
      fun next hnext => h next (List.mem_cons_of_mem _ hnext)
    exact (leavesFile_commitFile_of_ne batch (h file List.mem_cons_self)).trans hrest

/-- A commit of a batch with one prepared version of the file installs it or leaves the file
alone. -/
theorem commit_cases {batch : PreparedOwnershipBatch Hash}
    (hfile : batch.files.filter (·.fileId = fileId) = [file]) (state : GlobalState Contents Hash) :
    (state.commitOwnershipModelArtifacts batch).ownershipFileHashes.get? fileId
        = state.ownershipFileHashes.get? fileId
      ∧ (state.installs batch.sequence file = true
          ∧ InstalledFile batch.sequence file (state.commitOwnershipModelArtifacts batch)
        ∨ state.installs batch.sequence file = false
          ∧ LeavesFile fileId state (state.commitOwnershipModelArtifacts batch)) := by
  obtain ⟨before, after, hfiles, hbefore, hid, hafter⟩ := List.filter_eq_cons_iff.mp hfile
  obtain rfl : file.fileId = fileId := of_decide_eq_true hid
  have hother : ∀ {next : PreparedOwnershipFile Hash},
      decide (next.fileId = file.fileId) ≠ true → file.fileId ≠ next.fileId :=
    fun hnext heq => hnext (decide_eq_true heq.symm)
  have hleavesBefore : LeavesFile file.fileId state (before.foldl (commitFile batch) state) :=
    leavesFile_foldl_commitFile batch before state fun next hnext => hother (hbefore next hnext)
  have hleavesAfter := fun state : GlobalState Contents Hash =>
    leavesFile_foldl_commitFile batch after state
      fun next hnext => hother (List.filter_eq_nil_iff.mp hafter next hnext)
  have hinstalls : (before.foldl (commitFile batch) state).installs batch.sequence file
      = state.installs batch.sequence file := by
    unfold installs
    rw [hleavesBefore.sequence, hleavesBefore.hash]
  rw [commitOwnershipModelArtifacts, hfiles, List.foldl_append, List.foldl_cons, commitFile,
    hinstalls]
  split
  · rename_i htrue
    refine ⟨(hleavesAfter _).hash.trans hleavesBefore.hash, .inl ⟨htrue, ?_⟩⟩
    exact (installedFile_install batch file _).leavesFile (hleavesAfter _)
  · rename_i hfalse
    have hleaves := hleavesBefore.trans (hleavesAfter _)
    exact ⟨hleaves.hash, .inr ⟨Bool.eq_false_iff.mpr hfalse, hleaves⟩⟩

end Commits

end GlobalState

end RustWorkbench.Analyzer
