import RustWorkbench.Analyzer.Flycheck

/-!
# Where facts are stored

The fixes, the ownership events and the ownership diagnostics are each kept in a store of the same
shape: per flycheck, per package and per file.  This file looks a store up at one place and says
what every operation does to what is found there.

* `listed_update`, `listed_clear`, `listed_removePackages`, `listed_eraseFile` — lookup after each
  change of a store.
* `Stored` — a fact of the collection at a place.
-/

namespace RustWorkbench.Analyzer

open StableSort (sortByKey)

/-- A file, as one package of one flycheck reports it. -/
structure Place where
  flycheckId : Nat
  packageId : Option PackageSpecifier
  fileId : FileId
  deriving DecidableEq

/-! ## Lookup in a store -/

/-- The maps of a flycheck after one of them was changed; a flycheck without maps has none. -/
theorem getD_updateFlycheck {κ ν : Type} (flychecks : List (HashMap κ ν)) (flycheckId : Nat)
    (f : HashMap κ ν → HashMap κ ν) (flycheckId' : Nat) :
    (updateFlycheck flychecks flycheckId f)[flycheckId']?.getD []
      = if flycheckId' = flycheckId then f (flychecks[flycheckId]?.getD [])
        else flychecks[flycheckId']?.getD [] := by
  have hpadded : ∀ index : Nat,
      (flychecks ++ List.replicate (flycheckId + 1 - flychecks.length) [])[index]?.getD []
        = flychecks[index]?.getD [] := by
    intro index
    rw [List.getElem?_append]
    split
    · rfl
    · rename_i hlarge
      rw [List.getElem?_eq_none (by omega : flychecks.length ≤ index), List.getElem?_replicate]
      split <;> rfl
  unfold updateFlycheck
  by_cases h : flycheckId' = flycheckId
  · subst h
    have hbound : flycheckId' < (flychecks
        ++ List.replicate (flycheckId' + 1 - flychecks.length) ([] : HashMap κ ν)).length := by
      rw [List.length_append, List.length_replicate]
      omega
    rw [List.getElem?_modify_eq, if_pos rfl, ← hpadded flycheckId',
      List.getElem?_eq_getElem hbound]
    rfl
  · rw [List.getElem?_modify_ne _ _ (Ne.symm h), if_neg h, hpadded]

namespace PerFlycheck

variable {α : Type}

/-- What a store has at a place. -/
def listed (store : PerFlycheck (List α)) (place : Place) : List α :=
  (((store[place.flycheckId]?.getD []).get? place.packageId).bind (·.get? place.fileId)).getD []

variable (store : PerFlycheck (List α))

theorem listed_update (place place' : Place) (f : List α → List α) :
    (store.update place.flycheckId place.packageId place.fileId [] f).listed place'
      = if place' = place then f (store.listed place) else store.listed place' := by
  obtain ⟨flycheckId, packageId, fileId⟩ := place
  obtain ⟨flycheckId', packageId', fileId'⟩ := place'
  simp only [listed, update, Place.mk.injEq]
  rw [getD_updateFlycheck]
  by_cases hflycheck : flycheckId' = flycheckId
  · subst hflycheck
    rw [if_pos rfl, Assoc.Map.get?_modify]
    by_cases hpackage : packageId' = packageId
    · subst hpackage
      rw [if_pos rfl, Option.bind_some, Assoc.Map.get?_modify]
      by_cases hfile : fileId' = fileId
      · subst hfile
        rw [if_pos rfl, if_pos ⟨rfl, rfl, rfl⟩, Option.getD_some]
        cases (store[flycheckId']?.getD []).get? packageId' <;> rfl
      · rw [if_neg hfile, if_neg fun h => hfile h.2.2]
        cases (store[flycheckId']?.getD []).get? packageId' <;> rfl
    · rw [if_neg hpackage, if_neg fun h => hpackage h.2.1]
  · rw [if_neg hflycheck, if_neg fun h => hflycheck h.1]

/-- The maps of a flycheck after one flycheck was changed in place. -/
theorem getD_modify {β : Type} (store : List (List β)) (flycheckId : Nat) {f : List β → List β}
    (hf : f [] = []) (flycheckId' : Nat) :
    (store.modify flycheckId f)[flycheckId']?.getD []
      = if flycheckId' = flycheckId then f (store[flycheckId']?.getD [])
        else store[flycheckId']?.getD [] := by
  by_cases h : flycheckId' = flycheckId
  · subst h
    rw [List.getElem?_modify_eq, if_pos rfl]
    cases store[flycheckId']? with
    | none => exact hf.symm
    | some flycheck => rfl
  · rw [List.getElem?_modify_ne _ _ (Ne.symm h), if_neg h]

theorem listed_clear (flycheckId : Nat) (place : Place) :
    (store.clear flycheckId).listed place
      = if place.flycheckId = flycheckId then [] else store.listed place := by
  simp only [listed, clear]
  rw [getD_modify store flycheckId rfl]
  split <;> rfl

theorem get?_foldl_erase {ν : Type} (package : Option PackageSpecifier) :
    ∀ (packages : List (Option PackageSpecifier)) (map : HashMap (Option PackageSpecifier) ν),
      (packages.foldl Assoc.Map.erase map).get? package
        = if package ∈ packages then none else map.get? package
  | [], map => by simp
  | head :: packages, map => by
    rw [List.foldl_cons, get?_foldl_erase package packages, Assoc.Map.get?_erase]
    by_cases hhead : package = head
    · simp [hhead]
    · simp [hhead]

theorem foldl_erase_nil {ν : Type} : ∀ packages : List (Option PackageSpecifier),
    packages.foldl Assoc.Map.erase ([] : HashMap (Option PackageSpecifier) ν) = []
  | [] => rfl
  | _ :: packages => foldl_erase_nil packages

theorem listed_removePackages (flycheckId : Nat) (packages : List (Option PackageSpecifier))
    (place : Place) :
    (store.removePackages flycheckId packages).listed place
      = if place.flycheckId = flycheckId ∧ place.packageId ∈ packages then []
        else store.listed place := by
  simp only [listed, removePackages]
  rw [getD_modify store flycheckId (foldl_erase_nil packages)]
  by_cases hflycheck : place.flycheckId = flycheckId
  · rw [if_pos hflycheck, get?_foldl_erase]
    by_cases hpackage : place.packageId ∈ packages
    · rw [if_pos hpackage, if_pos ⟨hflycheck, hpackage⟩]
      rfl
    · rw [if_neg hpackage, if_neg fun h => hpackage h.2]
  · rw [if_neg hflycheck, if_neg fun h => hflycheck h.1]

/-- Lookup after every package map was changed. -/
theorem listed_mapPackages (f : HashMap FileId (List α) → HashMap FileId (List α)) (place : Place) :
    (store.mapPackages f).listed place
      = (((store[place.flycheckId]?.getD []).get? place.packageId).bind fun package =>
          (f package).get? place.fileId).getD [] := by
  have hflycheck : (store.mapPackages f)[place.flycheckId]?.getD []
      = (store[place.flycheckId]?.getD []).mapValues f := by
    unfold mapPackages
    rw [List.getElem?_map]
    cases store[place.flycheckId]? <;> rfl
  rw [listed, hflycheck, Assoc.Map.get?_mapValues, Option.bind_map]
  rfl

theorem listed_eraseFile (fileId : FileId) (place : Place) :
    (store.mapPackages (·.erase fileId)).listed place
      = if place.fileId = fileId then [] else store.listed place := by
  rw [listed_mapPackages, listed]
  cases (store[place.flycheckId]?.getD []).get? place.packageId with
  | none => split <;> rfl
  | some package =>
    rw [Option.bind_some, Option.bind_some, Assoc.Map.get?_erase]
    split <;> rfl

/-- What is found at a place is found for its file. -/
theorem listed_mem_forFile {store : PerFlycheck (List α)} {place : Place} {fact : α}
    (h : fact ∈ store.listed place) : ∃ facts ∈ store.forFile place.fileId, fact ∈ facts := by
  unfold listed at h
  cases hflycheck : store[place.flycheckId]? with
  | none =>
    rw [hflycheck] at h
    exact nomatch h
  | some flycheck =>
    rw [hflycheck, Option.getD_some] at h
    cases hpackage : flycheck.get? place.packageId with
    | none =>
      rw [hpackage] at h
      exact nomatch h
    | some package =>
      rw [hpackage, Option.bind_some] at h
      cases hfacts : package.get? place.fileId with
      | none =>
        rw [hfacts] at h
        exact nomatch h
      | some facts =>
        rw [hfacts] at h
        refine ⟨facts, mem_forFile.mpr ⟨flycheck, List.mem_of_getElem? hflycheck, package, ?_,
          hfacts⟩, h⟩
        exact List.mem_map_of_mem (Assoc.Map.mem_of_get? hpackage)

end PerFlycheck

/-! ## Facts of the collection -/

/-- What a check run leaves besides its diagnostics. -/
inductive Fact
  | fix (fix : Fix)
  | event (event : OwnershipEvent)
  | diagnostic (diagnostic : OwnershipDiagnostic)

namespace DiagnosticCollection

def Stored (collection : DiagnosticCollection) (place : Place) : Fact → Prop
  | .fix fix => fix ∈ collection.checkFixes.listed place
  | .event event => event ∈ collection.ownershipEvents.listed place
  | .diagnostic diagnostic => diagnostic ∈ collection.ownershipDiagnostics.listed place

/-- Facts are stored in three of the collection's maps. -/
theorem stored_congr {collection collection' : DiagnosticCollection}
    (hfixes : collection'.checkFixes = collection.checkFixes)
    (hevents : collection'.ownershipEvents = collection.ownershipEvents)
    (hdiagnostics : collection'.ownershipDiagnostics = collection.ownershipDiagnostics)
    (place : Place) (fact : Fact) : collection'.Stored place fact ↔ collection.Stored place fact := by
  cases fact <;> simp only [Stored, hfixes, hevents, hdiagnostics]

theorem stored_removePackageFacts_iff (collection : DiagnosticCollection) (flycheckId : Nat)
    (packages : List (Option PackageSpecifier)) (place : Place) (fact : Fact) :
    (collection.removePackageFacts flycheckId packages).Stored place fact
      ↔ collection.Stored place fact
        ∧ ¬ (place.flycheckId = flycheckId ∧ place.packageId ∈ packages) := by
  cases fact <;>
    · simp only [Stored, removePackageFacts, PerFlycheck.listed_removePackages]
      split <;> simp_all

end DiagnosticCollection

/-! ## Adding facts -/

namespace DiagnosticCollection

/-- The facts at a place after one was added somewhere, unless it was there. -/
theorem mem_listed_addSorted {α : Type} [DecidableEq α] (store : PerFlycheck (List α))
    (key : α → Range) (place place' : Place) (fact fact' : α) :
    fact' ∈ (store.update place.flycheckId place.packageId place.fileId [] fun facts =>
        if fact ∈ facts then facts else sortByKey key (facts ++ [fact])).listed place'
      ↔ fact' ∈ store.listed place' ∨ place' = place ∧ fact' = fact := by
  rw [PerFlycheck.listed_update]
  by_cases hplace : place' = place
  · subst hplace
    rw [if_pos rfl]
    by_cases hmem : fact ∈ store.listed place'
    · rw [if_pos hmem]
      exact ⟨.inl, fun h => h.elim id fun heq => heq.2 ▸ hmem⟩
    · rw [if_neg hmem, StableSort.mem_sortByKey, List.mem_append, List.mem_singleton]
      simp only [true_and]
  · rw [if_neg hplace]
    simp only [hplace, false_and, or_false]

theorem stored_addOwnershipEvent_iff (collection : DiagnosticCollection) (place place' : Place)
    (event : OwnershipEvent) (fact : Fact) :
    (collection.addOwnershipEvent place.flycheckId place.packageId place.fileId event).Stored place'
        fact
      ↔ collection.Stored place' fact ∨ place' = place ∧ fact = .event event := by
  cases fact with
  | event event' =>
    simp only [Stored, addOwnershipEvent, mem_listed_addSorted, Fact.event.injEq]
  | _ => simp only [Stored, addOwnershipEvent, reduceCtorEq, and_false, or_false]

theorem stored_addOwnershipDiagnostic_iff (collection : DiagnosticCollection)
    (place place' : Place) (diagnostic : OwnershipDiagnostic) (fact : Fact) :
    (collection.addOwnershipDiagnostic place.flycheckId place.packageId place.fileId
        diagnostic).Stored place' fact
      ↔ collection.Stored place' fact ∨ place' = place ∧ fact = .diagnostic diagnostic := by
  cases fact with
  | diagnostic diagnostic' =>
    simp only [Stored, addOwnershipDiagnostic, mem_listed_addSorted, Fact.diagnostic.injEq]
  | _ => simp only [Stored, addOwnershipDiagnostic, reduceCtorEq, and_false, or_false]

end DiagnosticCollection

/-! ## Clearing -/

/-- The packages a clear is about. -/
def ClearScope.Covers : ClearScope → Option PackageSpecifier → Prop
  | .workspace, _ => True
  | .package packageId, packageId' => packageId' = some packageId

namespace DiagnosticCollection

/-- The operation a message to clear diagnostics calls. -/
def clear (collection : DiagnosticCollection) (flycheckId : Nat) :
    ClearDiagnosticsKind → DiagnosticCollection
  | .all .workspace => collection.clearCheck flycheckId
  | .all (.package packageId) => collection.clearCheckForPackage flycheckId packageId
  | .olderThan generation .workspace => collection.clearCheckOlderThan flycheckId generation
  | .olderThan generation (.package packageId) =>
    collection.clearCheckOlderThanForPackage flycheckId packageId generation

theorem clearDiagnostics_eq {Contents Hash : Type} (state : GlobalState Contents Hash)
    (flycheckId : Nat) (kind : ClearDiagnosticsKind) :
    state.clearDiagnostics flycheckId kind
      = { state with diagnostics := state.diagnostics.clear flycheckId kind } := by
  rcases kind with (_ | _) | ⟨_, (_ | _)⟩ <;> rfl

/-- The check store has the package in a generation before `generation`. -/
def HasOlderCheck (collection : DiagnosticCollection) (flycheckId : Nat)
    (packageId : Option PackageSpecifier) (generation : DiagnosticsGeneration) : Prop :=
  ∃ package, (packageId, package) ∈ collection.check[flycheckId]?.getD []
    ∧ package.generation < generation

/-- The place is one a clear reaches.  Every clear goes by the check store: it does nothing for a
flycheck without a slot there, and one by generation takes the packages that have an older entry. -/
def Reaches (collection : DiagnosticCollection) (flycheckId : Nat) (place : Place) :
    ClearDiagnosticsKind → Prop
  | .all scope => place.flycheckId = flycheckId ∧ flycheckId < collection.check.length
    ∧ scope.Covers place.packageId
  | .olderThan generation scope => place.flycheckId = flycheckId ∧ scope.Covers place.packageId
    ∧ collection.HasOlderCheck flycheckId place.packageId generation

variable (collection : DiagnosticCollection) (flycheckId : Nat)

theorem stored_clearCheck_iff (place : Place) (fact : Fact) :
    (collection.clearCheck flycheckId).Stored place fact
      ↔ collection.Stored place fact
        ∧ ¬ (place.flycheckId = flycheckId ∧ flycheckId < collection.check.length) := by
  unfold clearCheck
  split
  · rename_i hnone
    rw [List.getElem?_eq_none_iff] at hnone
    exact (and_iff_left fun h => absurd h.2 (not_lt.mpr hnone)).symm
  · rename_i check hsome
    have hbound : flycheckId < collection.check.length := (List.getElem?_eq_some_iff.mp hsome).1
    cases fact <;>
      · simp only [Stored, PerFlycheck.listed_clear, hbound, and_true]
        split <;> simp_all

theorem stored_clearCheckForPackage_iff (packageId : PackageSpecifier) (place : Place)
    (fact : Fact) :
    (collection.clearCheckForPackage flycheckId packageId).Stored place fact
      ↔ collection.Stored place fact
        ∧ ¬ (place.flycheckId = flycheckId ∧ flycheckId < collection.check.length
          ∧ place.packageId = some packageId) := by
  unfold clearCheckForPackage
  split
  · rename_i hnone
    rw [List.getElem?_eq_none_iff] at hnone
    exact (and_iff_left fun h => absurd h.2.1 (not_lt.mpr hnone)).symm
  · rename_i check hsome
    have hbound : flycheckId < collection.check.length := (List.getElem?_eq_some_iff.mp hsome).1
    rw [stored_removePackageFacts_iff, List.mem_singleton]
    simp only [hbound, true_and]
    exact and_congr_left' (stored_congr rfl rfl rfl place fact)

theorem stored_clearOlder_iff (inScope : Option PackageSpecifier → Bool)
    (generation : DiagnosticsGeneration) (place : Place) (fact : Fact) :
    (collection.clearOlder flycheckId inScope generation).Stored place fact
      ↔ collection.Stored place fact
        ∧ ¬ (place.flycheckId = flycheckId ∧ inScope place.packageId = true
          ∧ collection.HasOlderCheck flycheckId place.packageId generation) := by
  unfold clearOlder
  split
  · rename_i hnone
    refine (and_iff_left ?_).symm
    rintro ⟨-, -, package, hmem, -⟩
    rw [hnone] at hmem
    exact nomatch hmem
  · rename_i check hsome
    -- The packages taken out are those with an older entry in scope.
    have hold : ∀ packageId, packageId ∈ Assoc.Map.keys (check.filter fun entry =>
        inScope entry.1 && decide (entry.2.generation < generation))
        ↔ inScope packageId = true
          ∧ collection.HasOlderCheck flycheckId packageId generation := by
      intro packageId
      simp only [Assoc.Map.keys, List.mem_map, List.mem_filter, Bool.and_eq_true,
        decide_eq_true_eq, HasOlderCheck, hsome, Option.getD_some]
      constructor
      · rintro ⟨⟨packageId', package⟩, ⟨hmem, hscope, holder⟩, rfl⟩
        exact ⟨hscope, package, hmem, holder⟩
      · rintro ⟨hscope, package, hmem, holder⟩
        exact ⟨(packageId, package), ⟨hmem, hscope, holder⟩, rfl⟩
    dsimp only
    split
    · rename_i hempty
      rw [List.isEmpty_iff] at hempty
      refine (and_iff_left fun h => ?_).symm
      have hmem := (hold place.packageId).mpr h.2
      rw [hempty] at hmem
      exact nomatch hmem
    · rw [stored_removePackageFacts_iff, hold place.packageId]
      exact and_congr_left' (stored_congr rfl rfl rfl place fact)

/-- **What a clear leaves**: the facts at the places it does not reach. -/
theorem stored_clear_iff (kind : ClearDiagnosticsKind) (place : Place) (fact : Fact) :
    (collection.clear flycheckId kind).Stored place fact
      ↔ collection.Stored place fact ∧ ¬ collection.Reaches flycheckId place kind := by
  rcases kind with (_ | packageId) | ⟨generation, (_ | packageId)⟩
  · simp only [clear, stored_clearCheck_iff, Reaches, ClearScope.Covers, and_true]
  · simp only [clear, stored_clearCheckForPackage_iff, Reaches, ClearScope.Covers]
  · simp only [clear, clearCheckOlderThan, stored_clearOlder_iff, Reaches, ClearScope.Covers,
      true_and]
  · simp only [clear, clearCheckOlderThanForPackage, stored_clearOlder_iff, Reaches,
      ClearScope.Covers, decide_eq_true_eq]

/-- A clear of a whole flycheck or package removes the tutorial models if the flycheck has a slot in
the check store. -/
theorem tutorialModels_clear_all (scope : ClearScope) :
    (collection.clear flycheckId (.all scope)).ownershipTutorialModels
      = if flycheckId < collection.check.length then [] else collection.ownershipTutorialModels := by
  by_cases hbound : flycheckId < collection.check.length
  · rw [if_pos hbound]
    have hsome := List.getElem?_eq_getElem hbound
    cases scope <;> simp only [clear, clearCheck, clearCheckForPackage, hsome, removePackageFacts]
  · rw [if_neg hbound]
    have hnone := List.getElem?_eq_none_iff.mpr (not_lt.mp hbound)
    cases scope <;> simp only [clear, clearCheck, clearCheckForPackage, hnone]

end DiagnosticCollection

end RustWorkbench.Analyzer
