import RustWorkbench.Analyzer.Problems

/-!
# The diagnostic collection

`DiagnosticCollection` keeps what the check runs have reported: diagnostics, fixes, ownership
diagnostics and ownership events per flycheck, package and file, and one tutorial model per file.
The native diagnostics, which no ownership request reads, are left out.
-/

namespace RustWorkbench.Analyzer

open PushNew (pushNew)
open StableSort (sortByKey dedupBy)

abbrev DiagnosticsGeneration := Nat

/-! ## Check diagnostics -/

inductive DiagnosticSeverity
  | error | warning | information | hint
  deriving DecidableEq, Repr

structure DiagnosticRelatedInformation where
  uri : String
  range : Range
  message : String
  deriving DecidableEq, Repr

/-- `lsp_types::Diagnostic`, as far as the collection and its callers read it. -/
structure Diagnostic where
  range : Range
  severity : Option DiagnosticSeverity
  source : Option String
  message : String
  relatedInformation : Option (List DiagnosticRelatedInformation)
  deriving DecidableEq, Repr

def areDiagnosticsEqual (left right : Diagnostic) : Bool :=
  left.source == right.source && left.severity == right.severity && left.range == right.range
    && left.message == right.message

structure PackageFlycheckDiagnostic where
  generation : DiagnosticsGeneration
  perFile : HashMap FileId (List Diagnostic) := []

/-- `WorkspaceFlycheckDiagnostic` per flycheck. -/
abbrev Check := List (HashMap (Option PackageSpecifier) PackageFlycheckDiagnostic)

/-! ## Stores indexed by flycheck -/

/-- `resize_with(flycheck_id + 1, Default::default)`, then a change of that flycheck. -/
def updateFlycheck {κ ν : Type} (flychecks : List (HashMap κ ν)) (flycheckId : Nat)
    (f : HashMap κ ν → HashMap κ ν) : List (HashMap κ ν) :=
  (flychecks ++ List.replicate (flycheckId + 1 - flychecks.length) []).modify flycheckId f

theorem mem_updateFlycheck {κ ν : Type} {flychecks : List (HashMap κ ν)} {flycheckId : Nat}
    {f : HashMap κ ν → HashMap κ ν} {flycheck : HashMap κ ν}
    (h : flycheck ∈ updateFlycheck flychecks flycheckId f) :
    flycheck ∈ flychecks ∨ flycheck = [] ∨ flycheck = f [] ∨
      ∃ old ∈ flychecks, flycheck = f old := by
  have hold : ∀ old ∈ flychecks ++ List.replicate (flycheckId + 1 - flychecks.length) [],
      old ∈ flychecks ∨ old = [] := fun old hmem =>
    (List.mem_append.mp hmem).imp id List.eq_of_mem_replicate
  rcases Assoc.mem_modify h with hmem | ⟨old, hmem, rfl⟩
  · exact (hold flycheck hmem).imp id Or.inl
  · rcases hold old hmem with hmem | rfl
    · exact .inr (.inr (.inr ⟨old, hmem, rfl⟩))
    · exact .inr (.inr (.inl rfl))

namespace PerFlycheck

variable {ν : Type}

/-- The `entry` chain down to one file, with `default` where there is no entry. -/
def update (store : PerFlycheck ν) (flycheckId : Nat) (packageId : Option PackageSpecifier)
    (fileId : FileId) (default : ν) (f : ν → ν) : PerFlycheck ν :=
  updateFlycheck store flycheckId fun flycheck =>
    flycheck.modify packageId [] fun package => package.modify fileId default f

/-- Clear one flycheck. -/
def clear (store : PerFlycheck ν) (flycheckId : Nat) : PerFlycheck ν :=
  store.modify flycheckId fun _ => []

/-- Remove packages of one flycheck. -/
def removePackages (store : PerFlycheck ν) (flycheckId : Nat)
    (packages : List (Option PackageSpecifier)) : PerFlycheck ν :=
  store.modify flycheckId fun flycheck => packages.foldl Assoc.Map.erase flycheck

/-- Change every package map. -/
def mapPackages (store : PerFlycheck ν) (f : HashMap FileId ν → HashMap FileId ν) :
    PerFlycheck ν :=
  store.map (Assoc.Map.mapValues f)

variable {store : PerFlycheck ν} {fileId : FileId} {value : ν} {flycheckId : Nat}

theorem mem_forFile :
    value ∈ store.forFile fileId
      ↔ ∃ flycheck ∈ store, ∃ package ∈ flycheck.values, package.get? fileId = some value := by
  simp only [forFile, List.mem_filterMap, List.mem_flatMap]
  tauto

/-- A store whose packages are all packages of the old one has no new values. -/
theorem mem_forFile_of_subset {store store' : PerFlycheck ν}
    (hsubset : ∀ flycheck' ∈ store', ∀ package ∈ flycheck'.values,
      ∃ flycheck ∈ store, package ∈ flycheck.values) (h : value ∈ store'.forFile fileId) :
    value ∈ store.forFile fileId := by
  obtain ⟨flycheck', hflycheck', package, hpackage, hget⟩ := mem_forFile.mp h
  obtain ⟨flycheck, hflycheck, hold⟩ := hsubset flycheck' hflycheck' package hpackage
  exact mem_forFile.mpr ⟨flycheck, hflycheck, package, hold, hget⟩

theorem mem_forFile_of_mem_clear (h : value ∈ (store.clear flycheckId).forFile fileId) :
    value ∈ store.forFile fileId := by
  refine mem_forFile_of_subset (fun flycheck' hflycheck' package hpackage => ?_) h
  rcases Assoc.mem_modify hflycheck' with hmem | ⟨-, -, rfl⟩
  · exact ⟨flycheck', hmem, hpackage⟩
  · cases hpackage

theorem mem_values_foldl_erase {package : HashMap FileId ν} :
    ∀ {packages : List (Option PackageSpecifier)}
      {flycheck : HashMap (Option PackageSpecifier) (HashMap FileId ν)},
      package ∈ (packages.foldl Assoc.Map.erase flycheck).values → package ∈ flycheck.values
  | [], _, h => h
  | _ :: _, _, h => Assoc.Map.mem_values_erase (mem_values_foldl_erase h)

theorem mem_forFile_of_mem_removePackages {packages : List (Option PackageSpecifier)}
    (h : value ∈ (store.removePackages flycheckId packages).forFile fileId) :
    value ∈ store.forFile fileId := by
  refine mem_forFile_of_subset (fun flycheck' hflycheck' package hpackage => ?_) h
  rcases Assoc.mem_modify hflycheck' with hmem | ⟨flycheck, hmem, rfl⟩
  · exact ⟨flycheck', hmem, hpackage⟩
  · exact ⟨flycheck, hmem, mem_values_foldl_erase hpackage⟩

/-- **What an update stores.**  A value after an update was there before, or it is the updated
value of the file, made from the default or from a value that was there. -/
theorem mem_forFile_update {packageId : Option PackageSpecifier} {fileId fileId' : FileId}
    {default value : ν} {f : ν → ν}
    (h : value ∈ (store.update flycheckId packageId fileId default f).forFile fileId') :
    value ∈ store.forFile fileId' ∨
      fileId' = fileId ∧ ∃ old, value = f old ∧ (old = default ∨ old ∈ store.forFile fileId) := by
  obtain ⟨flycheck', hflycheck', package, hpackage, hget⟩ := mem_forFile.mp h
  -- The changed package map: of a flycheck of the store, or of one without entries.
  have hchanged : ∀ flycheck : HashMap (Option PackageSpecifier) (HashMap FileId ν),
      (flycheck = [] ∨ flycheck ∈ store) →
      package ∈ (flycheck.modify packageId [] fun package =>
        package.modify fileId default f).values →
      value ∈ store.forFile fileId' ∨
        fileId' = fileId ∧ ∃ old, value = f old ∧
          (old = default ∨ old ∈ store.forFile fileId) := by
    intro flycheck hflycheck hmem
    have hknown : ∀ {file : FileId} {known : ν} {map : HashMap FileId ν},
        map ∈ flycheck.values → map.get? file = some known → known ∈ store.forFile file := by
      intro file known map hmap hfound
      rcases hflycheck with rfl | hflycheck
      · cases hmap
      · exact mem_forFile.mpr ⟨flycheck, hflycheck, map, hmap, hfound⟩
    rcases Assoc.Map.mem_values_modify hmem with hmem | rfl
    · exact .inl (hknown hmem hget)
    · have hfound : ∀ {file : FileId} {known : ν},
          ((flycheck.get? packageId).getD []).get? file = some known →
            known ∈ store.forFile file := by
        intro file known hfound
        cases hpkg : flycheck.get? packageId with
        | none => rw [hpkg] at hfound; cases hfound
        | some map =>
          rw [hpkg] at hfound
          exact hknown (List.mem_map_of_mem (Assoc.Map.mem_of_get? hpkg)) hfound
      rw [Assoc.Map.get?_modify] at hget
      split at hget
      · rename_i hfile
        refine .inr ⟨hfile, _, (Option.some.inj hget).symm, ?_⟩
        cases hold : ((flycheck.get? packageId).getD []).get? fileId with
        | none => exact .inl rfl
        | some old => exact .inr (hfound hold)
      · exact .inl (hfound hget)
  rcases mem_updateFlycheck hflycheck' with hmem | rfl | rfl | ⟨flycheck, hmem, rfl⟩
  · exact .inl (mem_forFile.mpr ⟨flycheck', hmem, package, hpackage, hget⟩)
  · cases hpackage
  · exact hchanged [] (.inl rfl) hpackage
  · exact hchanged flycheck (.inr hmem) hpackage

/-- **What an update keeps.**  A value of the file is still there, or its updated value is. -/
theorem mem_forFile_update_of_mem {packageId : Option PackageSpecifier} {default old : ν}
    {f : ν → ν} (h : old ∈ store.forFile fileId) :
    old ∈ (store.update flycheckId packageId fileId default f).forFile fileId ∨
      f old ∈ (store.update flycheckId packageId fileId default f).forFile fileId := by
  obtain ⟨flycheck, hflycheck, package, hpackage, hget⟩ := mem_forFile.mp h
  have hpadded : flycheck ∈ store ++ List.replicate (flycheckId + 1 - store.length) [] :=
    List.mem_append_left _ hflycheck
  rcases Assoc.mem_modify_of_mem hpadded with hkept | hchanged
  · exact .inl (mem_forFile.mpr ⟨flycheck, hkept, package, hpackage, hget⟩)
  · rcases Assoc.Map.mem_values_modify_of_mem hpackage with hkept | hmodified
    · exact .inl (mem_forFile.mpr ⟨_, hchanged, package, hkept, hget⟩)
    · refine .inr (mem_forFile.mpr ⟨_, hchanged, _, hmodified, ?_⟩)
      rw [Assoc.Map.get?_modify, if_pos rfl, hget, Option.getD_some]

end PerFlycheck

/-! ## The collection -/

structure DiagnosticCollection where
  check : Check := []
  checkFixes : CheckFixes := []
  ownershipDiagnostics : OwnershipDiagnostics := []
  ownershipEvents : OwnershipEvents := []
  ownershipTutorialModels : OwnershipTutorialModels := []
  /-- The files whose diagnostics are to be published again. -/
  changes : List FileId := []

namespace DiagnosticCollection

/-- `changes.extend`. -/
def extendChanges (collection : DiagnosticCollection) (files : List FileId) :
    DiagnosticCollection :=
  { collection with changes := files.foldl pushNew collection.changes }

/-- The files of drained packages. -/
def drainedFiles (packages : List PackageFlycheckDiagnostic) : List FileId :=
  packages.flatMap fun package => package.perFile.keys

def clearCheck (collection : DiagnosticCollection) (flycheckId : Nat) : DiagnosticCollection :=
  match collection.check[flycheckId]? with
  | none => collection
  | some check =>
    { collection.extendChanges (drainedFiles check.values) with
      check := collection.check.set flycheckId []
      checkFixes := collection.checkFixes.clear flycheckId
      ownershipEvents := collection.ownershipEvents.clear flycheckId
      ownershipDiagnostics := collection.ownershipDiagnostics.clear flycheckId
      ownershipTutorialModels := [] }

def clearCheckAll (collection : DiagnosticCollection) : DiagnosticCollection :=
  { collection.extendChanges
      (collection.check.flatMap fun check => drainedFiles check.values) with
    check := collection.check.map fun _ => []
    checkFixes := []
    ownershipDiagnostics := []
    ownershipEvents := []
    ownershipTutorialModels := [] }

/-- Remove the facts of packages of one flycheck, and with them every tutorial model. -/
def removePackageFacts (collection : DiagnosticCollection) (flycheckId : Nat)
    (packages : List (Option PackageSpecifier)) : DiagnosticCollection :=
  { collection with
    checkFixes := collection.checkFixes.removePackages flycheckId packages
    ownershipEvents := collection.ownershipEvents.removePackages flycheckId packages
    ownershipDiagnostics := collection.ownershipDiagnostics.removePackages flycheckId packages
    ownershipTutorialModels := [] }

def clearCheckForPackage (collection : DiagnosticCollection) (flycheckId : Nat)
    (packageId : PackageSpecifier) : DiagnosticCollection :=
  match collection.check[flycheckId]? with
  | none => collection
  | some check =>
    { collection.extendChanges (drainedFiles (check.get? (some packageId)).toList) with
      check := collection.check.set flycheckId (check.erase (some packageId))
      }.removePackageFacts flycheckId [some packageId]

/-- `clear_check_older_than` and `clear_check_older_than_for_package`: take the packages of an
older generation that are in scope out of the flycheck. -/
def clearOlder (collection : DiagnosticCollection) (flycheckId : Nat)
    (inScope : Option PackageSpecifier → Bool) (generation : DiagnosticsGeneration) :
    DiagnosticCollection :=
  match collection.check[flycheckId]? with
  | none => collection
  | some check =>
    let isOld (entry : Option PackageSpecifier × PackageFlycheckDiagnostic) : Bool :=
      inScope entry.1 && entry.2.generation < generation
    let old : HashMap (Option PackageSpecifier) PackageFlycheckDiagnostic := check.filter isOld
    if old.isEmpty then collection
    else
      { collection.extendChanges (drainedFiles old.values) with
        check := collection.check.set flycheckId (check.filter fun entry => !isOld entry)
        }.removePackageFacts flycheckId old.keys

def clearCheckOlderThan (collection : DiagnosticCollection) (flycheckId : Nat)
    (generation : DiagnosticsGeneration) : DiagnosticCollection :=
  collection.clearOlder flycheckId (fun _ => true) generation

def clearCheckOlderThanForPackage (collection : DiagnosticCollection) (flycheckId : Nat)
    (packageId : PackageSpecifier) (generation : DiagnosticsGeneration) : DiagnosticCollection :=
  collection.clearOlder flycheckId (· = some packageId) generation

/-- `clear_ownership_for`: the facts of a file that is about to change.  The fixes stay. -/
def clearOwnershipFor (collection : DiagnosticCollection) (fileId : FileId) :
    DiagnosticCollection :=
  { collection.extendChanges [fileId] with
    ownershipDiagnostics := collection.ownershipDiagnostics.mapPackages (·.erase fileId)
    ownershipEvents := collection.ownershipEvents.mapPackages (·.erase fileId)
    ownershipTutorialModels := collection.ownershipTutorialModels.erase fileId }

/-- The events of a file without the exact ones, in every package that has exact ones. -/
def dropExactEvents (fileId : FileId) (package : HashMap FileId (List OwnershipEvent)) :
    HashMap FileId (List OwnershipEvent) :=
  match package.get? fileId with
  | none => package
  | some events =>
    if events.any (·.exact) then package.insert fileId (events.filter fun event => !event.exact)
    else package

/-- `replace_exact_ownership_events`, without the payloads it hands back to be dropped. -/
def replaceExactOwnershipEvents (collection : DiagnosticCollection) (flycheckId : Nat)
    (packageId : Option PackageSpecifier) (fileId : FileId) (newEvents : List OwnershipEvent) :
    DiagnosticCollection :=
  { collection.extendChanges [fileId] with
    ownershipEvents :=
      (collection.ownershipEvents.mapPackages (dropExactEvents fileId)).update flycheckId packageId
        fileId [] fun estimated =>
          dedupBy (· == ·) (sortByKey OwnershipEvent.range (estimated ++ newEvents))
    ownershipTutorialModels := collection.ownershipTutorialModels.erase fileId }

def setOwnershipTutorialModel (collection : DiagnosticCollection) (fileId : FileId)
    (model : OwnershipTutorialModel) : DiagnosticCollection :=
  { collection.extendChanges [fileId] with
    ownershipTutorialModels := collection.ownershipTutorialModels.insert fileId model }

/-- `add_check_diagnostic`.  A message of an older generation finds its package and changes
nothing; a diagnostic that is already there only renews the generation. -/
def addCheckDiagnostic (collection : DiagnosticCollection) (flycheckId : Nat)
    (generation : DiagnosticsGeneration) (packageId : Option PackageSpecifier) (fileId : FileId)
    (diagnostic : Diagnostic) (fix : Option Fix) : DiagnosticCollection :=
  let package := ((collection.check[flycheckId]?.getD []).get? packageId).getD { generation }
  let setPackage (package : PackageFlycheckDiagnostic) : Check :=
    updateFlycheck collection.check flycheckId (·.insert packageId package)
  if package.generation > generation then collection
  else
    let diagnostics := (package.perFile.get? fileId).getD []
    if diagnostics.any fun existing => areDiagnosticsEqual existing diagnostic then
      { collection with check := setPackage { package with generation } }
    else
      { collection.extendChanges [fileId] with
        check := setPackage
          { generation, perFile := package.perFile.insert fileId (diagnostics ++ [diagnostic]) }
        checkFixes :=
          match fix with
          | none => collection.checkFixes
          | some fix =>
            collection.checkFixes.update flycheckId packageId fileId [] fun fixes =>
              fixes ++ [{ fix with ranges := fix.ranges ++ [diagnostic.range] }] }

def addOwnershipEvent (collection : DiagnosticCollection) (flycheckId : Nat)
    (packageId : Option PackageSpecifier) (fileId : FileId) (event : OwnershipEvent) :
    DiagnosticCollection :=
  { collection with
    ownershipEvents :=
      collection.ownershipEvents.update flycheckId packageId fileId [] fun events =>
        if event ∈ events then events else sortByKey OwnershipEvent.range (events ++ [event]) }

def addOwnershipDiagnostic (collection : DiagnosticCollection) (flycheckId : Nat)
    (packageId : Option PackageSpecifier) (fileId : FileId) (diagnostic : OwnershipDiagnostic) :
    DiagnosticCollection :=
  { collection with
    ownershipDiagnostics :=
      collection.ownershipDiagnostics.update flycheckId packageId fileId [] fun diagnostics =>
        if diagnostic ∈ diagnostics then diagnostics
        else sortByKey OwnershipDiagnostic.range (diagnostics ++ [diagnostic]) }

end DiagnosticCollection

end RustWorkbench.Analyzer
