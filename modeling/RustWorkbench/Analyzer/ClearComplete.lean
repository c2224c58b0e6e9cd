import RustWorkbench.Analyzer.Stored
import RustWorkbench.Library.Runs

/-!
# What clearing removes

The collection keeps the facts of the check runs in five parallel stores, and every clear goes by
the entries of one of them, the check diagnostics.  A fix is only ever stored next to a check
diagnostic of its package, so it is always found; an ownership event or diagnostic can be stored
where the check store has nothing, and a clear then leaves it.

* `clear_complete_iff` — a clear is complete exactly when the check store drives it.
* `unchecked_event_survives` — an event that no clear removes.
-/

namespace RustWorkbench.Analyzer

open Runs (Run System anyStep)

/-! ## Operations -/

/-- The operations of the collection.  The two that add an ownership fact carry the generation of
the message they are called for, which the source does not pass on to them. -/
inductive Operation
  | addCheckDiagnostic (flycheckId : Nat) (generation : DiagnosticsGeneration)
      (packageId : Option PackageSpecifier) (fileId : FileId) (diagnostic : Diagnostic)
      (fix : Option Fix)
  | addOwnershipEvent (generation : DiagnosticsGeneration) (place : Place) (event : OwnershipEvent)
  | addOwnershipDiagnostic (generation : DiagnosticsGeneration) (place : Place)
      (diagnostic : OwnershipDiagnostic)
  | replaceExactOwnershipEvents (place : Place) (newEvents : List OwnershipEvent)
  | setOwnershipTutorialModel (fileId : FileId) (model : OwnershipTutorialModel)
  | clearOwnershipFor (fileId : FileId)
  | clear (flycheckId : Nat) (kind : ClearDiagnosticsKind)
  | clearCheckAll

/-- The generation of the message that adds a fact. -/
def Operation.generation? : Operation → Option DiagnosticsGeneration
  | .addCheckDiagnostic _ generation _ _ _ _ | .addOwnershipEvent generation _ _
  | .addOwnershipDiagnostic generation _ _ => some generation
  | _ => none

namespace DiagnosticCollection

def perform (collection : DiagnosticCollection) : Operation → DiagnosticCollection
  | .addCheckDiagnostic flycheckId generation packageId fileId diagnostic fix =>
    collection.addCheckDiagnostic flycheckId generation packageId fileId diagnostic fix
  | .addOwnershipEvent _ place event =>
    collection.addOwnershipEvent place.flycheckId place.packageId place.fileId event
  | .addOwnershipDiagnostic _ place diagnostic =>
    collection.addOwnershipDiagnostic place.flycheckId place.packageId place.fileId diagnostic
  | .replaceExactOwnershipEvents place newEvents =>
    collection.replaceExactOwnershipEvents place.flycheckId place.packageId place.fileId newEvents
  | .setOwnershipTutorialModel fileId model => collection.setOwnershipTutorialModel fileId model
  | .clearOwnershipFor fileId => collection.clearOwnershipFor fileId
  | .clear flycheckId kind => collection.clear flycheckId kind
  | .clearCheckAll => collection.clearCheckAll

end DiagnosticCollection

/-- The collection, from the empty one. -/
def collectionSystem : System DiagnosticCollection Operation where
  init := {}
  step collection operation := some (collection.perform operation)

/-- The operations so far, each with the collection it was called on. -/
abbrev Operations := List (DiagnosticCollection × Operation)

/-! ## Fixes have check diagnostics -/

namespace DiagnosticCollection

/-- The packages of a flycheck in the check store. -/
def checkedPackages (collection : DiagnosticCollection) (flycheckId : Nat) :
    List (Option PackageSpecifier) :=
  Assoc.Map.keys (collection.check[flycheckId]?.getD [])

/-- Every fix belongs to a package of the check store. -/
def FixesChecked (collection : DiagnosticCollection) : Prop :=
  ∀ (place : Place) (fix : Fix), fix ∈ collection.checkFixes.listed place →
    place.packageId ∈ collection.checkedPackages place.flycheckId

variable {collection collection' : DiagnosticCollection}

theorem FixesChecked.congr (h : FixesChecked collection)
    (hcheck : collection'.check = collection.check)
    (hfixes : collection'.checkFixes = collection.checkFixes) : FixesChecked collection' := by
  intro place fix hmem
  rw [hfixes] at hmem
  rw [checkedPackages, hcheck]
  exact h place fix hmem

variable {flycheckId : Nat} {place : Place}

/-- The packages after the entries of one flycheck were set. -/
theorem checkedPackages_of_set
    {packages packages' : HashMap (Option PackageSpecifier) PackageFlycheckDiagnostic}
    (hold : collection.check[flycheckId]? = some packages)
    (hset : collection'.check = collection.check.set flycheckId packages') (flycheckId' : Nat) :
    collection'.checkedPackages flycheckId'
      = if flycheckId' = flycheckId then packages'.keys
        else collection.checkedPackages flycheckId' := by
  have hbound : flycheckId < collection.check.length := (List.getElem?_eq_some_iff.mp hold).1
  unfold checkedPackages
  rw [hset]
  by_cases h : flycheckId' = flycheckId
  · subst h
    rw [List.getElem?_set_self hbound, if_pos rfl]
    rfl
  · rw [List.getElem?_set_ne (Ne.symm h), if_neg h]

section Checked

variable (hmem : place.packageId ∈ collection.checkedPackages place.flycheckId)

include hmem

theorem checkedPackages_clearCheck
    (hout : ¬ (place.flycheckId = flycheckId ∧ flycheckId < collection.check.length)) :
    place.packageId ∈ (collection.clearCheck flycheckId).checkedPackages place.flycheckId := by
  unfold clearCheck
  split
  · exact hmem
  · rename_i check hsome
    have hbound : flycheckId < collection.check.length := (List.getElem?_eq_some_iff.mp hsome).1
    rw [checkedPackages_of_set hsome rfl, if_neg fun h => hout ⟨h, hbound⟩]
    exact hmem

theorem checkedPackages_clearCheckForPackage {packageId : PackageSpecifier}
    (hout : ¬ (place.flycheckId = flycheckId ∧ flycheckId < collection.check.length
      ∧ place.packageId = some packageId)) :
    place.packageId
      ∈ (collection.clearCheckForPackage flycheckId packageId).checkedPackages place.flycheckId := by
  unfold clearCheckForPackage
  split
  · exact hmem
  · rename_i check hsome
    have hbound : flycheckId < collection.check.length := (List.getElem?_eq_some_iff.mp hsome).1
    rw [checkedPackages_of_set hsome rfl]
    split
    · rename_i hflycheck
      rw [hflycheck, checkedPackages, hsome] at hmem
      obtain ⟨entry, hentry, hkey⟩ := List.mem_map.mp hmem
      refine List.mem_map.mpr ⟨entry, List.mem_filter.mpr ⟨hentry, ?_⟩, hkey⟩
      exact decide_eq_true fun heq => hout ⟨hflycheck, hbound, hkey.symm.trans heq⟩
    · exact hmem

theorem checkedPackages_clearOlder {inScope : Option PackageSpecifier → Bool}
    {generation : DiagnosticsGeneration}
    (hout : ¬ (place.flycheckId = flycheckId ∧ inScope place.packageId = true
      ∧ collection.HasOlderCheck flycheckId place.packageId generation)) :
    place.packageId
      ∈ (collection.clearOlder flycheckId inScope generation).checkedPackages place.flycheckId := by
  unfold clearOlder
  split
  · exact hmem
  · rename_i check hsome
    dsimp only
    split
    · exact hmem
    · rw [checkedPackages_of_set hsome rfl]
      split
      · rename_i hflycheck
        rw [hflycheck, checkedPackages, hsome] at hmem
        obtain ⟨⟨packageId, package⟩, hentry, rfl⟩ := List.mem_map.mp hmem
        refine List.mem_map.mpr ⟨_, List.mem_filter.mpr ⟨hentry, ?_⟩, rfl⟩
        -- An entry that is old would put the place in reach.
        rw [Bool.not_eq_true', Bool.eq_false_iff]
        intro hisOld
        rw [Bool.and_eq_true, decide_eq_true_eq] at hisOld
        refine hout ⟨hflycheck, hisOld.1, package, ?_, hisOld.2⟩
        rw [hsome]
        exact hentry
      · exact hmem

/-- A clear takes a package out of the check store only where it reaches. -/
theorem checkedPackages_clear {kind : ClearDiagnosticsKind}
    (hout : ¬ collection.Reaches flycheckId place kind) :
    place.packageId ∈ (collection.clear flycheckId kind).checkedPackages place.flycheckId := by
  rcases kind with (_ | packageId) | ⟨generation, (_ | packageId)⟩
  · exact checkedPackages_clearCheck hmem fun h => hout ⟨h.1, h.2, trivial⟩
  · exact checkedPackages_clearCheckForPackage hmem hout
  · exact checkedPackages_clearOlder hmem fun h => hout ⟨h.1, trivial, h.2.2⟩
  · refine checkedPackages_clearOlder hmem fun h => hout ⟨h.1, ?_, h.2.2⟩
    exact of_decide_eq_true (p := place.packageId = some packageId) h.2.1

end Checked

theorem FixesChecked.clear (h : FixesChecked collection) (flycheckId : Nat)
    (kind : ClearDiagnosticsKind) : FixesChecked (collection.clear flycheckId kind) := by
  intro place fix hmem
  obtain ⟨hmem, hout⟩ := (stored_clear_iff collection flycheckId kind place (.fix fix)).mp hmem
  exact checkedPackages_clear (h place fix hmem) hout

/-- The packages after one of them was set. -/
theorem mem_checkedPackages_of_insert {packageId : Option PackageSpecifier}
    {package : PackageFlycheckDiagnostic} (hset : collection'.check
      = updateFlycheck collection.check flycheckId (·.insert packageId package)) {flycheckId' : Nat}
    {packageId' : Option PackageSpecifier} :
    packageId' ∈ collection'.checkedPackages flycheckId'
      ↔ packageId' ∈ collection.checkedPackages flycheckId'
        ∨ flycheckId' = flycheckId ∧ packageId' = packageId := by
  unfold checkedPackages
  rw [hset, getD_updateFlycheck]
  by_cases hflycheck : flycheckId' = flycheckId
  · subst hflycheck
    rw [if_pos rfl, Assoc.Map.mem_keys_iff, Assoc.Map.mem_keys_iff, Assoc.Map.get?_insert]
    split <;> simp_all
  · rw [if_neg hflycheck]
    simp [hflycheck]

theorem FixesChecked.addCheckDiagnostic (h : FixesChecked collection) (flycheckId : Nat)
    (generation : DiagnosticsGeneration) (packageId : Option PackageSpecifier) (fileId : FileId)
    (diagnostic : Diagnostic) (fix : Option Fix) :
    FixesChecked (collection.addCheckDiagnostic flycheckId generation packageId fileId diagnostic
      fix) := by
  unfold DiagnosticCollection.addCheckDiagnostic
  dsimp only
  split
  · exact h
  split
  · intro place stored hmem
    exact (mem_checkedPackages_of_insert rfl).mpr (.inl (h place stored hmem))
  · intro place stored hmem
    refine (mem_checkedPackages_of_insert rfl).mpr ?_
    cases fix with
    | none => exact .inl (h place stored hmem)
    | some fix =>
      dsimp only at hmem
      rw [PerFlycheck.listed_update collection.checkFixes ⟨flycheckId, packageId, fileId⟩] at hmem
      split at hmem
      · rename_i hplace
        exact .inr ⟨congrArg Place.flycheckId hplace, congrArg Place.packageId hplace⟩
      · exact .inl (h place stored hmem)

/-- **Every operation keeps the fixes with their packages.** -/
theorem FixesChecked.perform (h : FixesChecked collection) (operation : Operation) :
    FixesChecked (collection.perform operation) := by
  cases operation with
  | addCheckDiagnostic flycheckId generation packageId fileId diagnostic fix =>
    exact h.addCheckDiagnostic flycheckId generation packageId fileId diagnostic fix
  | clear flycheckId kind => exact h.clear flycheckId kind
  | clearCheckAll =>
    intro place fix hmem
    exact nomatch hmem
  | addOwnershipEvent | addOwnershipDiagnostic | replaceExactOwnershipEvents
  | setOwnershipTutorialModel | clearOwnershipFor => exact h.congr rfl rfl

end DiagnosticCollection

theorem fixesChecked_of_run {history : Operations} {collection : DiagnosticCollection}
    (h : Run collectionSystem anyStep history collection) : collection.FixesChecked := by
  refine h.invariant (I := DiagnosticCollection.FixesChecked) ?_ ?_
  · intro place fix hmem
    exact absurd (show fix ∈ [] from hmem) List.not_mem_nil
  · intro collection operation collection' hchecked _ hstep
    cases hstep
    exact hchecked.perform operation

/-! ## Complete clears -/

/-- The fact was added by a message of a generation before `generation` and has been there since. -/
def AddedBefore (history : Operations) (collection : DiagnosticCollection)
    (generation : DiagnosticsGeneration) (place : Place) (fact : Fact) : Prop :=
  collection.Stored place fact ∧ ∃ before added after, history = before ++ added :: after
    ∧ (added.2.generation?.any (· < generation)) = true
    ∧ ¬ added.1.Stored place fact ∧ ∀ later ∈ after, later.1.Stored place fact

/-- A clear leaves nothing of what it is to remove. -/
def Complete (history : Operations) (collection : DiagnosticCollection) (flycheckId : Nat) :
    ClearDiagnosticsKind → Prop
  | .all scope =>
    (∀ place fact, place.flycheckId = flycheckId → scope.Covers place.packageId →
      ¬ (collection.clear flycheckId (.all scope)).Stored place fact)
      ∧ (collection.clear flycheckId (.all scope)).ownershipTutorialModels = []
  | .olderThan generation scope =>
    ∀ place fact, place.flycheckId = flycheckId → scope.Covers place.packageId →
      AddedBefore history collection generation place fact →
      ¬ (collection.clear flycheckId (.olderThan generation scope)).Stored place fact

/-- The check store has what the clear goes by: a slot of the flycheck, unless there is nothing to
remove; and, to clear by generation, an older entry of every package with an older fact. -/
def Driven (history : Operations) (collection : DiagnosticCollection) (flycheckId : Nat) :
    ClearDiagnosticsKind → Prop
  | .all scope =>
    flycheckId < collection.check.length
      ∨ (∀ place, place.flycheckId = flycheckId → scope.Covers place.packageId →
          collection.ownershipEvents.listed place = []
            ∧ collection.ownershipDiagnostics.listed place = [])
        ∧ collection.ownershipTutorialModels = []
  | .olderThan generation scope =>
    ∀ place fact, place.flycheckId = flycheckId → scope.Covers place.packageId →
      AddedBefore history collection generation place fact →
      collection.HasOlderCheck flycheckId place.packageId generation

section Complete

variable {history : Operations} {collection : DiagnosticCollection}

/-- Without a slot of the flycheck there is no fix of it. -/
theorem DiagnosticCollection.FixesChecked.listed_eq_nil (h : collection.FixesChecked) {place : Place}
    (hslot : collection.check.length ≤ place.flycheckId) :
    collection.checkFixes.listed place = [] := by
  refine List.eq_nil_iff_forall_not_mem.mpr fun fix hmem => ?_
  have hpackage := h place fix hmem
  rw [DiagnosticCollection.checkedPackages, List.getElem?_eq_none hslot] at hpackage
  exact nomatch hpackage

theorem complete_all_iff (hchecked : collection.FixesChecked) (flycheckId : Nat)
    (scope : ClearScope) : Complete history collection flycheckId (.all scope)
      ↔ Driven history collection flycheckId (.all scope) := by
  simp only [Complete, Driven, DiagnosticCollection.tutorialModels_clear_all,
    DiagnosticCollection.stored_clear_iff]
  by_cases hslot : flycheckId < collection.check.length
  · refine iff_of_true ⟨fun place fact hflycheck hscope hstored => ?_, if_pos hslot⟩ (.inl hslot)
    exact hstored.2 ⟨hflycheck, hslot, hscope⟩
  · -- The clear does nothing, so it is complete if there is nothing to remove.
    rw [if_neg hslot, or_iff_right hslot]
    refine and_congr_left fun _ => forall_congr' fun place => ?_
    constructor
    · intro h hflycheck hscope
      have hnone := fun fact hstored =>
        h fact hflycheck hscope ⟨hstored, fun hreach => hslot hreach.2.1⟩
      exact ⟨List.eq_nil_iff_forall_not_mem.mpr fun event => hnone (.event event),
        List.eq_nil_iff_forall_not_mem.mpr fun diagnostic => hnone (.diagnostic diagnostic)⟩
    · intro h fact hflycheck hscope hstored
      obtain ⟨hevents, hdiagnostics⟩ := h hflycheck hscope
      have hfixes := hchecked.listed_eq_nil (hflycheck ▸ not_lt.mp hslot)
      have hmem := hstored.1
      cases fact <;> simp_all [DiagnosticCollection.Stored]

theorem complete_olderThan_iff (flycheckId : Nat) (generation : DiagnosticsGeneration)
    (scope : ClearScope) : Complete history collection flycheckId (.olderThan generation scope)
      ↔ Driven history collection flycheckId (.olderThan generation scope) := by
  simp only [Complete, Driven, DiagnosticCollection.stored_clear_iff]
  constructor
  · intro h place fact hflycheck hscope hadded
    by_contra hcheck
    exact h place fact hflycheck hscope hadded ⟨hadded.1, fun hreach => hcheck hreach.2.2⟩
  · intro h place fact hflycheck hscope hadded hstored
    exact hstored.2 ⟨hflycheck, hscope, h place fact hflycheck hscope hadded⟩

/-- **A clear is complete exactly when the check store drives it**, in every collection that its
operations reach. -/
theorem clear_complete_iff (h : Run collectionSystem anyStep history collection) (flycheckId : Nat)
    (kind : ClearDiagnosticsKind) : Complete history collection flycheckId kind
      ↔ Driven history collection flycheckId kind := by
  cases kind with
  | all scope => exact complete_all_iff (fixesChecked_of_run h) flycheckId scope
  | olderThan generation scope => exact complete_olderThan_iff flycheckId generation scope

end Complete

/-! ## A checked and an unchecked package -/

/-- A use that rustc rejects. -/
def rejectedUse : OwnershipEvent :=
  GlobalState.invalidUseEvent ⟨some "E0382", "use of moved value: `a`"⟩ ⟨⟨2, 4⟩, ⟨2, 5⟩⟩

/-- The diagnostic of the same use. -/
def rejectedUseDiagnostic : Diagnostic where
  range := ⟨⟨2, 4⟩, ⟨2, 5⟩⟩
  severity := some .error
  source := some "rustc"
  message := "use of moved value: `a`"
  relatedInformation := none

/-- The file as the package `app` of the first flycheck reports it. -/
def appFile : Place := ⟨0, some "app", 0⟩

/-- A message that adds an event and its check diagnostic is cleared with everything else. -/
theorem checked_event_cleared :
    ∃ history collection, Run collectionSystem anyStep history collection
      ∧ collection.Stored appFile (.event rejectedUse)
      ∧ Complete history collection 0 (.all .workspace) := by
  have hrun : Run collectionSystem anyStep _ _ :=
    .snoc (.snoc .start (a := .addOwnershipEvent 1 appFile rejectedUse) trivial rfl)
      (a := .addCheckDiagnostic 0 1 (some "app") 0 rejectedUseDiagnostic none) trivial rfl
  refine ⟨_, _, hrun, ?_, (clear_complete_iff hrun 0 (.all .workspace)).mpr (.inl ?_)⟩
  · exact List.mem_singleton.mpr rfl
  · decide

/-- The package reports an event and no check diagnostic, as a compiler without artifacts does. -/
def eventOnly : Operation := .addOwnershipEvent 1 appFile rejectedUse

theorem stored_eventOnly :
    (DiagnosticCollection.perform {} eventOnly).Stored appFile (.event rejectedUse) :=
  (DiagnosticCollection.stored_addOwnershipEvent_iff {} appFile appFile rejectedUse _).mpr
    (.inr ⟨rfl, rfl⟩)

theorem addedBefore_eventOnly :
    AddedBefore [({}, eventOnly)] (DiagnosticCollection.perform {} eventOnly) 2 appFile
      (.event rejectedUse) := by
  refine ⟨stored_eventOnly, [], ({}, eventOnly), [], rfl, rfl, ?_, ?_⟩
  · exact fun h => absurd (show rejectedUse ∈ [] from h) List.not_mem_nil
  · exact fun later hlater => absurd hlater List.not_mem_nil

theorem not_reaches_eventOnly (kind : ClearDiagnosticsKind) :
    ¬ (DiagnosticCollection.perform {} eventOnly).Reaches 0 appFile kind := by
  cases kind with
  | all scope => exact fun h => absurd h.2.1 (Nat.not_lt_zero 0)
  | olderThan generation scope =>
    rintro ⟨-, -, package, hmem, -⟩
    exact absurd (show (_, package) ∈ [] from hmem) List.not_mem_nil

/-- **An event that no clear removes.**  The check store has no slot for its flycheck. -/
theorem unchecked_event_survives :
    ∃ history collection, Run collectionSystem anyStep history collection
      ∧ ∀ kind ∈ [.all .workspace, .all (.package "app"), .olderThan 2 .workspace,
        .olderThan 2 (.package "app")], ¬ Complete history collection 0 kind := by
  have hrun : Run collectionSystem anyStep [({}, eventOnly)]
      (DiagnosticCollection.perform {} eventOnly) := .snoc .start trivial rfl
  refine ⟨_, _, hrun, fun kind hkind hcomplete => ?_⟩
  have hkept : (DiagnosticCollection.clear (DiagnosticCollection.perform {} eventOnly) 0 kind).Stored
      appFile (.event rejectedUse) :=
    (DiagnosticCollection.stored_clear_iff _ 0 kind appFile _).mpr
      ⟨stored_eventOnly, not_reaches_eventOnly kind⟩
  simp only [List.mem_cons, List.not_mem_nil, or_false] at hkind
  rcases hkind with rfl | rfl | rfl | rfl
  · exact hcomplete.1 appFile _ rfl trivial hkept
  · exact hcomplete.1 appFile _ rfl rfl hkept
  · exact hcomplete appFile _ rfl trivial addedBefore_eventOnly hkept
  · exact hcomplete appFile _ rfl rfl addedBefore_eventOnly hkept

end RustWorkbench.Analyzer
