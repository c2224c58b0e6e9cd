import RustWorkbench.Analyzer.Server
import RustWorkbench.Analyzer.Stored

/-!
# What a message reports

A message with a diagnostic of rustc says something about ownership in two ways: it is an ownership
event of a compiler without artifacts, or it is an error whose code is taught.  `ownershipFacts`
lists what it says.
-/

namespace RustWorkbench.Analyzer

/-- The message of `FlycheckMessage::AddDiagnostic`. -/
structure DiagnosticMessage where
  flycheckId : Nat
  generation : DiagnosticsGeneration
  packageId : Option PackageSpecifier
  diagnostic : RustDiagnostic
  mapped : List MappedRustDiagnostic

namespace DiagnosticMessage

/-- A pointer to an artifact. -/
def isModel (message : DiagnosticMessage) : Bool :=
  message.diagnostic.code = some "borrowck_ownership_model"

/-- An ownership event of a compiler without artifacts. -/
def isEvent (message : DiagnosticMessage) : Bool :=
  message.diagnostic.code.any (startsWith · "borrowck_ownership_")

end DiagnosticMessage

variable {Contents Hash : Type}

namespace GlobalState

/-! ## The facts of a message -/

/-- The event of one mapped diagnostic of an event message. -/
def legacyFacts (world : World Contents Hash) (state : GlobalState Contents Hash)
    (payload : OwnershipEventPayload) (mapped : MappedRustDiagnostic) : List (FileId × Fact) :=
  match state.legacyBinding world payload mapped.url with
  | none => []
  | some (fileId, bindingRange) =>
    [(fileId, .event (legacyEvent payload mapped.diagnostic.range bindingRange))]

/-- The ownership diagnostic and the rejected use of one mapped diagnostic of an ordinary message. -/
def mappedFacts (ownershipEnabled : Bool) (diagnostic : RustDiagnostic)
    (mapped : MappedRustDiagnostic) : List Fact :=
  if shouldRecordInvalidUse mapped.diagnostic.severity then
    (match diagnostic.code.filter isTeachableRustDiagnostic with
      | some code => [.diagnostic (mappedOwnershipDiagnostic diagnostic code mapped)]
      | none => [])
    ++ if ownershipEnabled && diagnostic.code == some "E0382" then
        [.event (invalidUseEvent diagnostic mapped.diagnostic.range)]
      else []
  else []

/-- The facts of one mapped diagnostic of an ordinary message, with its file. -/
def diagnosticFacts (world : World Contents Hash) (state : GlobalState Contents Hash)
    (diagnostic : RustDiagnostic) (mapped : MappedRustDiagnostic) : List (FileId × Fact) :=
  match state.urlToFileId world mapped.url with
  | none => []
  | some fileId => (mappedFacts world.ownershipEnabled diagnostic mapped).map (fileId, ·)

/-- **Everything a message says about ownership.** -/
def ownershipFacts (world : World Contents Hash) (state : GlobalState Contents Hash)
    (message : DiagnosticMessage) : List (FileId × Fact) :=
  if message.isModel then []
  else if message.isEvent then
    match (world.parseEventPayload message.diagnostic.message).filter (·.version = 1) with
    | none => []
    | some payload => message.mapped.flatMap (legacyFacts world state payload)
  else message.mapped.flatMap (diagnosticFacts world state message.diagnostic)

/-! ## The kinds of message -/

/-- Handle a message. -/
def handleDiagnostic (world : World Contents Hash) (state : GlobalState Contents Hash)
    (message : DiagnosticMessage) : GlobalState Contents Hash :=
  state.handleFlycheckMsg world (.addDiagnostic message.flycheckId message.generation
    message.packageId message.diagnostic message.mapped)

section Kinds

variable (world : World Contents Hash) (state : GlobalState Contents Hash)
  {message : DiagnosticMessage}

theorem diagnostics_handleDiagnostic_of_isModel (h : message.isModel = true) :
    (state.handleDiagnostic world message).diagnostics = state.diagnostics := by
  simp only [handleDiagnostic, handleFlycheckMsg, addDiagnostic]
  rw [if_pos (of_decide_eq_true h)]
  split <;> rfl

theorem handleDiagnostic_of_isEvent (hmodel : message.isModel = false)
    (hevent : message.isEvent = true) :
    state.handleDiagnostic world message
      = match (world.parseEventPayload message.diagnostic.message).filter (·.version = 1) with
        | none => state
        | some payload => message.mapped.foldl
          (recordLegacyEvent world message.flycheckId message.packageId payload) state := by
  simp only [handleDiagnostic, handleFlycheckMsg, addDiagnostic]
  rw [if_neg (of_decide_eq_false hmodel)]
  exact if_pos hevent

theorem handleDiagnostic_of_ordinary (hmodel : message.isModel = false)
    (hevent : message.isEvent = false) :
    state.handleDiagnostic world message
      = message.mapped.foldl (recordDiagnostic world message.flycheckId message.generation
        message.packageId message.diagnostic) state := by
  simp only [handleDiagnostic, handleFlycheckMsg, addDiagnostic]
  rw [if_neg (of_decide_eq_false hmodel)]
  exact if_neg (Bool.eq_false_iff.mp hevent)

end Kinds

end GlobalState

/-! ## Storing the facts -/

def Fact.isOwnership : Fact → Bool
  | .fix _ => false
  | .event _ | .diagnostic _ => true

theorem GlobalState.isOwnership_of_mem_mappedFacts {ownershipEnabled : Bool}
    {diagnostic : RustDiagnostic} {mapped : MappedRustDiagnostic} {fact : Fact}
    (h : fact ∈ mappedFacts ownershipEnabled diagnostic mapped) : fact.isOwnership = true := by
  unfold mappedFacts at h
  split at h
  · rcases List.mem_append.mp h with h | h
    · split at h
      · rw [List.mem_singleton.mp h]
        rfl
      · exact nomatch h
    · split at h
      · rw [List.mem_singleton.mp h]
        rfl
      · exact nomatch h
  · exact nomatch h

theorem GlobalState.isOwnership_of_mem_ownershipFacts {world : World Contents Hash}
    {state : GlobalState Contents Hash} {message : DiagnosticMessage} {fileId : FileId}
    {fact : Fact} (h : (fileId, fact) ∈ state.ownershipFacts world message) :
    fact.isOwnership = true := by
  unfold ownershipFacts at h
  split at h
  · exact nomatch h
  split at h
  · split at h
    · exact nomatch h
    · obtain ⟨mapped, -, hmem⟩ := List.mem_flatMap.mp h
      unfold legacyFacts at hmem
      split at hmem
      · exact nomatch hmem
      · cases List.mem_singleton.mp hmem
        rfl
  · obtain ⟨mapped, -, hmem⟩ := List.mem_flatMap.mp h
    unfold diagnosticFacts at hmem
    split at hmem
    · exact nomatch hmem
    · obtain ⟨fact, hfact, heq⟩ := List.mem_map.mp hmem
      cases heq
      exact isOwnership_of_mem_mappedFacts hfact

/-- The ownership facts after a report: the old ones and the reported ones. -/
def Reported (flycheckId : Nat) (packageId : Option PackageSpecifier)
    (facts : List (FileId × Fact)) (collection collection' : DiagnosticCollection) : Prop :=
  ∀ (place : Place) (fact : Fact), fact.isOwnership = true →
    (collection'.Stored place fact ↔ collection.Stored place fact
      ∨ place.flycheckId = flycheckId ∧ place.packageId = packageId
        ∧ (place.fileId, fact) ∈ facts)

namespace Reported

variable {flycheckId : Nat} {packageId : Option PackageSpecifier}
  {facts facts' : List (FileId × Fact)} {collection collection' collection'' : DiagnosticCollection}

theorem refl (flycheckId : Nat) (packageId : Option PackageSpecifier)
    (collection : DiagnosticCollection) :
    Reported flycheckId packageId [] collection collection :=
  fun _ _ _ => (or_iff_left fun h => absurd h.2.2 List.not_mem_nil).symm

theorem trans (h : Reported flycheckId packageId facts collection collection')
    (h' : Reported flycheckId packageId facts' collection' collection'') :
    Reported flycheckId packageId (facts ++ facts') collection collection'' := by
  intro place fact howner
  rw [h' place fact howner, h place fact howner, List.mem_append]
  tauto

/-- A report without facts, that changes neither store. -/
theorem of_eq (hevents : collection'.ownershipEvents = collection.ownershipEvents)
    (hdiagnostics : collection'.ownershipDiagnostics = collection.ownershipDiagnostics) :
    Reported flycheckId packageId [] collection collection' := by
  intro place fact howner
  cases fact with
  | fix fix => exact nomatch howner
  | event event => simp [DiagnosticCollection.Stored, hevents]
  | diagnostic diagnostic => simp [DiagnosticCollection.Stored, hdiagnostics]

theorem place_eq_iff {place : Place} {fileId : FileId} :
    place = ⟨flycheckId, packageId, fileId⟩
      ↔ place.flycheckId = flycheckId ∧ place.packageId = packageId ∧ place.fileId = fileId := by
  obtain ⟨flycheckId', packageId', fileId'⟩ := place
  exact Place.mk.injEq .. ▸ Iff.rfl

theorem addOwnershipEvent (fileId : FileId) (event : OwnershipEvent) :
    Reported flycheckId packageId [(fileId, .event event)] collection
      (collection.addOwnershipEvent flycheckId packageId fileId event) := by
  intro place fact _
  rw [collection.stored_addOwnershipEvent_iff ⟨flycheckId, packageId, fileId⟩ place event fact,
    place_eq_iff, List.mem_singleton, Prod.mk.injEq, and_assoc, and_assoc]

theorem addOwnershipDiagnostic (fileId : FileId) (diagnostic : OwnershipDiagnostic) :
    Reported flycheckId packageId [(fileId, .diagnostic diagnostic)] collection
      (collection.addOwnershipDiagnostic flycheckId packageId fileId diagnostic) := by
  intro place fact _
  rw [collection.stored_addOwnershipDiagnostic_iff ⟨flycheckId, packageId, fileId⟩ place diagnostic
    fact, place_eq_iff, List.mem_singleton, Prod.mk.injEq, and_assoc, and_assoc]

end Reported

namespace DiagnosticCollection

variable (collection : DiagnosticCollection) (flycheckId : Nat) (generation : DiagnosticsGeneration)
  (packageId : Option PackageSpecifier) (fileId : FileId) (diagnostic : Diagnostic)
  (fix : Option Fix)

theorem reported_addCheckDiagnostic : Reported flycheckId packageId [] collection
    (collection.addCheckDiagnostic flycheckId generation packageId fileId diagnostic fix) := by
  unfold addCheckDiagnostic
  dsimp only
  split
  · exact .refl _ _ _
  split
  · exact .of_eq rfl rfl
  · exact .of_eq rfl rfl

end DiagnosticCollection

namespace GlobalState

variable (world : World Contents Hash) (state : GlobalState Contents Hash) (flycheckId : Nat)
  (generation : DiagnosticsGeneration) (packageId : Option PackageSpecifier)

/-- One mapped diagnostic of a file stores its facts. -/
theorem reported_addMapped (ownershipEnabled : Bool) (diagnostic : RustDiagnostic)
    (fileId : FileId) (mapped : MappedRustDiagnostic) (collection : DiagnosticCollection) :
    Reported flycheckId packageId
      ((mappedFacts ownershipEnabled diagnostic mapped).map (fileId, ·)) collection
      (addMapped ownershipEnabled flycheckId generation packageId diagnostic fileId mapped
        collection) := by
  have hcheck := fun collection : DiagnosticCollection => collection.reported_addCheckDiagnostic
    flycheckId generation packageId fileId mapped.diagnostic mapped.fix
  unfold addMapped mappedFacts
  dsimp only
  cases shouldRecordInvalidUse mapped.diagnostic.severity with
  | false =>
    simp only [Bool.false_eq_true, if_false, Bool.and_false, List.map_nil]
    split <;> exact hcheck collection
  | true =>
    simp only [if_true, Bool.and_true, List.map_append]
    cases diagnostic.code.filter isTeachableRustDiagnostic with
    | none =>
      by_cases hrejected : (ownershipEnabled && diagnostic.code == some "E0382") = true
      · rw [if_pos hrejected, if_pos hrejected]
        exact (Reported.addOwnershipEvent fileId _).trans (hcheck _)
      · rw [if_neg hrejected, if_neg hrejected]
        exact hcheck collection
    | some code =>
      have htaught := @Reported.addOwnershipDiagnostic flycheckId packageId collection fileId
        (mappedOwnershipDiagnostic diagnostic code mapped)
      by_cases hrejected : (ownershipEnabled && diagnostic.code == some "E0382") = true
      · rw [if_pos hrejected, if_pos hrejected]
        exact htaught.trans ((Reported.addOwnershipEvent fileId _).trans (hcheck _))
      · rw [if_neg hrejected, if_neg hrejected]
        exact htaught.trans (hcheck _)

theorem reported_recordLegacyEvent (payload : OwnershipEventPayload)
    (mapped : MappedRustDiagnostic) :
    Reported flycheckId packageId (state.legacyFacts world payload mapped) state.diagnostics
      (state.recordLegacyEvent world flycheckId packageId payload mapped).diagnostics := by
  rw [recordLegacyEvent, legacyFacts]
  cases state.legacyBinding world payload mapped.url with
  | none => exact .refl flycheckId packageId _
  | some binding => exact .addOwnershipEvent _ _

theorem reported_recordDiagnostic (diagnostic : RustDiagnostic) (mapped : MappedRustDiagnostic) :
    Reported flycheckId packageId (state.diagnosticFacts world diagnostic mapped) state.diagnostics
      (state.recordDiagnostic world flycheckId generation packageId diagnostic mapped).diagnostics := by
  unfold recordDiagnostic diagnosticFacts
  cases state.urlToFileId world mapped.url with
  | none => exact .refl flycheckId packageId _
  | some fileId => exact reported_addMapped flycheckId generation packageId _ diagnostic _ mapped _

variable {state} {state' : GlobalState Contents Hash}

theorem SameFiles.legacyFacts (h : SameFiles state state') (payload : OwnershipEventPayload)
    (mapped : MappedRustDiagnostic) :
    state'.legacyFacts world payload mapped = state.legacyFacts world payload mapped := by
  simp only [GlobalState.legacyFacts, legacyBinding, urlToFileId, h.vfs, h.texts]

theorem SameFiles.diagnosticFacts (h : SameFiles state state') (diagnostic : RustDiagnostic)
    (mapped : MappedRustDiagnostic) :
    state'.diagnosticFacts world diagnostic mapped
      = state.diagnosticFacts world diagnostic mapped := by
  simp only [GlobalState.diagnosticFacts, urlToFileId, h.vfs]

/-- A loop over the mapped diagnostics stores the facts of all of them. -/
theorem reported_foldl {record : GlobalState Contents Hash → MappedRustDiagnostic →
      GlobalState Contents Hash}
    {facts : GlobalState Contents Hash → MappedRustDiagnostic → List (FileId × Fact)}
    (hrecord : ∀ state mapped, Reported flycheckId packageId (facts state mapped) state.diagnostics
      (record state mapped).diagnostics)
    (hsame : ∀ state mapped, SameFiles state (record state mapped))
    (hfacts : ∀ {state state'} mapped, SameFiles state state' →
      facts state' mapped = facts state mapped) :
    ∀ (mapped : List MappedRustDiagnostic) (state : GlobalState Contents Hash),
      Reported flycheckId packageId (mapped.flatMap (facts state)) state.diagnostics
        (mapped.foldl record state).diagnostics
  | [], _ => .refl flycheckId packageId _
  | head :: mapped, state => by
    have hrest := reported_foldl hrecord hsame hfacts mapped (record state head)
    rw [List.flatMap_congr fun next _ => hfacts next (hsame state head)] at hrest
    exact (hrecord state head).trans hrest

/-- **A message stores the ownership facts it has**, whatever its generation. -/
theorem reported_handleDiagnostic (state : GlobalState Contents Hash) (message : DiagnosticMessage) :
    Reported message.flycheckId message.packageId (state.ownershipFacts world message)
      state.diagnostics (state.handleDiagnostic world message).diagnostics := by
  unfold ownershipFacts
  cases hmodel : message.isModel with
  | true =>
    rw [if_pos rfl]
    have hsame := diagnostics_handleDiagnostic_of_isModel world state hmodel
    exact .of_eq (congrArg _ hsame) (congrArg _ hsame)
  | false =>
    rw [if_neg Bool.false_ne_true]
    cases hevent : message.isEvent with
    | true =>
      rw [if_pos rfl, handleDiagnostic_of_isEvent world state hmodel hevent]
      cases (world.parseEventPayload message.diagnostic.message).filter (·.version = 1) with
      | none => exact .refl _ _ _
      | some payload =>
        exact reported_foldl message.flycheckId message.packageId
          (fun state mapped => reported_recordLegacyEvent world state _ _ payload mapped)
          (fun state mapped => sameFiles_recordLegacyEvent world state _ _ payload mapped)
          (fun mapped h => h.legacyFacts world payload mapped) message.mapped state
    | false =>
      rw [if_neg Bool.false_ne_true, handleDiagnostic_of_ordinary world state hmodel hevent]
      exact reported_foldl message.flycheckId message.packageId
        (fun state mapped => reported_recordDiagnostic world state _ message.generation _
          message.diagnostic mapped)
        (fun state mapped => sameFiles_recordDiagnostic world state _ _ _ message.diagnostic mapped)
        (fun mapped h => h.diagnosticFacts world message.diagnostic mapped) message.mapped state

end GlobalState

/-! ## Generations -/

namespace DiagnosticCollection

/-- The check store has the package in generation `generation` or a later one. -/
def HasGeneration (collection : DiagnosticCollection) (flycheckId : Nat)
    (packageId : Option PackageSpecifier) (generation : DiagnosticsGeneration) : Prop :=
  ∃ package, (collection.check[flycheckId]?.getD []).get? packageId = some package
    ∧ generation ≤ package.generation

theorem HasGeneration.congr {collection collection' : DiagnosticCollection} {flycheckId : Nat}
    {packageId : Option PackageSpecifier} {generation : DiagnosticsGeneration}
    (h : collection.HasGeneration flycheckId packageId generation)
    (hcheck : collection'.check = collection.check) :
    collection'.HasGeneration flycheckId packageId generation := by
  unfold HasGeneration
  rw [hcheck]
  exact h

/-- The check diagnostics and the fixes are the same. -/
structure SameChecks (collection collection' : DiagnosticCollection) : Prop where
  check : collection'.check = collection.check
  fixes : collection'.checkFixes = collection.checkFixes

theorem SameChecks.trans {collection collection' collection'' : DiagnosticCollection}
    (h : SameChecks collection collection') (h' : SameChecks collection' collection'') :
    SameChecks collection collection'' :=
  ⟨h'.check.trans h.check, h'.fixes.trans h.fixes⟩

section AddCheckDiagnostic

variable {collection : DiagnosticCollection} {flycheckId : Nat} {generation : DiagnosticsGeneration}
  {packageId : Option PackageSpecifier} {fileId : FileId} {diagnostic : Diagnostic}
  {fix : Option Fix}

/-- The generation guard: a package of a newer generation refuses the diagnostic. -/
theorem addCheckDiagnostic_of_newer {newer : DiagnosticsGeneration}
    (h : collection.HasGeneration flycheckId packageId newer) (hlate : generation < newer) :
    collection.addCheckDiagnostic flycheckId generation packageId fileId diagnostic fix
      = collection := by
  obtain ⟨package, hpackage, hnewer⟩ := h
  unfold addCheckDiagnostic
  dsimp only
  rw [hpackage, Option.getD_some, if_pos (lt_of_lt_of_le hlate hnewer)]

/-- The check store after a diagnostic: unchanged, or its package is set to its generation. -/
theorem check_addCheckDiagnostic :
    (∃ package, (collection.check[flycheckId]?.getD []).get? packageId = some package
        ∧ generation < package.generation
        ∧ (collection.addCheckDiagnostic flycheckId generation packageId fileId diagnostic
          fix).check = collection.check)
      ∨ (∀ package, (collection.check[flycheckId]?.getD []).get? packageId = some package →
          package.generation ≤ generation)
        ∧ ∃ package : PackageFlycheckDiagnostic, package.generation = generation
          ∧ (collection.addCheckDiagnostic flycheckId generation packageId fileId diagnostic
            fix).check = updateFlycheck collection.check flycheckId (·.insert packageId package) := by
  unfold addCheckDiagnostic
  dsimp only
  split
  · rename_i hnewer
    cases hpackage : (collection.check[flycheckId]?.getD []).get? packageId with
    | none =>
      rw [hpackage] at hnewer
      exact absurd hnewer (lt_irrefl generation)
    | some package =>
      rw [hpackage] at hnewer
      exact .inl ⟨package, rfl, hnewer, rfl⟩
  · rename_i hcurrent
    refine .inr ⟨fun package hpackage => ?_, ?_⟩
    · rw [hpackage] at hcurrent
      exact not_lt.mp hcurrent
    · split
      · exact ⟨_, rfl, rfl⟩
      · exact ⟨_, rfl, rfl⟩

/-- A diagnostic leaves its package in its generation or a later one. -/
theorem hasGeneration_addCheckDiagnostic :
    (collection.addCheckDiagnostic flycheckId generation packageId fileId diagnostic
      fix).HasGeneration flycheckId packageId generation := by
  rcases @check_addCheckDiagnostic collection flycheckId generation packageId fileId diagnostic fix
    with ⟨package, hpackage, hnewer, hcheck⟩ | ⟨-, package, hgeneration, hcheck⟩
  · refine ⟨package, ?_, hnewer.le⟩
    rw [hcheck]
    exact hpackage
  · refine ⟨package, ?_, hgeneration.ge⟩
    rw [hcheck, getD_updateFlycheck, if_pos rfl, Assoc.Map.get?_insert, if_pos rfl]

/-- Generations only grow. -/
theorem HasGeneration.addCheckDiagnostic {flycheckId' : Nat}
    {packageId' : Option PackageSpecifier} {generation' : DiagnosticsGeneration}
    (h : collection.HasGeneration flycheckId' packageId' generation') :
    (collection.addCheckDiagnostic flycheckId generation packageId fileId diagnostic
      fix).HasGeneration flycheckId' packageId' generation' := by
  obtain ⟨old, hold, hle⟩ := h
  rcases @check_addCheckDiagnostic collection flycheckId generation packageId fileId diagnostic fix
    with ⟨-, -, -, hcheck⟩ | ⟨hcurrent, package, hgeneration, hcheck⟩
  · refine ⟨old, ?_, hle⟩
    rw [hcheck]
    exact hold
  · unfold HasGeneration
    rw [hcheck, getD_updateFlycheck]
    by_cases hflycheck : flycheckId' = flycheckId
    · subst hflycheck
      rw [if_pos rfl, Assoc.Map.get?_insert]
      by_cases hpackage : packageId' = packageId
      · subst hpackage
        rw [if_pos rfl]
        exact ⟨package, rfl, hgeneration ▸ hle.trans (hcurrent old hold)⟩
      · rw [if_neg hpackage]
        exact ⟨old, hold, hle⟩
    · rw [if_neg hflycheck]
      exact ⟨old, hold, hle⟩

end AddCheckDiagnostic

end DiagnosticCollection

namespace GlobalState

open DiagnosticCollection

section Generations

variable {world : World Contents Hash} {state : GlobalState Contents Hash} {flycheckId : Nat}
  {packageId : Option PackageSpecifier} {generation : DiagnosticsGeneration}

/-- A mapped diagnostic reaches the check store last, with the store as it was. -/
theorem exists_addMapped (ownershipEnabled : Bool) (flycheckId : Nat)
    (generation : DiagnosticsGeneration) (packageId : Option PackageSpecifier)
    (diagnostic : RustDiagnostic) (fileId : FileId) (mapped : MappedRustDiagnostic)
    (collection : DiagnosticCollection) :
    ∃ reported, SameChecks collection reported
      ∧ addMapped ownershipEnabled flycheckId generation packageId diagnostic fileId mapped
        collection = reported.addCheckDiagnostic flycheckId generation packageId fileId
          mapped.diagnostic mapped.fix := by
  unfold addMapped
  refine ⟨_, ⟨?_, ?_⟩, rfl⟩ <;>
    · repeat' split
      all_goals rfl

theorem sameChecks_recordLegacyEvent (payload : OwnershipEventPayload)
    (mapped : MappedRustDiagnostic) :
    SameChecks state.diagnostics
      (state.recordLegacyEvent world flycheckId packageId payload mapped).diagnostics := by
  rw [recordLegacyEvent]
  split <;> exact ⟨rfl, rfl⟩

/-- A mapped diagnostic keeps the generation of every package. -/
theorem hasGeneration_recordDiagnostic {flycheckId' : Nat} {packageId' : Option PackageSpecifier}
    {generation' : DiagnosticsGeneration} (diagnostic : RustDiagnostic)
    (mapped : MappedRustDiagnostic)
    (h : state.diagnostics.HasGeneration flycheckId' packageId' generation') :
    (state.recordDiagnostic world flycheckId generation packageId diagnostic
      mapped).diagnostics.HasGeneration flycheckId' packageId' generation' := by
  unfold recordDiagnostic
  split
  · exact h
  · rename_i fileId _
    obtain ⟨reported, hsame, heq⟩ := exists_addMapped world.ownershipEnabled flycheckId generation
      packageId diagnostic fileId mapped state.diagnostics
    rw [heq]
    exact (h.congr hsame.check).addCheckDiagnostic

/-- A mapped diagnostic in a file of the server leaves its package in its generation or a later
one. -/
theorem hasGeneration_recordDiagnostic_self (diagnostic : RustDiagnostic)
    {mapped : MappedRustDiagnostic} (h : (state.urlToFileId world mapped.url).isSome = true) :
    (state.recordDiagnostic world flycheckId generation packageId diagnostic
      mapped).diagnostics.HasGeneration flycheckId packageId generation := by
  obtain ⟨fileId, hfile⟩ := Option.isSome_iff_exists.mp h
  obtain ⟨reported, -, heq⟩ := exists_addMapped world.ownershipEnabled flycheckId generation
    packageId diagnostic fileId mapped state.diagnostics
  unfold recordDiagnostic
  rw [hfile]
  dsimp only
  rw [heq]
  exact hasGeneration_addCheckDiagnostic

/-- A mapped diagnostic of an older generation leaves the check diagnostics and the fixes alone. -/
theorem sameChecks_recordDiagnostic_of_newer {newer : DiagnosticsGeneration}
    (diagnostic : RustDiagnostic) (mapped : MappedRustDiagnostic)
    (h : state.diagnostics.HasGeneration flycheckId packageId newer) (hlate : generation < newer) :
    SameChecks state.diagnostics (state.recordDiagnostic world flycheckId generation packageId
      diagnostic mapped).diagnostics := by
  unfold recordDiagnostic
  split
  · exact ⟨rfl, rfl⟩
  · rename_i fileId _
    obtain ⟨reported, hsame, heq⟩ := exists_addMapped world.ownershipEnabled flycheckId generation
      packageId diagnostic fileId mapped state.diagnostics
    dsimp only
    rw [heq, addCheckDiagnostic_of_newer (h.congr hsame.check) hlate]
    exact hsame

/-! ### Loops over the mapped diagnostics -/

/-- A loop keeps of the diagnostics what every round keeps. -/
theorem foldl_keeps (P : DiagnosticCollection → Prop)
    {record : GlobalState Contents Hash → MappedRustDiagnostic → GlobalState Contents Hash}
    (hrecord : ∀ state mapped, P state.diagnostics → P (record state mapped).diagnostics) :
    ∀ (mapped : List MappedRustDiagnostic) (state : GlobalState Contents Hash),
      P state.diagnostics → P (mapped.foldl record state).diagnostics
  | [], _, h => h
  | head :: mapped, state, h => foldl_keeps P hrecord mapped _ (hrecord state head h)

/-- A loop over mapped diagnostics, one of them in a file of the server. -/
theorem hasGeneration_foldl_recordDiagnostic (diagnostic : RustDiagnostic) :
    ∀ (mapped : List MappedRustDiagnostic) (state : GlobalState Contents Hash),
      (∃ entry ∈ mapped, (state.urlToFileId world entry.url).isSome = true) →
      (mapped.foldl (recordDiagnostic world flycheckId generation packageId diagnostic)
        state).diagnostics.HasGeneration flycheckId packageId generation
  | [], _, h => by
    obtain ⟨entry, hmem, -⟩ := h
    exact nomatch hmem
  | head :: mapped, state, h => by
    rw [List.foldl_cons]
    by_cases hhead : (state.urlToFileId world head.url).isSome = true
    · exact foldl_keeps (·.HasGeneration flycheckId packageId generation)
        (fun _ mapped => hasGeneration_recordDiagnostic diagnostic mapped) mapped _
        (hasGeneration_recordDiagnostic_self diagnostic hhead)
    · refine hasGeneration_foldl_recordDiagnostic diagnostic mapped _ ?_
      obtain ⟨entry, hmem, hfile⟩ := h
      rcases List.mem_cons.mp hmem with rfl | hmem
      · exact absurd hfile hhead
      · refine ⟨entry, hmem, ?_⟩
        have hsame := sameFiles_recordDiagnostic world state flycheckId generation packageId
          diagnostic head
        rw [urlToFileId, hsame.vfs]
        exact hfile

variable {message : DiagnosticMessage}

/-- Messages keep the generation of every package. -/
theorem hasGeneration_handleDiagnostic
    (h : state.diagnostics.HasGeneration flycheckId packageId generation) :
    (state.handleDiagnostic world message).diagnostics.HasGeneration flycheckId packageId
      generation := by
  cases hmodel : message.isModel with
  | true => rwa [diagnostics_handleDiagnostic_of_isModel world state hmodel]
  | false =>
    cases hevent : message.isEvent with
    | true =>
      rw [handleDiagnostic_of_isEvent world state hmodel hevent]
      split
      · exact h
      · exact foldl_keeps (·.HasGeneration flycheckId packageId generation) (fun _ mapped hstate =>
          hstate.congr (sameChecks_recordLegacyEvent _ mapped).check) message.mapped state h
    | false =>
      rw [handleDiagnostic_of_ordinary world state hmodel hevent]
      exact foldl_keeps (·.HasGeneration flycheckId packageId generation)
        (fun _ mapped => hasGeneration_recordDiagnostic message.diagnostic mapped)
        message.mapped state h

/-- **A message of an older generation leaves the check diagnostics and the fixes alone.** -/
theorem sameChecks_handleDiagnostic_of_newer {newer : DiagnosticsGeneration}
    (h : state.diagnostics.HasGeneration message.flycheckId message.packageId newer)
    (hlate : message.generation < newer) :
    SameChecks state.diagnostics (state.handleDiagnostic world message).diagnostics := by
  cases hmodel : message.isModel with
  | true =>
    rw [diagnostics_handleDiagnostic_of_isModel world state hmodel]
    exact ⟨rfl, rfl⟩
  | false =>
    cases hevent : message.isEvent with
    | true =>
      rw [handleDiagnostic_of_isEvent world state hmodel hevent]
      split
      · exact ⟨rfl, rfl⟩
      · exact foldl_keeps (SameChecks state.diagnostics)
          (fun _ mapped hsame => hsame.trans (sameChecks_recordLegacyEvent _ mapped))
          message.mapped state ⟨rfl, rfl⟩
    | false =>
      rw [handleDiagnostic_of_ordinary world state hmodel hevent]
      -- The guard reads the check store, which stays as it was.
      exact foldl_keeps (SameChecks state.diagnostics)
        (fun _ mapped hsame => hsame.trans (sameChecks_recordDiagnostic_of_newer
          message.diagnostic mapped (h.congr hsame.check) hlate))
        message.mapped state ⟨rfl, rfl⟩

end Generations

end GlobalState

end RustWorkbench.Analyzer
