import RustWorkbench.Analyzer.Reports
import RustWorkbench.Analyzer.Stale

/-!
# Messages of an older check

A check that is restarted may leave messages of its older generation on the way.  The collection
refuses their check diagnostics and fixes once a newer generation was accepted for the package, but
the ownership facts of a message are stored before the generation is looked at.

* `late_message_adds_nothing_iff` — a late message adds nothing exactly when it has no ownership
  fact that is not stored already.
* `late_error_adds_facts` — a late error that does.
-/

namespace RustWorkbench.Analyzer

open Runs (Run System anyStep)

variable {Contents Hash : Type}

/-- Messages with diagnostics, in any order. -/
def messageSystem (world : World Contents Hash) (start : GlobalState Contents Hash) :
    System (GlobalState Contents Hash) DiagnosticMessage where
  init := start
  step state message := some (state.handleDiagnostic world message)

/-- A diagnostic of the message is in a file of the server, and the package is not of a newer
generation. -/
structure Accepted (world : World Contents Hash) (state : GlobalState Contents Hash)
    (message : DiagnosticMessage) : Prop where
  notModel : message.isModel = false
  notEvent : message.isEvent = false
  inFile : ∃ mapped ∈ message.mapped, (state.urlToFileId world mapped.url).isSome = true
  current : ∀ package,
    (state.diagnostics.check[message.flycheckId]?.getD []).get? message.packageId = some package →
      package.generation ≤ message.generation

/-- No check diagnostic, no fix, no ownership diagnostic and no ownership event is added. -/
structure AddsNothing (collection collection' : DiagnosticCollection) : Prop where
  checks : collection.SameChecks collection'
  ownership : ∀ place fact, fact.isOwnership = true → collection'.Stored place fact →
    collection.Stored place fact

section Late

variable {world : World Contents Hash} {start state : GlobalState Contents Hash}
  {history : List (GlobalState Contents Hash × DiagnosticMessage)}

theorem Accepted.hasGeneration {message : DiagnosticMessage} (h : Accepted world state message) :
    (state.handleDiagnostic world message).diagnostics.HasGeneration message.flycheckId
      message.packageId message.generation := by
  rw [state.handleDiagnostic_of_ordinary world h.notModel h.notEvent]
  exact GlobalState.hasGeneration_foldl_recordDiagnostic message.diagnostic message.mapped state
    h.inFile

/-- **The package keeps the generation of every message that was accepted.** -/
theorem hasGeneration_of_accepted (h : Run (messageSystem world start) anyStep history state) :
    ∀ accepted ∈ history, Accepted world accepted.1 accepted.2 →
      state.diagnostics.HasGeneration accepted.2.flycheckId accepted.2.packageId
        accepted.2.generation := by
  refine h.invariant_history (I := fun history state => ∀ accepted ∈ history,
    Accepted world accepted.1 accepted.2 → state.diagnostics.HasGeneration accepted.2.flycheckId
      accepted.2.packageId accepted.2.generation) (fun _ hmem => nomatch hmem) ?_
  intro history state message state' hkept _ hstep accepted hmem haccepted
  cases hstep
  rcases List.mem_append.mp hmem with hmem | hmem
  · exact GlobalState.hasGeneration_handleDiagnostic (hkept accepted hmem haccepted)
  · obtain rfl := List.mem_singleton.mp hmem
    exact haccepted.hasGeneration

theorem addsNothing_iff_of_newer {late : DiagnosticMessage} {newer : DiagnosticsGeneration}
    (h : state.diagnostics.HasGeneration late.flycheckId late.packageId newer)
    (hlate : late.generation < newer) :
    AddsNothing state.diagnostics (state.handleDiagnostic world late).diagnostics
      ↔ ∀ fact ∈ state.ownershipFacts world late,
        state.diagnostics.Stored ⟨late.flycheckId, late.packageId, fact.1⟩ fact.2 := by
  have hreported := GlobalState.reported_handleDiagnostic world state late
  constructor
  · rintro hnothing ⟨fileId, fact⟩ hmem
    have howner := GlobalState.isOwnership_of_mem_ownershipFacts hmem
    refine hnothing.ownership _ fact howner ((hreported _ fact howner).mpr (.inr ⟨rfl, rfl, hmem⟩))
  · intro hknown
    refine ⟨GlobalState.sameChecks_handleDiagnostic_of_newer h hlate,
      fun place fact howner hstored => ?_⟩
    rcases (hreported place fact howner).mp hstored with hstored | ⟨hflycheck, hpackage, hmem⟩
    · exact hstored
    · have hplace := hknown _ hmem
      rwa [← hflycheck, ← hpackage] at hplace

/-- **A late message adds nothing exactly when it has nothing new to say about ownership**, over
every order of messages: once a message of a newer generation has been accepted for its flycheck
and package. -/
theorem late_message_adds_nothing_iff
    (h : Run (messageSystem world start) anyStep history state)
    {accepted : GlobalState Contents Hash × DiagnosticMessage} (hmem : accepted ∈ history)
    (haccepted : Accepted world accepted.1 accepted.2) {late : DiagnosticMessage}
    (hflycheck : late.flycheckId = accepted.2.flycheckId)
    (hpackage : late.packageId = accepted.2.packageId)
    (hlate : late.generation < accepted.2.generation) :
    AddsNothing state.diagnostics (state.handleDiagnostic world late).diagnostics
      ↔ ∀ fact ∈ state.ownershipFacts world late,
        state.diagnostics.Stored ⟨late.flycheckId, late.packageId, fact.1⟩ fact.2 := by
  refine addsNothing_iff_of_newer ?_ hlate
  rw [hflycheck, hpackage]
  exact hasGeneration_of_accepted h accepted hmem haccepted

end Late

/-! ## Two late messages -/

/-- A warning in the only file. -/
def unusedVariable (generation : DiagnosticsGeneration) : DiagnosticMessage :=
  { flycheckId := 0
    generation
    packageId := none
    diagnostic := ⟨some "unused_variables", "unused variable: `b`"⟩
    mapped := [⟨"main.rs",
      ⟨columns 4 5, some .warning, some "rustc", "unused variable: `b`", none⟩, none⟩] }

/-- An error in the only file. -/
def movedUse (generation : DiagnosticsGeneration) : DiagnosticMessage :=
  { flycheckId := 0
    generation
    packageId := none
    diagnostic := ⟨some "E0382", "use of moved value: `a`"⟩
    mapped := [⟨"main.rs",
      ⟨columns 8 9, some .error, some "rustc", "use of moved value: `a`", none⟩, none⟩] }

/-- A message of the second check. -/
theorem accepted_unusedVariable : Accepted plainWorld opened (unusedVariable 2) where
  notModel := rfl
  notEvent := by decide
  inFile := ⟨_, List.mem_singleton.mpr rfl, rfl⟩
  current package hpackage := nomatch hpackage

theorem run_unusedVariable : Run (messageSystem plainWorld opened) anyStep
    [(opened, unusedVariable 2)] (opened.handleDiagnostic plainWorld (unusedVariable 2)) :=
  .snoc .start trivial rfl

/-- A late warning is ignored. -/
theorem late_warning_ignored :
    AddsNothing (opened.handleDiagnostic plainWorld (unusedVariable 2)).diagnostics
      ((opened.handleDiagnostic plainWorld (unusedVariable 2)).handleDiagnostic plainWorld
        (unusedVariable 1)).diagnostics := by
  refine (@late_message_adds_nothing_iff _ _ plainWorld opened _ _ run_unusedVariable _
    (List.mem_singleton.mpr rfl) accepted_unusedVariable (unusedVariable 1) rfl rfl
    (by decide)).mpr ?_
  have hnone : (opened.handleDiagnostic plainWorld (unusedVariable 2)).ownershipFacts plainWorld
      (unusedVariable 1) = [] := rfl
  rw [hnone]
  exact fun _ hmem => nomatch hmem

/-- **A late error adds its ownership facts.**  The second check has only a warning; then the error
of the first check arrives. -/
theorem late_error_adds_facts :
    ∃ history state, Run (messageSystem plainWorld opened) anyStep history state
      ∧ ∃ accepted ∈ history, Accepted plainWorld accepted.1 accepted.2
        ∧ ∃ late : DiagnosticMessage, late.flycheckId = accepted.2.flycheckId
          ∧ late.packageId = accepted.2.packageId ∧ late.generation < accepted.2.generation
          ∧ ¬ AddsNothing state.diagnostics (state.handleDiagnostic plainWorld late).diagnostics := by
  refine ⟨_, _, run_unusedVariable, _, List.mem_singleton.mpr rfl, accepted_unusedVariable,
    movedUse 1, rfl, rfl, by decide, fun hnothing => ?_⟩
  have hnewer := hasGeneration_of_accepted run_unusedVariable _ (List.mem_singleton.mpr rfl)
    accepted_unusedVariable
  have hknown := (@addsNothing_iff_of_newer _ _ plainWorld _ (movedUse 1) _ hnewer
    (by decide)).mp hnothing
  have hempty : (opened.handleDiagnostic plainWorld (unusedVariable 2)).diagnostics.ownershipEvents
      = [] := rfl
  have hstored := hknown
    (0, .event (GlobalState.invalidUseEvent (movedUse 1).diagnostic (columns 8 9)))
    (List.mem_cons_of_mem _ (List.mem_singleton.mpr rfl))
  rw [DiagnosticCollection.Stored, hempty] at hstored
  cases hstored

end RustWorkbench.Analyzer
