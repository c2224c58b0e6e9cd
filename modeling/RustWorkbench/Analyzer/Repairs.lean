import RustWorkbench.Analyzer.Preview
import RustWorkbench.Analyzer.Selection
import Mathlib.Data.List.MinMax

/-!
# Repairs

The repairs listed with an ownership model: fixes that rustc suggests for the selected
diagnostic, wrapper rewrites that a check run has validated, and unvalidated wrapper assists for
the strategies that have no validated rewrite.
-/

namespace RustWorkbench.Analyzer

open StableSort (sortByKey)

/-! ## Strategies -/

namespace OwnershipWrapperFix

def previewOrder : OwnershipWrapperFix → Nat
  | rc => 0
  | arc => 1
  | refCell => 2
  | mutex => 3
  | rwLock => 4
  | rcRefCell => 5
  | arcMutex => 6
  | arcRwLock => 7
  | all => 8

def runtimeSemantics : OwnershipWrapperFix → String
  | rc => "single-threaded shared ownership; cloning increments a reference count"
  | arc => "thread-safe shared ownership; cloning increments an atomic reference count"
  | refCell => "single-threaded interior mutability; conflicting borrows panic at runtime"
  | mutex => "exclusive synchronized mutation; access locks and can report poisoning"
  | rwLock => "synchronized mutation with multiple readers or one writer; access can report "
      ++ "poisoning"
  | rcRefCell => "single-threaded shared mutation; cloning shares runtime-checked interior state"
  | arcMutex => "thread-safe shared mutation; every access takes an exclusive lock"
  | arcRwLock => "thread-safe shared mutation; reads share a lock while writes are exclusive"
  | all => "compiler-validated ownership-wrapper rewrite"

end OwnershipWrapperFix

def ownershipWrapperCode : OwnershipWrapperFix → String
  | .arc => "arc"
  | .arcMutex => "arc_mutex"
  | .arcRwLock => "arc_rw_lock"
  | .mutex => "mutex"
  | .rc => "rc"
  | .refCell => "ref_cell"
  | .rcRefCell => "rc_ref_cell"
  | .rwLock => "rw_lock"
  | .all => "all"

def ownershipRepairId (strategy : OwnershipWrapperFix) (index : Nat) : String :=
  ownershipWrapperCode strategy ++ "-" ++ toString index

def ownershipLanguageRepairId (index : Nat) : String := "language-fix-" ++ toString index

def ownershipRepairEffects : OwnershipWrapperFix → OwnershipRepairEffects
  | .rc =>
    { ownership := "shared by non-atomic reference counting"
      mutation := "immutable unless the inner type provides mutation"
      threadSafety := "single-thread only"
      runtimeRisk := "cycles can leak"
      cost := "clone/drop updates counters" }
  | .arc =>
    { ownership := "shared by atomic reference counting"
      mutation := "immutable unless the inner type provides synchronization"
      threadSafety := "may cross threads when the inner type permits"
      runtimeRisk := "cycles can leak"
      cost := "atomic counter operations" }
  | .refCell | .rcRefCell =>
    { ownership := "single owner or Rc-shared owner"
      mutation := "checked dynamically with borrow/borrow_mut"
      threadSafety := "single-thread only"
      runtimeRisk := "conflicting borrows panic"
      cost := "runtime borrow-flag checks" }
  | .mutex | .arcMutex =>
    { ownership := "single owner or Arc-shared owner"
      mutation := "exclusive mutation through a lock guard"
      threadSafety := "thread-safe when the inner type permits"
      runtimeRisk := "locking can block and poisoning must be handled"
      cost := "lock acquisition on access" }
  | .rwLock | .arcRwLock =>
    { ownership := "single owner or Arc-shared owner"
      mutation := "multiple readers or one writer through lock guards"
      threadSafety := "thread-safe when the inner type permits"
      runtimeRisk := "locking can block and poisoning must be handled"
      cost := "reader/writer lock acquisition" }
  | .all =>
    { ownership := "multiple compiler-validated rewrites"
      mutation := "depends on selected rewrite"
      threadSafety := "depends on selected rewrite"
      runtimeRisk := "review every candidate's runtime semantics"
      cost := "depends on selected rewrite" }

def ownershipLanguageRepairEffects (title : String) : OwnershipRepairEffects :=
  let title := toAsciiLowercase title
  if containsText title "mutable reference" || containsText title "mut" then
    { ownership := "keeps ordinary unique ownership"
      mutation := "grants compile-time checked exclusive mutable access"
      threadSafety := "unchanged; callers must satisfy the existing Send/Sync constraints"
      runtimeRisk := "none added; borrow conflicts remain compile-time errors"
      cost := "zero-cost access change; callers may need mutable bindings" }
  else
    { ownership := "follows the compiler-proposed source change"
      mutation := "depends on the compiler suggestion"
      threadSafety := "must be rechecked at affected callers"
      runtimeRisk := "no wrapper runtime behavior is assumed"
      cost := "validated by a fresh Cargo check before the result is claimed" }

/-! ## The preview graph -/

def previewNode (place : String) (range : Range) (provenance id label typeName kind
    storage : String) : OwnershipMemoryNode where
  id := "preview-" ++ id
  bodyId := 0
  place := place
  kind := kind
  storage := storage
  label := label
  typeName := typeName
  size := none
  align := none
  range := some range
  state := "available_after_rewrite"
  provenance := provenance
  physicalPlacementNote := "Counterfactual source-level topology; runtime addresses, counts, and "
    ++ "lock/borrow state remain unknown."
  truncated := false

def previewEdge (range : Range) (provenance id source target relation : String) :
    OwnershipMemoryEdge where
  id := "preview-" ++ id
  source := "preview-" ++ source
  target := "preview-" ++ target
  relation := relation
  eventId := none
  loanId := none
  range := some range
  provenance := provenance
  pathMarker := some "counterfactual_rewrite"

/-- Handle type, whether the rewrite shares the value, and the runtime gate it adds. -/
def previewShape : OwnershipWrapperFix → Option (String × Bool × Option String)
  | .rc => some ("Rc<T>", true, none)
  | .arc => some ("Arc<T>", true, none)
  | .refCell => some ("RefCell<T>", false, some "runtime borrow flag")
  | .mutex => some ("Mutex<T>", false, some "exclusive lock gate")
  | .rwLock => some ("RwLock<T>", false, some "reader/writer lock gate")
  | .rcRefCell => some ("Rc<RefCell<T>>", true, some "runtime borrow flag")
  | .arcMutex => some ("Arc<Mutex<T>>", true, some "exclusive lock gate")
  | .arcRwLock => some ("Arc<RwLock<T>>", true, some "reader/writer lock gate")
  | .all => none

def ownershipRepairPreviewGraph (strategy : OwnershipWrapperFix) (place : String) (range : Range)
    (compilerValidated : Bool) : Option OwnershipMemoryGraph :=
  (previewShape strategy).map fun (handleType, shared, gate) =>
    let provenance :=
      if compilerValidated then "derived_from_compiler_validated_rewrite"
      else "conceptual_candidate"
    let node := previewNode place range provenance
    let edge := previewEdge range provenance
    let handle := node "handle" ("rewritten `" ++ place ++ "`") handleType "binding" "stack"
    let sharedNodes :=
      if shared then
        [node "allocation" "shared control block and allocation"
          "shared allocation; count is symbolic" "control_block" "heap"]
      else []
    let sharedEdges :=
      if shared then [edge "shares" "handle" "allocation" "shares_allocation"] else []
    let parent := if shared then "allocation" else "handle"
    let gateNodes := gate.toList.map fun gate =>
      node "gate" gate "runtime access state is not sampled"
        (if containsText gate "lock" then "lock_state" else "borrow_flag") "inline"
    let gateEdges := gate.toList.map fun _ => edge "gate" parent "gate" "guards_access"
    let parent := if gate.isSome then "gate" else parent
    let value := node "value" "inner value" "T" "inline_value" (if shared then "heap" else "inline")
    { nodes := [handle] ++ sharedNodes ++ gateNodes ++ [value]
      edges := sharedEdges ++ gateEdges ++ [edge "value" parent "value" "contains"] }

/-! ## The fixes at a position -/

/-- The fixes stored for a file, over all flychecks and packages. -/
def storedFixes (snap : Snapshot) (fileId : FileId) : List Fix :=
  (snap.checkFixes.forFile fileId).flatten

/-- `ownership_fixes_at`. -/
def ownershipFixesAt (snap : Snapshot) (fileId : FileId) (request : Range)
    (selected : Option OwnershipEvent) : List Fix :=
  sortByKey (fun fix => (fix.ownershipWrapper.map OwnershipWrapperFix.previewOrder).elim 0 (· + 1))
    ((storedFixes snap fileId).filter fun fix =>
      fix.ownershipWrapper.any (· != .all)
        && fix.ranges.any fun range =>
          rangesTouch range request
            || selected.any fun event =>
              rangesTouch range event.range || rangesTouch range event.bindingRange)

/-- `ownership_language_fixes_for_diagnostic`: preferred fixes first, then by title. -/
def ownershipLanguageFixesForDiagnostic (snap : Snapshot) (fileId : FileId)
    (diagnostic : Option OwnershipDiagnostic) : List Fix :=
  match diagnostic with
  | none => []
  | some diagnostic =>
    sortByKey (fun fix =>
        toLex (if fix.action.isPreferred.getD false then 0 else 1, fix.action.title))
      ((storedFixes snap fileId).filter fun fix =>
        fix.ownershipWrapper.isNone && fix.action.edit.isSome
          && fix.ranges.any fun range =>
            rangesTouch range diagnostic.range
              || diagnostic.related.any fun related => rangesTouch range related.range)

def heuristicOwnershipStrategy : String → Option OwnershipWrapperFix
  | "Use Rc for shared ownership (unvalidated)" => some .rc
  | "Use RefCell for interior mutability (unvalidated)" => some .refCell
  | "Use Rc<RefCell<_>> for shared mutable ownership (unvalidated)" => some .rcRefCell
  | _ => none

/-- `ownership_candidate_fixes`: the assists with a known title. -/
def ownershipCandidateFixes (snap : Snapshot) (fileId : FileId) (fileRange : TextRange)
    (request : Range) : List Fix :=
  sortByKey (fun fix => (fix.ownershipWrapper.map OwnershipWrapperFix.previewOrder).elim 0 (· + 1))
    ((snap.assists fileId fileRange).filterMap fun assist =>
      (heuristicOwnershipStrategy assist.1).map fun strategy =>
        ⟨[request], assist.2, some strategy⟩)

/-! ## The list of repairs -/

/-- Repairs from the compiler's own suggestions. -/
def languageRepair (snap : Snapshot) (fileId : FileId) (uri : String) (fix : Fix) (index : Nat) :
    Option OwnershipRepair :=
  (ownershipWorkspaceFixDiff snap fileId uri fix).map fun preview =>
    let compilerValidated := fix.action.isPreferred.getD false && preview.complete
    { id := ownershipLanguageRepairId index
      title := fix.action.title
      strategy := "language_fix"
      semantics := "ordinary Rust ownership and compile-time checked access"
      diff := preview.diff
      affectedFiles := preview.affectedFiles
      previewComplete := preview.complete
      compilerValidated := compilerValidated
      validationState := if compilerValidated then "validated" else "candidate"
      effects := ownershipLanguageRepairEffects fix.action.title
      previewGraph := none }

/-- Repairs from wrapper rewrites that a check run has compiled. -/
def validatedRepair (snap : Snapshot) (fileId : FileId) (uri place : String) (request : Range)
    (fix : Fix) (index : Nat) : Option OwnershipRepair :=
  fix.ownershipWrapper.bind fun strategy =>
    (ownershipWorkspaceFixDiff snap fileId uri fix).map fun preview =>
      { id := ownershipRepairId strategy index
        title := fix.action.title
        strategy := ownershipWrapperCode strategy
        semantics := strategy.runtimeSemantics
        diff := preview.diff
        affectedFiles := preview.affectedFiles
        previewComplete := preview.complete
        compilerValidated := preview.complete
        validationState := if preview.complete then "validated" else "incomplete_preview"
        effects := ownershipRepairEffects strategy
        previewGraph := ownershipRepairPreviewGraph strategy place request true }

/-- Repairs from assists, for strategies without a validated rewrite. -/
def candidateRepair (snap : Snapshot) (fileId : FileId) (uri place : String) (request : Range)
    (validated : List OwnershipWrapperFix) (fix : Fix) (index : Nat) : Option OwnershipRepair :=
  fix.ownershipWrapper.bind fun strategy =>
    if strategy ∈ validated then none
    else (ownershipWorkspaceFixDiff snap fileId uri fix).map fun preview =>
      { id := ownershipRepairId strategy index
        title := trimEndMatches fix.action.title " (unvalidated)"
        strategy := ownershipWrapperCode strategy
        semantics := strategy.runtimeSemantics
        diff := preview.diff
        affectedFiles := preview.affectedFiles
        previewComplete := preview.complete
        compilerValidated := false
        validationState := "candidate"
        effects := ownershipRepairEffects strategy
        previewGraph := ownershipRepairPreviewGraph strategy place request false }

/-- The range the assists are asked for: the identifier pattern of the selected name closest to
the request, the stored binding, the event's binding, or the request itself. -/
def candidateRange (snap : Snapshot) (fileId : FileId) (fileRange : TextRange)
    (tutorial : OwnershipTutorialModel) (selection : Selection) : TextRange :=
  let lineIndex := snap.fileLineIndex fileId
  let candidateName :=
    ((selection.diagnostic.bind fun diagnostic => ownershipNameFromMessage diagnostic.message)
      <|> selection.name).map ownershipRootName
  let syntaxRange := candidateName.bind fun name => (snap.parse fileId).bind fun file =>
    (((file.identPats.filter fun pattern => pattern.1 = name).map (·.2)).argmin fun range =>
      (range.start - fileRange.start) + (fileRange.start - range.start))
  let bindingRange := (tutorial.bindings.find? fun binding =>
      selection.inBody binding.bodyId
        && selection.name.any fun name =>
          ownershipNameRefersToBinding name binding.name
            || ownershipNameRefersToBinding binding.name name).bind fun binding =>
    (lineIndex.textRange binding.range).toOption
  let eventRange := selection.event.bind fun event =>
    (lineIndex.textRange event.bindingRange).toOption
  (syntaxRange <|> bindingRange <|> eventRange).getD fileRange

/-- The repairs of a request. -/
def ownershipRepairs (snap : Snapshot) (fileId : FileId) (uri : String) (fileRange : TextRange)
    (tutorial : OwnershipTutorialModel) (selection : Selection) : List OwnershipRepair :=
  let place := selection.name.getD "value"
  let language := ownershipLanguageFixesForDiagnostic snap fileId selection.diagnostic
  let validated := ownershipFixesAt snap fileId selection.request selection.event
  let validatedStrategies := validated.filterMap (·.ownershipWrapper)
  let candidates := ownershipCandidateFixes snap fileId
    (candidateRange snap fileId fileRange tutorial selection) selection.request
  language.zipIdx.filterMap (fun (fix, index) => languageRepair snap fileId uri fix index)
    ++ validated.zipIdx.filterMap (fun (fix, index) =>
      validatedRepair snap fileId uri place selection.request fix index)
    ++ candidates.zipIdx.filterMap fun (fix, index) =>
      candidateRepair snap fileId uri place selection.request validatedStrategies fix index

end RustWorkbench.Analyzer
