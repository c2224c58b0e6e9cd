import RustWorkbench.Analyzer.Stale

/-!
# Repair ids in two requests

The model of a position lists repairs under ids, and `handle_ownership_repair` turns an id back
into an action.  Both number the same lists, so an id means the fix whose preview was shown; the
id of an assist, which no check has compiled, means nothing.

* `repairIds_agree` — the two requests agree.
-/

namespace RustWorkbench.Bridge

open Analyzer

/-- A request for a model at a position that lies in a known file. -/
structure ModelRequest where
  snap : Snapshot
  uri : String
  position : Position
  fileId : FileId
  fileRange : TextRange
  located : snap.fileRange uri (Range.point position) = .ok (some (fileId, fileRange))

namespace ModelRequest

variable (request : ModelRequest)

def selection : Selection := request.snap.selectionAt request.fileId request.position

def tutorial : OwnershipTutorialModel := request.snap.tutorialOf request.fileId

/-- The repairs of a request. -/
def repairs : List OwnershipRepair :=
  ownershipRepairs request.snap request.fileId request.uri request.fileRange request.tutorial
    request.selection

/-- The model that answers a request. -/
def model : OwnershipModel :=
  ownershipModelFor request.snap request.fileId request.uri request.fileRange request.selection
    (request.snap.eventsOf request.fileId) request.tutorial request.repairs

theorem handle_eq :
    handleOwnershipModel request.snap request.uri request.position = .ok request.model := by
  unfold handleOwnershipModel
  rw [request.located]
  rfl

end ModelRequest

/-! ## Ids -/

/-- A repair's id: a strategy and the place of the fix in its list. -/
def HasId (code : String) (index : Nat) (repair : OwnershipRepair) : Prop :=
  repair.id = code ++ "-" ++ toString index

theorem HasId.ne {code code' : String} {index index' : Nat} {repair repair' : OwnershipRepair}
    (h : HasId code index repair) (h' : HasId code' index' repair')
    (hne : code ≠ code' ∨ index ≠ index') : repair.id ≠ repair'.id := by
  intro heq
  rw [h, h'] at heq
  obtain ⟨hcode, hindex⟩ := Ids.append_dash_toString_inj heq
  rcases hne with hne | hne
  · exact hne hcode
  · exact hne hindex

section Ids

variable {snap : Snapshot} {fileId : FileId} {uri place : String} {range : Range} {fix : Fix}
  {index : Nat} {repair : OwnershipRepair}

theorem languageRepair_id (h : languageRepair snap fileId uri fix index = some repair) :
    HasId "language-fix" index repair := by
  obtain ⟨preview, -, rfl⟩ := Option.map_eq_some_iff.mp h
  rfl

theorem validatedRepair_id
    (h : validatedRepair snap fileId uri place range fix index = some repair) :
    ∃ strategy, fix.ownershipWrapper = some strategy ∧
      HasId (ownershipWrapperCode strategy) index repair := by
  obtain ⟨strategy, hstrategy, hpreview⟩ := Option.bind_eq_some_iff.mp h
  obtain ⟨preview, -, rfl⟩ := Option.map_eq_some_iff.mp hpreview
  exact ⟨strategy, hstrategy, rfl⟩

theorem candidateRepair_id {validated : List OwnershipWrapperFix}
    (h : candidateRepair snap fileId uri place range validated fix index = some repair) :
    ∃ strategy, strategy ∉ validated ∧ HasId (ownershipWrapperCode strategy) index repair := by
  obtain ⟨strategy, -, hpreview⟩ := Option.bind_eq_some_iff.mp h
  split at hpreview
  · cases hpreview
  · rename_i hnew
    obtain ⟨preview, -, rfl⟩ := Option.map_eq_some_iff.mp hpreview
    exact ⟨strategy, hnew, rfl⟩

end Ids

theorem ownershipWrapperCode_inj {strategy strategy' : OwnershipWrapperFix}
    (h : ownershipWrapperCode strategy = ownershipWrapperCode strategy') : strategy = strategy' := by
  revert h
  cases strategy <;> cases strategy' <;> decide

theorem ownershipWrapperCode_ne_language (strategy : OwnershipWrapperFix) :
    "language-fix" ≠ ownershipWrapperCode strategy := by
  cases strategy <;> decide

/-- A numbered function that gives different results different ids. -/
theorem pairwise_filterMap_zipIdx {α : Type} {f : α → Nat → Option OwnershipRepair}
    (hf : ∀ a a' i i' repair repair', i ≠ i' → f a i = some repair → f a' i' = some repair' →
      repair.id ≠ repair'.id) (l : List α) :
    (l.zipIdx.filterMap fun x => f x.1 x.2).Pairwise fun r r' => r.id ≠ r'.id := by
  have hnumbers : l.zipIdx.Pairwise fun x y => x.2 ≠ y.2 := by
    have hmap : (l.zipIdx.map Prod.snd).Nodup := by
      rw [List.zipIdx_map_snd]
      exact List.nodup_range' ..
    exact List.pairwise_map.mp hmap
  refine List.Pairwise.filterMap _ (fun x y hxy r hr r' hr' => ?_) hnumbers
  exact hf x.1 y.1 x.2 y.2 r r' hxy hr hr'

/-- **The ids of the repairs differ.** -/
theorem repairIds_nodup (request : ModelRequest) : (request.repairs.map (·.id)).Nodup := by
  unfold ModelRequest.repairs ownershipRepairs
  dsimp only
  refine List.pairwise_map.mpr (List.pairwise_append.mpr ⟨List.pairwise_append.mpr ⟨?_, ?_, ?_⟩,
    ?_, ?_⟩)
  · refine pairwise_filterMap_zipIdx (fun _ _ _ _ _ _ hne h h' => ?_) _
    exact (languageRepair_id h).ne (languageRepair_id h') (Or.inr hne)
  · refine pairwise_filterMap_zipIdx (fun _ _ _ _ _ _ hne h h' => ?_) _
    obtain ⟨strategy, -, h⟩ := validatedRepair_id h
    obtain ⟨strategy', -, h'⟩ := validatedRepair_id h'
    exact h.ne h' (Or.inr hne)
  · intro repair hrepair repair' hrepair'
    obtain ⟨x, -, hx⟩ := List.mem_filterMap.mp hrepair
    obtain ⟨y, -, hy⟩ := List.mem_filterMap.mp hrepair'
    obtain ⟨strategy, -, h'⟩ := validatedRepair_id hy
    exact (languageRepair_id hx).ne h' (Or.inl (ownershipWrapperCode_ne_language strategy))
  · refine pairwise_filterMap_zipIdx (fun _ _ _ _ _ _ hne h h' => ?_) _
    obtain ⟨strategy, -, h⟩ := candidateRepair_id h
    obtain ⟨strategy', -, h'⟩ := candidateRepair_id h'
    exact h.ne h' (Or.inr hne)
  · intro repair hrepair repair' hrepair'
    obtain ⟨y, -, hy⟩ := List.mem_filterMap.mp hrepair'
    obtain ⟨strategy', hnew, h'⟩ := candidateRepair_id hy
    rcases List.mem_append.mp hrepair with hrepair | hrepair
    · obtain ⟨x, -, hx⟩ := List.mem_filterMap.mp hrepair
      exact (languageRepair_id hx).ne h' (Or.inl (ownershipWrapperCode_ne_language strategy'))
    · obtain ⟨x, hxmem, hx⟩ := List.mem_filterMap.mp hrepair
      obtain ⟨strategy, hstrategy, h⟩ := validatedRepair_id hx
      -- The strategy of the assist is none of the validated ones.
      refine h.ne h' (Or.inl fun hcode => hnew ?_)
      rw [← ownershipWrapperCode_inj hcode]
      exact List.mem_filterMap.mpr ⟨x.1, List.fst_mem_of_mem_zipIdx hxmem, hstrategy⟩

/-! ## Looking an id up -/

/-- The first hit in a numbered list, if only one number is looked for. -/
theorem findSome?_zipIdx {α β : Type} {f : α → Nat → Option β} {l : List α} {a : α} {i : Nat}
    {b : β} (hmem : (a, i) ∈ l.zipIdx) (hf : f a i = some b)
    (hother : ∀ a' i', i' ≠ i → f a' i' = none) :
    l.zipIdx.findSome? (fun x => f x.1 x.2) = some b := by
  cases hfound : l.zipIdx.findSome? fun x => f x.1 x.2 with
  | none =>
    rw [List.findSome?_eq_none_iff] at hfound
    exact absurd (hfound _ hmem) (by rw [hf]; exact nofun)
  | some b' =>
    obtain ⟨⟨a', i'⟩, hmem', hf'⟩ := List.exists_of_findSome?_eq_some hfound
    by_cases hi : i' = i
    · subst hi
      -- a number stands for one element
      have ha : a' = a := by
        rw [List.mem_zipIdx_iff_getElem?] at hmem hmem'
        exact Option.some.inj (hmem'.symm.trans hmem)
      subst ha
      exact hf'.symm.trans hf
    · rw [hother a' i' hi] at hf'
      exact nomatch hf'

theorem ownershipLanguageRepairId_eq (index : Nat) :
    ownershipLanguageRepairId index = "language-fix" ++ "-" ++ toString index := rfl

variable {fixes : List Fix}

theorem languageRepairAction_of_mem {fix : Fix} {index : Nat} (h : (fix, index) ∈ fixes.zipIdx) :
    languageRepairAction fixes (ownershipLanguageRepairId index) = some fix.action := by
  refine findSome?_zipIdx (f := fun fix i =>
    if ownershipLanguageRepairId i = ownershipLanguageRepairId index then some fix.action else none)
    h (if_pos rfl) fun fix' i hi => if_neg fun heq => hi ?_
  rw [ownershipLanguageRepairId_eq, ownershipLanguageRepairId_eq] at heq
  exact (Ids.append_dash_toString_inj heq).2

theorem languageRepairAction_wrapper (fixes : List Fix) (strategy : OwnershipWrapperFix)
    (index : Nat) : languageRepairAction fixes (ownershipRepairId strategy index) = none := by
  refine List.findSome?_eq_none_iff.mpr fun x _ => if_neg fun heq => ?_
  rw [ownershipLanguageRepairId_eq] at heq
  exact ownershipWrapperCode_ne_language strategy (Ids.append_dash_toString_inj heq).1

theorem wrapperRepairAction_of_mem {fix : Fix} {index : Nat} {strategy : OwnershipWrapperFix}
    (h : (fix, index) ∈ fixes.zipIdx) (hstrategy : fix.ownershipWrapper = some strategy) :
    wrapperRepairAction fixes (ownershipRepairId strategy index) = some fix.action := by
  refine findSome?_zipIdx (f := fun fix i => fix.ownershipWrapper.bind fun s =>
    if ownershipRepairId s i = ownershipRepairId strategy index then some fix.action else none)
    h ?_ fun fix' i hi => ?_
  · rw [hstrategy, Option.bind_some, if_pos rfl]
  · refine Option.bind_eq_none_iff.mpr fun s _ => if_neg fun heq => hi ?_
    exact (Ids.append_dash_toString_inj heq).2

theorem wrapperRepairAction_of_new {strategy : OwnershipWrapperFix}
    (h : strategy ∉ fixes.filterMap (·.ownershipWrapper)) (index : Nat) :
    wrapperRepairAction fixes (ownershipRepairId strategy index) = none := by
  refine List.findSome?_eq_none_iff.mpr fun x hx => ?_
  refine Option.bind_eq_none_iff.mpr fun s hs => if_neg fun heq => h ?_
  rw [← ownershipWrapperCode_inj (Ids.append_dash_toString_inj heq).1]
  exact List.mem_filterMap.mpr ⟨x.1, List.fst_mem_of_mem_zipIdx hx, hs⟩

/-! ## The two requests -/

section Selection

variable (diagnostics : List OwnershipDiagnostic) (events : List Analyzer.OwnershipEvent)
  (tutorial : OwnershipTutorialModel) (request : Range)

theorem selectionAt_event :
    (selectionAt diagnostics events tutorial request).event = selectedEventAt events request := by
  unfold selectionAt
  dsimp only
  split <;> rfl

theorem selectionAt_request :
    (selectionAt diagnostics events tutorial request).request = request := by
  unfold selectionAt
  dsimp only
  split <;> rfl

end Selection

namespace ModelRequest

variable (request : ModelRequest)

def languageFixes : List Fix :=
  ownershipLanguageFixesForDiagnostic request.snap request.fileId request.selection.diagnostic

def validatedFixes : List Fix :=
  ownershipFixesAt request.snap request.fileId request.selection.request request.selection.event

def candidateFixes : List Fix :=
  ownershipCandidateFixes request.snap request.fileId
    (candidateRange request.snap request.fileId request.fileRange request.tutorial
      request.selection) request.selection.request

/-- A repair and the stored fix whose preview it shows; an assist has none. -/
inductive BuiltFrom : OwnershipRepair → Option Fix → Prop
  | language {fix : Fix} {index : Nat} {repair : OwnershipRepair} :
      (fix, index) ∈ request.languageFixes.zipIdx →
      languageRepair request.snap request.fileId request.uri fix index = some repair →
      BuiltFrom repair (some fix)
  | validated {fix : Fix} {index : Nat} {repair : OwnershipRepair} :
      (fix, index) ∈ request.validatedFixes.zipIdx →
      validatedRepair request.snap request.fileId request.uri
        (request.selection.name.getD "value") request.selection.request fix index = some repair →
      BuiltFrom repair (some fix)
  | candidate {fix : Fix} {index : Nat} {repair : OwnershipRepair} :
      (fix, index) ∈ request.candidateFixes.zipIdx →
      candidateRepair request.snap request.fileId request.uri
        (request.selection.name.getD "value") request.selection.request
        (request.validatedFixes.filterMap (·.ownershipWrapper)) fix index = some repair →
      BuiltFrom repair none

variable {repair : OwnershipRepair}

theorem mem_repairs_iff : repair ∈ request.repairs ↔ ∃ source, request.BuiltFrom repair source := by
  unfold repairs ownershipRepairs
  dsimp only
  rw [List.mem_append, List.mem_append, List.mem_filterMap, List.mem_filterMap, List.mem_filterMap]
  constructor
  · rintro ((⟨⟨fix, index⟩, hmem, h⟩ | ⟨⟨fix, index⟩, hmem, h⟩) | ⟨⟨fix, index⟩, hmem, h⟩)
    · exact ⟨some fix, .language hmem h⟩
    · exact ⟨some fix, .validated hmem h⟩
    · exact ⟨none, .candidate hmem h⟩
  · rintro ⟨_, (⟨hmem, h⟩ | ⟨hmem, h⟩ | ⟨hmem, h⟩)⟩
    · exact .inl (.inl ⟨_, hmem, h⟩)
    · exact .inl (.inr ⟨_, hmem, h⟩)
    · exact .inr ⟨_, hmem, h⟩

/-- The request for the action of a repair, sent with the hash of the text of the model. -/
def repairParams (repair : OwnershipRepair) : OwnershipRepairParams :=
  ⟨request.uri, request.position, repair.id,
    stableSourceHash (request.snap.fileText request.fileId)⟩

/-- The lists that `handle_ownership_repair` numbers are those of the model. -/
theorem handleOwnershipRepair_eq (repair : OwnershipRepair) :
    handleOwnershipRepair request.snap (request.repairParams repair)
      = match languageRepairAction request.languageFixes repair.id with
        | some action => .ok (some action)
        | none => .ok (wrapperRepairAction request.validatedFixes repair.id) := by
  have hlocated : request.snap.fileRange request.uri ⟨request.position, request.position⟩
      = .ok (some (request.fileId, request.fileRange)) := request.located
  have hcurrent : ownershipRepairSourceIsCurrent (request.snap.fileText request.fileId)
      (stableSourceHash (request.snap.fileText request.fileId)) = true := beq_self_eq_true _
  unfold handleOwnershipRepair repairParams languageFixes validatedFixes selection
  simp only [hlocated, hcurrent, if_true, Snapshot.selectionAt, selectionAt_diagnostic,
    selectionAt_event, selectionAt_request]
  rfl

/-- **The id of a repair stands for the fix behind it.** -/
theorem handleOwnershipRepair_of_builtFrom {source : Option Fix}
    (h : request.BuiltFrom repair source) :
    handleOwnershipRepair request.snap (request.repairParams repair)
      = .ok (source.map (·.action)) := by
  rw [handleOwnershipRepair_eq]
  cases h with
  | language hmem hrepair =>
    rw [show repair.id = _ from languageRepair_id hrepair, ← ownershipLanguageRepairId_eq,
      languageRepairAction_of_mem hmem]
    rfl
  | validated hmem hrepair =>
    obtain ⟨strategy, hstrategy, hid⟩ := validatedRepair_id hrepair
    rw [show repair.id = ownershipRepairId strategy _ from hid, languageRepairAction_wrapper,
      wrapperRepairAction_of_mem hmem hstrategy]
    rfl
  | candidate hmem hrepair =>
    obtain ⟨strategy, hnew, hid⟩ := candidateRepair_id hrepair
    rw [show repair.id = ownershipRepairId strategy _ from hid, languageRepairAction_wrapper,
      wrapperRepairAction_of_new hnew]
    rfl

/-- A repair that is a candidate and no suggestion of the compiler is an assist. -/
theorem source_eq_none {source : Option Fix} (h : request.BuiltFrom repair source)
    (hstate : repair.validationState = "candidate") (hstrategy : repair.strategy ≠ "language_fix") :
    source = none := by
  cases h with
  | language hmem hrepair =>
    obtain ⟨preview, -, rfl⟩ := Option.map_eq_some_iff.mp hrepair
    exact absurd rfl hstrategy
  | validated hmem hrepair =>
    obtain ⟨strategy, -, hpreview⟩ := Option.bind_eq_some_iff.mp hrepair
    obtain ⟨preview, -, rfl⟩ := Option.map_eq_some_iff.mp hpreview
    have hne : ∀ complete : Bool,
        (if complete then "validated" else "incomplete_preview") ≠ "candidate" := by decide
    exact absurd hstate (hne preview.complete)
  | candidate hmem hrepair => rfl

end ModelRequest

/-- **The ids of a model mean the same in both requests.**  They differ; the id of a repair built
from a stored fix is resolved to the action of this fix; the id of an assist is resolved to
nothing. -/
theorem repairIds_agree (request : ModelRequest) :
    ∃ model, handleOwnershipModel request.snap request.uri request.position = .ok model
      ∧ (model.repairs.map (·.id)).Nodup
      ∧ (∀ repair ∈ model.repairs, ∃ source, request.BuiltFrom repair source)
      ∧ (∀ repair source, request.BuiltFrom repair source →
        handleOwnershipRepair request.snap
          ⟨request.uri, request.position, repair.id, model.sourceHash⟩
          = .ok (source.map (·.action)))
      ∧ ∀ repair ∈ model.repairs, repair.validationState = "candidate" →
        repair.strategy ≠ "language_fix" →
        handleOwnershipRepair request.snap
          ⟨request.uri, request.position, repair.id, model.sourceHash⟩ = .ok none := by
  have hrepairs : request.model.repairs = request.repairs := rfl
  have hhash : request.model.sourceHash
      = stableSourceHash (request.snap.fileText request.fileId) := rfl
  refine ⟨request.model, request.handle_eq, ?_⟩
  rw [hrepairs, hhash]
  refine ⟨repairIds_nodup request, fun repair hrepair => request.mem_repairs_iff.mp hrepair,
    fun repair source h => request.handleOwnershipRepair_of_builtFrom h,
    fun repair hrepair hstate hstrategy => ?_⟩
  obtain ⟨source, hsource⟩ := request.mem_repairs_iff.mp hrepair
  obtain rfl := request.source_eq_none hsource hstate hstrategy
  exact request.handleOwnershipRepair_of_builtFrom hsource

/-- The request at the moved `a` of `let b = a;`, after a check. -/
def movedRequest : ModelRequest where
  snap := plainSnapshot checked
  uri := "main.rs"
  position := ⟨0, 8⟩
  fileId := 0
  fileRange := ⟨8, 8, le_rfl⟩
  located := rfl

/-- Its only repair is the rewrite, and the id leads to the fix behind it. -/
theorem moved_request_ids_agree :
    movedRequest.repairs.map (·.id) = ["rc-0"] ∧
      ∃ model, handleOwnershipModel (plainSnapshot checked) "main.rs" ⟨0, 8⟩ = .ok model ∧
        ∀ repair source, movedRequest.BuiltFrom repair source →
          handleOwnershipRepair (plainSnapshot checked)
            ⟨"main.rs", ⟨0, 8⟩, repair.id, model.sourceHash⟩ = .ok (source.map (·.action)) := by
  obtain ⟨model, hmodel, -, -, hresolved, -⟩ := repairIds_agree movedRequest
  exact ⟨by decide +kernel, model, hmodel, hresolved⟩

end RustWorkbench.Bridge
