import RustWorkbench.Analyzer.SemanticTokens
import RustWorkbench.Hash
import Mathlib.Data.List.Dedup
import Mathlib.Data.List.Perm.Subperm

/-!
# Hints about mechanics

The server merges the clues of four categories into one hint a position and sends the parts along,
and the editor shows of each hint the parts of the categories that are switched on.  The server can
leave categories out as well.

* `ownershipMechanicsHints` — the server; it stops at 128 positions.
* `filtering_equals_asking` — what the editor shows of a category set is what the server sends for it.
-/

namespace RustWorkbench.Bridge

open Assoc Assoc.Map Analyzer

/-! ## The server -/

inductive MechanicsCategory
  | layout | storage | access | wrapper
deriving DecidableEq

def MechanicsCategory.text : MechanicsCategory → String
  | .layout => "layout"
  | .storage => "storage"
  | .access => "access"
  | .wrapper => "wrapper"

structure OwnershipMechanicsCategories where
  layout : Bool
  storage : Bool
  access : Bool
  wrapper : Bool

def OwnershipMechanicsCategories.allow (categories : OwnershipMechanicsCategories) :
    MechanicsCategory → Bool
  | .layout => categories.layout
  | .storage => categories.storage
  | .access => categories.access
  | .wrapper => categories.wrapper

structure MechanicsPart where
  category : MechanicsCategory
  label : String
  tooltip : String
  bindingId : Option String
  graphNodeId : Option String

def MAX_MECHANICS_HINTS : Nat := 128

def spaced (name : String) : String := name.map fun c => if c = '_' then ' ' else c

def bindingId (binding : OwnershipTutorialBinding) : String :=
  hex16 binding.bodyId ++ "-" ++ binding.name

def layoutPart (targetTriple : String) (binding : OwnershipTutorialBinding) :
    Option MechanicsPart := do
  let size ← binding.size
  let align ← binding.align
  let inline := binding.memoryLayers.all (·.storage ≠ "heap")
  return {
    category := .layout
    label := toString size ++ " B · align " ++ toString align ++ " · "
      ++ (if inline then "inline" else "handle")
    tooltip := "**Layout of `" ++ binding.name ++ "`**\n\n- Type: `" ++ binding.typeName
      ++ "`\n- Handle/value size: **" ++ toString size ++ " bytes**\n- Alignment: **"
      ++ toString align ++ " bytes**\n- Target: `" ++ targetTriple
      ++ "`\n- Precision: **compiler exact target layout**\n\n"
      ++ "Runtime allocation sizes are kept separate."
    bindingId := some (bindingId binding)
    graphNodeId := none }

def storagePart (binding : OwnershipTutorialBinding) : Option MechanicsPart :=
  let heapLayers := " + ".intercalate
    ((((binding.memoryLayers.filter (·.storage = "heap")).map (·.label)).eraseDups).take 2)
  if heapLayers = "" then none
  else some {
    category := .storage
    label := "handle → " ++ heapLayers
    tooltip := "**Storage reached from `" ++ binding.name ++ "`**\n\n`" ++ binding.typeName
      ++ "` is the local handle. It reaches **" ++ heapLayers
      ++ "**. Moving the handle does not copy the allocation. Runtime addresses, lengths, "
      ++ "capacities, and reference counts are unknown."
    bindingId := some (bindingId binding)
    graphNodeId := none }

def wrapperPart (binding : OwnershipTutorialBinding) : Option MechanicsPart :=
  let wrappers := " → ".intercalate
    ((((binding.memoryLayers.filter (·.kind ≠ "stack_binding")).map (spaced ·.kind)).eraseDups).take 3)
  if wrappers = "" then none
  else some {
    category := .wrapper
    label := wrappers
    tooltip := "**Wrapper route for `" ++ binding.name ++ "`**\n\n`" ++ binding.typeName
      ++ "`\n\n" ++ wrappers ++ "\n\nThis is a source-level ownership model, not a sampled "
      ++ "runtime memory address or counter."
    bindingId := some (bindingId binding)
    graphNodeId := none }

def stepDetails (step : OwnershipModelAccessStep) : String :=
  let constraints := (if step.fallible then ["fallible"] else [])
    ++ (if step.mayPanic then ["may panic"] else [])
    ++ if step.requiresUnsafe then ["requires unsafe"] else []
  "- `" ++ step.startingType ++ "` → `" ++ step.resultType ++ "` via **" ++ spaced step.kind
    ++ "** (" ++ spaced step.mutability ++ ", " ++ spaced step.explicitness
    ++ (if constraints.isEmpty then "" else ", " ++ ", ".intercalate constraints)
    ++ ") — " ++ step.explanation

/-- An access path is shown at the end of its node. -/
def accessPart (graph : OwnershipTutorialMemoryGraph) (requestedRange : Range)
    (path : OwnershipModelAccessPath) : Option (Position × MechanicsPart) := do
  let node ← graph.nodes.find? (·.node.id = path.nodeId)
  let range ← node.range
  if !lspRangesOverlap range requestedRange || path.steps.isEmpty then none
  else return (range.stop, {
    category := .access
    label := " · ".intercalate
      ((path.steps.map fun step => spaced step.kind ++ " → " ++ step.resultType).take 2)
    tooltip := "**How `" ++ path.place ++ "` becomes usable**\n\n"
      ++ "\n".intercalate (path.steps.map stepDetails)
    bindingId := none
    graphNodeId := some path.nodeId })

section Server

variable (tutorial : OwnershipTutorialModel) (requestedRange : Range)
  (categories : OwnershipMechanicsCategories)

def targetTripleText : String :=
  if tutorial.targetTriple = "" then "unknown target" else tutorial.targetTriple

def bindingParts (binding : OwnershipTutorialBinding) : List MechanicsPart :=
  (if categories.layout then (layoutPart (targetTripleText tutorial) binding).toList else [])
    ++ (if categories.storage then (storagePart binding).toList else [])
    ++ if categories.wrapper then (wrapperPart binding).toList else []

def accessParts : List (Position × MechanicsPart) :=
  (tutorial.memoryGraph.accessPaths.take MAX_MECHANICS_HINTS).filterMap
    (accessPart tutorial.memoryGraph requestedRange)

/-- The parts in the order in which they are pushed. -/
def mechanicsParts : List (Position × MechanicsPart) :=
  (tutorial.bindings.filter (lspRangesOverlap ·.range requestedRange)).flatMap
      (fun binding => (bindingParts tutorial categories binding).map (binding.range.stop, ·))
    ++ if categories.access then accessParts tutorial requestedRange else []

end Server

/-- A position has a category and a label only once. -/
def addPart (parts : List MechanicsPart) (part : MechanicsPart) : List MechanicsPart :=
  if parts.any fun existing => existing.category = part.category && existing.label = part.label then
    parts
  else parts ++ [part]

def pushPart (grouped : Map Position (List MechanicsPart)) (pushed : Position × MechanicsPart) :
    Map Position (List MechanicsPart) :=
  if (grouped.get? pushed.1).isSome || grouped.length < MAX_MECHANICS_HINTS then
    grouped.modify pushed.1 [] (addPart · pushed.2)
  else grouped

/-- What a hint carries for the editor. -/
structure MechanicsData where
  version : Nat
  category : String
  categories : List String
  segments : List (String × String)
  precision : String
  bindingId : Option String
  graphNodeId : Option String
  focusRange : Position × Position
  tooltip : String

structure InlayHint where
  position : Position
  label : String
  data : MechanicsData

def mergedHint (group : Position × List MechanicsPart) : InlayHint where
  position := group.1
  label := " · ".intercalate (group.2.map (·.label))
  data := {
    version := 3
    category := "mechanics"
    categories := group.2.map (·.category.text)
    segments := group.2.map fun part => (part.category.text, part.label)
    precision := "compiler_exact"
    bindingId := group.2.findSome? (·.bindingId)
    graphNodeId := group.2.findSome? (·.graphNodeId)
    focusRange := (group.1, group.1)
    tooltip := "\n\n---\n\n".intercalate (group.2.map (·.tooltip)) }

def ownershipMechanicsHints (tutorial : OwnershipTutorialModel) (requestedRange : Range)
    (categories : OwnershipMechanicsCategories) : List InlayHint :=
  ((mechanicsParts tutorial requestedRange categories).foldl pushPart []).map mergedHint

/-! ## The editor -/

/-- `RustOwnershipDisplayPreferences`, as far as hints about mechanics depend on it. -/
structure DisplayPreferences where
  enabled : Bool
  mechanicsOff : Bool
  allowsRow : Nat → Bool
  shown : OwnershipMechanicsCategories

def mechanicsKind : String → Option MechanicsCategory
  | "layout" => some .layout
  | "storage" => some .storage
  | "access" => some .access
  | "wrapper" => some .wrapper
  | _ => none

def rustWorkbenchMechanicsSegmentsFromData (data : MechanicsData) :
    Option (List (MechanicsCategory × String)) :=
  if data.version ≠ 3 ∨ data.category ≠ "mechanics" then none
  else some (data.segments.filterMap fun segment =>
    (mechanicsKind segment.1).map fun kind => (kind, segment.2))

def rustMechanicsCategoryAllowed (preferences : DisplayPreferences) (kind : MechanicsCategory) :
    Bool :=
  !preferences.mechanicsOff && preferences.shown.allow kind

def visibleRustMechanicsSegments (preferences : DisplayPreferences)
    (segments : List (MechanicsCategory × String)) : List (MechanicsCategory × String) :=
  segments.filter fun segment => rustMechanicsCategoryAllowed preferences segment.1

/-- The hint as it is shown, if it is; `hintAllowed` decides about hints of other kinds. -/
def prepareRustWorkbenchHint (hintAllowed : DisplayPreferences → InlayHint → Bool)
    (preferences : DisplayPreferences) (hint : InlayHint) : Option InlayHint :=
  match rustWorkbenchMechanicsSegmentsFromData hint.data with
  | none => if hintAllowed preferences hint then some hint else none
  | some segments =>
    if !preferences.enabled then some hint
    else if preferences.mechanicsOff || !preferences.allowsRow hint.position.line then none
    else
      match visibleRustMechanicsSegments preferences segments with
      | [] => none
      | visible => some { hint with label := " · ".intercalate (visible.map (·.2)) }

/-- The label at a position. -/
def labelAt (hints : List InlayHint) (position : Position) : Option String :=
  (hints.find? (·.position = position)).map (·.label)

/-! ## Asking for fewer categories -/

def OwnershipMechanicsCategories.every : OwnershipMechanicsCategories := ⟨true, true, true, true⟩

section Filter

variable {categories : OwnershipMechanicsCategories}

/-- The part is of a category that is asked for. -/
def Asked (categories : OwnershipMechanicsCategories) (part : MechanicsPart) : Bool :=
  categories.allow part.category

theorem asked_of_category {part : MechanicsPart} {category : MechanicsCategory}
    (h : part.category = category) : Asked categories part = categories.allow category := by
  rw [Asked, h]

theorem filter_eq_ite {α : Type} {p : α → Bool} {category : MechanicsCategory} {l : List α}
    (h : ∀ a ∈ l, p a = categories.allow category) :
    l.filter p = if categories.allow category then l else [] := by
  by_cases hallow : categories.allow category = true
  · rw [if_pos hallow, List.filter_eq_self]
    exact fun a ha => (h a ha).trans hallow
  · rw [if_neg hallow, List.filter_eq_nil_iff]
    exact fun a ha hp => hallow ((h a ha).symm.trans hp)

variable {binding : OwnershipTutorialBinding}

theorem category_layoutPart {targetTriple : String} :
    ∀ part ∈ (layoutPart targetTriple binding).toList, part.category = .layout := by
  intro part h
  obtain ⟨size, -, h⟩ := Option.bind_eq_some_iff.mp (Option.mem_toList.mp h)
  obtain ⟨align, -, h⟩ := Option.bind_eq_some_iff.mp h
  cases h
  rfl

theorem category_storagePart : ∀ part ∈ (storagePart binding).toList, part.category = .storage := by
  intro part h
  rw [Option.mem_toList, storagePart] at h
  split at h
  · cases h
  · cases h
    rfl

theorem category_wrapperPart : ∀ part ∈ (wrapperPart binding).toList, part.category = .wrapper := by
  intro part h
  rw [Option.mem_toList, wrapperPart] at h
  split at h
  · cases h
  · cases h
    rfl

theorem category_accessParts {tutorial : OwnershipTutorialModel} {requestedRange : Range} :
    ∀ pushed ∈ accessParts tutorial requestedRange, pushed.2.category = .access := by
  intro pushed h
  obtain ⟨path, -, h⟩ := List.mem_filterMap.mp h
  obtain ⟨node, -, h⟩ := Option.bind_eq_some_iff.mp h
  obtain ⟨range, -, h⟩ := Option.bind_eq_some_iff.mp h
  split at h
  · cases h
  · cases h
    rfl

theorem bindingParts_eq_filter (tutorial : OwnershipTutorialModel)
    (binding : OwnershipTutorialBinding) :
    bindingParts tutorial categories binding
      = (bindingParts tutorial .every binding).filter (Asked categories) := by
  simp only [bindingParts, OwnershipMechanicsCategories.every, if_true, List.filter_append]
  rw [filter_eq_ite fun part h => asked_of_category (category_layoutPart part h),
    filter_eq_ite fun part h => asked_of_category (category_storagePart part h),
    filter_eq_ite fun part h => asked_of_category (category_wrapperPart part h)]
  rfl

/-- The parts that are pushed for fewer categories are those of the categories. -/
theorem mechanicsParts_eq_filter (tutorial : OwnershipTutorialModel) (requestedRange : Range) :
    mechanicsParts tutorial requestedRange categories
      = (mechanicsParts tutorial requestedRange .every).filter fun pushed =>
          Asked categories pushed.2 := by
  simp only [mechanicsParts, List.filter_append, List.filter_flatMap, List.filter_map]
  refine congrArg₂ _ ?_ ?_
  · refine congrArg (List.flatMap · _) (funext fun binding => ?_)
    rw [bindingParts_eq_filter]
    rfl
  · rw [OwnershipMechanicsCategories.every, if_pos rfl,
      filter_eq_ite fun pushed h => asked_of_category (category_accessParts pushed h)]
    rfl

/-- Leaving parts out before or after they are added makes no difference. -/
theorem filter_foldl_addPart : ∀ parts added : List MechanicsPart,
    (added.foldl addPart parts).filter (Asked categories)
      = (added.filter (Asked categories)).foldl addPart (parts.filter (Asked categories))
  | parts, [] => rfl
  | parts, part :: added => by
    rw [List.foldl_cons, filter_foldl_addPart]
    by_cases hasked : Asked categories part = true
    · -- a part of the same category is asked for as well
      have hstep : (addPart parts part).filter (Asked categories)
          = addPart (parts.filter (Asked categories)) part := by
        have hany : (parts.filter (Asked categories)).any (fun existing =>
              existing.category = part.category && existing.label = part.label)
            = parts.any fun existing =>
              existing.category = part.category && existing.label = part.label := by
          rw [List.any_filter]
          refine List.any_congr rfl fun existing => ?_
          by_cases hcategory : existing.category = part.category
          · rw [Asked] at hasked ⊢
            rw [hcategory, hasked, Bool.true_and]
          · simp [hcategory]
        rw [addPart, addPart, hany]
        split
        · rfl
        · rw [List.filter_append, List.filter_cons_of_pos hasked, List.filter_nil]
      rw [hstep, List.filter_cons_of_pos hasked, List.foldl_cons]
    · have hstep : (addPart parts part).filter (Asked categories)
          = parts.filter (Asked categories) := by
        rw [addPart]
        split
        · rfl
        · rw [List.filter_append, List.filter_cons_of_neg hasked, List.filter_nil, List.append_nil]
      rw [hstep, List.filter_cons_of_neg hasked]

theorem foldl_addPart_ne_nil : ∀ (added : List MechanicsPart) {parts : List MechanicsPart},
    parts ≠ [] → added.foldl addPart parts ≠ []
  | [], _, h => h
  | part :: added, parts, h => by
    refine foldl_addPart_ne_nil added ?_
    rw [addPart]
    split
    · exact h
    · simp

theorem foldl_addPart_eq_nil_iff {added : List MechanicsPart} :
    added.foldl addPart [] = [] ↔ added = [] := by
  cases added with
  | nil => simp
  | cons part added =>
    rw [List.foldl_cons]
    exact iff_of_false (foldl_addPart_ne_nil added (List.cons_ne_nil part [])) (List.cons_ne_nil _ _)

end Filter

/-! ## The groups -/

/-- As long as there are few positions, every part is pushed. -/
theorem foldl_pushPart_eq {positions : List Position} (hfew : positions.dedup.length ≤ 128) :
    ∀ {pushes : List (Position × MechanicsPart)} {grouped : Map Position (List MechanicsPart)},
      (∀ pushed ∈ pushes, pushed.1 ∈ positions) → grouped.keys ⊆ positions → grouped.keys.Nodup →
      pushes.foldl pushPart grouped
        = pushes.foldl (fun grouped pushed => grouped.modify pushed.1 [] (addPart · pushed.2)) grouped
  | [], _, _, _, _ => rfl
  | pushed :: pushes, grouped, hpushes, hkeys, hnodup => by
    obtain ⟨hpushed, hrest⟩ := List.forall_mem_cons.mp hpushes
    have hroom : (grouped.get? pushed.1).isSome = true ∨ grouped.length < MAX_MECHANICS_HINTS := by
      by_cases hmem : pushed.1 ∈ grouped.keys
      · exact .inl (mem_keys_iff.mp hmem)
      · have hsub : pushed.1 :: grouped.keys ⊆ positions.dedup := by
          intro position h
          rcases List.mem_cons.mp h with rfl | h
          · exact List.mem_dedup.mpr hpushed
          · exact List.mem_dedup.mpr (hkeys h)
        have hlength := (List.subperm_of_subset (List.nodup_cons.mpr ⟨hmem, hnodup⟩) hsub).length_le
        rw [List.length_cons, keys, List.length_map] at hlength
        exact .inr (Nat.lt_of_lt_of_le hlength hfew)
    have hstep : pushPart grouped pushed = grouped.modify pushed.1 [] (addPart · pushed.2) := by
      rw [pushPart, if_pos (by simpa using hroom)]
    rw [List.foldl_cons, List.foldl_cons, hstep]
    refine foldl_pushPart_eq hfew hrest ?_ (nodup_keys_modify _ _ _ hnodup)
    intro position h
    rcases mem_keys_modify h with rfl | h
    · exact hpushed
    · exact hkeys h

/-- The parts of a position. -/
def partsAt (pushes : List (Position × MechanicsPart)) (position : Position) : List MechanicsPart :=
  (pushes.filter (·.1 = position)).foldl (fun parts pushed => addPart parts pushed.2) []

theorem partsAt_filter {categories : OwnershipMechanicsCategories}
    (pushes : List (Position × MechanicsPart)) (position : Position) :
    partsAt (pushes.filter fun pushed => Asked categories pushed.2) position
      = (partsAt pushes position).filter (Asked categories) := by
  have hparts : ∀ pushes : List (Position × MechanicsPart),
      partsAt pushes position = ((pushes.filter (·.1 = position)).map Prod.snd).foldl addPart [] :=
    fun _ => List.foldl_map.symm
  rw [hparts, hparts, filter_foldl_addPart, List.filter_map, List.filter_filter, List.filter_filter]
  simp only [Function.comp_apply, Bool.and_comm, List.filter_nil]

theorem partsAt_eq_nil_iff {pushes : List (Position × MechanicsPart)} {position : Position} :
    partsAt pushes position = [] ↔ pushes.filter (·.1 = position) = [] := by
  rw [partsAt, ← List.foldl_map, foldl_addPart_eq_nil_iff, List.map_eq_nil_iff]

section Hints

variable {pushes : List (Position × MechanicsPart)}

section Few

variable (hfew : (pushes.map Prod.fst).dedup.length ≤ 128)

include hfew

theorem grouped_eq :
    pushes.foldl pushPart [] = pushes.foldl
      (fun (grouped : Map Position (List MechanicsPart)) pushed =>
        grouped.modify pushed.1 [] (addPart · pushed.2)) [] :=
  foldl_pushPart_eq hfew (fun _ h => List.mem_map_of_mem h) (List.nil_subset _)
    (show ([] : List Position).Nodup from List.nodup_nil)

theorem nodup_keys_grouped : (pushes.foldl pushPart []).keys.Nodup := by
  rw [grouped_eq hfew]
  exact nodup_keys_foldl_modify Prod.fst [] (fun parts (pushed : Position × MechanicsPart) =>
    addPart parts pushed.2) pushes (show ([] : List Position).Nodup from List.nodup_nil)

theorem get?_grouped (position : Position) :
    (pushes.foldl pushPart []).get? position
      = if partsAt pushes position = [] then none else some (partsAt pushes position) := by
  rw [grouped_eq hfew,
    get?_foldl_modify Prod.fst [] (fun parts (pushed : Position × MechanicsPart) =>
      addPart parts pushed.2)]
  simp only [partsAt_eq_nil_iff]
  rfl

end Few

/-- A list of hints with one hint a position, some of which are changed and some left out. -/
theorem labelAt_filterMap {f : InlayHint → Option InlayHint}
    (hf : ∀ hint shown, f hint = some shown → shown.position = hint.position)
    (position : Position) : ∀ {grouped : Map Position (List MechanicsPart)}, grouped.keys.Nodup →
      labelAt ((grouped.map mergedHint).filterMap f) position
        = (grouped.get? position).bind fun parts =>
            (f (mergedHint (position, parts))).map (·.label)
  | [], _ => rfl
  | group :: grouped, hnodup => by
    obtain ⟨hnot, hrest⟩ := List.nodup_cons.mp hnodup
    have ih := labelAt_filterMap hf position hrest
    rw [List.map_cons, List.filterMap_cons, get?_cons]
    by_cases hgroup : group.1 = position
    · subst hgroup
      rw [if_pos rfl, Option.bind_some]
      cases hshown : f (mergedHint group) with
      | none =>
        -- no other hint is at the position
        rw [get?_eq_none hnot] at ih
        simpa [hshown] using ih
      | some shown =>
        have hposition : shown.position = group.1 := hf _ _ hshown
        simp [labelAt, hposition]
    · rw [if_neg hgroup, ← ih]
      cases hshown : f (mergedHint group) with
      | none => rfl
      | some shown =>
        have hposition : shown.position ≠ position :=
          fun h => hgroup ((hf _ _ hshown).symm.trans h)
        simp [labelAt, hposition]

end Hints

/-! ## The two ways to show fewer categories -/

theorem mechanicsKind_text (category : MechanicsCategory) :
    mechanicsKind category.text = some category := by
  cases category <;> rfl

theorem segments_mergedHint (group : Position × List MechanicsPart) :
    rustWorkbenchMechanicsSegmentsFromData (mergedHint group).data
      = some (group.2.map fun part => (part.category, part.label)) := by
  rw [rustWorkbenchMechanicsSegmentsFromData, if_neg (by simp [mergedHint])]
  simp [mergedHint, List.filterMap_map, mechanicsKind_text]

theorem position_of_prepare {hintAllowed : DisplayPreferences → InlayHint → Bool}
    {preferences : DisplayPreferences} {hint shown : InlayHint}
    (h : prepareRustWorkbenchHint hintAllowed preferences hint = some shown) :
    shown.position = hint.position := by
  rw [prepareRustWorkbenchHint] at h
  split at h
  · split at h
    · cases h; rfl
    · cases h
  · split at h
    · cases h; rfl
    · split at h
      · cases h
      · split at h
        · cases h
        · cases h; rfl

/-- The editor shows the parts that are asked for, unless there are none. -/
theorem label_prepare {hintAllowed : DisplayPreferences → InlayHint → Bool}
    {preferences : DisplayPreferences} (henabled : preferences.enabled = true)
    (hmode : preferences.mechanicsOff = false) (hrows : ∀ row, preferences.allowsRow row = true)
    (position : Position) (parts : List MechanicsPart) :
    (prepareRustWorkbenchHint hintAllowed preferences (mergedHint (position, parts))).map (·.label)
      = if parts.filter (Asked preferences.shown) = [] then none
        else some (" · ".intercalate ((parts.filter (Asked preferences.shown)).map (·.label))) := by
  have hvisible : visibleRustMechanicsSegments preferences
        (parts.map fun part => (part.category, part.label))
      = (parts.filter (Asked preferences.shown)).map fun part => (part.category, part.label) := by
    rw [visibleRustMechanicsSegments, List.filter_map]
    refine congrArg (List.map _) (List.filter_congr fun part _ => ?_)
    rw [Function.comp_apply, rustMechanicsCategoryAllowed, hmode, Bool.not_false, Bool.true_and,
      Asked]
  rw [prepareRustWorkbenchHint, segments_mergedHint]
  simp only [henabled, hmode, hrows, hvisible]
  cases parts.filter (Asked preferences.shown) with
  | nil => rfl
  | cons part rest => simp [Function.comp_def]

theorem labelAt_mechanicsHints {tutorial : OwnershipTutorialModel} {requestedRange : Range}
    {categories : OwnershipMechanicsCategories} {parts : List (Position × MechanicsPart)}
    (hparts : mechanicsParts tutorial requestedRange categories = parts)
    (hfew : (parts.map Prod.fst).dedup.length ≤ 128) (position : Position) :
    labelAt (ownershipMechanicsHints tutorial requestedRange categories) position
      = if partsAt parts position = [] then none
        else some (" · ".intercalate ((partsAt parts position).map (·.label))) := by
  subst hparts
  have hall := labelAt_filterMap (f := some) (by simp) position (nodup_keys_grouped hfew)
  rw [List.filterMap_some, get?_grouped hfew] at hall
  rw [ownershipMechanicsHints, hall]
  split
  · rfl
  · rfl

/-- **Filtering in the editor equals asking for fewer categories.**  If there are at most 128
positions, the editor shows of the hints of all categories at each position the label that the server
sends for the categories that are shown. -/
theorem filtering_equals_asking (hintAllowed : DisplayPreferences → InlayHint → Bool)
    (preferences : DisplayPreferences) (henabled : preferences.enabled = true)
    (hmode : preferences.mechanicsOff = false) (hrows : ∀ row, preferences.allowsRow row = true)
    (tutorial : OwnershipTutorialModel) (requestedRange : Range)
    (hfew : ((mechanicsParts tutorial requestedRange .every).map Prod.fst).dedup.length ≤ 128) :
    ∀ position,
      labelAt ((ownershipMechanicsHints tutorial requestedRange .every).filterMap
          (prepareRustWorkbenchHint hintAllowed preferences)) position
        = labelAt (ownershipMechanicsHints tutorial requestedRange preferences.shown) position := by
  intro position
  have hfewer : (((mechanicsParts tutorial requestedRange .every).filter fun pushed =>
      Asked preferences.shown pushed.2).map Prod.fst).dedup.length ≤ 128 := by
    refine Nat.le_trans (List.subperm_of_subset (List.nodup_dedup _) ?_).length_le hfew
    intro anchor hanchor
    rw [List.mem_dedup] at hanchor ⊢
    exact (List.filter_sublist.map Prod.fst).subset hanchor
  rw [labelAt_mechanicsHints (mechanicsParts_eq_filter _ _) hfewer, partsAt_filter,
    ownershipMechanicsHints,
    labelAt_filterMap (fun _ _ h => position_of_prepare h) position (nodup_keys_grouped hfew),
    get?_grouped hfew]
  simp only [label_prepare henabled hmode hrows]
  by_cases hparts : partsAt (mechanicsParts tutorial requestedRange .every) position = []
  · simp [hparts]
  · rw [if_neg hparts, Option.bind_some]

/-- A vector of three words, with a layout, a buffer on the heap and a header. -/
def vectorTutorial : OwnershipTutorialModel where
  bindings := [{
    bodyId := 1
    name := "values"
    range := ⟨⟨0, 4⟩, ⟨0, 10⟩⟩
    typeName := "Vec<i32>"
    size := some 24
    align := some 8
    memoryLayers := [
      ⟨"stack_binding", "stack", "stack binding `values`", "Vec<i32>", some 24, some 8, "exact"⟩,
      ⟨"vec_header", "inline", "pointer, length, and capacity", "Vec<i32>", some 24, some 8, "exact"⟩,
      ⟨"vec_buffer", "heap", "element buffer", "i32", none, none, "exact"⟩] }]

/-- Only what is on the heap is shown. -/
def storageOnly : DisplayPreferences := ⟨true, false, fun _ => true, ⟨false, true, false, false⟩⟩

theorem vector_storage_shown :
    labelAt ((ownershipMechanicsHints vectorTutorial ⟨⟨0, 0⟩, ⟨9, 0⟩⟩ .every).filterMap
        (prepareRustWorkbenchHint (fun _ _ => true) storageOnly)) ⟨0, 10⟩
      = some "handle → element buffer" := by
  rw [filtering_equals_asking (fun _ _ => true) storageOnly rfl rfl (fun _ => rfl) vectorTutorial
    ⟨⟨0, 0⟩, ⟨9, 0⟩⟩ (by decide +kernel)]
  decide +kernel

end RustWorkbench.Bridge
