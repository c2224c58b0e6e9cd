import RustWorkbench.Analyzer.RoundTrip
import RustWorkbench.Bridge.Validate

/-!
# Which problem lists the editor accepts

The analyzer lists a problem for every stored diagnostic and for every rejected use without one,
leaving out an adjacent repeat; it has no limit of its own on the list.

* `problems_accepted_iff` — what the stored facts must satisfy for the editor to accept it.
-/

namespace RustWorkbench.Bridge

open Analyzer StableSort

variable {diagnostics : List OwnershipDiagnostic} {events : List Analyzer.OwnershipEvent}
  {tutorial : OwnershipTutorialModel}

/-! ## The conditions -/

/-- What is assumed of the facts stored for a file: a supported compiler schema, no inverted
range, and no single message of 256 KiB or more. -/
structure StoredFactsOk (diagnostics : List OwnershipDiagnostic)
    (events : List Analyzer.OwnershipEvent) (tutorial : OwnershipTutorialModel) : Prop where
  schema : tutorial.schemaVersion ≤ 7
  diagnosticRange : ∀ d ∈ diagnostics, d.range.WellFormed
  relatedRange : ∀ d ∈ diagnostics, ∀ related ∈ d.related, related.range.WellFormed
  eventRange : ∀ e ∈ events, e.range.WellFormed
  eventBindingRange : ∀ e ∈ events, e.bindingRange.WellFormed
  bindingRange : ∀ binding ∈ tutorial.bindings, binding.range.WellFormed
  message : ∀ d ∈ diagnostics, textBytes d.message < MAX_OWNERSHIP_TEXT_BYTES
  relatedMessage : ∀ d ∈ diagnostics, ∀ related ∈ d.related,
    textBytes related.message < MAX_OWNERSHIP_TEXT_BYTES

/-- The code and the binding of a diagnostic, as its id has them. -/
def codeAndBinding (events : List Analyzer.OwnershipEvent) (d : OwnershipDiagnostic) : String :=
  d.code ++ "-" ++ diagnosticBindingName d events

/-- The ranges related to a diagnostic: its own and those of the other events of its binding. -/
def diagnosticRanges (events : List Analyzer.OwnershipEvent) (d : OwnershipDiagnostic) : List Range :=
  d.related.map (·.range)
    ++ ((((selectedEventFor d events).map (ownershipEventsForBinding events)).getD []).map
      (·.range)).filter (· != d.range)

/-- The ranges of the other events of the binding of a rejected use. -/
def useRanges (events : List Analyzer.OwnershipEvent) (e : Analyzer.OwnershipEvent) : List Range :=
  ((ownershipEventsForBinding events e).map (·.range)).filter (· != e.range)

/-- What the editor asks of the stored facts beyond that.  A stored diagnostic is *new* if the one
stored just before it has another category, binding or range. -/
structure ProblemsFit (diagnostics : List OwnershipDiagnostic)
    (events : List Analyzer.OwnershipEvent) (tutorial : OwnershipTutorialModel) : Prop where
  /-- There are at most 512 facts, not counting the diagnostics that are not new. -/
  count : diagnostics.length + (uncoveredUses diagnostics events).length
    ≤ MAX_OWNERSHIP_PROBLEMS + repeats (diagnosticKey events tutorial) diagnostics
  /-- No two new diagnostics of one code, binding and range, separated by another one. -/
  apart : ∀ pre a mid b post, diagnostics = pre ++ a :: (mid ++ b :: post) →
    IsNew (diagnosticKey events tutorial) pre a →
    IsNew (diagnosticKey events tutorial) (a :: mid) b →
    a.range = b.range → codeAndBinding events a ≠ codeAndBinding events b
  /-- A new diagnostic has at most 64 related messages and different related ranges. -/
  diagnostic : ∀ pre d post, diagnostics = pre ++ d :: post →
    IsNew (diagnosticKey events tutorial) pre d →
    d.related.length ≤ 64 ∧ (diagnosticRanges events d).dedup.length ≤ 64
  /-- So has the binding of a rejected use, whose name leaves room for the message made from it. -/
  use : ∀ e ∈ uncoveredUses diagnostics events,
    (useRanges events e).dedup.length ≤ 64 ∧ textBytes e.name + 25 ≤ MAX_OWNERSHIP_TEXT_BYTES

/-! ## Acceptance -/

theorem textBytes_append (s t : String) : textBytes (s ++ t) = textBytes s + textBytes t := by
  simp [textBytes]

theorem textBytes_use_message (e : Analyzer.OwnershipEvent) :
    textBytes (ownershipProblemFromInvalidUse events e).message = textBytes e.name + 25 := by
  show textBytes ("borrow of moved value: `" ++ e.name ++ "`") = textBytes e.name + 25
  rw [textBytes_append, textBytes_append]
  have h₁ : textBytes "borrow of moved value: `" = 24 := by decide +kernel
  have h₂ : textBytes "`" = 1 := by decide +kernel
  omega

theorem ownershipProblemId_ne_empty (code name : String) (range : Range) :
    ownershipProblemId code name range ≠ "" := by
  intro h
  have hmem : '-' ∈ (ownershipProblemId code name range).toList := by
    simp [ownershipProblemId, String.toList_append]
  rw [h] at hmem
  cases hmem

/-- What `validate_ownership_problems` asks of one problem. -/
structure ProblemOk (problem : OwnershipProblem) : Prop where
  primaryRange : problem.primaryRange.WellFormed
  bindingRange : problem.bindingRange.WellFormed
  relatedCount : problem.relatedRanges.length ≤ 64
  messageCount : problem.related.length ≤ 64
  relatedRange : ∀ range ∈ problem.relatedRanges, range.WellFormed
  related : ∀ related ∈ problem.related, related.range.WellFormed ∧
    textBytes related.message ≤ MAX_OWNERSHIP_TEXT_BYTES
  message : textBytes problem.message ≤ MAX_OWNERSHIP_TEXT_BYTES

/-- What `validate_ownership_problems` accepts from the analyzer. -/
theorem validateOwnershipProblems_ok_iff {result : OwnershipProblems}
    (hstatus : result.status = "ready" ∨ result.status = "waiting_for_compiler") :
    validateOwnershipProblems result = .ok () ↔
      (0 < result.schemaVersion ∧ result.schemaVersion ≤ 7) ∧
      result.problems.length ≤ MAX_OWNERSHIP_PROBLEMS ∧
      ((∀ problem ∈ result.problems, problem.id ≠ "") ∧ (result.problems.map (·.id)).Nodup) ∧
      ∀ problem ∈ result.problems, ProblemOk problem := by
  have havailable : (result.status == "rust_analyzer_unavailable") = false := by
    rcases hstatus with h | h
    · rw [h]; decide
    · rw [h]; decide
  have hknown : ["ready", "waiting_for_compiler", "rust_analyzer_unavailable"].contains
      result.status = true := by
    rcases hstatus with h | h
    · rw [h]; decide
    · rw [h]; decide
  have hproblem : ∀ problem, ProblemOk problem ↔
      problem.primaryRange.WellFormed ∧ problem.bindingRange.WellFormed ∧
        problem.relatedRanges.length ≤ 64 ∧ problem.related.length ≤ 64 ∧
        (∀ range ∈ problem.relatedRanges, range.WellFormed) ∧
        (∀ related ∈ problem.related, related.range.WellFormed ∧
          textBytes related.message ≤ MAX_OWNERSHIP_TEXT_BYTES) ∧
        textBytes problem.message ≤ MAX_OWNERSHIP_TEXT_BYTES := fun problem =>
    ⟨fun h => ⟨h.1, h.2, h.3, h.4, h.5, h.6, h.7⟩,
      fun ⟨h₁, h₂, h₃, h₄, h₅, h₆, h₇⟩ => ⟨h₁, h₂, h₃, h₄, h₅, h₆, h₇⟩⟩
  unfold validateOwnershipProblems
  simp only [Checks.seq_ok_iff, Checks.ensure_ok_iff, Checks.forEach_ok_iff,
    Checks.uniqueIds_ok_iff, validateRange_ok_iff, validateText_ok_iff, havailable, hknown,
    validateSchema_ok_iff, decide_eq_true_eq, true_and, List.forall_mem_map, hproblem]

/-- The binding range of a diagnostic is that of a binding, of an event, or its own. -/
theorem diagnostic_bindingRange_wellFormed {d : OwnershipDiagnostic} (hd : d.range.WellFormed)
    (hbindings : ∀ binding ∈ tutorial.bindings, binding.range.WellFormed)
    (hevents : ∀ e ∈ events, e.bindingRange.WellFormed) :
    (ownershipProblemFromDiagnostic d events tutorial).bindingRange.WellFormed := by
  show (Option.getD _ d.range).WellFormed
  cases hfind : tutorial.bindings.find? fun binding =>
      ownershipNameRefersToBinding (diagnosticBindingName d events) binding.name
        || ownershipNameRefersToBinding binding.name (diagnosticBindingName d events) with
  | some binding => exact hbindings binding (List.mem_of_find?_eq_some hfind)
  | none =>
    cases hevent : selectedEventFor d events with
    | some e => exact hevents e (List.mem_of_find?_eq_some hevent)
    | none => exact hd

theorem mem_ownershipEventsForBinding {selected event : Analyzer.OwnershipEvent}
    (h : event ∈ ownershipEventsForBinding events selected) : event ∈ events :=
  List.mem_of_mem_filter h

theorem range_wellFormed_of_event (hevents : ∀ e ∈ events, e.range.WellFormed)
    {l : List Analyzer.OwnershipEvent} (hl : ∀ e ∈ l, e ∈ events) {own range : Range}
    (h : range ∈ (l.map (·.range)).filter (· != own)) : range.WellFormed := by
  obtain ⟨e, he, rfl⟩ := List.mem_map.mp (List.mem_of_mem_filter h)
  exact hevents e (hl e he)

theorem mem_sortAndDedupRanges {ranges : List Range} {range : Range} :
    range ∈ sortAndDedupRanges ranges ↔ range ∈ ranges := by
  rw [sortAndDedupRanges, (dedupBy_sortByKey_perm ranges).mem_iff, List.mem_dedup]

theorem length_sortAndDedupRanges (ranges : List Range) :
    (sortAndDedupRanges ranges).length = ranges.dedup.length :=
  (dedupBy_sortByKey_perm ranges).length_eq

/-- The problem of a diagnostic is acceptable exactly if its lists are within the limits. -/
theorem problemOk_diagnostic_iff (h : StoredFactsOk diagnostics events tutorial)
    {d : OwnershipDiagnostic} (hd : d ∈ diagnostics) :
    ProblemOk (ownershipProblemFromDiagnostic d events tutorial) ↔
      d.related.length ≤ 64 ∧ (diagnosticRanges events d).dedup.length ≤ 64 := by
  constructor
  · intro hok
    exact ⟨(List.length_map _).symm.trans_le hok.messageCount,
      (length_sortAndDedupRanges _).symm.trans_le hok.relatedCount⟩
  · rintro ⟨hrelated, hranges⟩
    refine ⟨h.diagnosticRange d hd,
      diagnostic_bindingRange_wellFormed (h.diagnosticRange d hd) h.bindingRange h.eventBindingRange,
      (length_sortAndDedupRanges _).trans_le hranges, (List.length_map _).trans_le hrelated,
      fun range hrange => ?_, fun related hmem => ?_, (h.message d hd).le⟩
    · rcases List.mem_append.mp (mem_sortAndDedupRanges.mp hrange) with hown | hother
      · obtain ⟨related, hmember, rfl⟩ := List.mem_map.mp hown
        exact h.relatedRange d hd related hmember
      · refine range_wellFormed_of_event h.eventRange (fun e he => ?_) hother
        cases hselected : selectedEventFor d events with
        | none =>
          rw [hselected] at he
          cases he
        | some selected =>
          rw [hselected] at he
          exact mem_ownershipEventsForBinding he
    · obtain ⟨stored, hstored, rfl⟩ := List.mem_map.mp hmem
      exact ⟨h.relatedRange d hd stored hstored, (h.relatedMessage d hd stored hstored).le⟩

/-- The problem of a rejected use is acceptable exactly if its ranges and its message are within the
limits. -/
theorem problemOk_use_iff (h : StoredFactsOk diagnostics events tutorial)
    {e : Analyzer.OwnershipEvent} (he : e ∈ events) :
    ProblemOk (ownershipProblemFromInvalidUse events e) ↔
      (useRanges events e).dedup.length ≤ 64
        ∧ textBytes e.name + 25 ≤ MAX_OWNERSHIP_TEXT_BYTES := by
  rw [← @textBytes_use_message events]
  constructor
  · exact fun hok => ⟨(length_sortAndDedupRanges _).symm.trans_le hok.relatedCount, hok.message⟩
  · rintro ⟨hranges, hmessage⟩
    exact ⟨h.eventRange e he, h.eventBindingRange e he,
      (length_sortAndDedupRanges _).trans_le hranges, Nat.zero_le _,
      fun range hrange => range_wellFormed_of_event h.eventRange
        (fun _ => mem_ownershipEventsForBinding) (mem_sortAndDedupRanges.mp hrange),
      (fun _ hmem => nomatch hmem), hmessage⟩

/-- The ids of the problems differ exactly if those of the new diagnostics do: a rejected use has
its range for itself. -/
theorem ids_nodup_iff (h : StoredFactsOk diagnostics events tutorial) :
    (((dedupBy (sameKey (diagnosticKey events tutorial)) diagnostics).map
          (ownershipProblemFromDiagnostic · events tutorial)
        ++ (uncoveredUses diagnostics events).map (ownershipProblemFromInvalidUse events)).map
      (·.id)).Nodup ↔
      ∀ pre a mid b post, diagnostics = pre ++ a :: (mid ++ b :: post) →
        IsNew (diagnosticKey events tutorial) pre a →
        IsNew (diagnosticKey events tutorial) (a :: mid) b →
        a.range = b.range → codeAndBinding events a ≠ codeAndBinding events b := by
  have huses : ((uncoveredUses diagnostics events).map fun e =>
      ownershipProblemId "E0382" e.name e.range).Nodup := by
    refine List.pairwise_map.mpr (uncoveredUses_pairwise.imp_of_mem ?_)
    intro earlier e hearlier _ huntouched hid
    rw [← (ownershipProblemId_inj hid).1, touches_itself h.eventRange hearlier] at huntouched
    cases huntouched
  have hapart : ∀ a b : OwnershipDiagnostic,
      (ownershipProblemFromDiagnostic a events tutorial).id
          ≠ (ownershipProblemFromDiagnostic b events tutorial).id
        ↔ (a.range = b.range → codeAndBinding events a ≠ codeAndBinding events b) := by
    intro a b
    rw [← not_and, not_iff_not]
    refine ⟨ownershipProblemId_inj, fun ⟨hrange, hlabel⟩ => ?_⟩
    show ownershipProblemId _ _ _ = ownershipProblemId _ _ _
    unfold codeAndBinding at hlabel
    rw [ownershipProblemId, ownershipProblemId, hrange, hlabel]
  rw [List.map_append, List.map_map, List.map_map, List.nodup_append', List.Nodup, List.pairwise_map]
  simp only [Function.comp_apply, hapart, pairwise_dedupBy_iff]
  refine and_iff_left ⟨huses, fun id hid hid' => ?_⟩
  obtain ⟨d, hd, rfl⟩ := List.mem_map.mp hid
  obtain ⟨e, he, hsame⟩ := List.mem_map.mp hid'
  have huntouched := (mem_uncoveredUses he).2.2 d ((dedupBy_sublist _).subset hd)
  have hrange : e.range = d.range := (ownershipProblemId_inj hsame).1
  rw [← hrange, touches_itself h.eventRange he] at huntouched
  cases huntouched

/-- **Which problem lists are accepted.**  For stored facts as assumed, the editor accepts the
list of a file exactly if the stored facts, without the diagnostics that repeat the one stored just
before them, stay within its limits and no two of them have one code, binding and range. -/
theorem problems_accepted_iff (snap : Snapshot) {uri : String} {fileId : FileId}
    (hfile : snap.urlToFileId uri = .ok (some fileId))
    (hstored : StoredFactsOk (snap.diagnosticsOf fileId) (snap.eventsOf fileId)
      (snap.tutorialOf fileId)) :
    (∃ result, handleOwnershipProblems snap uri = .ok result ∧
        validateOwnershipProblems result = .ok ()) ↔
      ProblemsFit (snap.diagnosticsOf fileId) (snap.eventsOf fileId) (snap.tutorialOf fileId) := by
  have hsorted : (snap.diagnosticsOf fileId).Pairwise (keyLe OwnershipDiagnostic.range) :=
    sortByKey_pairwise _ _
  have hperm := @problemList_perm _ _ (snap.tutorialOf fileId) hstored.eventRange hsorted
  have hlength := @length_dedupBy _ _ _
    (diagnosticKey (snap.eventsOf fileId) (snap.tutorialOf fileId)) (snap.diagnosticsOf fileId)
  have hschema : 0 < max (snap.tutorialOf fileId).schemaVersion 1 ∧
      max (snap.tutorialOf fileId).schemaVersion 1 ≤ 7 := by
    have := hstored.schema
    omega
  unfold handleOwnershipProblems
  rw [hfile]
  simp only [Except.ok.injEq, exists_eq_left']
  rw [validateOwnershipProblems_ok_iff (by unfold ownershipProblemsOf; dsimp only; split <;> simp)]
  simp only [ownershipProblemsOf]
  rw [hperm.length_eq, (hperm.map _).nodup_iff, ids_nodup_iff hstored, List.length_append,
    List.length_map, List.length_map]
  simp only [hperm.mem_iff, List.forall_mem_append, List.forall_mem_map, mem_dedupBy_iff]
  constructor
  · rintro ⟨-, hcount, ⟨-, hids⟩, hdiagnostics, huses⟩
    refine ⟨by omega, hids, fun pre d post hsplit hnew => ?_, fun e he => ?_⟩
    · refine (problemOk_diagnostic_iff hstored ?_).mp (hdiagnostics d ⟨pre, post, hsplit, hnew⟩)
      rw [hsplit]
      simp
    · exact (problemOk_use_iff hstored (mem_uncoveredUses he).1).mp (huses e he)
  · intro hfit
    have hcount := hfit.count
    refine ⟨hschema, by omega, ⟨⟨fun _ _ => ownershipProblemId_ne_empty _ _ _,
      fun _ _ => ownershipProblemId_ne_empty _ _ _⟩, hfit.apart⟩, ?_, fun e he =>
      (problemOk_use_iff hstored (mem_uncoveredUses he).1).mpr (hfit.use e he)⟩
    rintro d ⟨pre, post, hsplit, hnew⟩
    refine (problemOk_diagnostic_iff hstored ?_).mpr (hfit.diagnostic pre d post hsplit hnew)
    rw [hsplit]
    simp

theorem innerError_stored : StoredFactsOk [innerError] [] {} :=
  ⟨by decide, by decide, by decide, by decide, by decide, by decide, by decide +kernel, by decide⟩

/-- The list of a single diagnostic is accepted. -/
theorem single_diagnostic_accepted :
    ∃ result, handleOwnershipProblems (diagnosticsOnly [innerError]) "main.rs" = .ok result ∧
      validateOwnershipProblems result = .ok () := by
  have hdiagnostics : (diagnosticsOnly [innerError]).diagnosticsOf 0 = [innerError] := by
    decide +kernel
  have hstored : StoredFactsOk ((diagnosticsOnly [innerError]).diagnosticsOf 0)
      ((diagnosticsOnly [innerError]).eventsOf 0) ((diagnosticsOnly [innerError]).tutorialOf 0) := by
    rw [hdiagnostics]
    exact innerError_stored
  refine (problems_accepted_iff (diagnosticsOnly [innerError]) rfl hstored).mpr
    ⟨by decide +kernel, fun pre a mid b post hsplit => ?_, fun pre d post hsplit _ => ?_,
      fun e he => nomatch (mem_uncoveredUses he).1⟩
  · have hlength := congrArg List.length (hdiagnostics.symm.trans hsplit)
    simp at hlength
    omega
  · obtain rfl : d = innerError := by
      have hmem : d ∈ (diagnosticsOnly [innerError]).diagnosticsOf 0 := by
        rw [hsplit]
        simp
      rwa [hdiagnostics, List.mem_singleton] at hmem
    decide +kernel

/-- Two E0382 errors on one range with another error stored between them. -/
def interleavedErrors : List OwnershipDiagnostic :=
  [innerError,
    ⟨"E0505", "cannot move out of `a` because it is borrowed", columns 5 6, []⟩,
    ⟨"E0382", "borrow of moved value: `b`", columns 5 6, []⟩]

/-- Both are listed under one id, and the editor drops the whole list. -/
theorem interleaved_errors_rejected :
    StoredFactsOk ((diagnosticsOnly interleavedErrors).diagnosticsOf 0) [] {} ∧
    ∃ result, handleOwnershipProblems (diagnosticsOnly interleavedErrors) "main.rs" = .ok result ∧
      validateOwnershipProblems result
        = .error "ownership problems contains duplicate id `E0382-b-0-5-0-6`" :=
  ⟨⟨by decide, by decide +kernel, by decide +kernel, by decide, by decide, by decide,
      by decide +kernel, by decide +kernel⟩,
    _, rfl, by decide +kernel⟩

end RustWorkbench.Bridge
