import Mathlib.Data.List.Basic

/-!
# Validators

A validator returns the first violation it finds.  What it accepts is the conjunction of what
its parts accept, whatever their messages; the lemmas here are a simp set that turns
`check = .ok ()` into that conjunction.

* `ensure`, `forEach`, `uniqueIds` — the parts.
* `seq_ok_iff`, `forEach_ok_iff`, `uniqueIds_ok_iff` — what they accept.
-/

namespace Checks

/-- Success, or the message of the first violation. -/
abbrev Check := Except String Unit

def ensure (condition : Bool) (message : String) : Check :=
  if condition then .ok () else .error message

/-- Check every item. -/
def forEach {α : Type} (items : List α) (check : α → Check) : Check :=
  match items with
  | [] => .ok ()
  | item :: items => do
    check item
    forEach items check

/-- Every id is non-empty and none occurs twice; `seen` are the ids before. -/
def uniqueIdsFrom (label : String) : List String → List String → Check
  | _, [] => .ok ()
  | seen, id :: ids => do
    ensure (id != "") (label ++ " contains an empty id")
    ensure (!seen.contains id) (label ++ " contains duplicate id `" ++ id ++ "`")
    uniqueIdsFrom label (id :: seen) ids

def uniqueIds (label : String) (ids : List String) : Check := uniqueIdsFrom label [] ids

@[simp] theorem ensure_ok_iff {condition : Bool} {message : String} :
    ensure condition message = .ok () ↔ condition = true := by
  unfold ensure
  cases condition with
  | true => simp
  | false => simp

@[simp] theorem seq_ok_iff {check : Check} {next : Unit → Check} :
    (check >>= next) = .ok () ↔ check = .ok () ∧ next () = .ok () := by
  cases check with
  | error message => simp [bind, Except.bind]
  | ok value => simp [bind, Except.bind]

@[simp] theorem forEach_ok_iff {α : Type} {check : α → Check} : ∀ {items : List α},
    forEach items check = .ok () ↔ ∀ item ∈ items, check item = .ok ()
  | [] => by simp [forEach]
  | item :: items => by
    rw [forEach, seq_ok_iff, forEach_ok_iff]
    simp

theorem uniqueIdsFrom_ok_iff {label : String} : ∀ {seen ids : List String},
    uniqueIdsFrom label seen ids = .ok () ↔
      (∀ id ∈ ids, id ≠ "") ∧ ids.Nodup ∧ ∀ id ∈ ids, id ∉ seen
  | seen, [] => by simp [uniqueIdsFrom]
  | seen, id :: ids => by
    rw [uniqueIdsFrom, seq_ok_iff, seq_ok_iff, ensure_ok_iff, ensure_ok_iff, uniqueIdsFrom_ok_iff]
    simp only [bne_iff_ne, ne_eq, Bool.not_eq_true', List.contains_eq_mem, decide_eq_false_iff_not,
      List.mem_cons, forall_eq_or_imp, List.nodup_cons, not_or]
    constructor
    · rintro ⟨hne, hseen, hids, hnodup, hnew⟩
      exact ⟨⟨hne, hids⟩, ⟨fun hmem => (hnew id hmem).1 rfl, hnodup⟩, hseen,
        fun other hother => (hnew other hother).2⟩
    · rintro ⟨⟨hne, hids⟩, ⟨hnot, hnodup⟩, hseen, hnew⟩
      refine ⟨hne, hseen, hids, hnodup, fun other hother => ⟨?_, hnew other hother⟩⟩
      rintro rfl
      exact hnot hother

@[simp] theorem uniqueIds_ok_iff {label : String} {ids : List String} :
    uniqueIds label ids = .ok () ↔ (∀ id ∈ ids, id ≠ "") ∧ ids.Nodup := by
  rw [uniqueIds, uniqueIdsFrom_ok_iff]
  simp

end Checks
