import RustWorkbench.Library.Assoc
import RustWorkbench.Library.StableSort

/-!
# Lists grouped by a key

Elements are pushed one after the other to the group of their key, and the groups are read in the
order of the keys.

* `group` — the loop.
* `get?_group` — the group of a key holds its elements in the order of the list.
* `mem_sorted_iff`, `sorted_pairwise` — the groups in order: none is empty and the keys increase.
* `flatten_sorted_perm` — every element is in one group.
-/

namespace Groups

open Assoc Assoc.Map StableSort

variable {α κ : Type}

section Group

variable [DecidableEq κ] (key : α → κ)

def add (groups : Map κ (List α)) (a : α) : Map κ (List α) := groups.modify (key a) [] (· ++ [a])

def group (l : List α) : Map κ (List α) := l.foldl (add key) []

theorem get?_group (l : List α) (k : κ) : (group key l).get? k =
    if l.filter (key · = k) = [] then none else some (l.filter (key · = k)) := by
  have hlookup := get?_foldl_modify key [] (fun elements a => elements ++ [a]) k l []
  rw [List.foldl_append_eq_append, ← List.flatMap_def, List.flatMap_singleton'] at hlookup
  exact hlookup

theorem nodup_keys_group (l : List α) : (group key l).keys.Nodup :=
  nodup_keys_foldl_modify key [] (fun elements a => elements ++ [a]) l List.nodup_nil

theorem flatten_values_add (a : α) : ∀ groups : Map κ (List α),
    (add key groups a).values.flatten.Perm (groups.values.flatten ++ [a])
  | [] => by simp [add, Map.modify, values]
  | entry :: groups => by
    have ih := flatten_values_add a groups
    unfold add at ih ⊢
    rw [Map.modify]
    split
    · -- the element goes behind its group, in front of the others
      simp only [values, List.map_cons, List.flatten_cons, List.append_assoc]
      exact List.Perm.append_left _ List.perm_append_comm
    · simp only [values, List.map_cons, List.flatten_cons, List.append_assoc]
      exact ih.append_left _

theorem flatten_values_group (l : List α) : (group key l).values.flatten.Perm l := by
  have hfold : ∀ (l : List α) (groups : Map κ (List α)),
      (l.foldl (add key) groups).values.flatten.Perm (groups.values.flatten ++ l) := by
    intro l
    induction l with
    | nil => simp
    | cons a l ih =>
      intro groups
      refine (ih _).trans ?_
      simpa using (flatten_values_add key a groups).append_right l
  exact hfold l []

end Group

section Sorted

variable [LinearOrder κ] (key : α → κ) (l : List α)

def sorted : List (κ × List α) := sortByKey Prod.fst (group key l)

variable {key l}

theorem mem_sorted_iff {entry : κ × List α} : entry ∈ sorted key l ↔
    entry.2 = l.filter (key · = entry.1) ∧ entry.2 ≠ [] := by
  obtain ⟨k, elements⟩ := entry
  rw [sorted, mem_sortByKey, mem_iff_get? (nodup_keys_group key l), get?_group]
  split
  · next hnil => simp [hnil]
  · next hne =>
    simp only [Option.some.injEq]
    constructor
    · rintro rfl
      exact ⟨rfl, hne⟩
    · exact fun h => h.1.symm

theorem sorted_pairwise : (sorted key l).Pairwise fun p q => p.1 < q.1 := by
  have hle := sortByKey_pairwise Prod.fst (group key l)
  have hne : (sorted key l).Pairwise fun p q => p.1 ≠ q.1 := by
    have hnodup : ((sorted key l).map Prod.fst).Nodup :=
      ((sortByKey_perm Prod.fst (group key l)).map Prod.fst).nodup_iff.mpr (nodup_keys_group key l)
    exact List.pairwise_map.mp hnodup
  exact (hle.and hne).imp fun h => lt_of_le_of_ne h.1 h.2

theorem flatten_sorted_perm : ((sorted key l).map Prod.snd).flatten.Perm l :=
  ((sortByKey_perm Prod.fst (group key l)).map Prod.snd).flatten.trans (flatten_values_group key l)

end Sorted

end Groups
