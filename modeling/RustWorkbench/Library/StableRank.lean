import RustWorkbench.Library.StableSort

/-!
# Where a stable sort puts an element

An element goes behind those with smaller keys and behind the earlier ones with its own key.

* `exists_ranked_of_sorted`, `exists_ranked` — every place of one list has its place in the other.
-/

namespace StableSort

open scoped List

variable {α β : Type} [LinearOrder β] {f : α → β}

/-- The element between `before` and `after` goes between `front` and `back`. -/
structure Ranked (f : α → β) (before : List α) (a : α) (after front back : List α) : Prop where
  sorted : sortByKey f (before ++ a :: after) = front ++ a :: back
  equals : front.filter (fun b => f b = f a) = before.filter (fun b => f b = f a)

section Splits

variable {l before after : List α} {a : α}

/-- A place among the elements of one key is a place of the whole list. -/
theorem exists_split_of_filter {p : α → Bool} (h : l.filter p = before ++ a :: after) :
    ∃ front back, l = front ++ a :: back ∧ front.filter p = before := by
  obtain ⟨front, rest, rfl, hfront, hrest⟩ := List.filter_eq_append_iff.mp h
  obtain ⟨skipped, back, rfl, hskipped, -, -⟩ := List.filter_eq_cons_iff.mp hrest
  refine ⟨front ++ skipped, back, by simp, ?_⟩
  rw [List.filter_append, hfront, List.filter_eq_nil_iff.mpr hskipped, List.append_nil]

theorem exists_split_of_filter_eq {p : α → Bool}
    (h : (before ++ a :: after).filter p = l.filter p) (ha : p a = true) :
    ∃ front back, l = front ++ a :: back ∧ front.filter p = before.filter p := by
  rw [List.filter_append, List.filter_cons_of_pos ha] at h
  exact exists_split_of_filter h.symm

end Splits

section Places

variable {before after front back : List α} {a : α}

theorem exists_ranked_of_sorted {l : List α} (h : sortByKey f l = front ++ a :: back) :
    ∃ before after, l = before ++ a :: after ∧ Ranked f before a after front back := by
  have hstable := filter_sortByKey f (f a) l
  rw [h] at hstable
  obtain ⟨before, after, rfl, hequals⟩ :=
    exists_split_of_filter_eq hstable (decide_eq_true rfl)
  exact ⟨before, after, rfl, h, hequals.symm⟩

theorem exists_ranked (f : α → β) (before : List α) (a : α) (after : List α) :
    ∃ front back, Ranked f before a after front back := by
  have hstable := filter_sortByKey f (f a) (before ++ a :: after)
  obtain ⟨front, back, hsorted, hequals⟩ :=
    exists_split_of_filter_eq hstable.symm (decide_eq_true rfl)
  exact ⟨front, back, hsorted, hequals⟩

/-- The elements up to a key are those below it and those that have it. -/
theorem perm_filter_le {l : List α} {k : β} : (l.filter fun b => f b ≤ k).Perm
    (l.filter (fun b => f b < k) ++ l.filter fun b => f b = k) := by
  have hlt : (l.filter fun b => f b ≤ k).filter (fun b => f b < k) = l.filter fun b => f b < k := by
    rw [List.filter_filter]
    refine List.filter_congr fun b _ => ?_
    simpa using fun hlt : f b < k => hlt.le
  have heq : (l.filter fun b => f b ≤ k).filter (fun b => !decide (f b < k)) =
      l.filter fun b => f b = k := by
    rw [List.filter_filter]
    refine List.filter_congr fun b _ => ?_
    rw [Bool.eq_iff_iff]
    simp only [Bool.and_eq_true, Bool.not_eq_true', decide_eq_false_iff_not, not_lt,
      decide_eq_true_eq]
    exact ⟨fun h => le_antisymm h.2 h.1, fun h => ⟨h.ge, h.le⟩⟩
  rw [← hlt, ← heq]
  exact (List.filter_append_perm _ _).symm

namespace Ranked

variable (h : Ranked f before a after front back)
include h

theorem front_le : ∀ b ∈ front, f b ≤ f a := by
  have hpairwise := h.sorted ▸ sortByKey_pairwise f (before ++ a :: after)
  intro b hb
  exact (List.pairwise_append.mp hpairwise).2.2 b hb a List.mem_cons_self

theorem le_back : ∀ b ∈ back, f a ≤ f b := by
  have hpairwise := h.sorted ▸ sortByKey_pairwise f (before ++ a :: after)
  intro b hb
  exact List.rel_of_pairwise_cons (List.pairwise_append.mp hpairwise).2.1 hb

/-- The elements below the key stand before the element. -/
theorem filter_lt_perm : (front.filter fun b => f b < f a).Perm
    (before.filter (fun b => f b < f a) ++ after.filter fun b => f b < f a) := by
  have hperm := (sortByKey_perm f (before ++ a :: after)).filter fun b => f b < f a
  have hback : (a :: back).filter (fun b => f b < f a) = [] := by
    refine List.filter_eq_nil_iff.mpr fun b hb => ?_
    rcases List.mem_cons.mp hb with rfl | hb
    · simp
    · simpa using h.le_back b hb
  rw [h.sorted, List.filter_append, hback, List.append_nil, List.filter_append,
    List.filter_cons_of_neg (by simp)] at hperm
  exact hperm

/-- **What stands before the element**: the earlier ones up to its key and the later ones below. -/
theorem perm : front.Perm
    (before.filter (fun b => f b ≤ f a) ++ after.filter fun b => f b < f a) := by
  have hle : front.filter (fun b => f b ≤ f a) = front :=
    List.filter_eq_self.mpr fun b hb => decide_eq_true (h.front_le b hb)
  calc front
    _ = front.filter (fun b => f b ≤ f a) := hle.symm
    _ ~ front.filter (fun b => f b < f a) ++ front.filter (fun b => f b = f a) := perm_filter_le
    _ ~ (before.filter (fun b => f b < f a) ++ after.filter fun b => f b < f a) ++
          before.filter (fun b => f b = f a) := h.filter_lt_perm.append (h.equals ▸ .refl _)
    _ ~ (before.filter (fun b => f b < f a) ++ before.filter (fun b => f b = f a)) ++
          after.filter fun b => f b < f a := by
      rw [List.append_assoc, List.append_assoc]
      exact List.perm_append_comm.append_left _
    _ ~ before.filter (fun b => f b ≤ f a) ++ after.filter fun b => f b < f a :=
          perm_filter_le.symm.append_right _

theorem mem_front_iff {b : α} : b ∈ front ↔ b ∈ before ∧ f b ≤ f a ∨ b ∈ after ∧ f b < f a := by
  rw [h.perm.mem_iff]
  simp

/-- The place of the element. -/
theorem length_front : front.length =
    before.countP (fun b => f b ≤ f a) + after.countP fun b => f b < f a := by
  rw [h.perm.length_eq, List.length_append, List.countP_eq_length_filter,
    List.countP_eq_length_filter]

end Ranked

end Places

/-- Elements with equal keys keep their order. -/
theorem sortByKey_pairwise_of_eq {r : α → α → Prop} {l : List α} (h : l.Pairwise r) :
    (sortByKey f l).Pairwise fun a b => f a = f b → r a b := by
  rw [List.pairwise_iff_forall_sublist]
  intro a b hsub hkey
  have hfilter := hsub.filter (fun c => decide (f c = f b))
  rw [filter_sortByKey, List.filter_cons_of_pos (by simpa using hkey),
    List.filter_cons_of_pos (by simp), List.filter_nil] at hfilter
  exact List.pairwise_iff_forall_sublist.mp h (hfilter.trans List.filter_sublist)

end StableSort
