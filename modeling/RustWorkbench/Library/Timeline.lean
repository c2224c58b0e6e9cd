import Mathlib.Data.Nat.Find

/-!
# Positions in a recorded sequence

A replay shows the first `k + 1` entries of a list.  `OccursBy p l k` says that one of them
satisfies `p`, and `FirstAt p l i` that the first entry of the list to do so is at `i`.

* `any_take_iff` — a scan of the first entries decides `OccursBy`.
* `OccursBy.exists_first` — what occurs has a first occurrence, and `FirstAt.unique` only one.
-/

namespace Timeline

variable {α : Type} {p : α → Prop} {l : List α} {i j k : Nat}

/-- An entry at or before `k` satisfies `p`. -/
def OccursBy (p : α → Prop) (l : List α) (k : Nat) : Prop :=
  ∃ i ≤ k, ∃ a, l[i]? = some a ∧ p a

/-- The first entry that satisfies `p` is at `i`. -/
structure FirstAt (p : α → Prop) (l : List α) (i : Nat) : Prop where
  here : ∃ a, l[i]? = some a ∧ p a
  first : ∀ j < i, ∀ a, l[j]? = some a → ¬ p a

theorem any_take_iff {f : α → Bool} :
    (l.take (k + 1)).any f = true ↔ OccursBy (fun a => f a = true) l k := by
  rw [List.any_eq_true]
  constructor
  · rintro ⟨a, ha, hf⟩
    obtain ⟨i, hi⟩ := List.mem_iff_getElem?.mp ha
    rw [List.getElem?_take] at hi
    split at hi
    · exact ⟨i, by omega, a, hi, hf⟩
    · cases hi
  · rintro ⟨i, hik, a, hi, hf⟩
    refine ⟨a, List.mem_iff_getElem?.mpr ⟨i, ?_⟩, hf⟩
    rw [List.getElem?_take, if_pos (by omega), hi]

theorem FirstAt.occursBy (h : FirstAt p l i) (hik : i ≤ k) : OccursBy p l k := by
  obtain ⟨a, ha, hp⟩ := h.here
  exact ⟨i, hik, a, ha, hp⟩

theorem OccursBy.exists_first (h : OccursBy p l k) : ∃ i ≤ k, FirstAt p l i := by
  classical
  have hsome : ∃ i : Nat, ∃ a, l[i]? = some a ∧ p a := by
    obtain ⟨i, -, a, ha, hp⟩ := h
    exact ⟨i, a, ha, hp⟩
  obtain ⟨i, hik, a, ha, hp⟩ := h
  refine ⟨Nat.find hsome, Nat.le_trans (Nat.find_min' hsome ⟨a, ha, hp⟩) hik, Nat.find_spec hsome, ?_⟩
  intro j hj b hb hpb
  exact Nat.find_min hsome hj ⟨b, hb, hpb⟩

theorem FirstAt.unique (hi : FirstAt p l i) (hj : FirstAt p l j) : i = j := by
  obtain ⟨a, ha, hpa⟩ := hi.here
  obtain ⟨b, hb, hpb⟩ := hj.here
  rcases Nat.lt_trichotomy i j with h | h | h
  · exact absurd hpa (hj.first i h a ha)
  · exact h
  · exact absurd hpb (hi.first j h b hb)

end Timeline
