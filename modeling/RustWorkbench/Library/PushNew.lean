import Mathlib.Data.List.Dedup
import Mathlib.Data.List.Perm.Basic

/-!
# Pushing what is not there yet

A vector used as a set: an element is pushed at the end unless the vector contains it.  And one with
a cap: an element is pushed while there is room.

* `mem_foldl_pushNew`, `nodup_foldl_pushNew` — the elements after pushing a list, each once.
* `foldl_pushCapped` — the elements up to the cap.
-/

namespace PushNew

variable {α : Type} [DecidableEq α]

/-- Push what the list does not contain yet. -/
def pushNew (result : List α) (a : α) : List α :=
  if a ∈ result then result else result ++ [a]

theorem mem_pushNew {a b : α} {result : List α} : a ∈ pushNew result b ↔ a ∈ result ∨ a = b := by
  unfold pushNew
  split
  · next hb =>
    refine ⟨.inl, ?_⟩
    rintro (h | rfl)
    · exact h
    · exact hb
  · rw [List.mem_append, List.mem_singleton]

theorem mem_foldl_pushNew {a : α} : ∀ (l result : List α),
    a ∈ l.foldl pushNew result ↔ a ∈ result ∨ a ∈ l
  | [], result => by simp
  | b :: l, result => by
    rw [List.foldl_cons, mem_foldl_pushNew l, mem_pushNew, List.mem_cons, or_assoc]

theorem nodup_foldl_pushNew : ∀ (l : List α) {result : List α}, result.Nodup →
    (l.foldl pushNew result).Nodup
  | [], _, h => h
  | b :: l, result, h => by
    refine nodup_foldl_pushNew l ?_
    unfold pushNew
    split
    · exact h
    · rename_i hb
      rw [← List.concat_eq_append]
      exact h.concat hb

/-- Each value once. -/
theorem foldl_pushNew_perm (l : List α) : (l.foldl pushNew []).Perm l.dedup := by
  refine (List.perm_ext_iff_of_nodup (nodup_foldl_pushNew l List.nodup_nil)
    (List.nodup_dedup l)).mpr fun a => ?_
  rw [mem_foldl_pushNew, List.mem_dedup]
  simp

/-- What is there already stays in front. -/
theorem foldl_pushNew_append : ∀ (l result : List α), ∃ rest, l.foldl pushNew result = result ++ rest
  | [], result => ⟨[], by simp⟩
  | b :: l, result => by
    obtain ⟨rest, hrest⟩ := foldl_pushNew_append l (pushNew result b)
    rw [List.foldl_cons, hrest]
    unfold pushNew
    split
    · exact ⟨rest, rfl⟩
    · exact ⟨b :: rest, by simp⟩

theorem head?_foldl_pushNew (l : List α) : (l.foldl pushNew []).head? = l.head? := by
  cases l with
  | nil => rfl
  | cons b l =>
    obtain ⟨rest, hrest⟩ := foldl_pushNew_append l [b]
    rw [List.foldl_cons, show pushNew [] b = [b] from rfl, hrest]
    rfl

/-! ## Up to a cap -/

omit [DecidableEq α]

/-- Push while there is room. -/
def pushCapped (cap : Nat) (result : List α) (a : α) : List α :=
  if result.length < cap then result ++ [a] else result

theorem length_pushCapped {cap : Nat} {result : List α} (h : result.length ≤ cap) (a : α) :
    (pushCapped cap result a).length = min cap (result.length + 1) := by
  unfold pushCapped
  split
  · rw [List.length_append, List.length_singleton]
    omega
  · omega

theorem foldl_pushCapped {cap : Nat} : ∀ (l : List α) {result : List α}, result.length ≤ cap →
    l.foldl (pushCapped cap) result = (result ++ l).take cap
  | [], result, h => by rw [List.foldl_nil, List.append_nil, List.take_of_length_le h]
  | a :: l, result, h => by
    rw [List.foldl_cons, pushCapped]
    split
    · next hlt =>
      rw [foldl_pushCapped l (by rw [List.length_append]; exact hlt), List.append_assoc,
        List.singleton_append]
    · next hle =>
      -- at the cap nothing is added any more
      rw [foldl_pushCapped l h, List.take_append_of_le_length (by omega),
        List.take_append_of_le_length (by omega)]

end PushNew
