import RustWorkbench.Library.PushNew
import Mathlib.Data.List.Perm.Subperm
import Mathlib.Logic.Relation

/-!
# Searching a graph given by a list of edges

Two loops over a list of edges, and what they compute.  Both take as many rounds as there are
edges, which is enough: no edge is followed twice.
-/

namespace EdgeList

open PushNew Relation

variable {α ε : Type}

/-- One edge leads from `a` to `b`. -/
def Step (source target : ε → α) (edges : List ε) (a b : α) : Prop :=
  ∃ edge ∈ edges, source edge = a ∧ target edge = b

/-- The edges lead from `a` to `b`. -/
abbrev Reaches (source target : ε → α) (edges : List ε) : α → α → Prop :=
  ReflTransGen (Step source target edges)

variable [DecidableEq α] {source target : ε → α} {edges : List ε}

/-- The targets of the edges from an element, in order. -/
def targets (source target : ε → α) (edges : List ε) (a : α) : List α :=
  (edges.filter fun edge => source edge = a).map target

theorem mem_targets {a b : α} : b ∈ targets source target edges a ↔ Step source target edges a b := by
  simp only [targets, Step, List.mem_map, List.mem_filter, decide_eq_true_eq, and_assoc]

/-! ## The worklist -/

/-- The elements from `cursor` on have not been expanded yet. -/
def closureFrom (source target : ε → α) (edges : List ε) : Nat → List α → Nat → List α
  | 0, seen, _ => seen
  | fuel + 1, seen, cursor =>
    match seen[cursor]? with
    | none => seen
    | some a =>
      closureFrom source target edges fuel ((targets source target edges a).foldl pushNew seen)
        (cursor + 1)

/-- Everything that `a` leads to, `a` first. -/
def closure (source target : ε → α) (edges : List ε) (a : α) : List α :=
  closureFrom source target edges (edges.length + 1) [a] 0

/-- The invariant of the worklist. -/
structure WorklistOk (source target : ε → α) (edges : List ε) (start : α) (seen : List α)
    (cursor : Nat) : Prop where
  start_mem : start ∈ seen
  nodup : seen.Nodup
  reached : ∀ a ∈ seen, Reaches source target edges start a
  within : ∀ a ∈ seen, a = start ∨ a ∈ edges.map target
  expanded : ∀ i a, i < cursor → seen[i]? = some a → ∀ b, Step source target edges a b → b ∈ seen

variable {start : α} {seen : List α} {cursor : Nat}

omit [DecidableEq α] in
theorem WorklistOk.init (start : α) : WorklistOk source target edges start [start] 0 where
  start_mem := List.mem_cons_self
  nodup := List.nodup_singleton start
  reached a h := by
    obtain rfl := List.mem_singleton.mp h
    exact .refl
  within a h := .inl (List.mem_singleton.mp h)
  expanded i a h := absurd h (Nat.not_lt_zero i)

/-- One round: expand the element at the cursor. -/
theorem WorklistOk.expand (h : WorklistOk source target edges start seen cursor) {a : α}
    (ha : seen[cursor]? = some a) :
    WorklistOk source target edges start ((targets source target edges a).foldl pushNew seen)
      (cursor + 1) where
  start_mem := (mem_foldl_pushNew _ _).mpr (.inl h.start_mem)
  nodup := nodup_foldl_pushNew _ h.nodup
  reached b hb := by
    rcases (mem_foldl_pushNew _ _).mp hb with hb | hb
    · exact h.reached b hb
    · exact (h.reached a (List.mem_of_getElem? ha)).tail (mem_targets.mp hb)
  within b hb := by
    rcases (mem_foldl_pushNew _ _).mp hb with hb | hb
    · exact h.within b hb
    · obtain ⟨edge, hedge, -, rfl⟩ := mem_targets.mp hb
      exact .inr (List.mem_map_of_mem hedge)
  expanded i b hi hb c hstep := by
    obtain ⟨rest, hrest⟩ := foldl_pushNew_append (targets source target edges a) seen
    have hlength : i < seen.length := by
      have := (List.getElem?_eq_some_iff.mp ha).1
      omega
    rw [hrest, List.getElem?_append_left hlength] at hb
    rw [mem_foldl_pushNew]
    rcases Nat.lt_succ_iff_lt_or_eq.mp hi with hi | rfl
    · exact .inl (h.expanded i b hi hb c hstep)
    · obtain rfl : a = b := Option.some.inj (ha.symm.trans hb)
      exact .inr (mem_targets.mpr hstep)

omit [DecidableEq α] in
/-- The worklist never has more elements than the start and the targets of the edges. -/
theorem WorklistOk.length_le (h : WorklistOk source target edges start seen cursor) :
    seen.length ≤ edges.length + 1 := by
  have hsub : seen ⊆ start :: edges.map target := fun a ha =>
    (h.within a ha).elim (fun heq => heq ▸ List.mem_cons_self) (List.mem_cons_of_mem _)
  have hle := (h.nodup.subperm hsub).length_le
  simpa using hle

omit [DecidableEq α] in
/-- A worklist that is expanded to its end is closed. -/
theorem WorklistOk.mem_iff (h : WorklistOk source target edges start seen cursor)
    (hend : seen.length ≤ cursor) {b : α} : b ∈ seen ↔ Reaches source target edges start b := by
  refine ⟨h.reached b, fun hreach => ?_⟩
  induction hreach with
  | refl => exact h.start_mem
  | tail _ hstep ih =>
    obtain ⟨i, hi, rfl⟩ := List.getElem_of_mem ih
    exact h.expanded i _ (by omega) (List.getElem?_eq_getElem hi) _ hstep

theorem mem_closureFrom_iff {b : α} : ∀ {fuel : Nat} {seen : List α} {cursor : Nat},
    WorklistOk source target edges start seen cursor → edges.length + 1 ≤ fuel + cursor →
    (b ∈ closureFrom source target edges fuel seen cursor ↔ Reaches source target edges start b)
  | 0, seen, cursor, h, hfuel => h.mem_iff (by have := h.length_le; omega)
  | fuel + 1, seen, cursor, h, hfuel => by
    rw [closureFrom]
    cases ha : seen[cursor]? with
    | none => exact h.mem_iff (List.getElem?_eq_none_iff.mp ha)
    | some a => exact mem_closureFrom_iff (h.expand ha) (by omega)

/-- **The worklist computes reachability.** -/
theorem mem_closure_iff {a b : α} :
    b ∈ closure source target edges a ↔ Reaches source target edges a b :=
  mem_closureFrom_iff (WorklistOk.init a) (by omega)

/-! ## The search -/

/-- The top of the stack comes first.  An element is expanded when it is popped for the first
time: the search ends with the first hit among its edges, or else its followed edges go on the
stack. -/
def searchFrom (source target : ε → α) (hit follow : ε → Bool) (edges : List ε) :
    Nat → List α → List α → Option ε
  | 0, _, _ => none
  | _ + 1, [], _ => none
  | fuel + 1, a :: stack, visited =>
    if a ∈ visited then searchFrom source target hit follow edges fuel stack visited
    else
      match (edges.filter fun edge => source edge = a).find? hit with
      | some edge => some edge
      | none =>
        searchFrom source target hit follow edges fuel
          ((targets source target (edges.filter follow) a).reverse ++ stack) (a :: visited)

/-- The first hit that the followed edges lead to from `a`. -/
def search (source target : ε → α) (hit follow : ε → Bool) (edges : List ε) (a : α) : Option ε :=
  searchFrom source target hit follow edges (edges.length + 1) [a] []

variable {hit follow : ε → Bool}

theorem searchFrom_sound {edge : ε} : ∀ {fuel : Nat} {stack visited : List α},
    searchFrom source target hit follow edges fuel stack visited = some edge →
    edge ∈ edges ∧ hit edge
      ∧ ∃ a ∈ stack, Reaches source target (edges.filter follow) a (source edge)
  | 0, _, _, h => nomatch h
  | _ + 1, [], _, h => nomatch h
  | fuel + 1, a :: stack, visited, h => by
    rw [searchFrom] at h
    split at h
    · obtain ⟨hmem, hhit, b, hb, hreach⟩ := searchFrom_sound h
      exact ⟨hmem, hhit, b, List.mem_cons_of_mem a hb, hreach⟩
    split at h
    · rename_i found hfound
      obtain rfl := Option.some.inj h
      obtain ⟨hmem, hsource⟩ := List.mem_filter.mp (List.mem_of_find?_eq_some hfound)
      refine ⟨hmem, List.find?_some hfound, a, List.mem_cons_self, ?_⟩
      rw [of_decide_eq_true hsource]
    · obtain ⟨hmem, hhit, b, hb, hreach⟩ := searchFrom_sound h
      refine ⟨hmem, hhit, ?_⟩
      rcases List.mem_append.mp hb with hb | hb
      · exact ⟨a, List.mem_cons_self,
          .head (mem_targets.mp (List.mem_reverse.mp hb)) hreach⟩
      · exact ⟨b, List.mem_cons_of_mem a hb, hreach⟩

/-- **A hit that is found is one, and is reached.** -/
theorem search_sound {a : α} {edge : ε}
    (h : search source target hit follow edges a = some edge) :
    edge ∈ edges ∧ hit edge ∧ Reaches source target (edges.filter follow) a (source edge) := by
  obtain ⟨hmem, hhit, b, hb, hreach⟩ := searchFrom_sound h
  obtain rfl := List.mem_singleton.mp hb
  exact ⟨hmem, hhit, hreach⟩

end EdgeList
