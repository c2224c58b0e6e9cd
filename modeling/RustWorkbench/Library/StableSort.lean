import Mathlib.Data.List.Dedup
import Mathlib.Data.List.Sort

/-!
# Stable sorting and removal of adjacent repeats

`List.insertionSort` is a stable sort: for a total preorder given by a key, the elements with
one key keep their order.  `dedupBy` removes an element that repeats the last one kept, which
is `Vec::dedup_by`.

* `dedupBy_filter` — on a sorted list `dedupBy` works on the elements of each key separately.
-/

namespace StableSort

variable {α β : Type}

/-! ## Sorting by a key -/

section KeyOrder

variable [LinearOrder β] (f : α → β)

/-- Comparison of keys, the relation of `sort_by_key`. -/
def keyLe (a b : α) : Prop := f a ≤ f b

instance : DecidableRel (keyLe f) := fun a b => inferInstanceAs (Decidable (f a ≤ f b))

instance : Std.Total (keyLe f) := ⟨fun a b => le_total (f a) (f b)⟩

instance : IsTrans α (keyLe f) := ⟨fun _ _ _ => le_trans⟩

/-- `sort_by_key`. -/
def sortByKey (l : List α) : List α := l.insertionSort (keyLe f)

theorem sortByKey_perm (l : List α) : (sortByKey f l).Perm l :=
  List.perm_insertionSort (keyLe f) l

theorem mem_sortByKey {a : α} {l : List α} : a ∈ sortByKey f l ↔ a ∈ l :=
  (sortByKey_perm f l).mem_iff

theorem sortByKey_pairwise (l : List α) : (sortByKey f l).Pairwise (keyLe f) :=
  List.pairwise_insertionSort (keyLe f) l

/-- The order of a list with different keys does not matter. -/
theorem sortByKey_eq_of_perm {l l' : List α} (hnodup : (l.map f).Nodup) (h : l.Perm l') :
    sortByKey f l = sortByKey f l' := by
  refine List.Perm.eq_of_pairwise (fun a b ha hb hab hba => ?_) (sortByKey_pairwise f l)
    (sortByKey_pairwise f l') ((sortByKey_perm f l).trans (h.trans (sortByKey_perm f l').symm))
  exact List.inj_on_of_nodup_map hnodup ((mem_sortByKey f).mp ha)
    (h.mem_iff.mpr ((mem_sortByKey f).mp hb)) (le_antisymm hab hba)

/-- **Stability**: the elements with key `k` are the same list before and after. -/
theorem filter_sortByKey (k : β) (l : List α) :
    (sortByKey f l).filter (fun a => f a = k) = l.filter (fun a => f a = k) := by
  have hsorted : (l.filter fun a => f a = k).Pairwise (keyLe f) := by
    refine List.Pairwise.imp_of_mem ?_ (List.pairwise_of_forall fun _ _ => trivial)
    intro a b ha hb _
    simp only [List.mem_filter, decide_eq_true_eq] at ha hb
    exact (ha.2.trans hb.2.symm).le
  have hsub := List.Sublist.filter (fun a => decide (f a = k))
    (List.sublist_insertionSort hsorted List.filter_sublist)
  rw [List.filter_filter] at hsub
  simp only [Bool.and_self] at hsub
  have hlen : (l.filter fun a => f a = k).length
      = ((sortByKey f l).filter fun a => f a = k).length :=
    ((sortByKey_perm f l).filter _).length_eq.symm
  exact (hsub.eq_of_length hlen).symm

/-- In a sorted list the first element with a key stands behind those with smaller keys. -/
theorem findIdx?_of_sorted {k : β} : ∀ {l : List α}, l.Pairwise (keyLe f) → (∃ a ∈ l, f a = k) →
    l.findIdx? (fun a => f a = k) = some (l.countP fun a => f a < k)
  | [], _, h => by
    obtain ⟨a, ha, -⟩ := h
    cases ha
  | a :: l, hsorted, h => by
    obtain ⟨hle, hsorted⟩ := List.pairwise_cons.mp hsorted
    rw [List.findIdx?_cons, List.countP_cons]
    by_cases hk : f a = k
    · have hnone : l.countP (fun b => f b < k) = 0 := by
        rw [List.countP_eq_zero]
        intro b hb
        have hab : f a ≤ f b := hle b hb
        simp only [decide_eq_true_eq, not_lt]
        exact hk ▸ hab
      simp [hk, hnone]
    · have hrest : ∃ b ∈ l, f b = k := by
        obtain ⟨b, hb, hbk⟩ := h
        rcases List.mem_cons.mp hb with rfl | hb
        · exact absurd hbk hk
        · exact ⟨b, hb, hbk⟩
      have hlt : f a < k := by
        obtain ⟨b, hb, rfl⟩ := hrest
        exact lt_of_le_of_ne (hle b hb) hk
      rw [findIdx?_of_sorted hsorted hrest]
      simp [hk, hlt]

/-- The position that sorting gives to a key is the number of elements with a smaller one. -/
theorem findIdx?_sortByKey {k : β} {l : List α} (h : ∃ a ∈ l, f a = k) :
    (sortByKey f l).findIdx? (fun a => f a = k) = some (l.countP fun a => f a < k) := by
  obtain ⟨a, ha, hk⟩ := h
  rw [findIdx?_of_sorted f (sortByKey_pairwise f l) ⟨a, (mem_sortByKey f).mpr ha, hk⟩,
    (sortByKey_perm f l).countP_eq]

/-- Sorting commutes with a map that keeps the keys. -/
theorem sortByKey_map {γ : Type} (g : γ → α) (l : List γ) :
    sortByKey f (l.map g) = (sortByKey (fun c => f (g c)) l).map g :=
  (List.map_insertionSort (keyLe fun c => f (g c)) (keyLe f) g l
    fun _ _ _ _ => Iff.rfl).symm

end KeyOrder

/-- An element has one of the first `n` places where fewer than `n` stand before it. -/
theorem exists_take_eq_iff {l front : List α} {a : α} {n : Nat} :
    (∃ back, l.take n = front ++ a :: back) ↔ ∃ back, l = front ++ a :: back ∧ front.length < n := by
  constructor
  · rintro ⟨back, h⟩
    have hlength := List.length_take_le n l
    rw [h, List.length_append, List.length_cons] at hlength
    refine ⟨back ++ l.drop n, ?_, by omega⟩
    rw [← List.cons_append, ← List.append_assoc, ← h, List.take_append_drop]
  · rintro ⟨back, rfl, hn⟩
    obtain ⟨m, rfl⟩ := Nat.exists_eq_add_of_lt hn
    exact ⟨back.take m, by rw [Nat.add_assoc, List.take_length_add_append, List.take_succ_cons]⟩

theorem mem_take_iff_split {l : List α} {a : α} {n : Nat} :
    a ∈ l.take n ↔ ∃ front back, l = front ++ a :: back ∧ front.length < n :=
  List.mem_iff_append.trans (exists_congr fun _ => exists_take_eq_iff)

/-! ## Removing adjacent repeats -/

/-- The rest of the list after `last` was kept. -/
def dedupFrom (same : α → α → Bool) : α → List α → List α
  | _, [] => []
  | last, a :: l => if same a last then dedupFrom same last l else a :: dedupFrom same a l

/-- `Vec::dedup_by`: drop an element that repeats the last one kept. -/
def dedupBy (same : α → α → Bool) : List α → List α
  | [] => []
  | a :: l => a :: dedupFrom same a l

variable {same : α → α → Bool}

theorem dedupFrom_sublist : ∀ (last : α) (l : List α), (dedupFrom same last l).Sublist l
  | _, [] => .slnil
  | last, a :: l => by
    unfold dedupFrom
    split
    · exact (dedupFrom_sublist last l).cons a
    · exact (dedupFrom_sublist a l).cons_cons a

theorem dedupBy_sublist : ∀ l : List α, (dedupBy same l).Sublist l
  | [] => .slnil
  | a :: l => (dedupFrom_sublist a l).cons_cons a

theorem dedupFrom_map {γ : Type} (g : γ → α) : ∀ (last : γ) (l : List γ),
    dedupFrom same (g last) (l.map g)
      = (dedupFrom (fun a b => same (g a) (g b)) last l).map g
  | _, [] => rfl
  | last, a :: l => by
    rw [List.map_cons, dedupFrom, dedupFrom]
    split
    · exact dedupFrom_map g last l
    · rw [List.map_cons, dedupFrom_map g a l]

/-- Removing repeats commutes with a map. -/
theorem dedupBy_map {γ : Type} (g : γ → α) : ∀ l : List γ,
    dedupBy same (l.map g) = (dedupBy (fun a b => same (g a) (g b)) l).map g
  | [] => rfl
  | a :: l => by
    rw [List.map_cons, dedupBy, dedupBy, List.map_cons, dedupFrom_map]

section Blocks

variable [LinearOrder β] {f : α → β} (hf : ∀ a b, same a b = true → f a = f b)

include hf

/-- On a sorted list the repeats of one key are removed without looking at the others. -/
theorem dedupFrom_filter (k : β) : ∀ (last : α) (l : List α),
    (last :: l).Pairwise (keyLe f) →
    (dedupFrom same last l).filter (fun a => f a = k)
      = if f last = k then dedupFrom same last (l.filter fun a => f a = k)
        else dedupBy same (l.filter fun a => f a = k)
  | last, [], _ => by
    simp [dedupFrom, dedupBy]
  | last, a :: l, hsorted => by
    rw [List.pairwise_cons] at hsorted
    obtain ⟨hlast, hrest⟩ := hsorted
    unfold dedupFrom
    by_cases hsame : same a last = true
    · have hkey : f a = f last := hf a last hsame
      rw [if_pos hsame, dedupFrom_filter k last l
        (List.pairwise_cons.mpr ⟨fun b hb => hlast b (List.mem_cons_of_mem _ hb), hrest.of_cons⟩)]
      by_cases hk : f last = k
      · rw [if_pos hk, if_pos hk, List.filter_cons_of_pos (by simp [hkey, hk])]
        simp [hsame]
      · rw [if_neg hk, if_neg hk, List.filter_cons_of_neg (by simp [hkey, hk])]
    · rw [if_neg hsame]
      by_cases hak : f a = k
      · rw [List.filter_cons_of_pos (by simp [hak]), List.filter_cons_of_pos (by simp [hak]),
          dedupFrom_filter k a l hrest, if_pos hak]
        simp [dedupBy, hsame]
      · rw [List.filter_cons_of_neg (by simp [hak]), List.filter_cons_of_neg (by simp [hak]),
          dedupFrom_filter k a l hrest, if_neg hak]
        -- A key that was left behind does not come back in a sorted list.
        by_cases hk : f last = k
        · have hnil : l.filter (fun b => f b = k) = [] := by
            rw [List.filter_eq_nil_iff]
            intro b hb
            simp only [decide_eq_true_eq]
            intro hbk
            have h₁ : f last ≤ f a := hlast a List.mem_cons_self
            have h₂ : f a ≤ f b := List.rel_of_pairwise_cons hrest hb
            exact hak (le_antisymm (hbk ▸ h₂) (hk ▸ h₁))
          rw [if_pos hk, hnil]
          rfl
        · rw [if_neg hk]

theorem dedupBy_filter (k : β) {l : List α} (hsorted : l.Pairwise (keyLe f)) :
    (dedupBy same l).filter (fun a => f a = k) = dedupBy same (l.filter fun a => f a = k) := by
  cases l with
  | nil => rfl
  | cons a l =>
    unfold dedupBy
    by_cases hk : f a = k
    · rw [List.filter_cons_of_pos (by simp [hk]), List.filter_cons_of_pos (by simp [hk]),
        dedupFrom_filter hf k a l hsorted, if_pos hk]
    · rw [List.filter_cons_of_neg (by simp [hk]), List.filter_cons_of_neg (by simp [hk]),
        dedupFrom_filter hf k a l hsorted, if_neg hk]
      rfl

end Blocks

section Repeats

variable {γ : Type} [DecidableEq γ] {g : α → γ}

/-- Two elements repeat each other when they agree on `g`. -/
def sameKey (g : α → γ) (a b : α) : Bool := g a = g b

/-- Where the elements that are kept come from: `p` is kept after `A` exactly when it stands
behind a stretch that leaves `A` and the element before it is no repeat of it. -/
theorem dedupFrom_eq_append_cons_iff {p : α} : ∀ {last : α} {l A B : List α},
    dedupFrom (sameKey g) last l = A ++ p :: B
      ↔ ∃ pre post, l = pre ++ p :: post ∧ g p ≠ g (pre.getLast?.getD last)
        ∧ dedupFrom (sameKey g) last pre = A ∧ dedupFrom (sameKey g) p post = B
  | last, [], A, B => by
    simp [dedupFrom]
  | last, a :: l, A, B => by
    by_cases hsame : g a = g last
    · -- `a` repeats `last` and is dropped from every stretch it opens.
      have hdrop : ∀ rest, dedupFrom (sameKey g) last (a :: rest) = dedupFrom (sameKey g) last rest :=
        fun rest => if_pos (decide_eq_true hsame)
      have hlast : ∀ pre : List α, g ((a :: pre).getLast?.getD last) = g (pre.getLast?.getD last) := by
        intro pre
        cases pre with
        | nil => exact hsame
        | cons b pre => simp
      rw [hdrop, dedupFrom_eq_append_cons_iff]
      constructor
      · rintro ⟨pre, post, rfl, hne, hA, hB⟩
        exact ⟨a :: pre, post, rfl, by rwa [hlast], by rwa [hdrop], hB⟩
      · rintro ⟨pre, post, heq, hne, hA, hB⟩
        cases pre with
        | nil =>
          obtain ⟨rfl, rfl⟩ := List.cons.inj heq
          exact absurd hsame hne
        | cons b pre =>
          obtain ⟨rfl, rfl⟩ := List.cons.inj heq
          exact ⟨pre, post, rfl, by rwa [hlast] at hne, by rwa [hdrop] at hA, hB⟩
    · have hkeep : ∀ rest, dedupFrom (sameKey g) last (a :: rest)
          = a :: dedupFrom (sameKey g) a rest :=
        fun rest => if_neg (by simpa [sameKey] using hsame)
      have hlast : ∀ pre : List α, (a :: pre).getLast?.getD last = pre.getLast?.getD a := by
        intro pre
        rw [List.getLast?_cons, Option.getD_some]
      rw [hkeep]
      constructor
      · intro h
        cases A with
        | nil =>
          obtain ⟨rfl, rfl⟩ := List.cons.inj h
          exact ⟨[], l, rfl, hsame, rfl, rfl⟩
        | cons b A =>
          obtain ⟨rfl, hrest⟩ := List.cons.inj h
          obtain ⟨pre, post, rfl, hne, hA, hB⟩ := dedupFrom_eq_append_cons_iff.mp hrest
          exact ⟨a :: pre, post, rfl, by rwa [hlast], by rw [hkeep, hA], hB⟩
      · rintro ⟨pre, post, heq, hne, rfl, rfl⟩
        cases pre with
        | nil =>
          obtain ⟨rfl, rfl⟩ := List.cons.inj heq
          rfl
        | cons b pre =>
          obtain ⟨rfl, rfl⟩ := List.cons.inj heq
          have hrest := dedupFrom_eq_append_cons_iff.mpr
            ⟨pre, post, rfl, by rwa [hlast] at hne, rfl, rfl⟩
          rw [hkeep]
          exact congrArg (a :: ·) hrest

theorem dedupBy_eq_append_cons_iff {p : α} {l A : List α} :
    (∃ B, dedupBy (sameKey g) l = A ++ p :: B)
      ↔ ∃ pre post, l = pre ++ p :: post ∧ (∀ q, pre.getLast? = some q → g p ≠ g q)
        ∧ dedupBy (sameKey g) pre = A := by
  cases l with
  | nil => simp [dedupBy]
  | cons a l =>
    constructor
    · rintro ⟨B, h⟩
      cases A with
      | nil =>
        obtain ⟨rfl, -⟩ := List.cons.inj h
        exact ⟨[], l, rfl, by simp, rfl⟩
      | cons b A =>
        obtain ⟨rfl, hrest⟩ := List.cons.inj h
        obtain ⟨pre, post, rfl, hne, hA, -⟩ := dedupFrom_eq_append_cons_iff.mp hrest
        refine ⟨a :: pre, post, rfl, fun q hq => ?_, by rw [dedupBy, hA]⟩
        rw [List.getLast?_cons, Option.some.injEq] at hq
        rwa [← hq]
    · rintro ⟨pre, post, heq, hne, rfl⟩
      cases pre with
      | nil =>
        obtain ⟨rfl, rfl⟩ := List.cons.inj heq
        exact ⟨_, rfl⟩
      | cons b pre =>
        obtain ⟨rfl, rfl⟩ := List.cons.inj heq
        have hrest := dedupFrom_eq_append_cons_iff.mpr
          ⟨pre, post, rfl, hne _ (List.getLast?_cons ..), rfl, rfl⟩
        exact ⟨_, congrArg (a :: ·) hrest⟩

/-- An element that does not repeat the one before it. -/
def IsNew (g : α → γ) (before : List α) (a : α) : Prop := ∀ q, before.getLast? = some q → g a ≠ g q

theorem dedupBy_append_cons {a : α} {pre : List α} (h : IsNew g pre a) (post : List α) :
    dedupBy (sameKey g) (pre ++ a :: post)
      = dedupBy (sameKey g) pre ++ a :: dedupFrom (sameKey g) a post := by
  cases pre with
  | nil => rfl
  | cons b pre =>
    have hrest := dedupFrom_eq_append_cons_iff.mpr
      ⟨pre, post, rfl, h _ (List.getLast?_cons ..), rfl, rfl⟩
    exact congrArg (b :: ·) hrest

/-- A relation between any two elements that are kept. -/
theorem pairwise_dedupBy_iff {R : α → α → Prop} {l : List α} :
    (dedupBy (sameKey g) l).Pairwise R ↔ ∀ pre a mid b post, l = pre ++ a :: (mid ++ b :: post) →
      IsNew g pre a → IsNew g (a :: mid) b → R a b := by
  constructor
  · rintro h pre a mid b post rfl ha hb
    rw [dedupBy_append_cons ha] at h
    have hmem : b ∈ dedupFrom (sameKey g) a (mid ++ b :: post) := by
      rw [dedupFrom_eq_append_cons_iff.mpr
        ⟨mid, post, rfl, hb _ (List.getLast?_cons ..), rfl, rfl⟩]
      exact List.mem_append_right _ List.mem_cons_self
    exact List.rel_of_pairwise_cons (List.pairwise_append.mp h).2.1 hmem
  · intro h
    refine List.pairwise_iff_forall_sublist.mpr fun {a b} hsub => ?_
    obtain ⟨front, back, hl, ha, hb⟩ := List.cons_sublist_iff.mp hsub
    obtain ⟨A, A', rfl⟩ := List.append_of_mem ha
    obtain ⟨B, B', rfl⟩ := List.append_of_mem (List.singleton_sublist.mp hb)
    have hl : dedupBy (sameKey g) l = A ++ a :: ((A' ++ B) ++ b :: B') := by
      rw [hl]
      simp
    obtain ⟨pre, post, rfl, ha, hA⟩ := dedupBy_eq_append_cons_iff.mp ⟨_, hl⟩
    rw [dedupBy_append_cons ha, hA] at hl
    have htail := (List.cons.inj (List.append_cancel_left hl)).2
    obtain ⟨mid, post, rfl, hne, -, -⟩ := dedupFrom_eq_append_cons_iff.mp htail
    refine h pre a mid b post rfl ha fun q hq => ?_
    rw [List.getLast?_cons, Option.some.injEq] at hq
    rwa [← hq]

/-- How many elements repeat the one before them. -/
def repeats (g : α → γ) (l : List α) : Nat := (l.zip l.tail).countP fun pair => g pair.2 = g pair.1

theorem length_dedupFrom : ∀ {last previous : α} (l : List α), g previous = g last →
    (dedupFrom (sameKey g) last l).length
      + ((previous :: l).zip l).countP (fun pair => g pair.2 = g pair.1) = l.length
  | _, _, [], _ => rfl
  | last, previous, a :: l, h => by
    rw [dedupFrom, List.zip_cons_cons, List.countP_cons]
    by_cases hsame : g a = g last
    · have ih := length_dedupFrom l hsame
      simp only [sameKey, hsame, h, decide_true, if_true, List.length_cons] at ih ⊢
      omega
    · have ih := length_dedupFrom l (rfl : g a = g a)
      simp only [sameKey, hsame, h, decide_false, Bool.false_eq_true, if_false,
        List.length_cons] at ih ⊢
      omega

theorem length_dedupBy : ∀ l : List α, (dedupBy (sameKey g) l).length + repeats g l = l.length
  | [] => rfl
  | a :: l => by
    have h := length_dedupFrom l (rfl : g a = g a)
    rw [repeats, dedupBy, List.tail_cons, List.length_cons, List.length_cons]
    omega

/-- An element is kept exactly when it is the first or the one before it differs. -/
theorem mem_dedupBy_iff {p : α} {l : List α} :
    p ∈ dedupBy (sameKey g) l
      ↔ ∃ pre post, l = pre ++ p :: post ∧ IsNew g pre p := by
  rw [List.mem_iff_append]
  constructor
  · rintro ⟨A, B, h⟩
    obtain ⟨pre, post, hl, hne, -⟩ := dedupBy_eq_append_cons_iff.mp ⟨B, h⟩
    exact ⟨pre, post, hl, hne⟩
  · rintro ⟨pre, post, hl, hne⟩
    exact ⟨_, dedupBy_eq_append_cons_iff.mpr ⟨pre, post, hl, hne, rfl⟩⟩

/-- What is kept of a list is kept before any continuation. -/
theorem mem_dedupBy_append_left {p : α} {l : List α} (l' : List α)
    (h : p ∈ dedupBy (sameKey g) l) : p ∈ dedupBy (sameKey g) (l ++ l') := by
  obtain ⟨pre, post, rfl, hne⟩ := mem_dedupBy_iff.mp h
  exact mem_dedupBy_iff.mpr ⟨pre, post ++ l', by simp, hne⟩

/-- An element has one of the first `n` places when, besides, fewer than `n` are kept of those
before it. -/
theorem mem_take_dedupBy_iff {p : α} {l : List α} {n : Nat} :
    p ∈ (dedupBy (sameKey g) l).take n
      ↔ ∃ pre post, l = pre ++ p :: post ∧ (∀ q, pre.getLast? = some q → g p ≠ g q)
        ∧ (dedupBy (sameKey g) pre).length < n := by
  rw [mem_take_iff_split]
  constructor
  · rintro ⟨A, B, hfull, hlength⟩
    obtain ⟨pre, post, hl, hne, rfl⟩ := dedupBy_eq_append_cons_iff.mp ⟨_, hfull⟩
    exact ⟨pre, post, hl, hne, hlength⟩
  · rintro ⟨pre, post, hl, hne, hlength⟩
    obtain ⟨B, h⟩ := dedupBy_eq_append_cons_iff.mpr ⟨pre, post, hl, hne, rfl⟩
    exact ⟨_, B, h, hlength⟩

/-- Every element is represented by one that was kept. -/
theorem exists_mem_dedupFrom : ∀ {last : α} {l : List α} {x : α}, x ∈ last :: l →
    ∃ p ∈ last :: dedupFrom (sameKey g) last l, g p = g x
  | last, [], x, hx => by
    simp only [List.mem_singleton] at hx
    exact ⟨last, List.mem_cons_self, by rw [hx]⟩
  | last, a :: l, x, hx => by
    unfold dedupFrom
    by_cases hsame : g a = g last
    · rw [if_pos (by simpa [sameKey] using hsame)]
      rcases List.mem_cons.mp hx with rfl | hx
      · exact ⟨x, List.mem_cons_self, rfl⟩
      · rcases List.mem_cons.mp hx with rfl | hx
        · exact ⟨last, List.mem_cons_self, hsame.symm⟩
        · exact exists_mem_dedupFrom (List.mem_cons_of_mem _ hx)
    · rw [if_neg (by simpa [sameKey] using hsame)]
      rcases List.mem_cons.mp hx with rfl | hx
      · exact ⟨x, List.mem_cons_self, rfl⟩
      · obtain ⟨p, hp, hg⟩ := exists_mem_dedupFrom hx
        exact ⟨p, List.mem_cons_of_mem _ hp, hg⟩

theorem exists_mem_dedupBy {l : List α} {x : α} (hx : x ∈ l) :
    ∃ p ∈ dedupBy (sameKey g) l, g p = g x := by
  cases l with
  | nil => cases hx
  | cons a l => exact exists_mem_dedupFrom hx

/-- On a sorted list every value is left once. -/
theorem nodup_dedupFrom [LinearOrder α] : ∀ {last : α} {l : List α},
    (last :: l).Pairwise (· ≤ ·) → (last :: dedupFrom (sameKey id) last l).Nodup
  | last, [], _ => by simp [dedupFrom]
  | last, a :: l, hsorted => by
    obtain ⟨hlast, hrest⟩ := List.pairwise_cons.mp hsorted
    unfold dedupFrom
    by_cases hsame : a = last
    · rw [if_pos (by simpa [sameKey] using hsame)]
      exact nodup_dedupFrom (hsame ▸ hrest)
    · rw [if_neg (by simpa [sameKey] using hsame)]
      refine List.nodup_cons.mpr ⟨fun hmem => ?_, nodup_dedupFrom hrest⟩
      rcases List.mem_cons.mp hmem with heq | hmem
      · exact hsame heq.symm
      · have hle : a ≤ last := (List.pairwise_cons.mp hrest).1 last
          ((dedupFrom_sublist a l).subset hmem)
        exact hsame (le_antisymm hle (hlast a (List.mem_cons_self ..)))

end Repeats

/-! ## Sorting and removing repeats -/

section Distinct

variable [LinearOrder α]

/-- `sort` followed by `dedup` leaves each value once. -/
theorem dedupBy_sortByKey_perm (l : List α) :
    (dedupBy (sameKey id) (sortByKey id l)).Perm l.dedup := by
  refine (List.perm_ext_iff_of_nodup ?_ (List.nodup_dedup l)).mpr fun a => ?_
  · have hsorted : (sortByKey id l).Pairwise (· ≤ ·) := sortByKey_pairwise id l
    cases hl : sortByKey id l with
    | nil => exact List.nodup_nil
    | cons b rest => exact nodup_dedupFrom (hl ▸ hsorted)
  · rw [List.mem_dedup]
    constructor
    · intro h
      exact (mem_sortByKey id).mp ((dedupBy_sublist _).subset h)
    · intro h
      obtain ⟨p, hp, heq⟩ := exists_mem_dedupBy (g := id) ((mem_sortByKey id).mpr h)
      rw [id_eq, id_eq] at heq
      exact heq ▸ hp

variable {β γ δ : Type} [LinearOrder β] [DecidableEq δ]

/-- Elements of the first part of a list come first among those that repeat each other, so each is
represented by one of the first part. -/
theorem exists_mem_dedupBy_sortByKey_append {f : γ → β} {g : γ → δ}
    (hf : ∀ a b, g a = g b → f a = f b) {l l' : List γ} {x : γ} (hx : x ∈ l) :
    ∃ p ∈ l, g p = g x ∧ p ∈ dedupBy (sameKey g) (sortByKey f (l ++ l')) := by
  have hblock : x ∈ l.filter fun a => f a = f x := List.mem_filter.mpr ⟨hx, by simp⟩
  obtain ⟨p, hp, hg⟩ := @exists_mem_dedupBy _ _ _ g _ _ hblock
  refine ⟨p, List.mem_of_mem_filter ((dedupBy_sublist _).subset hp), hg, ?_⟩
  have hsame : ∀ a b, sameKey g a b = true → f a = f b :=
    fun a b hab => hf a b (of_decide_eq_true hab)
  have hkept := mem_dedupBy_append_left (l'.filter fun a => f a = f x) hp
  rw [← List.filter_append, ← filter_sortByKey,
    ← dedupBy_filter hsame _ (sortByKey_pairwise f _)] at hkept
  exact List.mem_of_mem_filter hkept

/-- The keys that sorting by a key and removing its repeats leaves. -/
theorem map_dedupBy_sortByKey (f : γ → α) (l : List γ) :
    (dedupBy (sameKey f) (sortByKey f l)).map f
      = dedupBy (sameKey id) (sortByKey id (l.map f)) := by
  rw [sortByKey_map, dedupBy_map]
  rfl

theorem map_dedupBy_sortByKey_perm (f : γ → α) (l : List γ) :
    ((dedupBy (sameKey f) (sortByKey f l)).map f).Perm (l.map f).dedup := by
  rw [map_dedupBy_sortByKey]
  exact dedupBy_sortByKey_perm (l.map f)

end Distinct

/-- A list is determined by its parts of one key, up to the order. -/
theorem perm_of_filter {α β : Type} [DecidableEq α] [DecidableEq β] (f : α → β) {l l' : List α}
    (h : ∀ k, (l.filter fun a => f a = k) = l'.filter fun a => f a = k) : l.Perm l' := by
  refine List.perm_iff_count.mpr fun a => ?_
  rw [← List.count_filter (p := fun b => f b = f a) (by simp), h (f a), List.count_filter (by simp)]

end StableSort
