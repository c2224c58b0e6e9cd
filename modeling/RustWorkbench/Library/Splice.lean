import RustWorkbench.Library.StableSort
import Mathlib.Algebra.GroupWithZero.Nat
import Mathlib.Data.Prod.Lex
import Mathlib.Algebra.Order.BigOperators.Group.List

/-!
# Splicing a text in place and substituting into it at once

A text is a list of elements of positive width (characters of a UTF-8 string, say); an offset
is a sum of widths.
-/

namespace Splice

variable {α : Type} (w : α → Nat)

/-! ## Offsets -/

/-- Width of a text. -/
def size (t : List α) : Nat := (t.map w).sum

@[simp] theorem size_nil : size w [] = 0 := rfl

@[simp] theorem size_cons (a : α) (t : List α) : size w (a :: t) = w a + size w t := by
  simp [size]

@[simp] theorem size_append (s t : List α) : size w (s ++ t) = size w s + size w t := by
  simp [size]

/-- The parts of a text before and after an offset. -/
def cut (n : Nat) : List α → Option (List α × List α)
  | [] => if n = 0 then some ([], []) else none
  | a :: t =>
    if n = 0 then some ([], a :: t)
    else if w a ≤ n then (cut (n - w a) t).map fun p => (a :: p.1, p.2)
    else none

variable {w}

theorem cut_append (hw : ∀ a, 0 < w a) : ∀ s t : List α, cut w (size w s) (s ++ t) = some (s, t)
  | [], [] => rfl
  | [], _ :: _ => rfl
  | a :: s, t => by
    have hne : w a + size w s ≠ 0 := by
      have := hw a
      omega
    rw [List.cons_append, size_cons, cut, if_neg hne, if_pos (by omega), Nat.add_sub_cancel_left,
      cut_append hw s t]
    rfl

theorem eq_of_cut : ∀ {n : Nat} {t p q : List α}, cut w n t = some (p, q) →
    t = p ++ q ∧ size w p = n
  | n, [], p, q, h => by
    unfold cut at h
    split at h
    · rename_i hn
      obtain ⟨rfl, rfl⟩ : [] = p ∧ [] = q := by simpa using h
      exact ⟨rfl, hn.symm⟩
    · cases h
  | n, a :: t, p, q, h => by
    unfold cut at h
    split at h
    · rename_i hn
      obtain ⟨rfl, rfl⟩ : [] = p ∧ a :: t = q := by simpa using h
      exact ⟨rfl, hn.symm⟩
    · split at h
      · rename_i hn hle
        obtain ⟨⟨p', q'⟩, hcut, heq⟩ := Option.map_eq_some_iff.mp h
        obtain ⟨rfl, rfl⟩ : a :: p' = p ∧ q' = q := by simpa using heq
        obtain ⟨rfl, hsize⟩ := eq_of_cut hcut
        exact ⟨rfl, by rw [size_cons]; omega⟩
      · cases h

variable {t : List α}

/-- A cut succeeds exactly at the offsets where the text splits. -/
theorem cut_isSome_iff (hw : ∀ a, 0 < w a) {n : Nat} :
    (cut w n t).isSome = true ↔ ∃ p q, t = p ++ q ∧ size w p = n := by
  rw [Option.isSome_iff_exists]
  constructor
  · rintro ⟨⟨p, q⟩, h⟩
    exact ⟨p, q, eq_of_cut h⟩
  · rintro ⟨p, q, rfl, rfl⟩
    exact ⟨(p, q), cut_append hw p q⟩

/-! ## Edits -/

/-- Replacement of the elements between two offsets. -/
structure Edit (α : Type) where
  start : Nat
  stop : Nat
  replacement : List α
deriving DecidableEq, Repr

variable {es : List (Edit α)} {e : Edit α}

variable (w) in
/-- `String::replace_range`; `none` where it panics. -/
def replaceRange (t : List α) (e : Edit α) : Option (List α) :=
  if e.start ≤ e.stop then
    match cut w e.start t, cut w e.stop t with
    | some (before, _), some (_, after) => some (before ++ e.replacement ++ after)
    | _, _ => none
  else none

variable (w) in
/-- The range of the edit is a range of the text. -/
def Fits (t : List α) (e : Edit α) : Prop :=
  e.start ≤ e.stop ∧ (cut w e.start t).isSome = true ∧ (cut w e.stop t).isSome = true

/-- `e` ends before `f` starts, and they start at different offsets. -/
def Before (e f : Edit α) : Prop := e.start < f.start ∧ e.stop ≤ f.start

/-- One of the two edits lies before the other. -/
def Apart (e f : Edit α) : Prop := Before e f ∨ Before f e

theorem Apart.symm {e f : Edit α} (h : Apart e f) : Apart f e := Or.symm h

theorem Apart.start_ne {e f : Edit α} (h : Apart e f) : e.start ≠ f.start := by
  rcases h with h | h
  · exact Nat.ne_of_lt h.1
  · exact Nat.ne_of_gt h.1

/-- An edit that fits cuts the text in three. -/
theorem Fits.split (hw : ∀ a, 0 < w a) (h : Fits w t e) :
    ∃ a m b, t = a ++ m ++ b ∧ size w a = e.start ∧ e.start + size w m = e.stop := by
  obtain ⟨hle, hstart, hstop⟩ := h
  obtain ⟨a, rest, rfl, hsa⟩ := (cut_isSome_iff hw).mp hstart
  obtain ⟨p, b, hpb, hsp⟩ := (cut_isSome_iff hw).mp hstop
  -- the shorter of two initial parts of one text is an initial part of the longer
  rcases List.append_eq_append_iff.mp hpb with ⟨m, rfl, rfl⟩ | ⟨m, rfl, rfl⟩
  · rw [size_append] at hsp
    exact ⟨a, m, b, by simp, hsa, by omega⟩
  · rw [size_append] at hsa
    have hm : size w m = 0 := by omega
    cases m with
    | nil => exact ⟨p, [], rest, by simp, by simpa using hsa, by simp; omega⟩
    | cons x m =>
      have := hw x
      rw [size_cons] at hm
      omega

theorem replaceRange_append (hw : ∀ a, 0 < w a) {a m b : List α} (ha : size w a = e.start)
    (hm : e.start + size w m = e.stop) :
    replaceRange w (a ++ m ++ b) e = some (a ++ e.replacement ++ b) := by
  have hstart : cut w e.start (a ++ m ++ b) = some (a, m ++ b) := by
    rw [← ha, List.append_assoc]
    exact cut_append hw a (m ++ b)
  have hstop : cut w e.stop (a ++ m ++ b) = some (a ++ m, b) := by
    rw [← hm, ← ha, ← size_append]
    exact cut_append hw (a ++ m) b
  unfold replaceRange
  rw [if_pos (by omega), hstart, hstop]

/-! ## Substitution -/

/-- What the edits that start at an offset put there. -/
def insertionsAt (es : List (Edit α)) (o : Nat) : List α :=
  (es.filter fun e => e.start = o).flatMap fun e => e.replacement

/-- Some edit replaces the element at an offset. -/
def covered (es : List (Edit α)) (o : Nat) : Bool := es.any fun e => e.start ≤ o && o < e.stop

/-- What is left of the element at an offset. -/
def kept (es : List (Edit α)) (o : Nat) (a : α) : List α := if covered es o then [] else [a]

variable (w) in
/-- A part of a text that starts at an offset, without the insertions at its end. -/
def sweep (es : List (Edit α)) : Nat → List α → List α
  | _, [] => []
  | o, a :: t => insertionsAt es o ++ kept es o a ++ sweep es (o + w a) t

variable (w) in
/-- The rest of a text from an offset on. -/
def substituteFrom (es : List (Edit α)) : Nat → List α → List α
  | o, [] => insertionsAt es o
  | o, a :: t => insertionsAt es o ++ kept es o a ++ substituteFrom es (o + w a) t

variable (w) in
/-- All edits at once. -/
def substitute (es : List (Edit α)) (t : List α) : List α := substituteFrom w es 0 t

/-- No edits leave the text as it is. -/
theorem substituteFrom_nil : ∀ (o : Nat) (t : List α), substituteFrom w [] o t = t
  | _, [] => rfl
  | o, a :: t => by
    rw [substituteFrom, substituteFrom_nil (o + w a) t]
    rfl

theorem substituteFrom_append (es : List (Edit α)) : ∀ (o : Nat) (s t : List α),
    substituteFrom w es o (s ++ t) = sweep w es o s ++ substituteFrom w es (o + size w s) t
  | o, [], t => by simp [sweep]
  | o, a :: s, t => by
    rw [List.cons_append, substituteFrom, substituteFrom_append es (o + w a) s t, sweep, size_cons,
      Nat.add_assoc, List.append_assoc (insertionsAt es o ++ kept es o a)]

theorem insertionsAt_cons (e : Edit α) (es : List (Edit α)) (o : Nat) :
    insertionsAt (e :: es) o = (if e.start = o then e.replacement else []) ++ insertionsAt es o := by
  unfold insertionsAt
  by_cases h : e.start = o
  · rw [List.filter_cons_of_pos (by simpa using h), if_pos h, List.flatMap_cons]
  · rw [List.filter_cons_of_neg (by simpa using h), if_neg h, List.nil_append]

theorem insertionsAt_of_ne {o : Nat} (h : ∀ e ∈ es, e.start ≠ o) : insertionsAt es o = [] := by
  have hfilter : es.filter (fun e => e.start = o) = [] := by
    rw [List.filter_eq_nil_iff]
    intro e he
    simpa using h e he
  rw [insertionsAt, hfilter, List.flatMap_nil]

theorem covered_cons (e : Edit α) (es : List (Edit α)) (o : Nat) :
    covered (e :: es) o = ((e.start ≤ o && o < e.stop) || covered es o) := rfl

theorem covered_of_outside {o : Nat} (h : ∀ e ∈ es, o < e.start ∨ e.stop ≤ o) :
    covered es o = false := by
  unfold covered
  rw [List.any_eq_false]
  intro e he
  have := h e he
  simp only [Bool.and_eq_true, decide_eq_true_eq]
  omega

/-- Before the first edit starts nothing changes. -/
theorem sweep_eq_self (hw : ∀ a, 0 < w a) : ∀ {o : Nat} {s : List α},
    (∀ e ∈ es, o + size w s ≤ e.start) → sweep w es o s = s
  | _, [], _ => rfl
  | o, a :: s, h => by
    have hpos := hw a
    have hlater : ∀ e ∈ es, o < e.start := by
      intro e he
      have := h e he
      rw [size_cons] at this
      omega
    have hrest : ∀ e ∈ es, o + w a + size w s ≤ e.start := by
      intro e he
      have := h e he
      rw [size_cons] at this
      omega
    rw [sweep, insertionsAt_of_ne fun e he => Nat.ne_of_gt (hlater e he), kept,
      covered_of_outside fun e he => Or.inl (hlater e he), sweep_eq_self hw hrest]
    rfl

/-- After the end of an edit it no longer matters. -/
theorem substituteFrom_cons_of_past (e : Edit α) (es : List (Edit α)) (hw : ∀ a, 0 < w a) :
    ∀ {o : Nat} (t : List α), e.start < o → e.stop ≤ o →
      substituteFrom w (e :: es) o t = substituteFrom w es o t
  | o, [], hstart, _ => by
    rw [substituteFrom, substituteFrom, insertionsAt_cons, if_neg (Nat.ne_of_lt hstart),
      List.nil_append]
  | o, a :: t, hstart, hstop => by
    have hcov : covered (e :: es) o = covered es o := by
      rw [covered_cons, decide_eq_false (show ¬ o < e.stop by omega), Bool.and_false,
        Bool.false_or]
    rw [substituteFrom, substituteFrom, insertionsAt_cons, if_neg (Nat.ne_of_lt hstart),
      List.nil_append, kept, kept, hcov,
      substituteFrom_cons_of_past e es hw t (by omega) (by omega)]

/-- Inside an edit, past its start, every element is dropped. -/
theorem substituteFrom_inside (hw : ∀ a, 0 < w a) (hes : ∀ f ∈ es, Before e f) (b : List α) :
    ∀ {o : Nat} (m : List α),
      e.start < o → o + size w m = e.stop →
      substituteFrom w (e :: es) o (m ++ b) = substituteFrom w es e.stop b
  | o, [], hstart, hstop => by
    rw [size_nil, Nat.add_zero] at hstop
    rw [List.nil_append, hstop]
    exact substituteFrom_cons_of_past e es hw b (by omega) le_rfl
  | o, a :: m, hstart, hstop => by
    have hpos := hw a
    rw [size_cons] at hstop
    have hlater : ∀ f ∈ es, f.start ≠ o := by
      intro f hf
      have := (hes f hf).2
      omega
    have hcov : covered (e :: es) o = true := by
      rw [covered_cons, decide_eq_true (show e.start ≤ o by omega),
        decide_eq_true (show o < e.stop by omega)]
      rfl
    rw [List.cons_append, substituteFrom, insertionsAt_cons, if_neg (Nat.ne_of_lt hstart),
      insertionsAt_of_ne hlater, kept, hcov,
      substituteFrom_inside hw hes b m (by omega) (by omega)]
    rfl

/-- At its start an edit puts its replacement in the place of its range. -/
theorem substituteFrom_at (hw : ∀ a, 0 < w a) (hes : ∀ f ∈ es, Before e f) (b m : List α)
    (hm : e.start + size w m = e.stop) :
    substituteFrom w (e :: es) e.start (m ++ b)
      = e.replacement ++ substituteFrom w es e.stop b := by
  have hlater : ∀ f ∈ es, f.start ≠ e.start := fun f hf => Nat.ne_of_gt (hes f hf).1
  have hins : insertionsAt (e :: es) e.start = e.replacement ++ insertionsAt es e.start := by
    rw [insertionsAt_cons, if_pos rfl]
  cases m with
  | nil =>
    -- an insertion: the element that follows it stays
    have hstop : e.stop = e.start := by simpa using hm.symm
    rw [List.nil_append, hstop]
    cases b with
    | nil => exact hins
    | cons a b =>
      have hcov : covered (e :: es) e.start = covered es e.start := by
        rw [covered_cons, hstop]
        simp
      rw [substituteFrom, substituteFrom, hins, kept, kept, hcov,
        substituteFrom_cons_of_past e es hw b (by have := hw a; omega) (by omega)]
      simp [List.append_assoc]
  | cons a m =>
    have hpos := hw a
    rw [size_cons] at hm
    have hcov : covered (e :: es) e.start = true := by
      rw [covered_cons, decide_eq_true le_rfl, decide_eq_true (show e.start < e.stop by omega)]
      rfl
    rw [List.cons_append, substituteFrom, hins, insertionsAt_of_ne hlater, kept, hcov,
      substituteFrom_inside hw hes b m (by omega) (by omega)]
    simp

/-- **Splicing from the last edit to the first is substitution.**  Each edit finds the text
before its end as it was, because the edits after it start there or later. -/
theorem foldr_replaceRange (hw : ∀ a, 0 < w a) (t : List α) : ∀ {es : List (Edit α)},
    es.Pairwise Before → (∀ e ∈ es, Fits w t e) →
    es.foldr (fun e acc => acc.bind fun t => replaceRange w t e) (some t)
      = some (substitute w es t)
  | [], _, _ => by rw [List.foldr_nil, substitute, substituteFrom_nil]
  | e :: es, hsorted, hfits => by
    obtain ⟨hes, hrest⟩ := List.pairwise_cons.mp hsorted
    obtain ⟨a, m, b, rfl, ha, hm⟩ := (hfits e (List.mem_cons_self ..)).split hw
    have htail : substitute w es (a ++ m ++ b) = a ++ m ++ substituteFrom w es e.stop b := by
      have hsize : 0 + size w (a ++ m) = e.stop := by
        rw [size_append]
        omega
      rw [substitute, substituteFrom_append, hsize]
      rw [sweep_eq_self hw fun f hf => by rw [hsize]; exact (hes f hf).2]
    have hhead : substitute w (e :: es) (a ++ m ++ b)
        = a ++ e.replacement ++ substituteFrom w es e.stop b := by
      have hall : ∀ f ∈ e :: es, 0 + size w a ≤ f.start := by
        intro f hf
        rcases List.mem_cons.mp hf with rfl | hf
        · omega
        · have := (hes f hf).1
          omega
      rw [substitute, List.append_assoc, substituteFrom_append, sweep_eq_self hw hall, Nat.zero_add,
        ha, substituteFrom_at hw hes b m hm, List.append_assoc]
    rw [List.foldr_cons,
      foldr_replaceRange hw (a ++ m ++ b) hrest fun f hf => hfits f (List.mem_cons_of_mem _ hf),
      htail, hhead]
    exact replaceRange_append hw ha hm

/-! ## The order of the edits -/

/-- The key by which edits are sorted before they are spliced. -/
def editKey (e : Edit α) : Nat ×ₗ Nat := toLex (e.start, e.stop)

theorem Apart.before_of_key_le {e f : Edit α} (h : Apart e f) (hkey : editKey e ≤ editKey f) :
    Before e f := by
  rcases h with h | h
  · exact h
  · rcases Prod.Lex.toLex_le_toLex.mp hkey with hlt | ⟨heq, _⟩
    · exact absurd h.1 (by omega)
    · exact absurd h.1 (by omega)

/-- Edits apart from each other, once sorted, lie one before the other. -/
theorem pairwise_before_sortByKey (h : es.Pairwise Apart) :
    (StableSort.sortByKey editKey es).Pairwise Before := by
  have hperm := StableSort.sortByKey_perm editKey es
  have hapart : (StableSort.sortByKey editKey es).Pairwise Apart :=
    (hperm.symm.pairwise_iff fun h => Apart.symm h).mp h
  refine (hapart.and (StableSort.sortByKey_pairwise editKey es)).imp ?_
  rintro e f ⟨hef, hkey⟩
  exact hef.before_of_key_le hkey

/-- The edits apart from each other that start at one offset are the same list in any order. -/
theorem filter_start_perm {es fs : List (Edit α)} (hperm : es.Perm fs) (h : es.Pairwise Apart)
    (o : Nat) : es.filter (fun e => e.start = o) = fs.filter fun e => e.start = o := by
  have hp : (es.filter fun e => e.start = o).Perm (fs.filter fun e => e.start = o) :=
    hperm.filter _
  have hpw : (es.filter fun e => e.start = o).Pairwise Apart := h.filter _
  have hmem : ∀ e ∈ es.filter (fun e => e.start = o), e.start = o := by
    intro e he
    simpa using (List.mem_filter.mp he).2
  generalize es.filter (fun e => e.start = o) = l at hp hpw hmem ⊢
  rcases l with _ | ⟨e, _ | ⟨f, l⟩⟩
  · exact (List.nil_perm.mp hp).symm
  · exact (List.perm_singleton.mp hp.symm).symm
  · have hef : Apart e f := (List.pairwise_cons.mp hpw).1 f (List.mem_cons_self ..)
    exact absurd ((hmem e (by simp)).trans (hmem f (by simp)).symm) hef.start_ne

theorem covered_perm {es fs : List (Edit α)} (hperm : es.Perm fs) (o : Nat) :
    covered es o = covered fs o := by
  unfold covered
  rw [Bool.eq_iff_iff, List.any_eq_true, List.any_eq_true]
  exact exists_congr fun e => and_congr_left fun _ => hperm.mem_iff

/-- **Substitution does not depend on the order of the edits.** -/
theorem substitute_perm {es fs : List (Edit α)} (hperm : es.Perm fs) (h : es.Pairwise Apart)
    (t : List α) : substitute w es t = substitute w fs t := by
  have hfrom : ∀ (t : List α) (o : Nat), substituteFrom w es o t = substituteFrom w fs o t := by
    intro t
    induction t with
    | nil =>
      intro o
      rw [substituteFrom, substituteFrom, insertionsAt, insertionsAt, filter_start_perm hperm h]
    | cons a t ih =>
      intro o
      rw [substituteFrom, substituteFrom, insertionsAt, insertionsAt, filter_start_perm hperm h,
        kept, kept, covered_perm hperm, ih]
  exact hfrom t 0

/-- **Sort, then splice backwards.** -/
theorem foldr_sortByKey (hw : ∀ a, 0 < w a) (hapart : es.Pairwise Apart)
    (hfits : ∀ e ∈ es, Fits w t e) :
    (StableSort.sortByKey editKey es).foldr
        (fun e acc => acc.bind fun t => replaceRange w t e) (some t)
      = some (substitute w es t) := by
  have hperm := StableSort.sortByKey_perm editKey es
  rw [foldr_replaceRange hw t (pairwise_before_sortByKey hapart)
    fun e he => hfits e ((StableSort.mem_sortByKey editKey).mp he)]
  rw [substitute_perm hperm.symm hapart]

end Splice
