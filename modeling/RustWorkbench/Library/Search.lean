import Mathlib.Data.List.Basic

/-!
# First matches

A search returns the first element of a list with a property; a loop that may fail returns what its
rounds return.

* `find?_eq_some_iff` — the search finds it.
* `mem_mapM` — where the values of such a loop come from.
-/

namespace Search

variable {α : Type}

/-- The first element of a list with a property. -/
def IsFirst (P : α → Prop) (l : List α) (a : α) : Prop :=
  ∃ before after, l = before ++ a :: after ∧ P a ∧ ∀ earlier ∈ before, ¬ P earlier

variable {P : α → Prop} {p : α → Bool} {l : List α} {a : α}

theorem find?_eq_some_iff :
    l.find? p = some a ↔ IsFirst (fun a => p a = true) l a := by
  rw [List.find?_eq_some_iff_append]
  constructor
  · rintro ⟨hp, before, after, rfl, hbefore⟩
    exact ⟨before, after, rfl, hp, fun earlier he => by simpa using hbefore earlier he⟩
  · rintro ⟨before, after, rfl, hp, hbefore⟩
    exact ⟨hp, before, after, rfl, fun earlier he => by simpa using hbefore earlier he⟩

theorem IsFirst.mem (h : IsFirst P l a) : a ∈ l := by
  obtain ⟨before, after, rfl, -⟩ := h
  exact List.mem_append_right _ List.mem_cons_self

theorem IsFirst.holds (h : IsFirst P l a) : P a := by
  obtain ⟨-, -, -, ha, -⟩ := h
  exact ha

/-- There is only one first match. -/
theorem IsFirst.unique {a b : α} (ha : IsFirst P l a) (hb : IsFirst P l b) : a = b := by
  classical
  have hfind : ∀ {c}, IsFirst P l c → l.find? (fun a => decide (P a)) = some c := fun hc =>
    find?_eq_some_iff.mpr (by simpa using hc)
  exact Option.some.inj ((hfind ha).symm.trans (hfind hb))

/-- What can be found has a first match. -/
theorem exists_isFirst (h : ∃ a ∈ l, p a = true) :
    ∃ a, IsFirst (fun a => p a = true) l a := by
  obtain ⟨a, ha⟩ := Option.isSome_iff_exists.mp (List.find?_isSome.mpr h)
  exact ⟨a, find?_eq_some_iff.mp ha⟩

theorem exists_last (h : ∃ a ∈ l, P a) :
    ∃ front a back, l = front ++ a :: back ∧ P a ∧ ∀ b ∈ back, ¬ P b := by
  classical
  obtain ⟨a, ha, hP⟩ := h
  obtain ⟨b, before, after, hl, hb, hbefore⟩ := @exists_isFirst α (fun a => decide (P a)) l.reverse
    ⟨a, List.mem_reverse.mpr ha, decide_eq_true hP⟩
  refine ⟨after.reverse, b, before.reverse, ?_, of_decide_eq_true hb, fun c hc hP => ?_⟩
  · rw [← List.reverse_reverse l, hl]
    simp
  · exact hbefore c (List.mem_reverse.mp hc) (decide_eq_true hP)

/-- The first match of a part of a list. -/
theorem find?_filter_eq_some_iff {p q : α → Bool} :
    (l.filter q).find? p = some a ↔ IsFirst (fun a => q a = true ∧ p a = true) l a := by
  rw [List.find?_filter, find?_eq_some_iff]
  simp only [Bool.decide_and, Bool.and_eq_true, decide_eq_true_eq]

/-- A first match is the first in every part that has it. -/
theorem IsFirst.filter {P Q : α → Prop} (h : IsFirst P l a) (ha : Q a) :
    IsFirst (fun a => Q a ∧ P a) l a := by
  obtain ⟨before, after, hl, hp, hbefore⟩ := h
  exact ⟨before, after, hl, ⟨ha, hp⟩, fun earlier he hboth => hbefore earlier he hboth.2⟩

/-! ## Loops that may fail -/

section Loops

variable {β : Type} {values : List β}

/-- The values of a loop are those of its rounds, for any notion of returning a value. -/
theorem mem_mapM {m : Type → Type} [Monad m] [LawfulMonad m]
    {Returns : ∀ {γ : Type}, m γ → γ → Prop}
    (hpure : ∀ {γ : Type} {c d : γ}, Returns (pure c : m γ) d → c = d)
    (hbind : ∀ {γ δ : Type} {x : m γ} {g : γ → m δ} {d : δ}, Returns (x >>= g) d →
      ∃ c, Returns x c ∧ Returns (g c) d) {f : α → m β} :
    ∀ {l : List α} {values : List β}, Returns (l.mapM f) values →
      (∀ b ∈ values, ∃ a ∈ l, Returns (f a) b) ∧ ∀ a ∈ l, ∃ b ∈ values, Returns (f a) b
  | [], values, h => by
    rw [List.mapM_nil] at h
    obtain rfl := hpure h
    exact ⟨(fun _ h => nomatch h), (fun _ h => nomatch h)⟩
  | a :: l, values, h => by
    rw [List.mapM_cons] at h
    obtain ⟨b, hb, h⟩ := hbind h
    obtain ⟨rest, hrest, h⟩ := hbind h
    obtain rfl := hpure h
    obtain ⟨hvalues, hrounds⟩ := mem_mapM hpure hbind hrest
    simp only [List.forall_mem_cons, List.exists_mem_cons_iff]
    exact ⟨⟨.inl hb, fun c hc => .inr (hvalues c hc)⟩,
      .inl hb, fun c hc => .inr (hrounds c hc)⟩

theorem mem_mapM_some {f : α → Option β} (h : l.mapM f = some values) :
    (∀ b ∈ values, ∃ a ∈ l, f a = some b) ∧ ∀ a ∈ l, ∃ b ∈ values, f a = some b :=
  @mem_mapM α β Option _ _ (fun x c => x = some c) Option.some.inj Option.bind_eq_some_iff.mp f _ _ h

theorem mem_mapM_ok {ε : Type} {f : α → Except ε β} (h : l.mapM f = .ok values) :
    (∀ b ∈ values, ∃ a ∈ l, f a = .ok b) ∧ ∀ a ∈ l, ∃ b ∈ values, f a = .ok b := by
  refine @mem_mapM α β (Except ε) _ _ (fun x c => x = .ok c) Except.ok.inj ?_ f _ _ h
  rintro γ δ (failure | c) g d hd
  · cases hd
  · exact ⟨c, rfl, hd⟩

end Loops

end Search
