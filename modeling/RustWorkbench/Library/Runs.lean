import Mathlib.Logic.Relation

/-!
# Runs of a guarded transition system

A `System` has an initial state and a partial step function: `step s a = none` says that
the action `a` cannot happen in `s`.  `Run S ok tr s` says that `s` is reached from the
initial state by the steps recorded in the history `tr`, oldest first, where every step
also met the side condition `ok` in the state it was taken from.

* `Run.mono` — a run that meets a stronger side condition meets a weaker one.
-/

namespace Runs

variable {σ α β : Type}

/-- A loop keeps what every round keeps. -/
theorem foldl_unchanged {f : σ → α → σ} {g : σ → β} (hf : ∀ s a, g (f s a) = g s) :
    ∀ (l : List α) (s : σ), g (l.foldl f s) = g s
  | [], _ => rfl
  | a :: l, s => (foldl_unchanged hf l (f s a)).trans (hf s a)

/-- A preorder that holds for each step of a closure holds for the closure. -/
theorem reflTransGen_le {r R : σ → σ → Prop} (hrefl : ∀ {a}, R a a)
    (htrans : ∀ {a b c}, R a b → R b c → R a c) (hstep : ∀ {a b}, r a b → R a b) {a b : σ}
    (h : Relation.ReflTransGen r a b) : R a b := by
  induction h with
  | refl => exact hrefl
  | tail _ hlast ih => exact htrans ih (hstep hlast)

/-- A partial transition system. -/
structure System (σ α : Type) where
  init : σ
  step : σ → α → Option σ

/-- `s` is reached by the history `tr`, each step of which met `ok`. -/
inductive Run (S : System σ α) (ok : σ → α → Prop) : List (σ × α) → σ → Prop
  | start : Run S ok [] S.init
  | snoc {tr : List (σ × α)} {s s' : σ} {a : α} :
      Run S ok tr s → ok s a → S.step s a = some s' → Run S ok (tr ++ [(s, a)]) s'

/-- No side condition. -/
def anyStep (_ : σ) (_ : α) : Prop := True

variable {S : System σ α} {ok : σ → α → Prop} {I : List (σ × α) → σ → Prop}

/-- **Invariant rule with history.** -/
theorem Run.invariant_history (h0 : I [] S.init)
    (hstep : ∀ tr s a s', I tr s → ok s a → S.step s a = some s' → I (tr ++ [(s, a)]) s') :
    ∀ {tr : List (σ × α)} {s : σ}, Run S ok tr s → I tr s := by
  intro tr s h
  induction h with
  | start => exact h0
  | snoc _ hok hs ih => exact hstep _ _ _ _ ih hok hs

/-- **Invariant rule.** -/
theorem Run.invariant {I : σ → Prop} (h0 : I S.init)
    (hstep : ∀ s a s', I s → ok s a → S.step s a = some s' → I s') :
    ∀ {tr : List (σ × α)} {s : σ}, Run S ok tr s → I s :=
  Run.invariant_history (I := fun _ s => I s) h0 fun _ => hstep

/-- The property holds in every state of a run, with the history that leads to it. -/
def Always (I : List (σ × α) → σ → Prop) (tr : List (σ × α)) (s : σ) : Prop :=
  I tr s ∧ ∀ before p after, tr = before ++ p :: after → I before p.1

theorem always_snoc {tr : List (σ × α)} {s s' : σ} {a : α} :
    Always I (tr ++ [(s, a)]) s' ↔ Always I tr s ∧ I (tr ++ [(s, a)]) s' := by
  constructor
  · rintro ⟨hlast, hearlier⟩
    refine ⟨⟨hearlier tr (s, a) [] rfl, fun before p after htr => ?_⟩, hlast⟩
    exact hearlier before p (after ++ [(s, a)]) (by rw [htr, List.append_assoc, List.cons_append])
  · rintro ⟨⟨hbefore, hearlier⟩, hlast⟩
    refine ⟨hlast, fun before p after htr => ?_⟩
    rcases List.eq_nil_or_concat after with rfl | ⟨rest, last, rfl⟩
    · obtain ⟨rfl, hp⟩ := List.append_inj' htr rfl
      obtain rfl := List.singleton_inj.mp hp
      exact hbefore
    · rw [List.concat_eq_append, ← List.cons_append, ← List.append_assoc] at htr
      obtain ⟨hfront, -⟩ := List.append_inj' htr rfl
      exact hearlier before p rest hfront

/-- **Exact side conditions.** -/
theorem Run.always_iff (h0 : I [] S.init)
    (hstep : ∀ tr s a s', I tr s → S.step s a = some s' → (I (tr ++ [(s, a)]) s' ↔ ok s a)) :
    ∀ {tr : List (σ × α)} {s : σ}, Run S anyStep tr s →
      (Always I tr s ↔ ∀ p ∈ tr, ok p.1 p.2) := by
  intro tr s h
  induction h with
  | start => simpa [Always] using h0
  | @snoc tr s s' a _ _ hs ih =>
    rw [always_snoc, List.forall_mem_append, List.forall_mem_singleton, ← ih]
    exact and_congr_right fun halways => hstep tr s a s' halways.1 hs

theorem Run.met : ∀ {tr : List (σ × α)} {s : σ}, Run S ok tr s → ∀ p ∈ tr, ok p.1 p.2 := by
  intro tr s h
  induction h with
  | start => exact fun _ hp => nomatch hp
  | snoc _ hok _ ih => exact List.forall_mem_append.mpr ⟨ih, List.forall_mem_singleton.mpr hok⟩

theorem Run.mono {ok ok' : σ → α → Prop} (hle : ∀ s a, ok s a → ok' s a) :
    ∀ {tr : List (σ × α)} {s : σ}, Run S ok tr s → Run S ok' tr s := by
  intro tr s h
  induction h with
  | start => exact .start
  | snoc _ hok hs ih => exact .snoc ih (hle _ _ hok) hs

/-! ## Histories -/

/-- The list has an entry with `P` after which none has `Q`. -/
def LastSince {β : Type} (P Q : β → Prop) (l : List β) : Prop :=
  ∃ before b after, l = before ++ b :: after ∧ P b ∧ ∀ later ∈ after, ¬ Q later

theorem LastSince.snoc {P Q : β → Prop} {l : List β} {c : β} (h : LastSince P Q l) (hc : ¬ Q c) :
    LastSince P Q (l ++ [c]) := by
  obtain ⟨before, b, after, rfl, hb, hafter⟩ := h
  refine ⟨before, b, after ++ [c], by simp, hb, fun later hlater => ?_⟩
  rcases List.mem_append.mp hlater with hlater | hlater
  · exact hafter later hlater
  · exact List.mem_singleton.mp hlater ▸ hc

theorem lastSince_last {P Q : β → Prop} (l : List β) {c : β} (hc : P c) :
    LastSince P Q (l ++ [c]) :=
  ⟨l, c, [], rfl, hc, fun _ h => nomatch h⟩

/-! ## Evaluated runs -/

/-- Execute actions in order, keeping the history; `none` if one of them is not enabled. -/
def runActions (S : System σ α) : List α → List (σ × α) → σ → Option (List (σ × α) × σ)
  | [], tr, s => some (tr, s)
  | a :: as, tr, s =>
    match S.step s a with
    | none => none
    | some s' => runActions S as (tr ++ [(s, a)]) s'

/-- The evaluation goes on with a run, by the actions. -/
theorem runActions_run (S : System σ α) :
    ∀ (as : List α) (tr : List (σ × α)) (s : σ) (tr' : List (σ × α)) (s' : σ),
      Run S anyStep tr s → runActions S as tr s = some (tr', s') →
        Run S anyStep tr' s' ∧ tr'.map Prod.snd = tr.map Prod.snd ++ as
  | [], tr, s, tr', s', hr, h => by
    simp only [runActions, Option.some.injEq, Prod.mk.injEq] at h
    obtain ⟨rfl, rfl⟩ := h
    exact ⟨hr, (List.append_nil _).symm⟩
  | a :: as, tr, s, tr', s', hr, h => by
    simp only [runActions] at h
    split at h
    · cases h
    · rename_i s₁ hs
      obtain ⟨hrun, hactions⟩ := runActions_run S as _ s₁ tr' s' (.snoc hr trivial hs) h
      exact ⟨hrun, by simp [hactions]⟩

/-- What a list of actions evaluates to is reached by a run of just these actions. -/
theorem exists_run_of_actions {as : List α} {f : σ → β} {v : β}
    (h : (runActions S as [] S.init).map (fun r => f r.2) = some v) :
    ∃ tr s, Run S anyStep tr s ∧ tr.map Prod.snd = as ∧ f s = v := by
  cases hr : runActions S as [] S.init with
  | none => rw [hr] at h; cases h
  | some r =>
    rw [hr] at h
    obtain ⟨hrun, hactions⟩ := runActions_run S as [] S.init r.1 r.2 .start hr
    exact ⟨r.1, r.2, hrun, hactions, Option.some.inj h⟩

/-- What a list of actions evaluates to is reached by a run. -/
theorem exists_run_of_runActions {as : List α} {f : σ → β} {v : β}
    (h : (runActions S as [] S.init).map (fun r => f r.2) = some v) :
    ∃ tr s, Run S anyStep tr s ∧ f s = v := by
  obtain ⟨tr, s, hrun, -, hv⟩ := exists_run_of_actions h
  exact ⟨tr, s, hrun, hv⟩

/-- A run whose history meets a side condition throughout. -/
theorem Run.of_history :
    ∀ {tr : List (σ × α)} {s : σ}, Run S anyStep tr s → (∀ p ∈ tr, ok p.1 p.2) → Run S ok tr s := by
  intro tr s h hok
  induction h with
  | start => exact .start
  | snoc _ _ hs ih =>
    exact .snoc (ih fun p hp => hok p (List.mem_append_left _ hp))
      (hok _ (List.mem_append_right _ List.mem_cons_self)) hs

/-- The same for a decidable side condition that the history is evaluated to meet. -/
theorem exists_checked_run_of_runActions {ok : σ → α → Bool} {as : List α} {f : σ → β} {v : β}
    (h : (runActions S as [] S.init).map (fun r => (r.1.all fun p => ok p.1 p.2, f r.2))
      = some (true, v)) : ∃ tr s, Run S (fun s a => ok s a = true) tr s ∧ f s = v := by
  cases hr : runActions S as [] S.init with
  | none => rw [hr] at h; cases h
  | some r =>
    rw [hr] at h
    obtain ⟨hall, hv⟩ := Prod.mk.inj (Option.some.inj h)
    exact ⟨r.1, r.2, (runActions_run S as [] S.init r.1 r.2 .start hr).1.of_history
      (List.all_eq_true.mp hall), hv⟩

end Runs
