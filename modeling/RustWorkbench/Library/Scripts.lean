import Mathlib.Data.List.Basic

/-!
# Shell scripts with one failing command

A script that stops at the first failing command (`set -e`) is a list of commands over a state: a
command may stand inside an `if`, may be a check that ends the script by itself, and says for each
place at which it can fail what the script does then.  Error traps are part of that answer: the
state of an exit is the one that the handlers leave.

* `run` — the script, where at most one command fails, at a given place.
* `Triple fault P cs Q E` — from `P`, a script that ends leaves `Q`, and one that fails leaves what
  `E` says for the place of the failure.
* `Triple.command`, `Triple.plain`, `Triple.cons`, `Triple.append` — its rules.
-/

namespace Scripts

variable {σ ι : Type}

/-- What a failing command leads to. -/
inductive Reaction (σ : Type)
  | exits (s : σ)
  /-- The failure is tested for or ignored. -/
  | continues (s : σ)

theorem Reaction.ite_exits_eq_some {c : Prop} [Decidable c] {s t : σ} :
    (if c then some (exits s) else none) = some (exits t) ↔ c ∧ s = t := by
  simp

structure Command (σ ι : Type) where
  /-- The condition of the `if` that it stands in. -/
  applies : σ → Bool := fun _ => true
  /-- A check: the place of the `exit` that it comes to. -/
  refuses : σ → Option ι := fun _ => none
  effect : σ → σ := id
  breaks : ι → σ → Option (Reaction σ) := fun _ _ => none

inductive Outcome (σ ι : Type)
  | done (s : σ)
  | failed (place : ι) (s : σ)

/-- The state that a script leaves when it ends. -/
def Outcome.result : Outcome σ ι → Option σ
  | .done s => some s
  | .failed _ _ => none

/-- The command where nothing fails by itself. -/
def Command.execute (c : Command σ ι) (s : σ) : Outcome σ ι :=
  match c.refuses s with
  | some place => .failed place s
  | none => .done (c.effect s)

def Command.run (c : Command σ ι) (fault : Option ι) (s : σ) : Outcome σ ι :=
  if c.applies s then
    match fault.bind fun place => (c.breaks place s).map (Prod.mk place) with
    | some (place, .exits t) => .failed place t
    | some (_, .continues t) => .done t
    | none => c.execute s
  else .done s

def run (fault : Option ι) : List (Command σ ι) → σ → Outcome σ ι
  | [], s => .done s
  | c :: cs, s =>
    match c.run fault s with
    | .done t => run fault cs t
    | .failed place t => .failed place t

variable {fault : Option ι} {c : Command σ ι} {cs ds : List (Command σ ι)} {s t : σ} {place : ι}

theorem Outcome.result_eq_some {outcome : Outcome σ ι} (h : outcome.result = some s) :
    outcome = .done s := by
  cases outcome with
  | done t => exact congrArg _ (Option.some.inj h)
  | failed place t => cases h

/-! ## One command -/

theorem Command.execute_eq_done (h : c.execute s = .done t) :
    c.refuses s = none ∧ t = c.effect s := by
  unfold Command.execute at h
  cases href : c.refuses s with
  | none => exact ⟨rfl, by simpa [href] using h.symm⟩
  | some refused => simp [href] at h

theorem Command.execute_eq_failed (h : c.execute s = .failed place t) :
    c.refuses s = some place ∧ t = s := by
  unfold Command.execute at h
  cases href : c.refuses s with
  | none => simp [href] at h
  | some refused =>
    simp only [href, Outcome.failed.injEq] at h
    exact ⟨congrArg some h.1, h.2.symm⟩

theorem Command.run_eq_done (h : c.run fault s = .done t) :
    (c.applies s = false ∧ t = s) ∨
      (c.applies s = true ∧ ∃ place, fault = some place ∧
        c.breaks place s = some (.continues t)) ∨
      (c.applies s = true ∧ c.refuses s = none ∧ t = c.effect s) := by
  unfold Command.run at h
  by_cases happ : c.applies s = true
  · rw [if_pos happ] at h
    cases fault with
    | none => exact .inr (.inr ⟨happ, Command.execute_eq_done h⟩)
    | some place =>
      rcases hbreaks : c.breaks place s with _ | _ | r
      · simp only [Option.bind_some, hbreaks, Option.map_none] at h
        exact .inr (.inr ⟨happ, Command.execute_eq_done h⟩)
      · simp [hbreaks] at h
      · have hrt : r = t := by simpa [hbreaks] using h
        exact .inr (.inl ⟨happ, place, rfl, hrt ▸ hbreaks⟩)
  · rw [if_neg happ] at h
    exact .inl ⟨by simpa using happ, by simpa using h.symm⟩

theorem Command.run_eq_failed (h : c.run fault s = .failed place t) :
    c.applies s = true ∧
      ((fault = some place ∧ c.breaks place s = some (.exits t)) ∨
        (c.refuses s = some place ∧ t = s)) := by
  unfold Command.run at h
  by_cases happ : c.applies s = true
  · rw [if_pos happ] at h
    refine ⟨happ, ?_⟩
    cases fault with
    | none => exact .inr (Command.execute_eq_failed h)
    | some fault =>
      rcases hbreaks : c.breaks fault s with _ | r | _
      · simp only [Option.bind_some, hbreaks, Option.map_none] at h
        exact .inr (Command.execute_eq_failed h)
      · simp only [Option.bind_some, hbreaks, Option.map_some, Outcome.failed.injEq] at h
        obtain ⟨rfl, rfl⟩ := h
        exact .inl ⟨rfl, hbreaks⟩
      · simp [hbreaks] at h
  · simp [happ] at h

/-! ## A whole script -/

theorem run_append :
    run fault (cs ++ ds) s = match run fault cs s with
      | .done t => run fault ds t
      | .failed place t => .failed place t := by
  induction cs generalizing s with
  | nil => rfl
  | cons c cs ih =>
    cases h : c.run fault s with
    | done t => simpa [run, h] using ih
    | failed place t => simp [run, h]

/-- What an outcome has to meet: one condition where the script ends, one where it fails. -/
def Outcome.Meets (Q : σ → Prop) (E : ι → σ → Prop) : Outcome σ ι → Prop
  | .done t => Q t
  | .failed place t => E place t

/-- From `P`, the script leaves `Q` or fails with `E`. -/
def Triple (fault : Option ι) (P : σ → Prop) (cs : List (Command σ ι)) (Q : σ → Prop)
    (E : ι → σ → Prop) : Prop :=
  ∀ s, P s → (run fault cs s).Meets Q E

namespace Triple

variable {P Q R : σ → Prop} {E : ι → σ → Prop}

theorem append (hcs : Triple fault P cs Q E) (hds : Triple fault Q ds R E) :
    Triple fault P (cs ++ ds) R E := by
  intro s hs
  have hfirst := hcs s hs
  rw [run_append]
  cases h : run fault cs s with
  | done t =>
    rw [h] at hfirst
    exact hds t hfirst
  | failed place t =>
    rw [h] at hfirst
    exact hfirst

theorem cons (hc : Triple fault P [c] Q E) (hcs : Triple fault Q cs R E) :
    Triple fault P (c :: cs) R E :=
  append hc hcs

theorem weaken (h : Triple fault P cs Q E) (hQ : ∀ s, Q s → R s) : Triple fault P cs R E := by
  intro s hs
  have hrun := h s hs
  cases hcs : run fault cs s with
  | done t =>
    rw [hcs] at hrun
    exact hQ t hrun
  | failed place t =>
    rw [hcs] at hrun
    exact hrun

/-- Where only a script that ends matters. -/
theorem anyExit (h : Triple fault P cs Q E) : Triple fault P cs Q fun _ _ => True := by
  intro s hs
  have hrun := h s hs
  cases hcs : run fault cs s with
  | done t =>
    rw [hcs] at hrun
    exact hrun
  | failed place t => exact trivial

/-- **The rule for one command**: skipped, done, refused, and failed in either way. -/
theorem command (hskip : ∀ s, P s → c.applies s = false → Q s)
    (hdone : ∀ s, P s → c.applies s = true → c.refuses s = none → Q (c.effect s))
    (hrefuse : ∀ s place, P s → c.applies s = true → c.refuses s = some place → E place s)
    (hexit : ∀ s place t, P s → c.applies s = true → fault = some place →
      c.breaks place s = some (.exits t) → E place t)
    (hcontinue : ∀ s place t, P s → c.applies s = true → fault = some place →
      c.breaks place s = some (.continues t) → Q t) :
    Triple fault P [c] Q E := by
  intro s hs
  cases h : c.run fault s with
  | done t =>
    simp only [run, h]
    rcases Command.run_eq_done h with
      ⟨happ, rfl⟩ | ⟨happ, place, hfault, hbreaks⟩ | ⟨happ, href, rfl⟩
    · exact hskip _ hs happ
    · exact hcontinue s place t hs happ hfault hbreaks
    · exact hdone s hs happ href
  | failed place t =>
    simp only [run, h]
    obtain ⟨happ, ⟨hfault, hbreaks⟩ | ⟨href, rfl⟩⟩ := Command.run_eq_failed h
    · exact hexit s place t hs happ hfault hbreaks
    · exact hrefuse _ place hs happ href

/-- A command outside every `if` that is no check and whose failure ends the script. -/
theorem plain (happ : c.applies = fun _ => true) (href : c.refuses = fun _ => none)
    (hends : ∀ s place t, c.breaks place s ≠ some (.continues t))
    (hdone : ∀ s, P s → Q (c.effect s))
    (hexit : ∀ s place t, P s → fault = some place → c.breaks place s = some (.exits t) →
      E place t) :
    Triple fault P [c] Q E := by
  refine command ?_ (fun s hs _ _ => hdone s hs) ?_ (fun s place t hs _ => hexit s place t hs) ?_
  · intro s _ hskip
    simp [happ] at hskip
  · intro s place _ _ hrefused
    simp [href] at hrefused
  · intro s place t _ _ _ hbreaks
    exact absurd hbreaks (hends s place t)

end Triple

end Scripts
