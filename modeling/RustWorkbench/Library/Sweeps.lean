import RustWorkbench.Library.EdgeList

/-!
# Sweeping over a list of edges

A set grown along a list of edges that are followed in both directions.  A sweep goes through the list
once, in order, and uses at once what it has added: it follows a path of any length whose edges come in
the order of the list, but only one edge of a path that comes against it.

* `mem_sweep_iff`, `mem_sweeps_iff` — the sweeps compute just that.
* `Walk.within`, `Within.connected` — as many sweeps as a walk has edges are enough, and none leads out
  of the component.
-/

namespace Sweeps

open PushNew Relation

variable {α ε : Type}

/-! ## Walks -/

/-- The edge has the ends `a` and `b`. -/
def Joins (source target : ε → α) (edge : ε) (a b : α) : Prop :=
  (source edge = a ∧ target edge = b) ∨ (target edge = a ∧ source edge = b)

/-- A walk over the edges of a path, each in either direction. -/
inductive Walk (source target : ε → α) : List ε → α → α → Prop
  | nil (a : α) : Walk source target [] a a
  | cons {edge : ε} {path : List ε} {a b c : α} (first : Joins source target edge a b)
      (rest : Walk source target path b c) : Walk source target (edge :: path) a c

/-- A walk that takes edges in the order of the list. -/
def Ascends (source target : ε → α) (edges : List ε) (a b : α) : Prop :=
  ∃ path, path.Sublist edges ∧ Walk source target path a b

/-- At most so many walks in the order of the list, one after the other. -/
def Within (source target : ε → α) (edges : List ε) : Nat → α → α → Prop
  | 0, a, b => a = b
  | rounds + 1, a, b => ∃ c, Ascends source target edges a c ∧ Within source target edges rounds c b

/-- Edges in either direction lead from `a` to `b`. -/
abbrev Connected (source target : ε → α) (edges : List ε) : α → α → Prop :=
  EqvGen (EdgeList.Step source target edges)

variable {source target : ε → α} {edges : List ε} {a b c : α}

theorem Ascends.refl (a : α) : Ascends source target edges a a :=
  ⟨[], edges.nil_sublist, .nil a⟩

theorem ascends_nil : Ascends source target [] a b ↔ a = b := by
  constructor
  · rintro ⟨path, hpath, hwalk⟩
    obtain rfl := List.sublist_nil.mp hpath
    cases hwalk
    rfl
  · rintro rfl
    exact .refl a

theorem ascends_cons {edge : ε} : Ascends source target (edge :: edges) a b ↔
    Ascends source target edges a b ∨ ∃ c, Joins source target edge a c ∧
      Ascends source target edges c b := by
  constructor
  · rintro ⟨path, hpath, hwalk⟩
    rcases List.sublist_cons_iff.mp hpath with hpath | ⟨rest, rfl, hrest⟩
    · exact .inl ⟨path, hpath, hwalk⟩
    · cases hwalk with
      | cons first walk => exact .inr ⟨_, first, rest, hrest, walk⟩
  · rintro (⟨path, hpath, hwalk⟩ | ⟨c, first, path, hpath, hwalk⟩)
    · exact ⟨path, hpath.cons edge, hwalk⟩
    · exact ⟨edge :: path, hpath.cons_cons edge, .cons first hwalk⟩

theorem Within.refl (a : α) : ∀ rounds, Within source target edges rounds a a
  | 0 => rfl
  | rounds + 1 => ⟨a, .refl a, .refl a rounds⟩

theorem Within.mono {few : Nat} : ∀ {many : Nat} {a : α}, few ≤ many →
    Within source target edges few a b → Within source target edges many a b := by
  induction few with
  | zero => rintro many a - rfl; exact .refl a many
  | succ few ih =>
    rintro many a hle ⟨c, hascends, hrest⟩
    obtain ⟨many, rfl⟩ : ∃ rest, many = rest + 1 := ⟨many - 1, by omega⟩
    exact ⟨c, hascends, ih (by omega) hrest⟩

/-- Whatever order its edges come in, a walk is made of as many walks along the list. -/
theorem Walk.within {path : List ε} (h : Walk source target path a b) :
    path ⊆ edges → Within source target edges path.length a b := by
  induction h with
  | nil a => exact fun _ => rfl
  | @cons edge path a b c first _ ih =>
    intro hsub
    rw [List.cons_subset] at hsub
    exact ⟨b, ⟨[edge], List.singleton_sublist.mpr hsub.1, .cons first (.nil b)⟩, ih hsub.2⟩

theorem Joins.connected {edge : ε} (h : Joins source target edge a b) (hmem : edge ∈ edges) :
    Connected source target edges a b := by
  rcases h with h | ⟨htarget, hsource⟩
  · exact .rel a b ⟨edge, hmem, h⟩
  · exact .symm b a (.rel b a ⟨edge, hmem, hsource, htarget⟩)

theorem Walk.connected {path : List ε} (h : Walk source target path a b) :
    path ⊆ edges → Connected source target edges a b := by
  induction h with
  | nil a => exact fun _ => .refl a
  | cons first _ ih =>
    intro hsub
    rw [List.cons_subset] at hsub
    exact .trans _ _ _ (first.connected hsub.1) (ih hsub.2)

theorem Within.connected : ∀ {rounds : Nat} {a : α}, Within source target edges rounds a b →
    Connected source target edges a b
  | 0, _, rfl => .refl b
  | _ + 1, _, ⟨_, ⟨_, hpath, hwalk⟩, hrest⟩ =>
    .trans _ _ _ (hwalk.connected hpath.subset) hrest.connected

/-! ## The loop -/

variable [DecidableEq α]

/-- An edge with one end in the set brings in the other. -/
def follow (source target : ε → α) (seen : List α) (edge : ε) : List α :=
  let seen := if source edge ∈ seen then pushNew seen (target edge) else seen
  if target edge ∈ seen then pushNew seen (source edge) else seen

/-- One pass over the edges. -/
def sweep (source target : ε → α) (edges : List ε) (seen : List α) : List α :=
  edges.foldl (follow source target) seen

/-- At most `rounds` passes, fewer if one adds nothing. -/
def sweeps (source target : ε → α) (edges : List ε) : Nat → List α → List α
  | 0, seen => seen
  | rounds + 1, seen =>
    let grown := sweep source target edges seen
    if grown.length = seen.length then grown else sweeps source target edges rounds grown

variable {seen : List α}

theorem mem_follow_iff {edge : ε} : b ∈ follow source target seen edge ↔
    b ∈ seen ∨ ∃ a ∈ seen, Joins source target edge a b := by
  unfold follow Joins
  by_cases hsource : source edge ∈ seen <;> by_cases htarget : target edge ∈ seen <;>
    grind [mem_pushNew]

theorem mem_sweep_iff : ∀ {edges : List ε} {seen : List α}, b ∈ sweep source target edges seen ↔
    ∃ a ∈ seen, Ascends source target edges a b
  | [], seen => by simp [sweep, ascends_nil]
  | edge :: edges, seen => by
    have ih := @mem_sweep_iff edges (follow source target seen edge)
    rw [show sweep source target (edge :: edges) seen
      = sweep source target edges (follow source target seen edge) from rfl, ih]
    simp only [mem_follow_iff, ascends_cons]
    constructor
    · rintro ⟨c, hc | ⟨a, ha, hjoins⟩, hascends⟩
      · exact ⟨c, hc, .inl hascends⟩
      · exact ⟨a, ha, .inr ⟨c, hjoins, hascends⟩⟩
    · rintro ⟨a, ha, hascends | ⟨c, hjoins, hascends⟩⟩
      · exact ⟨a, .inl ha, hascends⟩
      · exact ⟨c, .inr ⟨a, ha, hjoins⟩, hascends⟩

theorem isPrefix_pushIf (p : Prop) [Decidable p] (seen : List α) (a : α) :
    seen <+: if p then pushNew seen a else seen := by
  unfold pushNew
  split
  · split
    · exact List.prefix_refl seen
    · exact seen.prefix_append [a]
  · exact List.prefix_refl seen

theorem isPrefix_follow (seen : List α) (edge : ε) : seen <+: follow source target seen edge :=
  (isPrefix_pushIf (source edge ∈ seen) seen (target edge)).trans (isPrefix_pushIf _ _ _)

/-- A sweep only adds. -/
theorem isPrefix_sweep : ∀ (edges : List ε) (seen : List α), seen <+: sweep source target edges seen
  | [], seen => List.prefix_refl seen
  | edge :: edges, seen => (isPrefix_follow seen edge).trans (isPrefix_sweep edges _)

/-- Nothing leads out of a set to which a sweep adds nothing. -/
theorem mem_of_within (hclosed : sweep source target edges seen = seen) : ∀ {rounds : Nat} {a : α},
    a ∈ seen → Within source target edges rounds a b → b ∈ seen
  | 0, _, ha, rfl => ha
  | _ + 1, a, ha, ⟨c, hascends, hrest⟩ => by
    have hc : c ∈ seen := hclosed ▸ mem_sweep_iff.mpr ⟨a, ha, hascends⟩
    exact mem_of_within hclosed hc hrest

/-- **What a number of sweeps finds.** -/
theorem mem_sweeps_iff : ∀ {rounds : Nat} {seen : List α},
    b ∈ sweeps source target edges rounds seen ↔ ∃ a ∈ seen, Within source target edges rounds a b
  | 0, seen => by simp [sweeps, Within]
  | rounds + 1, seen => by
    rw [sweeps]
    split
    · rename_i hlength
      -- The pass has added nothing, so further ones would not either.
      have hclosed : sweep source target edges seen = seen :=
        ((isPrefix_sweep edges seen).eq_of_length hlength.symm).symm
      rw [hclosed]
      exact ⟨fun hb => ⟨b, hb, .refl b _⟩, fun ⟨a, ha, hwithin⟩ => mem_of_within hclosed ha hwithin⟩
    · rw [mem_sweeps_iff]
      simp only [mem_sweep_iff, Within]
      constructor
      · rintro ⟨c, ⟨a, ha, hascends⟩, hrest⟩
        exact ⟨a, ha, c, hascends, hrest⟩
      · rintro ⟨a, ha, c, hascends, hrest⟩
        exact ⟨c, ⟨a, ha, hascends⟩, hrest⟩

end Sweeps
