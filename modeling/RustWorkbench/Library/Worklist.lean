import Mathlib.Algebra.GroupWithZero.Nat
import Mathlib.Data.List.Nodup
import Mathlib.Data.List.Perm.Subperm
import Mathlib.Logic.Relation

/-!
# Exploring a graph from a worklist

A loop takes an element off a list of pending ones, passes over it if it was visited before, and
else visits it and puts its neighbours with the pending ones, at the front, at the back or in any
other way, leaving out any that were visited.  The loop may end early.
-/

namespace Worklist

open Relation

variable {α : Type}

/-- `b` is a neighbour of `a`. -/
def Step (next : α → List α) (a b : α) : Prop := b ∈ next a

/-- What becomes of the pending elements when `a` is visited. -/
structure Discipline (next : α → List α) where
  /-- From the elements visited before, the one that is visited and the other pending ones. -/
  expand : List α → α → List α → List α
  of_mem : ∀ {seen a rest b}, b ∈ expand seen a rest → b ∈ rest ∨ b ∈ next a
  keeps : ∀ {seen a rest b}, b ∈ rest → b ∈ expand seen a rest
  adds : ∀ {seen a rest b}, b ∈ next a → b ∈ expand seen a rest ∨ b ∈ seen ∨ b = a
  length_le : ∀ seen a rest, (expand seen a rest).length ≤ rest.length + (next a).length

/-- A stack whose top is the head of the list. -/
def stack (next : α → List α) : Discipline next where
  expand _ a rest := (next a).reverse ++ rest
  of_mem h := by simpa [or_comm] using h
  keeps h := List.mem_append_right _ h
  adds h := .inl (List.mem_append_left _ (List.mem_reverse.mpr h))
  length_le seen a rest := by simp [Nat.add_comm]

section Loop

variable [DecidableEq α]

variable {next : α → List α}

/-- The elements visited, in order. -/
def explore (d : Discipline next) (stop : List α → Bool) : Nat → List α → List α → List α
  | 0, _, seen => seen
  | _ + 1, [], seen => seen
  | fuel + 1, a :: rest, seen =>
    if a ∈ seen then explore d stop fuel rest seen
    else if stop (seen ++ [a]) then seen ++ [a]
    else explore d stop fuel (d.expand seen a rest) (seen ++ [a])

namespace Discipline

variable (d : Discipline next) {stop : List α → Bool}

/-- The loop adds to what was visited. -/
theorem prefix_explore : ∀ {fuel : Nat} {pending seen : List α},
    seen <+: explore d stop fuel pending seen
  | 0, _, seen => List.prefix_rfl
  | _ + 1, [], seen => List.prefix_rfl
  | fuel + 1, a :: rest, seen => by
    rw [explore]
    split
    · exact prefix_explore
    · split
      · exact List.prefix_append _ _
      · exact (List.prefix_append _ _).trans prefix_explore

/-- What is visited is reached from what was pending. -/
theorem reached_of_mem_explore {b : α} : ∀ {fuel : Nat} {pending seen : List α},
    b ∈ explore d stop fuel pending seen →
      b ∈ seen ∨ ∃ a ∈ pending, ReflTransGen (Step next) a b
  | 0, _, _, h => .inl h
  | _ + 1, [], _, h => .inl h
  | fuel + 1, a :: rest, seen, h => by
    have hvisited : b ∈ seen ++ [a] →
        b ∈ seen ∨ ∃ c ∈ a :: rest, ReflTransGen (Step next) c b := by
      intro hb
      rcases List.mem_append.mp hb with hb | hb
      · exact .inl hb
      · exact .inr ⟨a, List.mem_cons_self, List.mem_singleton.mp hb ▸ .refl⟩
    rw [explore] at h
    split at h
    · rcases reached_of_mem_explore h with hb | ⟨c, hc, hreach⟩
      · exact .inl hb
      · exact .inr ⟨c, List.mem_cons_of_mem _ hc, hreach⟩
    · split at h
      · exact hvisited h
      · rcases reached_of_mem_explore h with hb | ⟨c, hc, hreach⟩
        · exact hvisited hb
        · rcases d.of_mem hc with hc | hc
          · exact .inr ⟨c, List.mem_cons_of_mem _ hc, hreach⟩
          · exact .inr ⟨a, List.mem_cons_self, .head hc hreach⟩

/-! ## The rounds -/

/-- The neighbours that are still to be put with the pending ones. -/
def cost (next : α → List α) (all seen : List α) : Nat :=
  ((all.filter (· ∉ seen)).map fun a => (next a).length).sum

theorem cost_cons (x : α) (all seen : List α) :
    cost next (x :: all) seen = (if x ∈ seen then 0 else (next x).length) + cost next all seen := by
  by_cases hx : x ∈ seen <;> simp [cost, hx]

theorem share_visit_le (x a : α) (seen : List α) (n : Nat) :
    (if x ∈ seen ++ [a] then 0 else n) ≤ if x ∈ seen then 0 else n := by
  by_cases hseen : x ∈ seen
  · simp [hseen]
  · rw [if_neg hseen]
    split
    · exact Nat.zero_le n
    · exact Nat.le_refl n

theorem cost_visit_le (all seen : List α) (a : α) :
    cost next all (seen ++ [a]) ≤ cost next all seen := by
  induction all with
  | nil => exact Nat.le_refl _
  | cons x all ih =>
    rw [cost_cons, cost_cons]
    exact Nat.add_le_add (share_visit_le x a seen _) ih

/-- Visiting an element takes its neighbours off the cost. -/
theorem cost_visit {all seen : List α} {a : α} (hall : ∀ b ∉ all, next b = []) (ha : a ∉ seen) :
    cost next all (seen ++ [a]) + (next a).length ≤ cost next all seen := by
  by_cases hmem : a ∈ all
  · clear hall
    induction all with
    | nil => cases hmem
    | cons x all ih =>
      rw [cost_cons, cost_cons]
      rcases List.mem_cons.mp hmem with rfl | hmem
      · have hle : cost next all (seen ++ [a]) ≤ cost next all seen := cost_visit_le all seen a
        simp [ha]
        omega
      · have hshare := share_visit_le x a seen (next x).length
        have hrest := ih hmem
        omega
  · rw [hall a hmem]
    exact cost_visit_le all seen a

/-- Each visited element has its neighbours visited or pending. -/
def Closed (next : α → List α) (pending seen : List α) : Prop :=
  ∀ a ∈ seen, ∀ b ∈ next a, b ∈ seen ∨ b ∈ pending

/-- **A loop that does not end early visits everything.** -/
theorem explore_complete {all : List α} (hall : ∀ b ∉ all, next b = []) :
    ∀ {fuel : Nat} {pending seen : List α}, Closed next pending seen →
      pending.length + cost next all seen ≤ fuel →
      stop (explore d stop fuel pending seen) = true ∨
        Closed next [] (explore d stop fuel pending seen) ∧
          ∀ a ∈ pending, a ∈ explore d stop fuel pending seen
  | 0, pending, seen, hclosed, hfuel => by
    obtain rfl : pending = [] := List.eq_nil_of_length_eq_zero (by omega)
    exact .inr ⟨hclosed, fun _ h => nomatch h⟩
  | _ + 1, [], seen, hclosed, _ => .inr ⟨hclosed, fun _ h => nomatch h⟩
  | fuel + 1, a :: rest, seen, hclosed, hfuel => by
    rw [List.length_cons] at hfuel
    rw [explore]
    split
    · next ha =>
      have hrest : Closed next rest seen := by
        intro c hc b hb
        rcases hclosed c hc b hb with h | h
        · exact .inl h
        · rcases List.mem_cons.mp h with rfl | h
          · exact .inl ha
          · exact .inr h
      refine (explore_complete hall hrest (by omega)).imp_right fun ⟨hdone, hpending⟩ => ?_
      exact ⟨hdone, List.forall_mem_cons.mpr ⟨(d.prefix_explore).subset ha, hpending⟩⟩
    · next ha =>
      split
      · next hstop => exact .inl hstop
      · have hcost := cost_visit hall ha
        have hlength := d.length_le seen a rest
        have hexpand : Closed next (d.expand seen a rest) (seen ++ [a]) := by
          intro c hc b hb
          rcases List.mem_append.mp hc with hc | hc
          · rcases hclosed c hc b hb with h | h
            · exact .inl (List.mem_append_left _ h)
            · rcases List.mem_cons.mp h with rfl | h
              · exact .inl (List.mem_append_right _ List.mem_cons_self)
              · exact .inr (d.keeps h)
          · obtain rfl := List.mem_singleton.mp hc
            rcases d.adds hb with h | h | rfl
            · exact .inr h
            · exact .inl (List.mem_append_left _ h)
            · exact .inl (List.mem_append_right _ List.mem_cons_self)
        refine (explore_complete hall hexpand (by omega)).imp_right fun ⟨hdone, hpending⟩ => ?_
        refine ⟨hdone, List.forall_mem_cons.mpr ⟨?_, fun b hb => hpending b (d.keeps hb)⟩⟩
        exact (d.prefix_explore).subset (List.mem_append_right _ List.mem_cons_self)

omit [DecidableEq α] in
theorem closed_nil {pending : List α} : Closed next pending [] := fun _ h => nomatch h

omit [DecidableEq α] in
/-- A set without ways out has all that is reached from it. -/
theorem Closed.mem_of_reaches {seen : List α} (h : Closed next [] seen) {a b : α} (ha : a ∈ seen)
    (hreach : ReflTransGen (Step next) a b) : b ∈ seen := by
  induction hreach with
  | refl => exact ha
  | tail _ hstep ih => exact (h _ ih _ hstep).resolve_right fun hnil => nomatch hnil

/-! ## Two ways to end early -/

variable {all start : List α} {fuel : Nat}

/-- **A loop that ends at a goal finds it just where it is reached.** -/
theorem mem_explore_iff (hall : ∀ b ∉ all, next b = [])
    (hfuel : start.length + cost next all [] ≤ fuel) (goal : α) :
    goal ∈ explore d (fun seen => goal ∈ seen) fuel start [] ↔
      ∃ a ∈ start, ReflTransGen (Step next) a goal := by
  constructor
  · intro h
    exact (d.reached_of_mem_explore h).resolve_left fun hnil => nomatch hnil
  · rintro ⟨a, ha, hreach⟩
    let stop (seen : List α) : Bool := goal ∈ seen
    have hdone : stop (explore d stop fuel start []) = true ∨ _ :=
      d.explore_complete hall closed_nil hfuel
    rcases hdone with hstop | ⟨hclosed, hstart⟩
    · exact of_decide_eq_true hstop
    · exact hclosed.mem_of_reaches (hstart a ha) hreach

end Discipline

end Loop

end Worklist
