import RustWorkbench.Library.Assoc
import Mathlib.Data.Nat.Find

/-!
# Distances by a breadth-first search

A queue starts with several elements at distance zero.  An element taken off it gives every
neighbour that has no distance yet its own distance and one more, and puts it at the back.
-/

namespace BreadthFirst

open Assoc Assoc.Map

variable {α : Type}

section Paths

variable (R : α → α → Prop) (start : List α)

/-- A path with so many steps leads from the start to an element. -/
inductive Reached : Nat → α → Prop
  | start {a : α} : a ∈ start → Reached 0 a
  | step {n : Nat} {a b : α} : Reached n a → R a b → Reached (n + 1) b

/-- The number of steps of a shortest path. -/
structure IsDistance (n : Nat) (a : α) : Prop where
  reached : Reached R start n a
  least : ∀ m, Reached R start m a → n ≤ m

variable {R start}

/-- What is reached has a distance. -/
theorem Reached.exists_isDistance {n : Nat} {a : α} (h : Reached R start n a) :
    ∃ m, IsDistance R start m a := by
  classical
  have hex : ∃ m, Reached R start m a := ⟨n, h⟩
  exact ⟨Nat.find hex, Nat.find_spec hex, fun m hm => Nat.find_min' hex hm⟩

end Paths

section Search

variable [DecidableEq α]

/-- The neighbours that have no distance get this one and join the queue. -/
def discover (level : Nat) (targets : List α) (state : List α × Map α Nat) : List α × Map α Nat :=
  targets.foldl (fun (queue, distance) target =>
    match distance.get? target with
    | some _ => (queue, distance)
    | none => (queue ++ [target], distance.insert target level)) state

def search (next : α → List α) : Nat → List α × Map α Nat → Map α Nat
  | 0, (_, distance) => distance
  | _ + 1, ([], distance) => distance
  | fuel + 1, (a :: queue, distance) =>
    match distance.get? a with
    | none => search next fuel (queue, distance)
    | some n => search next fuel (discover (n + 1) (next a) (queue, distance))

/-- Every element of the start at distance zero. -/
def atStart (start : List α) : Map α Nat :=
  start.foldl (fun distance a => distance.insert a 0) []

/-! ## One element -/

theorem discover_cons (level : Nat) (target : α) (targets queue : List α) (distance : Map α Nat) :
    discover level (target :: targets) (queue, distance) =
      match distance.get? target with
      | some _ => discover level targets (queue, distance)
      | none => discover level targets (queue ++ [target], distance.insert target level) := by
  unfold discover
  rw [List.foldl_cons]
  dsimp only
  cases distance.get? target <;> rfl

/-- Distances that are known stay; the neighbours get the new one. -/
theorem get?_discover (level : Nat) (b : α) : ∀ (targets queue : List α) (distance : Map α Nat),
    (discover level targets (queue, distance)).2.get? b =
      if (distance.get? b).isSome then distance.get? b
      else if b ∈ targets then some level else none
  | [], queue, distance => by
    change distance.get? b = _
    cases distance.get? b <;> simp
  | target :: targets, queue, distance => by
    rw [discover_cons]
    cases htarget : distance.get? target with
    | some n =>
      dsimp only
      rw [get?_discover level b targets]
      by_cases hb : b = target
      · simp [hb, htarget]
      · simp [hb]
    | none =>
      dsimp only
      rw [get?_discover level b targets, get?_insert]
      by_cases hb : b = target
      · simp [hb, htarget]
      · simp [hb]

variable {distance : Map α Nat} {targets queue : List α}

theorem get?_discover_of_some {level n : Nat} {b : α} (h : distance.get? b = some n) :
    (discover level targets (queue, distance)).2.get? b = some n := by
  rw [get?_discover, h]
  rfl

theorem get?_discover_of_mem {level : Nat} {b : α} (hmem : b ∈ targets)
    (h : distance.get? b = none) :
    (discover level targets (queue, distance)).2.get? b = some level := by
  rw [get?_discover, h]
  simp [hmem]

theorem get?_discover_cases {level n : Nat} {b : α}
    (h : (discover level targets (queue, distance)).2.get? b = some n) :
    distance.get? b = some n ∨ (b ∈ targets ∧ distance.get? b = none ∧ n = level) := by
  rw [get?_discover] at h
  cases hold : distance.get? b with
  | some m =>
    rw [hold] at h
    exact .inl h
  | none =>
    rw [hold] at h
    by_cases hmem : b ∈ targets
    · simp only [hmem, Option.isSome_none, Bool.false_eq_true, if_false, if_true] at h
      exact .inr ⟨hmem, rfl, (Option.some.inj h).symm⟩
    · simp [hmem] at h

/-- The elements of a list that have no distance. -/
def unknown (all : List α) (distance : Map α Nat) : List α :=
  all.filter fun a => (distance.get? a).isNone

theorem length_unknown_insert {all : List α} {a : α} (ha : a ∈ all) (hnone : distance.get? a = none)
    (n : Nat) : (unknown all (distance.insert a n)).length + 1 ≤ (unknown all distance).length := by
  have hsub : (unknown all (distance.insert a n)).Sublist (unknown all distance) := by
    refine List.monotone_filter_right _ fun b hb => ?_
    rw [get?_insert] at hb
    split at hb
    · cases hb
    · exact hb
  have hne : unknown all (distance.insert a n) ≠ unknown all distance := by
    intro heq
    have hmem : a ∈ unknown all distance := List.mem_filter.mpr ⟨ha, by rw [hnone]; rfl⟩
    have hknown := (List.mem_filter.mp (heq ▸ hmem)).2
    rw [get?_insert, if_pos rfl] at hknown
    cases hknown
  exact Nat.lt_of_le_of_ne hsub.length_le fun h => hne (hsub.eq_of_length h)

/-- What joins the queue is new, and is paid for by what had no distance. -/
theorem exists_discover_fst {level : Nat} {all : List α} :
    ∀ {targets : List α} (queue : List α) (distance : Map α Nat), (∀ b ∈ targets, b ∈ all) →
      ∃ fresh, (discover level targets (queue, distance)).1 = queue ++ fresh ∧
        (∀ b, b ∈ fresh ↔ b ∈ targets ∧ distance.get? b = none) ∧
        fresh.length + (unknown all (discover level targets (queue, distance)).2).length ≤
          (unknown all distance).length
  | [], queue, distance, _ => by
    refine ⟨[], (List.append_nil queue).symm, by simp, ?_⟩
    rw [List.length_nil, Nat.zero_add]
    exact Nat.le_refl _
  | target :: targets, queue, distance, hall => by
    obtain ⟨htargetAll, hrest⟩ := List.forall_mem_cons.mp hall
    rw [discover_cons]
    cases htarget : distance.get? target with
    | some n =>
      obtain ⟨fresh, hqueue, hfresh, hlength⟩ := exists_discover_fst queue distance hrest
      refine ⟨fresh, hqueue, fun b => ?_, hlength⟩
      rw [hfresh, List.mem_cons]
      by_cases hb : b = target
      · simp [hb, htarget]
      · simp [hb]
    | none =>
      obtain ⟨fresh, hqueue, hfresh, hlength⟩ :=
        exists_discover_fst (queue ++ [target]) (distance.insert target level) hrest
      have hpaid := length_unknown_insert htargetAll htarget level
      refine ⟨target :: fresh, by simpa using hqueue, fun b => ?_, ?_⟩
      · rw [List.mem_cons, hfresh, List.mem_cons, get?_insert]
        by_cases hb : b = target
        · simp [hb, htarget]
        · simp [hb]
      · rw [List.length_cons]
        dsimp only
        omega

/-! ## The invariant -/

variable {R : α → α → Prop} {start : List α}

/-- The state of the loop while it works through the elements at distance `level`. -/
structure Layered (R : α → α → Prop) (start : List α) (level : Nat) (queue : List α)
    (distance : Map α Nat) : Prop where
  sound : ∀ {a n}, distance.get? a = some n → Reached R start n a
  bound : ∀ {a n}, distance.get? a = some n → n ≤ level + 1
  /-- Whatever a short path reaches has a distance that is not longer. -/
  near : ∀ {a m}, m ≤ level → Reached R start m a → ∃ n ≤ m, distance.get? a = some n
  queued : ∃ now later, queue = now ++ later ∧ (∀ a ∈ now, distance.get? a = some level) ∧
    ∀ a ∈ later, distance.get? a = some (level + 1)
  expanded : ∀ {a n b}, distance.get? a = some n → a ∉ queue → R a b →
    ∃ m ≤ n + 1, distance.get? b = some m

theorem get?_atStart (start : List α) (a : α) :
    (atStart start).get? a = if a ∈ start then some 0 else none := by
  rw [atStart, get?_foldl_insert (fun _ => 0)]
  rfl

theorem Layered.init : Layered R start 0 start (atStart start) where
  sound h := by
    rw [get?_atStart] at h
    split at h
    · next ha =>
      cases h
      exact .start ha
    · cases h
  bound h := by
    rw [get?_atStart] at h
    split at h
    · cases h
      exact Nat.zero_le _
    · cases h
  near hm h := by
    obtain rfl := Nat.le_zero.mp hm
    cases h with
    | start ha => exact ⟨0, Nat.le_refl 0, by rw [get?_atStart, if_pos ha]⟩
  queued := ⟨start, [], (List.append_nil start).symm,
    fun a ha => by rw [get?_atStart, if_pos ha], List.forall_mem_nil _⟩
  expanded h ha := by
    rw [get?_atStart, if_neg ha] at h
    cases h

section Steps

variable {level : Nat} {queue : List α} {distance : Map α Nat}

variable {a : α} {next : α → List α}

/-- A path of one step more goes on from an element that is no longer in the queue. -/
theorem Layered.near_succ (h : Layered R start level queue distance)
    (hqueue : ∀ a ∈ queue, distance.get? a = some (level + 1))
    (ha : Reached R start (level + 1) a) : ∃ n ≤ level + 1, distance.get? a = some n := by
  cases ha with
  | @step _ b _ hb hstep =>
    obtain ⟨n, hn, hget⟩ := h.near (Nat.le_refl level) hb
    have hout : b ∉ queue := by
      intro hmem
      have hlevel : n = level + 1 := Option.some.inj (hget.symm.trans (hqueue b hmem))
      omega
    obtain ⟨m, hm, hgeta⟩ := h.expanded hget hout hstep
    exact ⟨m, by omega, hgeta⟩

/-- When the elements of one distance are done, those of the next are all known. -/
theorem Layered.advance (h : Layered R start level queue distance)
    (hqueue : ∀ a ∈ queue, distance.get? a = some (level + 1)) :
    Layered R start (level + 1) queue distance where
  sound := h.sound
  bound hget := Nat.le_succ_of_le (h.bound hget)
  near {a m} hm ha := by
    rcases Nat.le_succ_iff.mp hm with hle | rfl
    · exact h.near hle ha
    · exact h.near_succ hqueue ha
  queued := ⟨queue, [], (List.append_nil queue).symm, hqueue, List.forall_mem_nil _⟩
  expanded := h.expanded

/-- **One round**: an element at the current distance is taken off the queue. -/
theorem Layered.visit {now later : List α} (hnext : ∀ a b, b ∈ next a ↔ R a b)
    (h : Layered R start level (a :: (now ++ later)) distance)
    (hnow : ∀ b ∈ a :: now, distance.get? b = some level)
    (hlater : ∀ b ∈ later, distance.get? b = some (level + 1)) {fresh : List α}
    (hqueue : (discover (level + 1) (next a) (now ++ later, distance)).1 = (now ++ later) ++ fresh)
    (hfresh : ∀ b, b ∈ fresh ↔ b ∈ next a ∧ distance.get? b = none) :
    Layered R start level (discover (level + 1) (next a) (now ++ later, distance)).1
      (discover (level + 1) (next a) (now ++ later, distance)).2 := by
  obtain ⟨ha, hnow⟩ := List.forall_mem_cons.mp hnow
  refine ⟨fun hget => ?_, fun hget => ?_, fun hm hb => ?_, ?_, fun {b n c} hget hout hstep => ?_⟩
  · rcases get?_discover_cases hget with hget | ⟨hmem, -, rfl⟩
    · exact h.sound hget
    · exact .step (h.sound ha) ((hnext _ _).mp hmem)
  · rcases get?_discover_cases hget with hget | ⟨-, -, rfl⟩
    · exact h.bound hget
    · exact Nat.le_refl _
  · obtain ⟨n, hn, hget⟩ := h.near hm hb
    exact ⟨n, hn, get?_discover_of_some hget⟩
  · refine ⟨now, later ++ fresh, by rw [hqueue, List.append_assoc],
      fun b hb => get?_discover_of_some (hnow b hb), fun b hb => ?_⟩
    rcases List.mem_append.mp hb with hb | hb
    · exact get?_discover_of_some (hlater b hb)
    · obtain ⟨hmem, hnone⟩ := (hfresh b).mp hb
      exact get?_discover_of_mem hmem hnone
  · rw [hqueue] at hout
    rcases get?_discover_cases hget with hold | ⟨hmem, hnone, -⟩
    · by_cases hba : b = a
      · -- the element that was taken off: its neighbours have just been given a distance
        subst hba
        obtain rfl : level = n := Option.some.inj (ha.symm.trans hold)
        cases hc : distance.get? c with
        | some m => exact ⟨m, h.bound hc, get?_discover_of_some hc⟩
        | none => exact ⟨level + 1, Nat.le_refl _, get?_discover_of_mem ((hnext _ _).mpr hstep) hc⟩
      · have hold' : b ∉ a :: (now ++ later) := by
          rw [List.mem_cons, not_or]
          exact ⟨hba, fun hmem => hout (List.mem_append_left _ hmem)⟩
        obtain ⟨m, hm, hgetc⟩ := h.expanded hold hold' hstep
        exact ⟨m, hm, get?_discover_of_some hgetc⟩
    · exact absurd (List.mem_append_right _ ((hfresh b).mpr ⟨hmem, hnone⟩)) hout

/-- With an empty queue every distance is known. -/
theorem Layered.complete (h : Layered R start level [] distance) {m : Nat}
    (ha : Reached R start m a) : ∃ n ≤ m, distance.get? a = some n := by
  induction ha with
  | start hmem => exact h.near (Nat.zero_le _) (.start hmem)
  | step _ hstep ih =>
    obtain ⟨n, hn, hget⟩ := ih
    obtain ⟨k, hk, hgetb⟩ := h.expanded hget List.not_mem_nil hstep
    exact ⟨k, by omega, hgetb⟩

theorem Layered.get?_iff (h : Layered R start level [] distance) {n : Nat} :
    distance.get? a = some n ↔ IsDistance R start n a := by
  constructor
  · intro hget
    refine ⟨h.sound hget, fun m hm => ?_⟩
    obtain ⟨k, hk, hget'⟩ := h.complete hm
    obtain rfl : n = k := Option.some.inj (hget.symm.trans hget')
    exact hk
  · intro hdist
    obtain ⟨k, hk, hget⟩ := h.complete hdist.reached
    obtain rfl : n = k := Nat.le_antisymm (hdist.least k (h.sound hget)) hk
    exact hget

/-- The loop comes to an empty queue and keeps the invariant. -/
theorem Layered.search {all : List α} (hnext : ∀ a b, b ∈ next a ↔ R a b)
    (hall : ∀ a, ∀ b ∈ next a, b ∈ all) :
    ∀ {fuel level : Nat} {queue : List α} {distance : Map α Nat},
      Layered R start level queue distance →
      queue.length + (unknown all distance).length ≤ fuel →
      ∃ level', Layered R start level' [] (search next fuel (queue, distance))
  | 0, level, queue, distance, h, hfuel => by
    obtain rfl : queue = [] := List.eq_nil_of_length_eq_zero (by omega)
    exact ⟨level, h⟩
  | _ + 1, level, [], distance, h, _ => ⟨level, h⟩
  | fuel + 1, level, a :: queue, distance, h, hfuel => by
    -- the first element has the current distance, or the loop goes on to the next
    obtain ⟨level, now, later, h, rfl, hnow, hlater⟩ : ∃ level now later,
        Layered R start level (a :: queue) distance ∧ queue = now ++ later ∧
          (∀ b ∈ a :: now, distance.get? b = some level) ∧
            ∀ b ∈ later, distance.get? b = some (level + 1) := by
      obtain ⟨now, later, hqueue, hnow, hlater⟩ := h.queued
      cases now with
      | nil =>
        rw [List.nil_append] at hqueue
        rw [← hqueue] at hlater
        exact ⟨level + 1, queue, [], h.advance hlater, (List.append_nil queue).symm, hlater,
          List.forall_mem_nil _⟩
      | cons b now =>
        obtain ⟨rfl, rfl⟩ := List.cons.inj hqueue
        exact ⟨level, now, later, h, rfl, hnow, hlater⟩
    let state := discover (level + 1) (next a) (now ++ later, distance)
    obtain ⟨fresh, hqueue, hfresh, hlength⟩ : ∃ fresh, state.1 = (now ++ later) ++ fresh ∧
        (∀ b, b ∈ fresh ↔ b ∈ next a ∧ distance.get? b = none) ∧
          fresh.length + (unknown all state.2).length ≤ (unknown all distance).length :=
      exists_discover_fst (now ++ later) distance (hall a)
    have hvisit : Layered R start level state.1 state.2 :=
      h.visit hnext hnow hlater hqueue hfresh
    have hmeasure : state.1.length + (unknown all state.2).length ≤ fuel := by
      rw [List.length_cons] at hfuel
      rw [hqueue, List.length_append]
      omega
    rw [BreadthFirst.search, hnow a List.mem_cons_self]
    exact Layered.search hnext hall hvisit hmeasure

/-- **The search finds the distances.** -/
theorem get?_search_iff {all : List α} (hnext : ∀ a b, b ∈ next a ↔ R a b)
    (hall : ∀ a, ∀ b ∈ next a, b ∈ all) {fuel : Nat} (hfuel : start.length + all.length ≤ fuel)
    {n : Nat} :
    (search next fuel (start, atStart start)).get? a = some n ↔ IsDistance R start n a := by
  have hunknown : (unknown all (atStart start)).length ≤ all.length := List.length_filter_le _ _
  have hinit : Layered R start 0 start (atStart start) := Layered.init
  obtain ⟨level, h⟩ := Layered.search hnext hall hinit (by omega : _ ≤ fuel)
  exact h.get?_iff

end Steps

end Search

end BreadthFirst
