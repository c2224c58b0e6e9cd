import Mathlib.Data.Set.Function

/-!
# Processes that read part of a store

A deterministic process is started with an input and reads some of the cells of a store.  Which
cells it reads may depend on what it found in the cells read before, so the set of them is a
function of the input and the store; a store with the same contents in those cells makes it read
the same ones.  The result of such a process is a function of the input and of what it read.

* `Trace.Determines.eq_of_same` — the result is the same for both.
-/

namespace Reads

/-- The cells read from a store, for each input. -/
structure Trace (I K V : Type*) where
  reads : I → (K → V) → Set K
  stable : ∀ input (store other : K → V), Set.EqOn store other (reads input store) →
    reads input other = reads input store

namespace Trace

variable {I K V : Type*} (trace : Trace I K V)

/-- The same cells are read whatever they hold. -/
def constant (cells : Set K) : Trace I K V where
  reads _ _ := cells
  stable _ _ _ _ := rfl

/-- The input is the same, and so is every cell that is read. -/
def Same (input : I) (store : K → V) (input' : I) (store' : K → V) : Prop :=
  input' = input ∧ Set.EqOn store store' (trace.reads input store)

/-- The result of a process depends on its input and the cells it reads only. -/
def Determines {R : Type*} (process : I → (K → V) → R) : Prop :=
  ∀ input store other, Set.EqOn store other (trace.reads input store) →
    process input other = process input store

variable {trace} {input input' input'' : I} {store store' store'' : K → V}

theorem Same.refl : trace.Same input store input store := ⟨rfl, Set.eqOn_refl _ _⟩

theorem Same.symm (h : trace.Same input store input' store') :
    trace.Same input' store' input store := by
  obtain ⟨rfl, hcells⟩ := h
  refine ⟨rfl, ?_⟩
  rw [trace.stable _ _ _ hcells]
  exact hcells.symm

theorem Same.trans (h : trace.Same input store input' store')
    (h' : trace.Same input' store' input'' store'') :
    trace.Same input store input'' store'' := by
  obtain ⟨rfl, hcells⟩ := h
  obtain ⟨rfl, hcells'⟩ := h'
  rw [trace.stable _ _ _ hcells] at hcells'
  exact ⟨rfl, hcells.trans hcells'⟩

theorem Determines.eq_of_same {R : Type*} {process : I → (K → V) → R}
    (h : trace.Determines process) (hsame : trace.Same input store input' store') :
    process input' store' = process input store := by
  obtain ⟨rfl, hcells⟩ := hsame
  exact h _ _ _ hcells

open Classical in
/-- The process that accepts the starts that are the same as a given one. -/
noncomputable def probe (trace : Trace I K V) (input : I) (store : K → V) :
    I → (K → V) → Bool :=
  fun input' store' => decide (trace.Same input store input' store')

theorem probe_eq_true_iff :
    trace.probe input store input' store' = true ↔ trace.Same input store input' store' := by
  simp [probe]

/-- **The probe is a process of the trace**: it reads no more than it is allowed to. -/
theorem determines_probe : trace.Determines (trace.probe input store) := by
  intro start here there hcells
  have hsame : trace.Same start here start there := ⟨rfl, hcells⟩
  rw [Bool.eq_iff_iff, probe_eq_true_iff, probe_eq_true_iff]
  exact ⟨fun h => h.trans hsame.symm, fun h => h.trans hsame⟩

end Trace

end Reads
