import Mathlib.Logic.Relation

/-!
# Control flow between the points of a program

A program is a family of blocks.  A block has a number of statements and, at the point behind the
last of them, jumps to one of its successors.

* `Step` — one step of control, in a block or from its end to the start of another.
* `reaches_in_block` — control runs through a block to its end.
-/

namespace ControlFlow

open Relation

/-- The point before a statement, or behind the last one of a block. -/
structure Point where
  block : Nat
  index : Nat
deriving DecidableEq, Repr

section Graph

variable (length : Nat → Nat) (successors : Nat → List Nat)

inductive Step : Point → Point → Prop
  | next {b i : Nat} : i < length b → Step ⟨b, i⟩ ⟨b, i + 1⟩
  | jump {b s : Nat} : s ∈ successors b → Step ⟨b, length b⟩ ⟨s, 0⟩

/-- A block jumps to another. -/
def Jumps (b s : Nat) : Prop := s ∈ successors b

variable {length successors}

theorem reaches_in_block {b i j : Nat} (hij : i ≤ j) (hj : j ≤ length b) :
    ReflTransGen (Step length successors) ⟨b, i⟩ ⟨b, j⟩ := by
  induction hij with
  | refl => exact .refl
  | @step j _ ih => exact (ih (by omega)).tail (.next (by omega))

/-- Control that comes to the end of a block and leads to another block. -/
theorem transGen_of_jumps {b s i j : Nat} (h : TransGen (Jumps successors) b s)
    (hi : i ≤ length b) (hj : j ≤ length s) :
    TransGen (Step length successors) ⟨b, i⟩ ⟨s, j⟩ := by
  induction h generalizing j with
  | single hjump =>
    exact .trans_left (.tail' (reaches_in_block hi (Nat.le_refl _)) (.jump hjump))
      (reaches_in_block (Nat.zero_le j) hj)
  | tail _ hjump ih =>
    exact .trans_left (.tail (ih (Nat.le_refl _)) (.jump hjump))
      (reaches_in_block (Nat.zero_le j) hj)

theorem Step.later_or_jumps {p q : Point} (h : Step length successors p q) :
    (p.block = q.block ∧ p.index < q.index) ∨ Jumps successors p.block q.block := by
  cases h with
  | next _ => exact .inl ⟨rfl, Nat.lt_succ_self _⟩
  | jump hs => exact .inr hs

/-- **Paths between points by paths between blocks.** -/
theorem transGen_step_iff {p q : Point} (hp : p.index ≤ length p.block)
    (hq : q.index ≤ length q.block) :
    TransGen (Step length successors) p q ↔
      (p.block = q.block ∧ p.index < q.index) ∨ TransGen (Jumps successors) p.block q.block := by
  constructor
  · intro h
    clear hq
    induction h with
    | single hstep => exact hstep.later_or_jumps.imp_right .single
    | @tail c q _ hstep ih =>
      rcases ih with ⟨hblock, hindex⟩ | hjumps
      · rcases hstep.later_or_jumps with ⟨hblock', hindex'⟩ | hjump
        · exact .inl ⟨hblock.trans hblock', Nat.lt_trans hindex hindex'⟩
        · exact .inr (.single (hblock ▸ hjump))
      · rcases hstep.later_or_jumps with ⟨hblock', -⟩ | hjump
        · exact .inr (hblock' ▸ hjumps)
        · exact .inr (hjumps.tail hjump)
  · obtain ⟨b, i⟩ := p
    obtain ⟨s, j⟩ := q
    rintro (⟨hblock, hindex⟩ | hjumps)
    · obtain rfl : b = s := hblock
      simp only at hindex hq
      exact .head' (.next (by omega)) (reaches_in_block hindex hq)
    · exact transGen_of_jumps hjumps hp hq

end Graph

end ControlFlow
