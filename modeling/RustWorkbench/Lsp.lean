import Mathlib.Algebra.GroupWithZero.Nat
import Mathlib.Order.Basic

/-!
# LSP positions and ranges

The editor, the analyzer and the bridge between them all compare positions as the tuple
`(line, character)`.  The editor's own `PointUtf16` has the same two components, and
`point_from_lsp` and `point_to_lsp` only rename them, so one type stands for both.

* `Position` and `Range` are linearly ordered, ranges by `(start, end)`.
-/

namespace RustWorkbench

/-- `lsp::Position`: zero-based line and UTF-16 column. -/
structure Position where
  line : Nat
  character : Nat
  deriving DecidableEq, Repr

namespace Position

/-- `(line, character) <= (line, character)`. -/
def le (p q : Position) : Prop :=
  p.line < q.line ∨ p.line = q.line ∧ p.character ≤ q.character

/-- `(line, character) < (line, character)`. -/
def lt (p q : Position) : Prop :=
  p.line < q.line ∨ p.line = q.line ∧ p.character < q.character

instance : LE Position := ⟨le⟩
instance : LT Position := ⟨lt⟩

theorem le_def {p q : Position} :
    p ≤ q ↔ p.line < q.line ∨ p.line = q.line ∧ p.character ≤ q.character := Iff.rfl

theorem lt_def {p q : Position} :
    p < q ↔ p.line < q.line ∨ p.line = q.line ∧ p.character < q.character := Iff.rfl

instance (p q : Position) : Decidable (p ≤ q) :=
  inferInstanceAs (Decidable (_ ∨ _ ∧ _))

instance (p q : Position) : Decidable (p < q) :=
  inferInstanceAs (Decidable (_ ∨ _ ∧ _))

instance : LinearOrder Position where
  le_refl p := Or.inr ⟨rfl, Nat.le_refl _⟩
  le_trans p q r := by simp only [le_def]; omega
  lt_iff_le_not_ge p q := by simp only [le_def, lt_def]; omega
  le_antisymm p q := by
    intro h₁ h₂
    cases p; cases q
    simp only [le_def, mk.injEq] at *
    omega
  le_total p q := by simp only [le_def]; omega
  toDecidableLE := inferInstance
  toDecidableEq := inferInstance

end Position

/-- `lsp::Range`. -/
structure Range where
  start : Position
  stop : Position
  deriving DecidableEq, Repr

namespace Range

/-- The range is not inverted. -/
def WellFormed (r : Range) : Prop := r.start ≤ r.stop

instance (r : Range) : Decidable r.WellFormed :=
  inferInstanceAs (Decidable (r.start ≤ r.stop))

/-- `(start, end) <= (start, end)`. -/
def le (r s : Range) : Prop := r.start < s.start ∨ r.start = s.start ∧ r.stop ≤ s.stop

instance : LE Range := ⟨le⟩

instance (r s : Range) : Decidable (r ≤ s) :=
  inferInstanceAs (Decidable (_ ∨ _ ∧ _))

instance : LinearOrder Range where
  le_refl r := Or.inr ⟨rfl, le_rfl⟩
  le_trans r s t := by
    rintro (h₁ | ⟨h₁, h₁'⟩) (h₂ | ⟨h₂, h₂'⟩)
    · exact Or.inl (h₁.trans h₂)
    · exact Or.inl (h₂ ▸ h₁)
    · exact Or.inl (h₁ ▸ h₂)
    · exact Or.inr ⟨h₁.trans h₂, h₁'.trans h₂'⟩
  le_antisymm r s := by
    rintro (h₁ | ⟨h₁, h₁'⟩) (h₂ | ⟨h₂, h₂'⟩)
    · exact absurd (h₁.trans h₂) (lt_irrefl _)
    · exact absurd (h₂ ▸ h₁) (lt_irrefl _)
    · exact absurd (h₁ ▸ h₂) (lt_irrefl _)
    · cases r; cases s
      simp only [mk.injEq]
      exact ⟨h₁, le_antisymm h₁' h₂'⟩
  le_total r s := by
    rcases lt_trichotomy r.start s.start with h | h | h
    · exact Or.inl (Or.inl h)
    · rcases le_total r.stop s.stop with h' | h'
      · exact Or.inl (Or.inr ⟨h, h'⟩)
      · exact Or.inr (Or.inr ⟨h.symm, h'⟩)
    · exact Or.inr (Or.inl h)
  toDecidableLE := inferInstance
  toDecidableEq := inferInstance

/-- The empty range at a position. -/
def point (p : Position) : Range := ⟨p, p⟩

end Range

/-- `ranges_touch`: closed intervals that share an endpoint touch. -/
def rangesTouch (left right : Range) : Bool :=
  left.start ≤ right.stop && right.start ≤ left.stop

theorem rangesTouch_iff {left right : Range} :
    rangesTouch left right = true ↔ left.start ≤ right.stop ∧ right.start ≤ left.stop := by
  simp [rangesTouch]

/-- `lsp::Location`. -/
structure Location where
  uri : String
  range : Range
  deriving DecidableEq, Repr

end RustWorkbench
