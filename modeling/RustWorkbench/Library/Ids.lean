import Mathlib.Data.List.Basic

/-!
# Identifiers with a printed number

An identifier that ends in a separator and a number in decimal determines the part before the
separator and the number, whatever the first part contains.
-/

namespace Ids

/-- Two lists with a separator that does not occur after it. -/
theorem append_cons_inj {α : Type} {c : α} : ∀ {a b x y : List α}, c ∉ x → c ∉ y →
    a ++ c :: x = b ++ c :: y → a = b ∧ x = y
  | [], [], _, _, _, _, h => ⟨rfl, List.tail_eq_of_cons_eq h⟩
  | [], _ :: b, x, y, hx, _, h => by
    have htail : x = b ++ c :: y := List.tail_eq_of_cons_eq h
    exact absurd (htail ▸ List.mem_append_right b (List.mem_cons_self ..)) hx
  | _ :: a, [], x, y, _, hy, h => by
    have htail : a ++ c :: x = y := List.tail_eq_of_cons_eq h
    exact absurd (htail ▸ List.mem_append_right a (List.mem_cons_self ..)) hy
  | d :: a, e :: b, x, y, hx, hy, h => by
    obtain ⟨hde, htail⟩ := List.cons.inj h
    obtain ⟨hab, hxy⟩ := append_cons_inj hx hy htail
    exact ⟨by rw [hde, hab], hxy⟩

/-- Two lists with a separator that does not occur before it. -/
theorem append_cons_inj_first {α : Type} {c : α} {a b x y : List α} (ha : c ∉ a) (hb : c ∉ b)
    (h : a ++ c :: x = b ++ c :: y) : a = b ∧ x = y := by
  have hreverse : x.reverse ++ c :: a.reverse = y.reverse ++ c :: b.reverse := by
    have := congrArg List.reverse h
    simpa using this
  obtain ⟨hxy, hab⟩ := append_cons_inj (by simpa using ha) (by simpa using hb) hreverse
  exact ⟨List.reverse_injective hab, List.reverse_injective hxy⟩

theorem toString_toList (n : Nat) : (toString n).toList = Nat.toDigits 10 n := by
  rw [Nat.toString_eq_repr, Nat.toList_repr]

/-- A number is printed with digits only. -/
theorem isDigit_of_mem_toString {n : Nat} {c : Char} (h : c ∈ (toString n).toList) :
    c.isDigit = true := by
  rw [toString_toList] at h
  exact Nat.isDigit_of_mem_toDigits (by decide) (by decide) h

/-- What is not a digit does not occur in a number. -/
theorem notMem_toString {c : Char} (hc : c.isDigit = false) (n : Nat) : c ∉ (toString n).toList := by
  intro h
  rw [isDigit_of_mem_toString h] at hc
  cases hc

theorem dash_notMem_toString (n : Nat) : '-' ∉ (toString n).toList := notMem_toString (by decide) n

theorem toString_inj {m n : Nat} (h : toString m = toString n) : m = n := by
  have hdigits : Nat.toDigits 10 m = Nat.toDigits 10 n := by
    rw [← toString_toList, ← toString_toList, h]
  rw [← @Nat.ofDigitChars_toDigits 10 m (by decide) (by decide), hdigits,
    Nat.ofDigitChars_toDigits (by decide) (by decide)]

/-- **A number after a dash can be read back.** -/
theorem append_dash_toString_inj {a b : String} {m n : Nat}
    (h : a ++ "-" ++ toString m = b ++ "-" ++ toString n) : a = b ∧ m = n := by
  have hlist : a.toList ++ '-' :: (toString m).toList = b.toList ++ '-' :: (toString n).toList := by
    have := congrArg String.toList h
    simpa [String.toList_append] using this
  obtain ⟨hab, hmn⟩ :=
    append_cons_inj (dash_notMem_toString m) (dash_notMem_toString n) hlist
  exact ⟨String.toList_inj.mp hab, toString_inj (String.toList_inj.mp hmn)⟩

end Ids
