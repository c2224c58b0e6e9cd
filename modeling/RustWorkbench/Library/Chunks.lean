import Mathlib.Data.List.DropRight

/-!
# Searching a stream that arrives in chunks

A stream is read chunk by chunk, and each chunk is searched together with the last `n` elements that
came before it.
-/

namespace Chunks

variable {α : Type} {n : Nat} {needle seen chunk : List α} {chunks : List (List α)}

/-! ## The carried elements -/

theorem rtake_of_length_le (h : seen.length ≤ n) : seen.rtake n = seen := by
  rw [List.rtake, Nat.sub_eq_zero_of_le h, List.drop_zero]

theorem length_rtake_of_le (h : n ≤ seen.length) : (seen.rtake n).length = n := by
  rw [List.rtake, List.length_drop]
  omega

theorem suffix_rtake (h : needle <:+ seen) (hlength : needle.length ≤ n) :
    needle <:+ seen.rtake n := by
  obtain ⟨front, rfl⟩ := h
  refine ⟨front.drop (front.length + needle.length - n), ?_⟩
  rw [List.rtake, List.length_append, List.drop_append_of_le_length (by omega)]

theorem rtake_suffix (n : Nat) (seen : List α) : seen.rtake n <:+ seen := List.drop_suffix _ _

theorem rtake_append_of_le {front : List α} (h : n ≤ seen.length) :
    (front ++ seen).rtake n = seen.rtake n := by
  have hdrop : front.length + seen.length - n = front.length + (seen.length - n) := by omega
  rw [List.rtake, List.length_append, hdrop, List.drop_length_add_append, List.rtake]

/-- What is carried over is what a reader of the whole stream would carry. -/
theorem rtake_rtake_append : (seen.rtake n ++ chunk).rtake n = (seen ++ chunk).rtake n := by
  rcases Nat.le_total seen.length n with hshort | hlong
  · rw [rtake_of_length_le hshort]
  · obtain ⟨front, hfront⟩ := rtake_suffix n seen
    have hlength : n ≤ (seen.rtake n ++ chunk).length := by
      rw [List.length_append, length_rtake_of_le hlong]
      omega
    nth_rewrite 2 [← hfront]
    rw [List.append_assoc, rtake_append_of_le hlength]

theorem infix_append_rtake (hlength : needle.length ≤ n + 1) :
    needle <:+: seen ++ chunk ↔ needle <:+: seen ∨ needle <:+: seen.rtake n ++ chunk := by
  constructor
  · intro h
    rcases List.infix_append_iff_ne_nil.mp h with h | h | ⟨front, back, -, hne, rfl, hfront, hback⟩
    · exact .inl h
    · exact .inr (List.infix_append_of_infix_right h)
    · -- it ends in the chunk, so at most `n` of its elements came before
      have hback' : 0 < back.length := List.length_pos_iff.mpr hne
      rw [List.length_append] at hlength
      have hcarried : front <:+ seen.rtake n := suffix_rtake hfront (by omega)
      exact .inr (List.infix_append_iff.mpr (.inr (.inr ⟨front, back, rfl, hcarried, hback⟩)))
  · rintro (h | h)
    · exact List.infix_append_of_infix_left h
    · obtain ⟨front, hfront⟩ := rtake_suffix n seen
      rw [← hfront, List.append_assoc]
      exact List.infix_append_of_infix_right h

/-! ## The windows -/

/-- Each chunk behind the last `n` elements before it. -/
def windows (n : Nat) : List α → List (List α) → List (List α)
  | _, [] => []
  | seen, chunk :: rest => (seen.rtake n ++ chunk) :: windows n (seen ++ chunk) rest

theorem mem_windows_iff {window : List α} :
    window ∈ windows n seen chunks ↔
      ∃ earlier chunk later, chunks = earlier ++ chunk :: later ∧
        window = (seen ++ earlier.flatten).rtake n ++ chunk := by
  induction chunks generalizing seen with
  | nil => simp [windows]
  | cons first rest ih =>
    rw [windows, List.mem_cons, ih]
    constructor
    · rintro (rfl | ⟨earlier, chunk, later, rfl, rfl⟩)
      · exact ⟨[], first, rest, rfl, by simp⟩
      · exact ⟨first :: earlier, chunk, later, rfl, by simp⟩
    · rintro ⟨_ | ⟨c, earlier⟩, chunk, later, hsplit, rfl⟩
      · obtain ⟨rfl, rfl⟩ := List.cons.inj hsplit
        exact .inl (by simp)
      · obtain ⟨rfl, rfl⟩ := List.cons.inj hsplit
        exact .inr ⟨earlier, chunk, later, rfl, by simp⟩

/-- **The windows miss nothing.** -/
theorem infix_flatten_iff (hlength : needle.length ≤ n + 1) :
    needle <:+: seen ++ chunks.flatten ↔
      needle <:+: seen ∨ ∃ window ∈ windows n seen chunks, needle <:+: window := by
  induction chunks generalizing seen with
  | nil => simp [windows]
  | cons chunk rest ih =>
    rw [List.flatten_cons, ← List.append_assoc, ih, infix_append_rtake hlength, windows]
    simp only [List.mem_cons, exists_eq_or_imp, or_assoc]

/-- The start of the stream is at the start of a window. -/
theorem exists_prefix_window (hn : needle.length ≤ n) (hseen : seen.length < needle.length)
    (h : needle <+: seen ++ chunks.flatten) : ∃ window ∈ windows n seen chunks, needle <+: window := by
  induction chunks generalizing seen with
  | nil =>
    have hle : needle.length ≤ seen.length := by simpa using h.length_le
    omega
  | cons chunk rest ih =>
    rw [List.flatten_cons, ← List.append_assoc] at h
    rcases Nat.lt_or_ge (seen ++ chunk).length needle.length with hshort | hlong
    · obtain ⟨window, hwindow, hbegins⟩ := ih hshort h
      exact ⟨window, List.mem_cons_of_mem _ hwindow, hbegins⟩
    · refine ⟨_, List.mem_cons_self, ?_⟩
      rw [rtake_of_length_le (by omega)]
      exact List.prefix_of_prefix_length_le h (List.prefix_append _ _) hlong

/-- **What the windows start with**, for a text that fits into the carried elements: what the stream
starts with, or what the elements carried behind some chunk start with. -/
theorem exists_prefix_window_iff (hn : needle.length ≤ n) (hne : needle ≠ []) :
    (∃ window ∈ windows n [] chunks, needle <+: window) ↔
      needle <+: chunks.flatten ∨
        ∃ earlier later, chunks = earlier ++ later ∧ later ≠ [] ∧
          n < earlier.flatten.length ∧ needle <+: earlier.flatten.rtake n := by
  constructor
  · rintro ⟨window, hwindow, hbegins⟩
    obtain ⟨earlier, chunk, later, rfl, rfl⟩ := mem_windows_iff.mp hwindow
    rw [List.nil_append] at hbegins
    rcases Nat.lt_or_ge n earlier.flatten.length with hlong | hshort
    · refine .inr ⟨earlier, chunk :: later, rfl, List.cons_ne_nil _ _, hlong, ?_⟩
      refine List.prefix_of_prefix_length_le hbegins (List.prefix_append _ _) ?_
      rw [length_rtake_of_le hlong.le]
      exact hn
    · rw [rtake_of_length_le hshort] at hbegins
      refine .inl (hbegins.trans ?_)
      simp
  · rintro (h | ⟨earlier, later, rfl, hlater, -, hbegins⟩)
    · exact exists_prefix_window hn (List.length_pos_iff.mpr hne) (by simpa using h)
    · obtain ⟨chunk, rest, rfl⟩ := List.exists_cons_of_ne_nil hlater
      refine ⟨_, mem_windows_iff.mpr ⟨earlier, chunk, rest, rfl, rfl⟩, ?_⟩
      exact hbegins.trans (List.prefix_append _ _)

end Chunks
