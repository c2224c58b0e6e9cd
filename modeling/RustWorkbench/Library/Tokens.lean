import Mathlib.Data.List.Basic

/-!
# Texts made of marked pieces

Pieces that start with a mark and go on without the characters of marks can be read back from the
text they are joined to.
-/

namespace Tokens

variable {α : Type} {p : α → Bool}

/-- The list does not start with a `p`. -/
def Stops (p : α → Bool) (l : List α) : Prop := ∀ a ∈ l.head?, p a = false

theorem stops_nil : Stops p [] := fun _ h => nomatch h

theorem stops_cons {a : α} {l : List α} (h : p a = false) : Stops p (a :: l) := by
  intro b hb
  rwa [← Option.some.inj (Option.mem_def.mp hb)]

theorem takeWhile_append_of_stops {front rest : List α} (hfront : ∀ a ∈ front, p a = true)
    (hrest : Stops p rest) : (front ++ rest).takeWhile p = front := by
  rw [List.takeWhile_append_of_pos hfront]
  cases rest with
  | nil => simp
  | cons a rest => simp [hrest a rfl]

/-- A part of one kind before a part that starts otherwise. -/
theorem append_inj_of_stops {a b x y : List α} (ha : ∀ c ∈ a, p c = true) (hb : ∀ c ∈ b, p c = true)
    (hx : Stops p x) (hy : Stops p y) (h : a ++ x = b ++ y) : a = b ∧ x = y := by
  have hab : a = b := by
    rw [← takeWhile_append_of_stops ha hx, h, takeWhile_append_of_stops hb hy]
  subst hab
  exact ⟨rfl, List.append_cancel_left h⟩

/-- A mark and a body without marks. -/
structure IsPiece (p : α → Bool) (piece : List α × List α) : Prop where
  mark : piece.1 ≠ []
  body : piece.2 ≠ []
  mark_all : ∀ a ∈ piece.1, p a = true
  body_all : ∀ a ∈ piece.2, p a = false

def join (pieces : List (List α × List α)) : List α := (pieces.map fun t => t.1 ++ t.2).flatten

@[simp] theorem join_nil : join ([] : List (List α × List α)) = [] := rfl

@[simp] theorem join_cons (t : List α × List α) (pieces : List (List α × List α)) :
    join (t :: pieces) = t.1 ++ (t.2 ++ join pieces) := by
  simp [join]

/-- The joined pieces start with a mark or are empty. -/
theorem stops_join {pieces : List (List α × List α)} (h : ∀ t ∈ pieces, IsPiece p t) :
    Stops (fun a => !p a) (join pieces) := by
  cases pieces with
  | nil => exact stops_nil
  | cons t pieces =>
    have ht := h t List.mem_cons_self
    obtain ⟨a, mark, hmark⟩ := List.exists_cons_of_ne_nil ht.mark
    rw [join_cons, hmark]
    refine stops_cons ?_
    rw [ht.mark_all a (hmark ▸ List.mem_cons_self)]
    rfl

theorem IsPiece.stops_body {t : List α × List α} (h : IsPiece p t) (rest : List α) :
    Stops p (t.2 ++ rest) := by
  obtain ⟨a, body, hbody⟩ := List.exists_cons_of_ne_nil h.body
  rw [hbody]
  exact stops_cons (h.body_all a (hbody ▸ List.mem_cons_self))

/-- **The pieces can be read back.** -/
theorem join_inj : ∀ {ts us : List (List α × List α)}, (∀ t ∈ ts, IsPiece p t) →
    (∀ u ∈ us, IsPiece p u) → join ts = join us → ts = us
  | [], [], _, _, _ => rfl
  | [], u :: us, _, hus, h => by
    have hu := hus u List.mem_cons_self
    simp [hu.mark] at h
  | t :: ts, [], hts, _, h => by
    have ht := hts t List.mem_cons_self
    simp [ht.mark] at h
  | t :: ts, u :: us, hts, hus, h => by
    have ht := hts t List.mem_cons_self
    have hu := hus u List.mem_cons_self
    rw [join_cons, join_cons] at h
    obtain ⟨hmark, hrest⟩ := append_inj_of_stops ht.mark_all hu.mark_all (ht.stops_body _)
      (hu.stops_body _) h
    have hts' : ∀ t ∈ ts, IsPiece p t := fun t ht => hts t (List.mem_cons_of_mem _ ht)
    have hus' : ∀ u ∈ us, IsPiece p u := fun u hu => hus u (List.mem_cons_of_mem _ hu)
    obtain ⟨hbody, hpieces⟩ := append_inj_of_stops (p := fun a => !p a)
      (fun a ha => by simp [ht.body_all a ha]) (fun a ha => by simp [hu.body_all a ha])
      (stops_join hts') (stops_join hus') hrest
    rw [join_inj hts' hus' hpieces, Prod.ext hmark hbody]

end Tokens
