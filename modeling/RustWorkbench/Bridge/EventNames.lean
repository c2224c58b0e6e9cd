import RustWorkbench.Analyzer.Artifact
import Mathlib.Data.List.Zip

/-!
# Events point at the identifier

The compiler and the analyzer each narrow the span of an event to the name of its binding,
`narrow_event_to_binding` and `ownership_model_event_range`.  Both take the last place where the text of
the name stands in the span, which may be inside a longer identifier.

* `exists_of_rfind`, `rfind_eq_none` — `rfind` finds the last occurrence.
* `Mentions`, `MentionsWhole` — the name stands at a range, and it stands there as an identifier.
* `events_point_at_identifier_iff` — the two agree, and what they find is an identifier if the span
  has one, exactly if the last occurrence in the span is one.
-/

namespace RustWorkbench.Bridge

open Analyzer

/-- `narrow_event_to_binding`, of the bytes and the name of an event. -/
def narrowEventToBinding (byteStart byteEnd : Nat) (bindingName source : String) : Nat × Nat :=
  match (slice source.toList byteStart byteEnd).bind (rfind · bindingName.toList) with
  | some relative => (byteStart + relative, byteStart + relative + byteLen bindingName)
  | none => (byteStart, byteEnd)

/-- The name stands in the span at this range, between these texts. -/
structure OccursAt (source name : String) (span range : Nat × Nat) (before after : Chars) : Prop where
  text : source.toList = before ++ (name.toList ++ after)
  place : range = (size before, size before + byteLen name)
  first : span.1 ≤ range.1
  last : range.2 ≤ span.2

def Mentions (source name : String) (span range : Nat × Nat) : Prop :=
  ∃ before after, OccursAt source name span range before after

/-- The name stands there and is neither preceded nor followed by a character of identifiers. -/
def MentionsWhole (isIdentChar : Char → Bool) (source name : String) (span range : Nat × Nat) :
    Prop :=
  ∃ before after, OccursAt source name span range before after ∧
    (∀ c ∈ before.getLast?, isIdentChar c = false) ∧ ∀ c ∈ after.head?, isIdentChar c = false

/-! ## The last occurrence -/

theorem pairwise_zip_inits_tails {α : Type} (text : List α) :
    (text.inits.zip text.tails).Pairwise fun a b => a.1.length < b.1.length := by
  induction text with
  | nil => simp
  | cons c text ih =>
    rw [List.inits, List.tails, List.zip_cons_cons, List.zip_map_left, List.pairwise_cons]
    refine ⟨fun split hsplit => ?_, List.pairwise_map.mpr (ih.imp fun h => ?_)⟩
    · obtain ⟨split, -, rfl⟩ := List.mem_map.mp hsplit
      exact Nat.succ_pos _
    · exact Nat.succ_lt_succ h

theorem mem_splits_iff {text pattern before rest : Chars} :
    (before, rest) ∈ ((text.inits.zip text.tails).filter fun split => pattern.isPrefixOf split.2) ↔
      text = before ++ rest ∧ ∃ after, rest = pattern ++ after := by
  rw [List.mem_filter, List.mem_zip_inits_tails, List.isPrefixOf_iff_prefix, eq_comm]
  exact and_congr_right fun _ => exists_congr fun _ => eq_comm

theorem exists_of_rfind {text pattern : Chars} {n : Nat} (h : rfind text pattern = some n) :
    ∃ before after, text = before ++ (pattern ++ after) ∧ size before = n ∧
      ∀ before' after', text = before' ++ (pattern ++ after') → size before' ≤ size before := by
  obtain ⟨⟨before, rest⟩, hlast, rfl⟩ := Option.map_eq_some_iff.mp h
  obtain ⟨earlier, hsplits⟩ := List.getLast?_eq_some_iff.mp hlast
  obtain ⟨htext, after, rfl⟩ := mem_splits_iff.mp (hsplits ▸ List.mem_append_right _ List.mem_cons_self)
  refine ⟨before, after, htext, rfl, fun before' after' htext' => ?_⟩
  have hmem := mem_splits_iff.mpr ⟨htext', after', rfl⟩
  rw [hsplits] at hmem
  rcases List.mem_append.mp hmem with hmem | hmem
  · have hpairwise := (pairwise_zip_inits_tails text).filter
      fun split => pattern.isPrefixOf split.2
    rw [hsplits] at hpairwise
    have hlength := (List.pairwise_append.mp hpairwise).2.2 _ hmem _ List.mem_cons_self
    -- the shorter of two beginnings of one text is a beginning of the other
    have hbegins := List.prefix_of_prefix_length_le ⟨_, htext'.symm⟩ ⟨_, htext.symm⟩ hlength.le
    obtain ⟨middle, rfl⟩ := hbegins
    rw [size_append]
    omega
  · obtain ⟨rfl, -⟩ := Prod.mk.inj (List.mem_singleton.mp hmem)
    exact le_rfl

theorem rfind_eq_none {text pattern : Chars} (h : rfind text pattern = none)
    (before after : Chars) : text ≠ before ++ (pattern ++ after) := by
  intro htext
  have hnil := List.getLast?_eq_none_iff.mp (Option.map_eq_none_iff.mp h)
  exact List.not_mem_nil (hnil ▸ mem_splits_iff.mpr ⟨htext, after, rfl⟩)

/-! ## Places in the span and in the source -/

theorem exists_of_slice {source text : Chars} {start stop : Nat}
    (h : slice source start stop = some text) :
    ∃ front back, source = front ++ (text ++ back) ∧ size front = start ∧
      size front + size text = stop := by
  unfold slice at h
  split at h
  · obtain ⟨⟨upTo, back⟩, hstop, h⟩ := Option.bind_eq_some_iff.mp h
    obtain ⟨⟨front, _⟩, hstart, rfl⟩ := Option.map_eq_some_iff.mp h
    obtain ⟨rfl, hsize⟩ := Splice.eq_of_cut hstop
    obtain ⟨rfl, hsize'⟩ := Splice.eq_of_cut hstart
    exact ⟨front, back, by rw [List.append_assoc], hsize', (size_append _ _).symm.trans hsize⟩
  · cases h

/-- Of two beginnings of a text the one with more bytes goes on where the other ends. -/
theorem exists_of_size_le {a b c d : Chars} (h : a ++ b = c ++ d) (hsize : size a ≤ size c) :
    ∃ middle, c = a ++ middle ∧ b = middle ++ d := by
  rcases List.append_eq_append_iff.mp h with ⟨middle, hc, hb⟩ | ⟨middle, ha, hd⟩
  · exact ⟨middle, hc, hb⟩
  · cases middle with
    | nil => exact ⟨[], by simp [ha], by simp [hd]⟩
    | cons ch middle =>
      have hpos := Char.utf8Size_pos ch
      rw [ha, size_append] at hsize
      simp only [size, Splice.size_cons] at hsize
      omega

section Narrow

variable {source bindingName : String} {byteStart byteEnd : Nat} {text : Chars}

/-- **The narrowed range is the last one at which the name stands**, if there is any. -/
theorem narrow_last (hslice : slice source.toList byteStart byteEnd = some text) {range : Nat × Nat}
    (h : Mentions source bindingName (byteStart, byteEnd) range) :
    Mentions source bindingName (byteStart, byteEnd)
        (narrowEventToBinding byteStart byteEnd bindingName source) ∧
      range.1 ≤ (narrowEventToBinding byteStart byteEnd bindingName source).1 := by
  obtain ⟨front, back, hsource, rfl, rfl⟩ := exists_of_slice hslice
  obtain ⟨before, after, hname, rfl, hfirst, hlast⟩ := h
  have hbytes : byteLen bindingName = size bindingName.toList := rfl
  -- the occurrence lies in the text of the span
  obtain ⟨inner, rfl, hinner⟩ := exists_of_size_le (hsource.symm.trans hname) hfirst
  obtain ⟨behind, htext, -⟩ := exists_of_size_le
    ((List.append_assoc _ _ _).trans hinner.symm)
    (by simp only [size_append, hbytes] at hlast ⊢; omega)
  rw [List.append_assoc] at htext
  unfold narrowEventToBinding
  rw [hslice, Option.bind_some]
  cases hrfind : rfind text bindingName.toList with
  | none => exact absurd htext (rfind_eq_none hrfind inner behind)
  | some relative =>
    obtain ⟨found, rest, hfound, rfl, hmax⟩ := exists_of_rfind hrfind
    have hle := hmax inner behind htext
    refine ⟨⟨front ++ found, rest ++ back, ?_, ?_, ?_, ?_⟩, ?_⟩
    · rw [hsource, hfound]
      simp only [List.append_assoc]
    · rw [size_append]
    · exact Nat.le_add_right _ _
    · dsimp only
      rw [hfound, hbytes, size_append, size_append]
      omega
    · rw [size_append]
      exact Nat.add_le_add_left hle _

/-- **Events point at the identifier.**  The compiler and the analyzer narrow every span to the same
range.  A span in which the name stands as an identifier is narrowed to such a place exactly if behind
every place where it stands inside another word there is one where it is an identifier. -/
theorem events_point_at_identifier_iff (isIdentChar : Char → Bool)
    (hspan : slice source.toList byteStart byteEnd = some text) :
    let Whole := MentionsWhole isIdentChar source bindingName (byteStart, byteEnd)
    ownershipModelEventRange source byteStart byteEnd bindingName
        = some (narrowEventToBinding byteStart byteEnd bindingName source) ∧
      (((∃ range, Whole range) → Whole (narrowEventToBinding byteStart byteEnd bindingName source)) ↔
        ((∃ range, Whole range) → ∀ range, Mentions source bindingName (byteStart, byteEnd) range →
          ¬ Whole range → ∃ later, Whole later ∧ range.1 < later.1)) := by
  intro Whole
  have hmention : ∀ {range}, Whole range →
      Mentions source bindingName (byteStart, byteEnd) range :=
    fun ⟨before, after, h, _⟩ => ⟨before, after, h⟩
  refine ⟨?_, forall_congr' fun hwhole => ⟨fun h range hrange hpart => ?_, fun h => ?_⟩⟩
  · rw [ownershipModelEventRange, narrowEventToBinding, hspan]
    simp only [Option.bind_eq_bind, Option.bind_some]
    cases rfind text bindingName.toList <;> rfl
  · refine ⟨_, h, lt_of_le_of_ne (narrow_last hspan hrange).2 fun hsame => hpart ?_⟩
    -- a range is known by its first byte
    have heq : range = narrowEventToBinding byteStart byteEnd bindingName source := by
      obtain ⟨_, _, hfirst⟩ := hrange
      obtain ⟨_, _, hsecond⟩ := hmention h
      rw [hfirst.place, hsecond.place] at hsame ⊢
      exact Prod.ext hsame (congrArg (· + _) hsame)
    exact heq ▸ h
  · obtain ⟨range, hrange⟩ := hwhole
    by_contra hpart
    obtain ⟨later, hlater, hlt⟩ := h _ (narrow_last hspan (hmention hrange)).1 hpart
    exact absurd (narrow_last hspan (hmention hlater)).2 (Nat.not_le_of_lt hlt)

end Narrow

/-- ASCII identifiers. -/
def isAsciiIdent (c : Char) : Bool := c == '_' || c.isAlphanum

/-- The name is the last word of the span. -/
theorem last_word_found :
    MentionsWhole isAsciiIdent "let y = x" "x" (0, 9)
      (narrowEventToBinding 0 9 "x" "let y = x") := by
  have hslice : slice "let y = x".toList 0 9 = some "let y = x".toList := by decide +kernel
  have hwhole : MentionsWhole isAsciiIdent "let y = x" "x" (0, 9) (8, 9) :=
    ⟨"let y = ".toList, [], ⟨by decide, by decide +kernel, by decide, by decide⟩,
      by rintro c ⟨⟩; decide, by simp⟩
  refine (events_point_at_identifier_iff isAsciiIdent hslice).2.mpr ?_ ⟨_, hwhole⟩
  rintro - range ⟨before, after, hoccurs⟩ hpart
  refine ⟨_, hwhole, lt_of_le_of_ne ?_ fun hsame => hpart ?_⟩
  · have hlast := hoccurs.last
    rw [hoccurs.place] at hlast ⊢
    have hsize : byteLen "x" = 1 := by decide
    simp only at hlast ⊢
    omega
  · have heq : range = (8, 9) := by
      have hsize : byteLen "x" = 1 := by decide
      rw [hoccurs.place] at hsame ⊢
      simp only at hsame
      rw [hsame, hsize]
    exact heq ▸ hwhole

/-- **The name is found inside another word.**  The use of `x` in `x + max` is narrowed to the last
letter of `max`. -/
theorem name_found_in_longer_word :
    slice "x + max".toList 0 7 = some "x + max".toList ∧
      MentionsWhole isAsciiIdent "x + max" "x" (0, 7) (0, 1) ∧
      narrowEventToBinding 0 7 "x" "x + max" = (6, 7) ∧
      ¬ MentionsWhole isAsciiIdent "x + max" "x" (0, 7)
        (narrowEventToBinding 0 7 "x" "x + max") := by
  have hnarrow : narrowEventToBinding 0 7 "x" "x + max" = (6, 7) := by decide +kernel
  refine ⟨by decide +kernel, ?_, hnarrow, ?_⟩
  · exact ⟨[], " + max".toList, ⟨by decide, by decide +kernel, by decide, by decide⟩,
      by simp, by rintro c ⟨⟩; decide⟩
  · rw [hnarrow]
    rintro ⟨before, after, ⟨hsource, hrange, -, -⟩, hbefore, -⟩
    have hsizes : size "x + ma".toList = size before := by
      rw [← (Prod.mk.inj hrange).1]
      decide
    obtain ⟨middle, hmiddle, -⟩ := exists_of_size_le
      (show "x + ma".toList ++ "x".toList = before ++ ("x".toList ++ after) from hsource) hsizes.le
    obtain ⟨middle', hmiddle', -⟩ := exists_of_size_le
      (show before ++ ("x".toList ++ after) = "x + ma".toList ++ "x".toList from hsource.symm)
      hsizes.ge
    obtain rfl : before = "x + ma".toList := by
      rw [hmiddle'] at hmiddle
      have hnil : middle' = [] ∧ middle = [] := by simpa using hmiddle
      simpa [hnil.1] using hmiddle'.symm
    exact absurd (hbefore 'a' rfl) (by decide)

end RustWorkbench.Bridge
