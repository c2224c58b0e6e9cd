import Mathlib.Data.List.TakeWhile

/-!
# Redaction of diagnostics

Collected logs are redacted: the directories of the checkout and of the user are replaced, and then a
regular expression replaces the word behind a key such as `token` and a `:` or `=`.  The expression
has no alternatives to go back to: the keys are not prefixes of each other, and a blank starts no value.

* `redactDiagnosticText` — the code.
* `covered` — a text at whose end the expression is in the middle of a value.
* `IsWord` — a value without blanks, commas and semicolons, which the expression takes as a whole.
* `value_hidden_iff` — secret values are hidden exactly if the text in front of them is covered and
  each of them is one word.
-/

namespace RustWorkbench.Tools

/-! ## The code -/

/-- `str.replace`, for a text that is not empty. -/
def replaceAll (original replacement : List Char) : List Char → List Char
  | [] => []
  | c :: rest =>
    if original ≠ [] ∧ original.isPrefixOf (c :: rest) then
      replacement ++ replaceAll original replacement ((c :: rest).drop original.length)
    else c :: replaceAll original replacement rest
termination_by text => text.length
decreasing_by
  · have hlength := List.length_pos_iff.mpr (by assumption : _ ∧ _).1
    simp only [List.length_drop, List.length_cons]
    omega
  · simp

/-- What `\s` matches. -/
def isSpace (c : Char) : Bool :=
  let code := c.toNat
  9 ≤ code && code ≤ 13 || 28 ≤ code && code ≤ 32 || 0x2000 ≤ code && code ≤ 0x200a ||
    code ∈ [0x85, 0xa0, 0x1680, 0x2028, 0x2029, 0x202f, 0x205f, 0x3000]

def isSeparator (c : Char) : Bool := c = ':' || c = '='

/-- What `[^\s,;]` matches. -/
def isValueChar (c : Char) : Bool := !isSpace c && c ≠ ',' && c ≠ ';'

/-- A letter of a key matches without regard to case, and four letters outside of ASCII match too. -/
def foldCase (c : Char) : Char :=
  if c.toNat = 0x130 || c.toNat = 0x131 then 'i'
  else if c.toNat = 0x17f then 's'
  else if c.toNat = 0x212a then 'k'
  else c.toLower

/-- The words that `authorization|api[_-]?key|token|secret` stands for. -/
def secretKeys : List (List Char) :=
  ["authorization".toList, "api_key".toList, "api-key".toList, "apikey".toList, "token".toList,
    "secret".toList]

/-- The text of a word at the start, and what follows it. -/
def stripWord : List Char → List Char → Option (List Char × List Char)
  | [], text => some ([], text)
  | _ :: _, [] => none
  | letter :: word, c :: rest =>
    if foldCase c = letter then (stripWord word rest).map fun (found, rest) => (c :: found, rest)
    else none

/-- A key with its separator and the blanks around that, and what follows. -/
def matchHead (text : List Char) : Option (List Char × List Char) := do
  let (key, rest) ← secretKeys.findSome? (stripWord · text)
  match rest.dropWhile isSpace with
  | [] => none
  | c :: behind =>
    if isSeparator c then
      return (key ++ rest.takeWhile isSpace ++ c :: behind.takeWhile isSpace,
        behind.dropWhile isSpace)
    else none

/-- A match of the expression at the start: the part that is kept, and what follows the value. -/
def matchSecret (text : List Char) : Option (List Char × List Char) := do
  let (head, rest) ← matchHead text
  if rest.takeWhile isValueChar = [] then none
  else return (head, rest.dropWhile isValueChar)

theorem stripWord_eq_some : ∀ {word text found rest : List Char},
    stripWord word text = some (found, rest) → text = found ++ rest
  | [], text, found, rest, h => by
    cases h
    rfl
  | letter :: word, c :: text, found, rest, h => by
    rw [stripWord] at h
    split at h
    · obtain ⟨⟨found', rest'⟩, hword, heq⟩ := Option.map_eq_some_iff.mp h
      cases heq
      rw [stripWord_eq_some hword, List.cons_append]
    · cases h

variable {text head rest : List Char} {c : Char}

theorem matchHead_eq_some (h : matchHead text = some (head, rest)) :
    text = head ++ rest ∧ ∃ c ∈ head, isSeparator c = true := by
  obtain ⟨⟨key, behind⟩, hkey, h⟩ := Option.bind_eq_some_iff.mp h
  obtain ⟨word, -, hword⟩ := List.exists_of_findSome?_eq_some hkey
  dsimp only at h
  split at h
  · cases h
  · next c spaces hbehind =>
    split at h
    · next hc =>
      cases h
      refine ⟨?_, c, by simp, hc⟩
      rw [List.append_assoc, List.cons_append, List.takeWhile_append_dropWhile, List.append_assoc,
        ← hbehind, List.takeWhile_append_dropWhile]
      exact stripWord_eq_some hword
    · cases h

theorem matchSecret_eq_some (h : matchSecret text = some (head, rest)) :
    ∃ value, matchHead text = some (head, value ++ rest) ∧ value ≠ []
      ∧ ∀ c ∈ value, isValueChar c = true := by
  obtain ⟨⟨head', behind⟩, hhead, h⟩ := Option.bind_eq_some_iff.mp h
  dsimp only at h
  split at h
  · cases h
  · next hvalue =>
    cases h
    exact ⟨_, by rwa [List.takeWhile_append_dropWhile], hvalue,
      fun _ hc => List.mem_takeWhile_imp hc⟩

theorem matchSecret_length (h : matchSecret text = some (head, rest)) :
    rest.length < text.length := by
  obtain ⟨value, hhead, hvalue, -⟩ := matchSecret_eq_some h
  have hpositive := List.length_pos_iff.mpr hvalue
  rw [(matchHead_eq_some hhead).1, List.length_append, List.length_append]
  omega

/-- `re.sub`: the leftmost matches, none of which overlap. -/
def redactSecrets : List Char → List Char
  | [] => []
  | c :: text =>
    match _hmatch : matchSecret (c :: text) with
    | some (head, rest) => head ++ "<redacted>".toList ++ redactSecrets rest
    | none => c :: redactSecrets text
termination_by text => text.length
decreasing_by
  · exact matchSecret_length _hmatch
  · simp

def replaceDirectory (directory replacement text : List Char) : List Char :=
  if directory ≠ [] ∧ directory ≠ ['/'] then replaceAll directory replacement text else text

/-- The text without the names of the directories. -/
def withoutDirectories (root home text : List Char) : List Char :=
  replaceDirectory home "<home>".toList (replaceDirectory root "<workspace>".toList text)

def redactDiagnosticText (root home text : List Char) : List Char :=
  redactSecrets (withoutDirectories root home text)

/-! ## What ends a value -/

/-- A value of one word. -/
def IsWord (value : List Char) : Prop := ∀ c ∈ value, isValueChar c = true

/-- The blanks, commas and semicolons of a text, each of which ends a value. -/
def ends (text : List Char) : List Char := text.filter (!isValueChar ·)

theorem ends_append (text behind : List Char) : ends (text ++ behind) = ends text ++ ends behind :=
  List.filter_append ..

theorem ends_eq_nil_iff : ends text = [] ↔ IsWord text := by
  simp [ends, IsWord, List.filter_eq_nil_iff]

/-- The expression replaces no end of a value. -/
theorem ends_redactSecrets (text : List Char) : ends (redactSecrets text) = ends text := by
  have hredacted : ends "<redacted>".toList = [] := by decide
  fun_induction redactSecrets text with
  | case1 => rfl
  | case2 c text head rest hmatch ih =>
    obtain ⟨value, hhead, -, hvalue⟩ := matchSecret_eq_some hmatch
    rw [(matchHead_eq_some hhead).1]
    simp only [ends_append, hredacted, ends_eq_nil_iff.mpr hvalue, ih, List.append_nil,
      List.nil_append]
  | case3 c text hmatch ih =>
    rw [← List.singleton_append, ends_append, ih, ← ends_append, List.singleton_append]

/-! ## What a value is hidden by -/

/-- The text ends in the middle of a match: with a key and a separator, and perhaps the start of a
value. -/
def isOpen (text : List Char) : Bool :=
  match matchHead text with
  | some (_, rest) => rest.all isValueChar
  | none => false

/-- The expression is in the middle of a match at the end of the text. -/
def covered (text : List Char) : Bool :=
  isOpen text ||
    match text with
    | [] => false
    | c :: behind =>
      match _hmatch : matchSecret (c :: behind) with
      | some (_, rest) => covered rest
      | none => covered behind
termination_by text.length
decreasing_by
  · exact matchSecret_length _hmatch
  · simp

/-- A character that is part of a value, but neither of a key nor of a separator. -/
structure Neutral (c : Char) : Prop where
  value : isValueChar c = true
  separator : isSeparator c = false
  key : ∀ word ∈ secretKeys, foldCase c ∉ word

def Starts (P : Char → Prop) (text : List Char) : Prop := ∃ c rest, text = c :: rest ∧ P c

/-- Either the text has a separator, or what follows is not part of a key or a separator. -/
def Cut (text behind : List Char) : Prop :=
  (∃ c ∈ text, isSeparator c = true) ∨ Starts Neutral behind

section Append

variable {text behind : List Char}

variable {c : Char}

theorem separator_cases (h : isSeparator c = true) : c = ':' ∨ c = '=' := by
  simpa [isSeparator] using h

theorem foldCase_separator (h : isSeparator c = true) : foldCase c = c := by
  rcases separator_cases h with rfl | rfl
  · decide
  · decide

theorem separator_not_in_key (h : isSeparator c = true) :
    ∀ word ∈ secretKeys, foldCase c ∉ word := by
  rw [foldCase_separator h]
  rcases separator_cases h with rfl | rfl
  · decide
  · decide

theorem not_space_of_separator (h : isSeparator c = true) : isSpace c = false := by
  rcases separator_cases h with rfl | rfl
  · decide
  · decide

theorem not_space_of_value (h : isValueChar c = true) : isSpace c = false := by
  rw [isValueChar, Bool.and_eq_true, Bool.and_eq_true, Bool.not_eq_true'] at h
  exact h.1.1

/-- A word is found at the start of a text before what follows the text matters. -/
theorem stripWord_append : ∀ (word : List Char) {text : List Char},
    (∀ c, isSeparator c = true → foldCase c ∉ word) → (∀ c, Neutral c → foldCase c ∉ word) →
    Cut text behind → stripWord word (text ++ behind)
        = (stripWord word text).map (fun found => (found.1, found.2 ++ behind)) ∧
      ∀ found ∈ stripWord word text, Cut found.2 behind
  | [], text, _, _, hcut => by
    refine ⟨rfl, ?_⟩
    rintro found hfound
    cases hfound
    exact hcut
  | letter :: word, [], _, hneutral, hcut => by
    obtain ⟨c, hc, -⟩ | ⟨c, rest, rfl, hc⟩ := hcut
    · cases hc
    · have hne : foldCase c ≠ letter := fun h => hneutral c hc (h ▸ List.mem_cons_self)
      simp [stripWord, hne]
  | letter :: word, c :: text, hseparator, hneutral, hcut => by
    rw [List.cons_append, stripWord, stripWord]
    by_cases hletter : foldCase c = letter
    · have hrest : Cut text behind := by
        obtain ⟨d, hd, hsep⟩ | hneutral := hcut
        · rcases List.mem_cons.mp hd with rfl | hd
          · exact absurd (hletter ▸ List.mem_cons_self) (hseparator d hsep)
          · exact .inl ⟨d, hd, hsep⟩
        · exact .inr hneutral
      obtain ⟨happend, hcuts⟩ := stripWord_append word
        (fun d hd hmem => hseparator d hd (List.mem_cons_of_mem _ hmem))
        (fun d hd hmem => hneutral d hd (List.mem_cons_of_mem _ hmem)) hrest
      rw [if_pos hletter, if_pos hletter, happend]
      refine ⟨by simp [Option.map_map, Function.comp_def], ?_⟩
      intro found hfound
      obtain ⟨found', hfound', rfl⟩ := Option.map_eq_some_iff.mp hfound
      exact hcuts found' hfound'
    · simp [hletter]

theorem findKey_append (hcut : Cut text behind) : ∀ {words : List (List Char)},
    words ⊆ secretKeys →
      words.findSome? (stripWord · (text ++ behind))
          = (words.findSome? (stripWord · text)).map (fun found => (found.1, found.2 ++ behind)) ∧
        ∀ found ∈ words.findSome? (stripWord · text), Cut found.2 behind
  | [], _ => ⟨rfl, fun _ h => nomatch h⟩
  | word :: words, hwords => by
    obtain ⟨hword, hrest⟩ := List.cons_subset.mp hwords
    obtain ⟨happend, hcuts⟩ := stripWord_append word (fun c hc => separator_not_in_key hc word hword)
      (fun c hc => hc.key word hword) hcut
    rw [List.findSome?_cons, List.findSome?_cons, happend]
    cases hfound : stripWord word text with
    | none => exact findKey_append hcut hrest
    | some found =>
      refine ⟨rfl, ?_⟩
      rintro _ ⟨⟩
      exact hcuts found hfound

/-- What starts with another character does not prolong a run. -/
theorem run_append_of_starts {p : Char → Bool} (h : Starts (p · = false) behind) :
    ∀ l : List Char, (l ++ behind).takeWhile p = l.takeWhile p ∧
      (l ++ behind).dropWhile p = l.dropWhile p ++ behind
  | [] => by
    obtain ⟨c, rest, rfl, hc⟩ := h
    simp [hc]
  | d :: l => by
    obtain ⟨htake, hdrop⟩ := run_append_of_starts h l
    cases hd : p d with
    | false => simp [hd]
    | true => simp [hd, htake, hdrop]

theorem matchHead_append (hcut : Cut text behind) (hstarts : Starts (isSpace · = false) behind) :
    matchHead (text ++ behind)
      = (matchHead text).map fun found => (found.1, found.2 ++ behind) := by
  obtain ⟨hkey, hcuts⟩ := findKey_append hcut (List.Subset.refl secretKeys)
  rw [matchHead, matchHead, hkey]
  cases hfound : secretKeys.findSome? (stripWord · text) with
  | none => rfl
  | some found =>
    obtain ⟨key, rest⟩ := found
    have hrest : Cut rest behind := hcuts _ hfound
    obtain ⟨htake, hdrop⟩ := run_append_of_starts hstarts rest
    simp only [Option.map_some, Option.bind_eq_bind, Option.bind_some, htake, hdrop]
    cases hspaces : rest.dropWhile isSpace with
    | nil =>
      -- only blanks follow the key, so that the separator would have to come from behind
      obtain ⟨c, hc, hseparator⟩ | ⟨c, tail, rfl, hneutral⟩ := hrest
      · have hspace := List.dropWhile_eq_nil_iff.mp hspaces c hc
        rw [not_space_of_separator hseparator] at hspace
        cases hspace
      · simp [hneutral.separator]
    | cons c spaces =>
      obtain ⟨htake', hdrop'⟩ := run_append_of_starts hstarts spaces
      simp only [List.cons_append, htake', hdrop']
      split
      · rfl
      · rfl

theorem run_append_of_end {p : Char → Bool} (behind : List Char) : ∀ {l : List Char},
    l.all p = false → (l ++ behind).takeWhile p = l.takeWhile p ∧
      (l ++ behind).dropWhile p = l.dropWhile p ++ behind
  | d :: l, h => by
    cases hd : p d with
    | false => simp [hd]
    | true =>
      rw [List.all_cons, hd, Bool.true_and] at h
      obtain ⟨htake, hdrop⟩ := run_append_of_end behind h
      simp [hd, htake, hdrop]

/-- Outside of a match that is open, what follows the text does not matter. -/
theorem matchSecret_append (hopen : isOpen text = false) (hcut : Cut text behind)
    (hstarts : Starts (isSpace · = false) behind) :
    matchSecret (text ++ behind)
      = (matchSecret text).map fun found => (found.1, found.2 ++ behind) := by
  rw [matchSecret, matchSecret, matchHead_append hcut hstarts]
  rw [isOpen] at hopen
  cases hhead : matchHead text with
  | none => rfl
  | some found =>
    rw [hhead] at hopen
    obtain ⟨htake, hdrop⟩ := run_append_of_end behind hopen
    simp only [Option.map_some, Option.bind_eq_bind, Option.bind_some, htake, hdrop]
    split
    · rfl
    · rfl

end Append

/-! ## Whole texts -/

theorem redactSecrets_of_match (h : matchSecret text = some (head, rest)) :
    redactSecrets text = head ++ "<redacted>".toList ++ redactSecrets rest := by
  cases text with
  | nil => exact absurd (matchSecret_length h) (Nat.not_lt_zero _)
  | cons c text =>
    rw [redactSecrets]
    split
    · next head' rest' h' =>
      cases h.symm.trans h'
      rfl
    · next h' => cases h.symm.trans h'

theorem redactSecrets_of_none {text : List Char} (h : matchSecret (c :: text) = none) :
    redactSecrets (c :: text) = c :: redactSecrets text := by
  rw [redactSecrets]
  split
  · next h' => cases h.symm.trans h'
  · rfl

theorem covered_of_open {text : List Char} (h : isOpen text = true) : covered text = true := by
  unfold covered
  rw [h, Bool.true_or]

theorem covered_nil : covered [] = false := by
  unfold covered
  rfl

theorem covered_of_match (hopen : isOpen text = false) (h : matchSecret text = some (head, rest)) :
    covered text = covered rest := by
  cases text with
  | nil => exact absurd (matchSecret_length h) (Nat.not_lt_zero _)
  | cons c text =>
    rw [covered, hopen, Bool.false_or]
    split
    · next head' rest' h' =>
      cases h.symm.trans h'
      rfl
    · next h' => cases h.symm.trans h'

theorem covered_of_none {text : List Char} (hopen : isOpen (c :: text) = false)
    (h : matchSecret (c :: text) = none) : covered (c :: text) = covered text := by
  rw [covered, hopen, Bool.false_or]
  split
  · next h' => cases h.symm.trans h'
  · rfl

/-- Induction along the search for matches, which ends at a match that is open. -/
theorem scan_induction {motive : List Char → Prop}
    (hopen : ∀ text, isOpen text = true → motive text) (hnil : motive [])
    (hmatch : ∀ text head rest, isOpen text = false → matchSecret text = some (head, rest) →
      motive rest → motive text)
    (hnone : ∀ c text, isOpen (c :: text) = false → matchSecret (c :: text) = none →
      motive text → motive (c :: text)) (text : List Char) : motive text := by
  induction hlength : text.length using Nat.strong_induction_on generalizing text with
  | _ length ih =>
    subst hlength
    cases hop : isOpen text with
    | true => exact hopen text hop
    | false =>
      cases hfound : matchSecret text with
      | some found =>
        exact hmatch text found.1 found.2 hop hfound (ih _ (matchSecret_length hfound) _ rfl)
      | none =>
        cases text with
        | nil => exact hnil
        | cons c text => exact hnone c text hop hfound (ih _ (by simp) _ rfl)

theorem matchHead_of_open {text : List Char} (h : isOpen text = true) :
    ∃ head value, matchHead text = some (head, value) ∧ ∀ c ∈ value, isValueChar c = true := by
  rw [isOpen] at h
  split at h
  · next head value hhead => exact ⟨head, value, hhead, List.all_eq_true.mp h⟩
  · cases h

theorem separator_of_covered (text : List Char) :
    covered text = true → ∃ c ∈ text, isSeparator c = true := by
  induction text using scan_induction with
  | hopen text hopen =>
    intro _
    obtain ⟨head, value, hhead, -⟩ := matchHead_of_open hopen
    obtain ⟨htext, c, hc, hseparator⟩ := matchHead_eq_some hhead
    exact ⟨c, htext ▸ List.mem_append_left _ hc, hseparator⟩
  | hnil => exact fun h => nomatch covered_nil.symm.trans h
  | hmatch text head rest hopen hfound ih =>
    intro h
    obtain ⟨c, hc, hseparator⟩ := ih (covered_of_match hopen hfound ▸ h)
    obtain ⟨value, hhead, -, -⟩ := matchSecret_eq_some hfound
    refine ⟨c, ?_, hseparator⟩
    rw [(matchHead_eq_some hhead).1]
    exact List.mem_append_right _ (List.mem_append_right _ hc)
  | hnone c text hopen hfound ih =>
    intro h
    obtain ⟨d, hd, hseparator⟩ := ih (covered_of_none hopen hfound ▸ h)
    exact ⟨d, List.mem_cons_of_mem _ hd, hseparator⟩

section Emits

/-- What is printed for the text does not depend on what follows, and `f` is printed for that. -/
def Emits (K : List Char → Prop) (f : List Char → List Char) (text : List Char) : Prop :=
  ∃ out, ∀ behind, K behind → redactSecrets (text ++ behind) = out ++ f behind

variable {K : List Char → Prop} {f : List Char → List Char} {text : List Char}

theorem Emits.of_match {head rest : List Char} (hfound : matchSecret text = some (head, rest))
    (happend : ∀ behind, K behind → matchSecret (text ++ behind)
      = (matchSecret text).map fun found => (found.1, found.2 ++ behind))
    (h : Emits K f rest) : Emits K f text := by
  obtain ⟨out, hout⟩ := h
  refine ⟨head ++ "<redacted>".toList ++ out, fun behind hbehind => ?_⟩
  have hmatch := happend behind hbehind
  rw [hfound] at hmatch
  rw [redactSecrets_of_match hmatch, hout behind hbehind, List.append_assoc _ out]

theorem Emits.of_none {c : Char} (hfound : matchSecret (c :: text) = none)
    (happend : ∀ behind, K behind → matchSecret (c :: text ++ behind)
      = (matchSecret (c :: text)).map fun found => (found.1, found.2 ++ behind))
    (h : Emits K f text) : Emits K f (c :: text) := by
  obtain ⟨out, hout⟩ := h
  refine ⟨c :: out, fun behind hbehind => ?_⟩
  have hmatch := happend behind hbehind
  rw [hfound] at hmatch
  rw [List.cons_append] at hmatch ⊢
  rw [redactSecrets_of_none hmatch, hout behind hbehind, List.cons_append]

end Emits

/-- **Behind a covered text** the run of characters of a value is hidden. -/
theorem emits_of_covered (text : List Char) : covered text = true →
    Emits (Starts (isValueChar · = true))
      (fun behind => redactSecrets (behind.dropWhile isValueChar)) text := by
  have happend : ∀ text behind, isOpen text = false → covered text = true →
      Starts (isValueChar · = true) behind → matchSecret (text ++ behind)
        = (matchSecret text).map fun found => (found.1, found.2 ++ behind) := by
    rintro text _ hopen hcovered ⟨c, rest, rfl, hc⟩
    exact matchSecret_append hopen (.inl (separator_of_covered text hcovered))
      ⟨c, rest, rfl, not_space_of_value hc⟩
  induction text using scan_induction with
  | hopen text hopen =>
    intro hcovered
    obtain ⟨head, value, hhead, hvalue⟩ := matchHead_of_open hopen
    refine ⟨head ++ "<redacted>".toList, ?_⟩
    rintro _ ⟨c, rest, rfl, hc⟩
    refine redactSecrets_of_match ?_
    rw [matchSecret, matchHead_append (.inl (separator_of_covered text hcovered))
      ⟨c, rest, rfl, not_space_of_value hc⟩, hhead]
    have hrun : (value ++ c :: rest).takeWhile isValueChar ≠ [] := by
      simp [List.takeWhile_append_of_pos hvalue, List.takeWhile_cons_of_pos hc]
    simp only [Option.map_some, Option.bind_eq_bind, Option.bind_some, if_neg hrun,
      List.dropWhile_append_of_pos hvalue]
    rfl
  | hnil => exact fun h => nomatch covered_nil.symm.trans h
  | hmatch text head rest hopen hfound ih =>
    exact fun h => .of_match hfound (fun _ => happend _ _ hopen h)
      (ih (covered_of_match hopen hfound ▸ h))
  | hnone c text hopen hfound ih =>
    exact fun h => .of_none hfound (fun _ => happend _ _ hopen h)
      (ih (covered_of_none hopen hfound ▸ h))

/-- **Behind any other text** a neutral character is kept. -/
theorem emits_of_not_covered (text : List Char) : covered text = false →
    Emits (Starts Neutral) redactSecrets text := by
  have happend : ∀ text behind, isOpen text = false → Starts Neutral behind →
      matchSecret (text ++ behind)
        = (matchSecret text).map fun found => (found.1, found.2 ++ behind) := by
    rintro text behind hopen hneutral
    refine matchSecret_append hopen (.inr hneutral) ?_
    obtain ⟨c, rest, rfl, hc⟩ := hneutral
    exact ⟨c, rest, rfl, not_space_of_value hc.value⟩
  induction text using scan_induction with
  | hopen text hopen => exact fun h => nomatch (covered_of_open hopen).symm.trans h
  | hnil => exact fun _ => ⟨[], fun _ _ => rfl⟩
  | hmatch text head rest hopen hfound ih =>
    exact fun h => .of_match hfound (fun _ => happend _ _ hopen)
      (ih (covered_of_match hopen hfound ▸ h))
  | hnone c text hopen hfound ih =>
    exact fun h => .of_none hfound (fun _ => happend _ _ hopen)
      (ih (covered_of_none hopen hfound ▸ h))

theorem redactSecrets_neutral (hc : Neutral c) (rest : List Char) :
    redactSecrets (c :: rest) = c :: redactSecrets rest := by
  refine redactSecrets_of_none ?_
  exact @matchSecret_append [] _ rfl (.inr ⟨c, rest, rfl, hc⟩)
    ⟨c, rest, rfl, not_space_of_value hc.value⟩

/-! ## Directories -/

/-- A character between words, or a quote. -/
def isBoundary (c : Char) : Bool := !isValueChar c || isSeparator c || c = '"'

/-- An absolute path without blanks and punctuation. -/
structure IsDirectory (directory : List Char) : Prop where
  absolute : Starts (· = '/') directory
  plain : ∀ c ∈ directory, isBoundary c = false

/-- A word and a text that it does not run into. -/
structure Around (before after : List Char) : Prop where
  before : ∃ text c, before = text ++ [c] ∧ isBoundary c = true
  after : after = [] ∨ Starts (isBoundary · = true) after

section Replace

variable {original replacement : List Char}

theorem isPrefixOf_append_cons {c : Char} : ∀ {original : List Char}, c ∉ original →
    ∀ text behind : List Char,
      original.isPrefixOf (text ++ c :: behind) = original.isPrefixOf text
  | [], _, _, _ => by simp
  | d :: original, hc, [], behind => by
    have hne : d ≠ c := fun h => hc (h ▸ List.mem_cons_self)
    simp [List.isPrefixOf, hne]
  | d :: original, hc, e :: text, behind => by
    have hrest : c ∉ original := fun h => hc (List.mem_cons_of_mem _ h)
    rw [List.cons_append, List.isPrefixOf, List.isPrefixOf, isPrefixOf_append_cons hrest]

/-- A character that is not replaced separates what is before it from what is behind. -/
theorem replaceAll_append_cons {c : Char} (hc : c ∉ original) (text behind : List Char) :
    replaceAll original replacement (text ++ c :: behind)
      = replaceAll original replacement text ++ c :: replaceAll original replacement behind := by
  fun_induction replaceAll original replacement text with
  | case1 =>
    have hnot : ¬ (original ≠ [] ∧ original.isPrefixOf (c :: behind) = true) := by
      rintro ⟨hne, hbegins⟩
      have hnil := isPrefixOf_append_cons hc [] behind
      rw [List.nil_append, hbegins] at hnil
      exact hne (List.prefix_nil.mp (List.isPrefixOf_iff_prefix.mp hnil.symm))
    rw [List.nil_append, replaceAll, if_neg hnot, List.nil_append]
  | case2 d text hbegins ih =>
    have hlength : original.length ≤ (d :: text).length :=
      (List.isPrefixOf_iff_prefix.mp hbegins.2).length_le
    have happend : original ≠ [] ∧ original.isPrefixOf (d :: (text ++ c :: behind)) = true :=
      ⟨hbegins.1, (isPrefixOf_append_cons hc (d :: text) behind).trans hbegins.2⟩
    rw [List.cons_append, replaceAll, if_pos happend, ← List.cons_append,
      List.drop_append_of_le_length hlength, ih, List.append_assoc]
  | case3 d text hbegins ih =>
    have happend : ¬ (original ≠ [] ∧ original.isPrefixOf (d :: (text ++ c :: behind)) = true) := by
      rintro ⟨hne, h⟩
      exact hbegins ⟨hne, (isPrefixOf_append_cons hc (d :: text) behind).symm.trans h⟩
    rw [List.cons_append, replaceAll, if_neg happend, ih, List.cons_append]

/-- What replaces a word by a word replaces no end of a value. -/
theorem ends_replaceAll (horiginal : IsWord original) (hreplacement : IsWord replacement)
    (text : List Char) : ends (replaceAll original replacement text) = ends text := by
  fun_induction replaceAll original replacement text with
  | case1 => rfl
  | case2 c text hbegins ih =>
    obtain ⟨behind, hbehind⟩ := List.isPrefixOf_iff_prefix.mp hbegins.2
    rw [← hbehind, List.drop_left] at ih ⊢
    rw [ends_append, ends_append, ends_eq_nil_iff.mpr horiginal, ends_eq_nil_iff.mpr hreplacement, ih]
  | case3 c text hbegins ih =>
    rw [← List.singleton_append, ends_append, ih, ← ends_append, List.singleton_append]

theorem replaceAll_ne_nil (hreplacement : replacement ≠ []) {text : List Char} (h : text ≠ []) :
    replaceAll original replacement text ≠ [] := by
  fun_cases replaceAll original replacement text with
  | case1 => exact absurd rfl h
  | case2 d text hbegins => simp [hreplacement]
  | case3 d text hbegins => simp

end Replace

section Directory

variable {directory : List Char} (hdirectory : IsDirectory directory) (replacement : List Char)
include hdirectory

theorem replaceDirectory_append_cons {c : Char} (hc : isBoundary c = true) (text behind : List Char) :
    replaceDirectory directory replacement (text ++ c :: behind)
      = replaceDirectory directory replacement text
        ++ c :: replaceDirectory directory replacement behind := by
  unfold replaceDirectory
  split
  · refine replaceAll_append_cons (fun hmem => ?_) text behind
    rw [hdirectory.plain c hmem] at hc
    cases hc
  · rfl

theorem replaceDirectory_around {before after : List Char} (h : Around before after)
    (value : List Char) :
    replaceDirectory directory replacement (before ++ value ++ after)
        = replaceDirectory directory replacement before
          ++ replaceDirectory directory replacement value
          ++ replaceDirectory directory replacement after ∧
      Around (replaceDirectory directory replacement before)
        (replaceDirectory directory replacement after) := by
  have hnil : replaceDirectory directory replacement [] = [] := by
    rw [replaceDirectory, replaceAll, ite_self]
  obtain ⟨⟨text, c, rfl, hc⟩, hafter⟩ := h
  have hbefore := replaceDirectory_append_cons hdirectory replacement hc text []
  have hboth : replaceDirectory directory replacement (value ++ after)
        = replaceDirectory directory replacement value
          ++ replaceDirectory directory replacement after ∧
      (replaceDirectory directory replacement after = [] ∨
        Starts (isBoundary · = true) (replaceDirectory directory replacement after)) := by
    rcases hafter with rfl | ⟨d, rest, rfl, hd⟩
    · simp [hnil]
    · have hstart := replaceDirectory_append_cons hdirectory replacement hd [] rest
      rw [List.nil_append, hnil, List.nil_append] at hstart
      rw [replaceDirectory_append_cons hdirectory replacement hd, hstart]
      exact ⟨rfl, .inr ⟨d, _, rfl, hd⟩⟩
  rw [hnil] at hbefore
  refine ⟨?_, ⟨_, c, hbefore, hc⟩, hboth.2⟩
  rw [List.append_assoc, List.append_assoc, List.singleton_append,
    replaceDirectory_append_cons hdirectory replacement hc, hboth.1, hbefore]
  simp

theorem ends_replaceDirectory (hreplacement : IsWord replacement) (text : List Char) :
    ends (replaceDirectory directory replacement text) = ends text := by
  unfold replaceDirectory
  split
  · refine ends_replaceAll (fun c hc => ?_) hreplacement text
    have hplain := hdirectory.plain c hc
    simp only [isBoundary, Bool.or_eq_false_iff, Bool.not_eq_eq_eq_not, Bool.not_false] at hplain
    exact hplain.1.1
  · rfl

end Directory

/-! ## Secret values -/

/-- What may stand between a key and its value: a separator with blanks around it, an authentication
scheme behind that, or quotes around it. -/
inductive Gap : List Char → Prop
  | plain {blanks blanks' : List Char} {separator : Char} : (∀ c ∈ blanks, isSpace c = true) →
      isSeparator separator = true → (∀ c ∈ blanks', isSpace c = true) →
      Gap (blanks ++ separator :: blanks')
  | scheme {gap name : List Char} {blank : Char} : Gap gap → (∀ c ∈ name, isBoundary c = false) →
      isSpace blank = true → Gap (gap ++ name ++ [blank])
  | quoted {gap : List Char} : Gap gap → Gap ('"' :: gap ++ ['"'])

/-- The text before the value ends with a key and a gap, and a word ends with the value. -/
structure SecretPlace (before after : List Char) : Prop where
  key : ∃ front key gap, before = front ++ key ++ gap ∧ key.map foldCase ∈ secretKeys ∧ Gap gap
  after : after = [] ∨ Starts (isBoundary · = true) after

theorem Gap.ends_with_boundary {gap : List Char} (h : Gap gap) :
    ∃ text c, gap = text ++ [c] ∧ isBoundary c = true := by
  have hspace : ∀ {c}, isSpace c = true → isBoundary c = true := by
    intro c hc
    simp [isBoundary, isValueChar, hc]
  cases h with
  | @plain blanks blanks' separator _ hseparator hblanks =>
    rcases List.eq_nil_or_concat blanks' with rfl | ⟨rest, last, rfl⟩
    · exact ⟨blanks, separator, rfl, by simp [isBoundary, hseparator]⟩
    · exact ⟨blanks ++ separator :: rest, last, by simp, hspace (hblanks last (by simp))⟩
  | scheme _ _ hblank => exact ⟨_, _, rfl, hspace hblank⟩
  | quoted _ => exact ⟨_, '"', rfl, by decide⟩

theorem SecretPlace.around {before after : List Char} (h : SecretPlace before after) :
    Around before after := by
  obtain ⟨⟨front, key, gap, rfl, -, hgap⟩, hafter⟩ := h
  obtain ⟨text, c, rfl, hc⟩ := hgap.ends_with_boundary
  exact ⟨⟨front ++ key ++ text, c, by simp, hc⟩, hafter⟩

theorem replaceDirectory_ne_nil {directory replacement text : List Char}
    (hreplacement : replacement ≠ []) (h : text ≠ []) :
    replaceDirectory directory replacement text ≠ [] := by
  unfold replaceDirectory
  split
  · exact replaceAll_ne_nil hreplacement h
  · exact h

theorem replaceDirectory_singleton {directory replacement : List Char}
    (hdirectory : IsDirectory directory) (hc : c ≠ '/') :
    replaceDirectory directory replacement [c] = [c] := by
  obtain ⟨d, rest, rfl, rfl⟩ := hdirectory.absolute
  simp [replaceDirectory, replaceAll, List.isPrefixOf, Ne.symm hc]

section Hidden

variable {root home before after : List Char}

theorem withoutDirectories_around (hroot : IsDirectory root) (hhome : IsDirectory home)
    (h : Around before after) (value : List Char) :
    withoutDirectories root home (before ++ value ++ after)
      = withoutDirectories root home before ++
        (withoutDirectories root home value ++ withoutDirectories root home after) := by
  obtain ⟨hfirst, haround⟩ :=
    replaceDirectory_around hroot "<workspace>".toList h value
  rw [withoutDirectories, hfirst, (replaceDirectory_around hhome _ haround _).1, List.append_assoc]
  rfl

theorem ends_withoutDirectories (hroot : IsDirectory root) (hhome : IsDirectory home)
    (text : List Char) : ends (withoutDirectories root home text) = ends text := by
  rw [withoutDirectories, ends_replaceDirectory hhome _ (List.all_eq_true.mp (by decide)),
    ends_replaceDirectory hroot _ (List.all_eq_true.mp (by decide))]

/-- **The ends of values are shown**, wherever they stand. -/
theorem ends_redactDiagnosticText (hroot : IsDirectory root) (hhome : IsDirectory home)
    (text : List Char) : ends (redactDiagnosticText root home text) = ends text := by
  rw [redactDiagnosticText, ends_redactSecrets, ends_withoutDirectories hroot hhome]

theorem redact_of_covered (hroot : IsDirectory root) (hhome : IsDirectory home)
    (haround : Around before after) (h : covered (withoutDirectories root home before) = true) :
    ∃ shown, ∀ value, value ≠ [] → IsWord value →
      redactDiagnosticText root home (before ++ value ++ after) = shown := by
  obtain ⟨out, hout⟩ := emits_of_covered _ h
  refine ⟨out ++ redactSecrets ((withoutDirectories root home after).dropWhile isValueChar), ?_⟩
  intro value hvalue hword
  have hne : withoutDirectories root home value ≠ [] :=
    replaceDirectory_ne_nil (by decide) (replaceDirectory_ne_nil (by decide) hvalue)
  have hword : IsWord (withoutDirectories root home value) := by
    rwa [← ends_eq_nil_iff, ends_withoutDirectories hroot hhome, ends_eq_nil_iff]
  have hstarts : Starts (isValueChar · = true)
      (withoutDirectories root home value ++ withoutDirectories root home after) := by
    obtain ⟨c, rest, hcons⟩ := List.exists_cons_of_ne_nil hne
    exact ⟨c, _, by rw [hcons, List.cons_append], hword c (hcons ▸ List.mem_cons_self)⟩
  rw [redactDiagnosticText, withoutDirectories_around hroot hhome haround, hout _ hstarts]
  dsimp only
  rw [List.dropWhile_append_of_pos hword]

theorem redact_of_not_covered (hroot : IsDirectory root) (hhome : IsDirectory home)
    (haround : Around before after) (h : covered (withoutDirectories root home before) = false) :
    ∃ out rest, ∀ c, Neutral c → c ≠ '/' →
      redactDiagnosticText root home (before ++ [c] ++ after) = out ++ c :: rest := by
  obtain ⟨out, hout⟩ := emits_of_not_covered _ h
  refine ⟨out, redactSecrets (withoutDirectories root home after), fun c hneutral hc => ?_⟩
  have hsame : withoutDirectories root home [c] = [c] := by
    rw [withoutDirectories, replaceDirectory_singleton hroot hc, replaceDirectory_singleton hhome hc]
  rw [redactDiagnosticText, withoutDirectories_around hroot hhome haround, hsame,
    List.singleton_append, hout _ ⟨c, _, rfl, hneutral⟩, redactSecrets_neutral hneutral]

/-- **Secret values are hidden** exactly if the text in front of them is covered, so that the
expression found a key and a separator before it and has not yet come to the end of the word behind
them, and each value is one word.  The values may be of any set with two words of one letter. -/
theorem value_hidden_iff (hroot : IsDirectory root) (hhome : IsDirectory home)
    (hplace : SecretPlace before after) {secrets : Set (List Char)} (hx : ['x'] ∈ secrets)
    (hq : ['q'] ∈ secrets) (hnil : [] ∉ secrets) :
    (∀ value ∈ secrets, ∀ value' ∈ secrets,
      redactDiagnosticText root home (before ++ value ++ after)
        = redactDiagnosticText root home (before ++ value' ++ after)) ↔
    covered (withoutDirectories root home before) = true ∧ ∀ value ∈ secrets, IsWord value := by
  constructor
  · intro hhidden
    refine ⟨?_, fun value hvalue => ?_⟩
    · by_contra hcovered
      obtain ⟨out, rest, hout⟩ := redact_of_not_covered hroot hhome hplace.around
        (Bool.not_eq_true _ ▸ hcovered)
      have hsame := hhidden _ hx _ hq
      rw [hout 'x' ⟨by decide, by decide, by decide⟩ (by decide),
        hout 'q' ⟨by decide, by decide, by decide⟩ (by decide)] at hsame
      have hcons := List.append_cancel_left hsame
      simp at hcons
    · -- The ends in the value would be shown, and `x` has none.
      have hsame := congrArg ends (hhidden value hvalue _ hx)
      simp only [ends_redactDiagnosticText hroot hhome, ends_append] at hsame
      have hends := List.append_cancel_left (List.append_cancel_right hsame)
      exact ends_eq_nil_iff.mp (hends.trans (by decide))
  · rintro ⟨hcovered, hwords⟩ value hvalue value' hvalue'
    obtain ⟨shown, hshown⟩ := redact_of_covered hroot hhome hplace.around hcovered
    rw [hshown value (ne_of_mem_of_not_mem hvalue hnil) (hwords value hvalue),
      hshown value' (ne_of_mem_of_not_mem hvalue' hnil) (hwords value' hvalue')]

end Hidden

theorem isDirectory_work : IsDirectory "/work".toList :=
  ⟨⟨'/', "work".toList, rfl, rfl⟩, by simp; decide⟩

theorem isDirectory_home : IsDirectory "/home".toList :=
  ⟨⟨'/', "home".toList, rfl, rfl⟩, by simp; decide⟩

theorem secretPlace_token : SecretPlace "token=".toList " sent".toList := by
  refine ⟨⟨[], "token".toList, "=".toList, rfl, by decide, ?_⟩, .inr ⟨' ', _, rfl, by decide⟩⟩
  exact @Gap.plain [] [] '=' (by simp) (by decide) (by simp)

theorem secretPlace_bearer : SecretPlace "Authorization: Bearer ".toList [] := by
  refine ⟨⟨[], "Authorization".toList, ": Bearer ".toList, rfl, by decide, ?_⟩, .inl rfl⟩
  exact @Gap.scheme ": ".toList "Bearer".toList ' '
    (@Gap.plain [] " ".toList ':' (by simp) (by decide) (by simp; decide))
    (by simp; decide) (by decide)

theorem secretPlace_json : SecretPlace "\"token\": \"".toList "\"".toList := by
  refine ⟨⟨"\"".toList, "token".toList, "\": \"".toList, rfl, by decide, ?_⟩,
    .inr ⟨'"', [], rfl, by decide⟩⟩
  exact @Gap.quoted ": ".toList (@Gap.plain [] " ".toList ':' (by simp) (by decide) (by simp; decide))

theorem token_value_hidden :
    redactDiagnosticText "/work".toList "/home".toList
        ("token=".toList ++ "abc".toList ++ " sent".toList)
      = redactDiagnosticText "/work".toList "/home".toList
          ("token=".toList ++ "xyz".toList ++ " sent".toList) :=
  have hword : ∀ value : List Char, value ≠ [] → value.all isValueChar = true →
      value ∈ {value | value ≠ [] ∧ IsWord value} :=
    fun _ hne hall => ⟨hne, List.all_eq_true.mp hall⟩
  (value_hidden_iff isDirectory_work isDirectory_home secretPlace_token
    (hword _ (by decide) (by decide)) (hword _ (by decide) (by decide)) (fun h => h.1 rfl)).mpr
    ⟨by decide +kernel, fun _ h => h.2⟩ _ (hword _ (by decide) (by decide)) _
    (hword _ (by decide) (by decide))

/-- Behind `Bearer` and behind a quoted key the value is shown, and elsewhere what follows its first
word is. -/
theorem bearer_and_json_values_shown :
    redactDiagnosticText "/work".toList "/home".toList "Authorization: Bearer abc".toList
        = "Authorization: <redacted> abc".toList ∧
      redactDiagnosticText "/work".toList "/home".toList "\"token\": \"abc\"".toList
        = "\"token\": \"abc\"".toList ∧
      redactDiagnosticText "/work".toList "/home".toList "token=abc,def sent".toList
        = "token=<redacted>,def sent".toList ∧
      SecretPlace "Authorization: Bearer ".toList [] ∧
      SecretPlace "\"token\": \"".toList "\"".toList ∧ SecretPlace "token=".toList " sent".toList :=
  ⟨by decide +kernel, by decide +kernel, by decide +kernel, secretPlace_bearer, secretPlace_json,
    secretPlace_token⟩

end RustWorkbench.Tools
