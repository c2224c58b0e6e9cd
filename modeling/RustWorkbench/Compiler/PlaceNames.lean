import RustWorkbench.Library.Ids
import RustWorkbench.Library.Tokens
import Mathlib.Data.List.Forall2

/-!
# The names of places

`place_name`: a place of the MIR is named after its binding, with a star in front for every
dereference and a suffix for every other projection.  The memory graph shares the node of a
projected place by that name.

* `placeName` — the printer, element by element.
* `place_names_identify_iff` — so a name stands for one projection unless two that are alike differ.
-/

namespace RustWorkbench.Compiler

/-- `mir::ProjectionElem` -/
inductive ProjectionElem (V T : Type)
  | deref
  | field (index : Nat) (ty : T)
  | index (local_ : V)
  | constantIndex (offset minLength : Nat) (fromEnd : Bool)
  | subslice (start stop : Nat) (fromEnd : Bool)
  | downcast (name : Option String) (variant : Nat)
  | opaqueCast (ty : T)
  | unwrapUnsafeBinder (ty : T)
deriving DecidableEq, Repr

variable {V T : Type}

/-- The name that a downcast shows. -/
def downcastName (name : Option String) (variant : Nat) : String :=
  name.getD ("variant" ++ toString variant)

/-- One round of the loop of `place_name`. -/
def project (result : String) : ProjectionElem V T → String
  | .deref => "*" ++ result
  | .field index _ => result ++ "." ++ toString index
  | .index _ => result ++ "[_]"
  | .constantIndex offset _ fromEnd =>
    if fromEnd then result ++ "[-" ++ toString offset ++ "]"
    else result ++ "[" ++ toString offset ++ "]"
  | .subslice _ _ _ => result ++ "[..]"
  | .downcast name variant => result ++ "::" ++ downcastName name variant
  | .opaqueCast _ => result ++ "::<opaque>"
  | .unwrapUnsafeBinder _ => result ++ "::<unsafe-binder>"

def placeName (binding : String) (projection : List (ProjectionElem V T)) : String :=
  projection.foldl project binding

/-! ## Identifiers and static places -/

/-- A character of an identifier: of the ASCII ones, the letters, the digits and the underscore. -/
def isIdentChar (c : Char) : Bool := c == '_' || c.isAlphanum || 128 ≤ c.toNat

structure IsIdent (text : String) : Prop where
  nonempty : text.toList ≠ []
  chars : ∀ c ∈ text.toList, isIdentChar c = true

/-- Dereferences, fields, downcasts and constant indices, with an identifier for a named variant. -/
def ProjectionElem.Static : ProjectionElem V T → Prop
  | .deref | .field _ _ | .constantIndex _ _ _ => True
  | .downcast name _ => ∀ text ∈ name, IsIdent text
  | _ => False

/-- A place whose projection is known at compile time. -/
structure StaticPlace (V T : Type) where
  binding : String
  projection : List (ProjectionElem V T)
  binding_ident : IsIdent binding
  static : ∀ elem ∈ projection, elem.Static

def StaticPlace.name (place : StaticPlace V T) : String := placeName place.binding place.projection

/-! ## What the name shows of a projection -/

def ProjectionElem.isDeref : ProjectionElem V T → Bool
  | .deref => true
  | _ => false

/-- The mark and the text of a suffix. -/
def ProjectionElem.suffix : ProjectionElem V T → List Char × List Char
  | .deref => ([], [])
  | .field i _ => (['.'], (toString i).toList)
  | .index _ => (['['], "_]".toList)
  | .constantIndex offset _ fromEnd =>
    (['['], (if fromEnd then ['-'] else []) ++ ((toString offset).toList ++ [']']))
  | .subslice _ _ _ => (['['], "..]".toList)
  | .downcast name variant => ("::".toList, (downcastName name variant).toList)
  | .opaqueCast _ => ("::".toList, "<opaque>".toList)
  | .unwrapUnsafeBinder _ => ("::".toList, "<unsafe-binder>".toList)

/-- The projection without its dereferences. -/
def suffixes (projection : List (ProjectionElem V T)) : List (ProjectionElem V T) :=
  projection.filter fun elem => !elem.isDeref

def derefs (projection : List (ProjectionElem V T)) : Nat := projection.countP (·.isDeref)

theorem project_toList (result : String) (elem : ProjectionElem V T) :
    (project result elem).toList =
      (if elem.isDeref then ['*'] else []) ++ result.toList ++ (elem.suffix.1 ++ elem.suffix.2) := by
  cases elem with
  | constantIndex offset minLength fromEnd =>
    cases fromEnd <;> simp [project, ProjectionElem.isDeref, ProjectionElem.suffix]
  | _ => simp [project, ProjectionElem.isDeref, ProjectionElem.suffix]

/-- **The name is the stars, the binding and the suffixes**, in that order. -/
theorem placeName_toList (projection : List (ProjectionElem V T)) (result : String) :
    (placeName result projection).toList =
      List.replicate (derefs projection) '*' ++ (result.toList ++
        Tokens.join ((suffixes projection).map ProjectionElem.suffix)) := by
  induction projection generalizing result with
  | nil => simp [placeName, derefs, suffixes]
  | cons elem projection ih =>
    change (placeName (project result elem) projection).toList = _
    rw [ih, project_toList]
    cases elem with
    | deref =>
      -- the star joins those in front of it
      simp [derefs, suffixes, ProjectionElem.isDeref, ProjectionElem.suffix, List.replicate_succ']
    | _ => simp [derefs, suffixes, ProjectionElem.isDeref]

/-! ## Places that are alike -/

/-- Two elements that a name shows in the same way: it leaves out the type of a field, the length
that a constant index needs, and the number of a variant that has a name. -/
def ProjectionElem.Alike : ProjectionElem V T → ProjectionElem V T → Prop
  | .field i _, .field j _ => i = j
  | .constantIndex i _ fromEnd, .constantIndex j _ fromEnd' => i = j ∧ fromEnd = fromEnd'
  | .downcast name variant, .downcast name' variant' =>
    downcastName name variant = downcastName name' variant'
  | _, _ => False

/-- The same binding name, as many dereferences, wherever they stand, and the other elements alike
one by one. -/
structure StaticPlace.Alike (p q : StaticPlace V T) : Prop where
  binding : p.binding = q.binding
  derefs : derefs p.projection = derefs q.projection
  suffixes : List.Forall₂ ProjectionElem.Alike (suffixes p.projection) (suffixes q.projection)

/-- The characters that a suffix starts with. -/
def isMark (c : Char) : Bool := c == '.' || c == '[' || c == ':'

theorem isMark_eq_false_of_ident {c : Char} (h : isIdentChar c = true) : isMark c = false := by
  cases hmark : isMark c with
  | false => rfl
  | true =>
    simp only [isMark, Bool.or_eq_true, beq_iff_eq] at hmark
    rcases hmark with (rfl | rfl) | rfl <;> simp [isIdentChar] at h

theorem isIdentChar_of_mem_toString {n : Nat} {c : Char} (h : c ∈ (toString n).toList) :
    isIdentChar c = true := by
  have hdigit := Ids.isDigit_of_mem_toString h
  simp [isIdentChar, Char.isAlphanum, hdigit]

theorem toString_ne_nil (n : Nat) : (toString n).toList ≠ [] := by
  rw [Ids.toString_toList]
  exact Nat.toDigits_ne_nil

theorem isIdent_downcastName {name : Option String} (h : ∀ text ∈ name, IsIdent text)
    (variant : Nat) : IsIdent (downcastName name variant) := by
  cases name with
  | some text => exact h text rfl
  | none =>
    have hvariant : ∀ c ∈ "variant".toList, isIdentChar c = true :=
      List.all_eq_true.mp (by decide)
    refine ⟨by simp [downcastName], fun c hc => ?_⟩
    rw [downcastName, Option.getD_none, String.toList_append] at hc
    exact (List.mem_append.mp hc).elim (hvariant c) isIdentChar_of_mem_toString

theorem isPiece_suffix {elem : ProjectionElem V T} (hstatic : elem.Static)
    (hderef : elem.isDeref = false) : Tokens.IsPiece isMark elem.suffix := by
  have hdigit : ∀ n c, c ∈ (toString n).toList → isMark c = false :=
    fun n c hc => isMark_eq_false_of_ident (isIdentChar_of_mem_toString hc)
  cases elem with
  | deref => cases hderef
  | field i ty =>
    have hmark : ∀ c ∈ ['.'], isMark c = true := List.all_eq_true.mp (by decide)
    exact ⟨List.cons_ne_nil _ _, toString_ne_nil i, hmark, hdigit i⟩
  | constantIndex offset minLength fromEnd =>
    have hmark : ∀ c ∈ ['['], isMark c = true := List.all_eq_true.mp (by decide)
    refine ⟨List.cons_ne_nil _ _, by simp [ProjectionElem.suffix], hmark, fun c hc => ?_⟩
    rcases List.mem_append.mp hc with hsign | hrest
    · cases fromEnd with
      | false => cases hsign
      | true => exact List.mem_singleton.mp hsign ▸ rfl
    · rcases List.mem_append.mp hrest with hoffset | hclose
      · exact hdigit offset c hoffset
      · exact List.mem_singleton.mp hclose ▸ rfl
  | downcast name variant =>
    have hmark : ∀ c ∈ "::".toList, isMark c = true := List.all_eq_true.mp (by decide)
    have hident := isIdent_downcastName hstatic variant
    exact ⟨by simp [ProjectionElem.suffix], hident.nonempty, hmark,
      fun c hc => isMark_eq_false_of_ident (hident.chars c hc)⟩
  | _ => cases hstatic

theorem constantIndex_body_inj {i j : Nat} {fromEnd fromEnd' : Bool}
    (h : (if fromEnd then ['-'] else []) ++ ((toString i).toList ++ [']']) =
      (if fromEnd' then ['-'] else []) ++ ((toString j).toList ++ [']'])) :
    i = j ∧ fromEnd = fromEnd' := by
  have hsame : fromEnd = fromEnd' := by
    -- digits have no sign
    have hdigits : ∀ n, '-' ∉ Nat.toDigits 10 n :=
      fun n => Ids.toString_toList n ▸ Ids.dash_notMem_toString n
    have hdash := congrArg (fun text => decide ('-' ∈ text)) h
    simpa [hdigits] using hdash
  subst hsame
  have hdigits := List.append_cancel_right (List.append_cancel_left h)
  exact ⟨Ids.toString_inj (String.toList_inj.mp hdigits), rfl⟩

/-- The suffixes of two elements are the same just where the elements are alike. -/
theorem suffix_eq_iff {a b : ProjectionElem V T} (ha : a.Static) (hb : b.Static)
    (hderef : a.isDeref = false) : a.suffix = b.suffix ↔ a.Alike b := by
  cases a with
  | deref => cases hderef
  | field i ty =>
    cases b with
    | field j ty' =>
      refine ⟨fun h => ?_, fun h => by rw [ProjectionElem.suffix, show i = j from h]; rfl⟩
      exact Ids.toString_inj (String.toList_inj.mp (Prod.mk.inj h).2)
    | _ => simp [ProjectionElem.suffix, ProjectionElem.Alike]
  | constantIndex i minLength fromEnd =>
    cases b with
    | constantIndex j minLength' fromEnd' =>
      refine ⟨fun h => constantIndex_body_inj (Prod.mk.inj h).2, ?_⟩
      rintro ⟨rfl, rfl⟩
      rfl
    | index => cases hb
    | subslice => cases hb
    | _ => simp [ProjectionElem.suffix, ProjectionElem.Alike]
  | downcast name variant =>
    cases b with
    | downcast name' variant' =>
      refine ⟨fun h => String.toList_inj.mp (Prod.mk.inj h).2, fun h => ?_⟩
      exact Prod.ext rfl (congrArg String.toList h)
    | opaqueCast => cases hb
    | unwrapUnsafeBinder => cases hb
    | _ => simp [ProjectionElem.suffix, ProjectionElem.Alike]
  | _ => cases ha

/-! ## Names and places -/

theorem StaticPlace.static_of_mem {p : StaticPlace V T} {elem : ProjectionElem V T}
    (h : elem ∈ suffixes p.projection) : elem.Static ∧ elem.isDeref = false := by
  obtain ⟨hmem, hderef⟩ := List.mem_filter.mp h
  exact ⟨p.static elem hmem, by simpa using hderef⟩

theorem StaticPlace.isPiece {p : StaticPlace V T} :
    ∀ t ∈ (suffixes p.projection).map ProjectionElem.suffix, Tokens.IsPiece isMark t := by
  intro t ht
  obtain ⟨elem, helem, rfl⟩ := List.mem_map.mp ht
  obtain ⟨hstatic, hderef⟩ := p.static_of_mem helem
  exact isPiece_suffix hstatic hderef

theorem map_suffix_eq_iff {as bs : List (ProjectionElem V T)}
    (has : ∀ a ∈ as, a.Static ∧ a.isDeref = false) (hbs : ∀ b ∈ bs, b.Static ∧ b.isDeref = false) :
    as.map ProjectionElem.suffix = bs.map ProjectionElem.suffix ↔
      List.Forall₂ ProjectionElem.Alike as bs := by
  induction as generalizing bs with
  | nil => cases bs <;> simp
  | cons a as ih =>
    cases bs with
    | nil => simp
    | cons b bs =>
      obtain ⟨ha, has⟩ := List.forall_mem_cons.mp has
      obtain ⟨hb, hbs⟩ := List.forall_mem_cons.mp hbs
      rw [List.map_cons, List.map_cons, List.cons.injEq, suffix_eq_iff ha.1 hb.1 ha.2, ih has hbs,
        List.forall₂_cons]

theorem StaticPlace.stops_join (p : StaticPlace V T) :
    Tokens.Stops isIdentChar (Tokens.join ((suffixes p.projection).map ProjectionElem.suffix)) := by
  intro c hc
  have hmark : isMark c = true := by simpa using Tokens.stops_join p.isPiece c hc
  cases hident : isIdentChar c with
  | false => rfl
  | true => exact absurd (isMark_eq_false_of_ident hident) (by simp [hmark])

theorem IsIdent.stops_star {text : String} (h : IsIdent text) (rest : List Char) :
    Tokens.Stops (· == '*') (text.toList ++ rest) := by
  obtain ⟨c, chars, htext⟩ := List.exists_cons_of_ne_nil h.nonempty
  have hident : isIdentChar c = true := h.chars c (htext ▸ List.mem_cons_self)
  rw [htext]
  refine Tokens.stops_cons (beq_eq_false_iff_ne.mpr ?_)
  rintro rfl
  simp [isIdentChar] at hident

/-- **Two places have the same name just where they are alike.** -/
theorem placeName_eq_iff (p q : StaticPlace V T) : p.name = q.name ↔ p.Alike q := by
  have hsuffixes := map_suffix_eq_iff (fun _ => p.static_of_mem) (fun _ => q.static_of_mem)
  unfold StaticPlace.name
  rw [← String.toList_inj, placeName_toList, placeName_toList]
  constructor
  · intro h
    have hstar : ∀ n, ∀ c ∈ List.replicate n '*', (c == '*') = true :=
      fun n c hc => beq_iff_eq.mpr (List.eq_of_mem_replicate hc)
    obtain ⟨hderefs, hrest⟩ := Tokens.append_inj_of_stops (hstar _) (hstar _)
      (p.binding_ident.stops_star _) (q.binding_ident.stops_star _) h
    obtain ⟨hbinding, hjoin⟩ := Tokens.append_inj_of_stops p.binding_ident.chars
      q.binding_ident.chars p.stops_join q.stops_join hrest
    refine ⟨String.toList_inj.mp hbinding, ?_, ?_⟩
    · simpa using congrArg List.length hderefs
    · exact hsuffixes.mp (Tokens.join_inj p.isPiece q.isPiece hjoin)
  · rintro ⟨hbinding, hderefs, halike⟩
    rw [hbinding, hderefs, hsuffixes.mpr halike]

/-- **When a name stands for one place**: unless two projections that are alike differ. -/
theorem place_names_identify_iff (p q : StaticPlace V T) :
    (p.name = q.name → p.binding = q.binding ∧ p.projection = q.projection) ↔
      (p.Alike q → p.projection = q.projection) := by
  rw [placeName_eq_iff]
  exact forall_congr' fun halike => and_iff_right halike.binding

def derefThenField : StaticPlace Nat String where
  binding := "x"
  projection := [.deref, .field 0 "i32"]
  binding_ident := ⟨by decide, List.all_eq_true.mp (by decide)⟩
  static := by simp [ProjectionElem.Static]

def fieldThenDeref : StaticPlace Nat String where
  binding := "x"
  projection := [.field 0 "&i32", .deref]
  binding_ident := ⟨by decide, List.all_eq_true.mp (by decide)⟩
  static := by simp [ProjectionElem.Static]

/-- `let x = &(1,); (*x).0; let x = (&1,); *x.0`: two places of two bindings `x` with one name. -/
theorem one_name_two_projections :
    derefThenField.name = "*x.0" ∧ fieldThenDeref.name = "*x.0" ∧
      derefThenField.projection ≠ fieldThenDeref.projection := by
  decide +kernel

end RustWorkbench.Compiler
