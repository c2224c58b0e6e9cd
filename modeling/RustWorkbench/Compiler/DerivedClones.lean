import RustWorkbench.Compiler.AllocationIdentity

/-!
# Clones and the statements they are declared by

`shared_clone_source` reads the physical line of a binding, and `build_ownership_memory_graph` takes
the first binding of the body that has the name it finds.

* `derived_clone_declared_iff` — in every run, a clone is right just there.

Where a `let` statement ends is known to the parser of the compiler: the length of its text, from
the name of the binding on, is a parameter.
-/

namespace RustWorkbench.Compiler

open Analyzer (isWhitespace)

/-! ## Clone calls -/

section Calls

variable (isAlphanumeric : Char → Bool)

/-- A name may start behind this text. -/
def startsName (front : Text) : Bool := !front.getLast?.any (isNameChar isAlphanumeric)

/-- What starts behind this text is a field; two dots are those of a range. -/
def startsField (front : Text) : Bool :=
  match front.reverse with
  | '.' :: '.' :: _ => false
  | '.' :: _ => true
  | _ => false

/-- `Rc::clone(&name)` or `Arc::clone(&name)` stands in front. -/
def startsPathCall (name rest : Text) : Bool :=
  ["Rc::clone(&", "Arc::clone(&"].any fun marker =>
    (rest.dropPrefix? (marker.toList ++ name)).any fun back =>
      [')'].isPrefixOf (back.dropWhile isWhitespace)

/-- `name.clone()` stands in front. -/
def startsMethodCall (name rest : Text) : Bool :=
  (rest.dropPrefix? name).any fun back =>
    ".clone()".toList.isPrefixOf (back.dropWhile isWhitespace)

/-- The text clones the variable of that name. -/
def Clones (name text : Text) : Prop :=
  ∃ front rest, text = front ++ rest ∧ startsName isAlphanumeric front = true ∧
    (startsPathCall name rest = true ∨
      startsField front = false ∧ startsMethodCall name rest = true)

instance (name text : Text) : Decidable (Clones isAlphanumeric name text) :=
  decidable_of_iff (∃ n < text.length + 1,
    startsName isAlphanumeric (text.take n) = true ∧
      (startsPathCall name (text.drop n) = true ∨
        startsField (text.take n) = false ∧ startsMethodCall name (text.drop n) = true)) <| by
    constructor
    · rintro ⟨n, -, h⟩
      exact ⟨_, _, (List.take_append_drop n text).symm, h⟩
    · rintro ⟨front, rest, rfl, h⟩
      refine ⟨front.length, ?_, by simpa using h⟩
      rw [List.length_append]
      omega

end Calls

/-! ## What a line yields -/

/-- The first occurrence of a pattern in a text. -/
structure FirstSplit (pattern text front back : Text) : Prop where
  split : text = front ++ (pattern ++ back)
  first : ∀ front' back', text = front' ++ (pattern ++ back') → front.length ≤ front'.length

theorem FirstSplit.unique {pattern text front back front' back' : Text}
    (h : FirstSplit pattern text front back) (h' : FirstSplit pattern text front' back') :
    front = front' ∧ back = back' := by
  have hlength : front.length = front'.length :=
    le_antisymm (h.first front' back' h'.split) (h'.first front back h.split)
  obtain ⟨hfront, hrest⟩ := List.append_inj (h.split.symm.trans h'.split) hlength
  exact ⟨hfront, List.append_cancel_left hrest⟩

theorem dropPrefix?_eq_none {pattern text : Text} (h : text.dropPrefix? pattern = none) (back : Text) :
    text ≠ pattern ++ back := by
  rintro rfl
  rw [List.dropPrefix?_eq_some_iff.mpr ⟨pattern, rfl, BEq.rfl⟩] at h
  cases h

theorem not_infix_of_splitAtText {pattern : Text} : ∀ {text : Text},
    splitAtText pattern text = none → ¬ pattern <:+: text
  | [], h => by
    rw [List.infix_nil]
    rintro rfl
    cases h
  | c :: rest, h => by
    rw [splitAtText] at h
    split at h
    case h_1 => cases h
    case h_2 hnone =>
      rw [List.infix_cons_iff]
      rintro (⟨back, hbegins⟩ | hwithin)
      · exact dropPrefix?_eq_none hnone back hbegins.symm
      · exact not_infix_of_splitAtText (Option.map_eq_none_iff.mp h) hwithin

theorem firstSplit_of_splitAtText {pattern : Text} : ∀ {text front back : Text},
    splitAtText pattern text = some (front, back) → FirstSplit pattern text front back
  | [], front, back, h => by
    rw [splitAtText] at h
    split at h
    · case isTrue hempty =>
      cases h
      obtain rfl := List.isEmpty_iff.mp hempty
      exact ⟨rfl, fun _ _ _ => Nat.zero_le _⟩
    · cases h
  | c :: rest, front, back, h => by
    rw [splitAtText] at h
    split at h
    case h_1 after hafter =>
      cases h
      obtain ⟨pattern', htext, hpattern⟩ := List.dropPrefix?_eq_some_iff.mp hafter
      obtain rfl := eq_of_beq hpattern
      exact ⟨htext, fun _ _ _ => Nat.zero_le _⟩
    case h_2 hnone =>
      obtain ⟨⟨front, back⟩, hrest, h⟩ := Option.map_eq_some_iff.mp h
      cases h
      have hfirst := firstSplit_of_splitAtText hrest
      refine ⟨by rw [hfirst.split]; rfl, ?_⟩
      intro front' back' htext
      cases front' with
      | nil => exact absurd htext (dropPrefix?_eq_none hnone back')
      | cons c' front' =>
        have hle := hfirst.first front' back' (List.cons.inj htext).2
        simpa using hle

theorem splitOnce_eq_splitAtText (separator : Char) : ∀ text : Text,
    splitOnce text separator = splitAtText [separator] text
  | [] => rfl
  | c :: rest => by
    have hrest := splitOnce_eq_splitAtText separator rest
    rw [splitAtText, ← hrest, splitOnce, splitOnce]
    by_cases hc : c = separator
    · simp [hc, List.dropPrefix?]
    · simp only [List.dropPrefix?, beq_iff_eq, hc, ne_eq, not_false_eq_true, decide_true,
        List.dropWhile_cons_of_pos, List.takeWhile_cons_of_pos, if_false]
      cases rest.dropWhile (fun c => decide (c ≠ separator)) <;> rfl

section Lines

variable (isAlphanumeric : Char → Bool)

/-- The longest name that a text starts with. -/
def StartsWithName (text name : Text) : Prop :=
  name = text.takeWhile (isNameChar isAlphanumeric) ∧ name ≠ []

/-- The longest name that a text ends with, spaces aside. -/
def EndsWithName (text name : Text) : Prop :=
  StartsWithName isAlphanumeric (text.reverse.dropWhile isWhitespace) name.reverse

/-- The variable whose clone a line is taken for: that of the first `Rc::clone`, of the first
`Arc::clone` if there is none, and otherwise of the first `.clone()` behind the first equals
sign. -/
inductive Yields (line : Text) : Text → Prop
  | rc {front back name : Text} : FirstSplit "Rc::clone(&".toList line front back →
      StartsWithName isAlphanumeric back name → Yields line name
  | arc {front back name : Text} : ¬ "Rc::clone(&".toList <:+: line →
      FirstSplit "Arc::clone(&".toList line front back →
      StartsWithName isAlphanumeric back name → Yields line name
  | method {target value front back name : Text} : ¬ "Rc::clone(&".toList <:+: line →
      ¬ "Arc::clone(&".toList <:+: line → FirstSplit ['='] line target value →
      FirstSplit ".clone()".toList value front back → EndsWithName isAlphanumeric front name →
      Yields line name

variable {isAlphanumeric}

theorem Yields.unique {line name name' : Text} (h : Yields isAlphanumeric line name)
    (h' : Yields isAlphanumeric line name') : name = name' := by
  have hwithin : ∀ {pattern front back : Text}, FirstSplit pattern line front back →
      pattern <:+: line :=
    fun hfirst => ⟨_, _, by rw [List.append_assoc, ← hfirst.split]⟩
  cases h with
  | rc hfirst hname =>
    cases h' with
    | rc hfirst' hname' =>
      obtain ⟨-, rfl⟩ := hfirst.unique hfirst'
      exact hname.1.trans hname'.1.symm
    | arc hnone => exact absurd (hwithin hfirst) hnone
    | method hnone => exact absurd (hwithin hfirst) hnone
  | arc hnone hfirst hname =>
    cases h' with
    | rc hfirst' => exact absurd (hwithin hfirst') hnone
    | arc _ hfirst' hname' =>
      obtain ⟨-, rfl⟩ := hfirst.unique hfirst'
      exact hname.1.trans hname'.1.symm
    | method _ hnone' => exact absurd (hwithin hfirst) hnone'
  | method hnone hnone' htarget hfirst hname =>
    cases h' with
    | rc hfirst' => exact absurd (hwithin hfirst') hnone
    | arc _ hfirst' => exact absurd (hwithin hfirst') hnone'
    | method _ _ htarget' hfirst' hname' =>
      obtain ⟨-, rfl⟩ := htarget.unique htarget'
      obtain ⟨rfl, -⟩ := hfirst.unique hfirst'
      exact List.reverse_injective (hname.1.trans hname'.1.symm)

theorem nonEmptyName_eq_some {name : Text} {text : String} (h : nonEmptyName name = some text) :
    text.toList = name ∧ name ≠ [] := by
  rw [nonEmptyName] at h
  split at h
  · cases h
  · case isFalse hempty =>
    cases h
    exact ⟨String.toList_ofList, fun hnil => hempty (List.isEmpty_iff.mpr hnil)⟩

theorem endsWithName_of_lastName {text : Text} {name : String}
    (h : lastName isAlphanumeric (text.reverse.dropWhile isWhitespace).reverse =
      some (some name)) :
    EndsWithName isAlphanumeric text name.toList := by
  rw [lastName, List.reverse_reverse] at h
  split at h
  case h_1 =>
    split at h
    · obtain ⟨hname, hne⟩ := nonEmptyName_eq_some (Option.some.inj h)
      rw [EndsWithName, StartsWithName, hname, List.reverse_reverse]
      exact ⟨rfl, fun hnil => hne (List.reverse_eq_nil_iff.mpr hnil)⟩
    · cases h
  case h_2 hnil =>
    obtain ⟨hname, hne⟩ := nonEmptyName_eq_some (Option.some.inj h)
    rw [EndsWithName, StartsWithName, hname, List.reverse_reverse]
    refine ⟨?_, fun hnil => hne (List.reverse_eq_nil_iff.mpr hnil)⟩
    have hall := List.takeWhile_append_dropWhile (p := isNameChar isAlphanumeric)
      (l := text.reverse.dropWhile isWhitespace)
    rw [hnil, List.append_nil] at hall
    exact hall.symm

/-- The search of the source finds what a line yields. -/
theorem yields_of_clonedNameInLine {line : Text} {name : String}
    (h : clonedNameInLine isAlphanumeric line = some (some name)) :
    Yields isAlphanumeric line name.toList := by
  have hstart : ∀ {candidate : Text},
      some (nonEmptyName (candidate.takeWhile (isNameChar isAlphanumeric))) = some (some name) →
        StartsWithName isAlphanumeric candidate name.toList := by
    intro candidate h
    obtain ⟨hname, hne⟩ := nonEmptyName_eq_some (Option.some.inj h)
    exact ⟨hname, hname ▸ hne⟩
  rw [clonedNameInLine] at h
  cases hrc : splitAtText "Rc::clone(&".toList line with
  | some found =>
    rw [List.findSome?_cons, hrc] at h
    exact .rc (firstSplit_of_splitAtText hrc) (hstart h)
  | none =>
    have hnorc := not_infix_of_splitAtText hrc
    cases harc : splitAtText "Arc::clone(&".toList line with
    | some found =>
      rw [List.findSome?_cons, hrc, List.findSome?_cons, harc] at h
      exact .arc hnorc (firstSplit_of_splitAtText harc) (hstart h)
    | none =>
      rw [List.findSome?_cons, hrc, List.findSome?_cons, harc, List.findSome?_nil,
        splitOnce_eq_splitAtText] at h
      cases htarget : splitAtText ['='] line with
      | none =>
        rw [htarget] at h
        cases h
      | some parts =>
        obtain ⟨target, value⟩ := parts
        simp only [htarget] at h
        cases hclone : splitAtText ".clone()".toList value with
        | none =>
          rw [hclone] at h
          cases h
        | some parts =>
          simp only [hclone] at h
          exact .method hnorc (not_infix_of_splitAtText harc) (firstSplit_of_splitAtText htarget)
            (firstSplit_of_splitAtText hclone) (endsWithName_of_lastName h)

end Lines

/-! ## The property -/

def OwnershipBinding.DeclaredBefore (source destination : OwnershipBinding) : Prop :=
  source.binding.path = destination.binding.path ∧
    source.binding.byteStart < destination.binding.byteStart

instance (source destination : OwnershipBinding) : Decidable (source.DeclaredBefore destination) :=
  inferInstanceAs (Decidable (_ ∧ _))

/-- The latest binding of its name that is declared before the destination in its body. -/
structure InScope (bindings : List OwnershipBinding) (source destination : OwnershipBinding) :
    Prop where
  mem : source ∈ bindings
  body : source.bodyId = destination.bodyId
  before : source.DeclaredBefore destination
  latest : ∀ other ∈ bindings, other.bodyId = destination.bodyId →
    other.binding.name = source.binding.name → other.DeclaredBefore destination →
    other.binding.byteStart ≤ source.binding.byteStart

section Declarations

variable (isAlphanumeric : Char → Bool) (sources : Assoc.Map Path RepairSource)
  (statementLength : OwnershipBinding → Nat) (bindings : List OwnershipBinding)
  (destination : OwnershipBinding)

/-- The statement that declares a binding, from the name of the binding on. -/
def statementText : Text :=
  match (sources.get? destination.binding.path).bind RepairSource.source with
  | none => []
  | some source =>
    ((Splice.cut Char.utf8Size destination.binding.byteStart source).map Prod.snd).elim []
      (List.take (statementLength destination))

/-- The statement of the destination clones the source, which is in scope there. -/
structure FromDeclaration (source : OwnershipBinding) : Prop where
  clones : Clones isAlphanumeric source.binding.name.toList
    (statementText sources statementLength destination)
  scope : InScope bindings source destination

/-! ## When clones are read right -/

/-- The physical line of a binding. -/
def sourceLine : Option Text :=
  ((sources.get? destination.binding.path).bind RepairSource.source).bind fun source =>
    (Splice.cut Char.utf8Size destination.binding.byteStart source).map fun (before, after) =>
      lineAround before after

/-- A variable that the line of the binding yields is one that its own statement clones. -/
def LineReadsStatement : Prop :=
  ∀ line ∈ sourceLine sources destination, ∀ name, Yields isAlphanumeric line name →
    Clones isAlphanumeric name (statementText sources statementLength destination)

/-- The first binding of that name in the body is declared before, and no other one between the
two. -/
def FirstUnshadowed : Prop :=
  ∀ line ∈ sourceLine sources destination, ∀ name, Yields isAlphanumeric line name →
    ∀ first ∈ bindings.find? fun source =>
        source.bodyId = destination.bodyId && source.binding.name.toList = name,
      first.DeclaredBefore destination ∧
        ∀ other ∈ bindings, other.bodyId = destination.bodyId → other.binding.name.toList = name →
          other.DeclaredBefore destination → ¬ first.binding.byteStart < other.binding.byteStart

end Declarations

section Reading

variable {isAlphanumeric : Char → Bool} {sources : Assoc.Map Path RepairSource}
  {statementLength : OwnershipBinding → Nat} {bindings : List OwnershipBinding}
  {destination : OwnershipBinding} {name : String}

section CloneSource

variable (h : sharedCloneSource isAlphanumeric sources destination = some (some name))

include h

/-- What the source reads is what the line of the binding yields, and nothing else. -/
theorem sourceLine_of_sharedCloneSource :
    ∃ line, sourceLine sources destination = some line ∧
      ∀ text, Yields isAlphanumeric line text ↔ text = name.toList := by
  rw [sharedCloneSource] at h
  rw [sourceLine]
  split at h
  case h_1 => cases h
  case h_2 source hsource =>
    split at h
    · cases h
    · obtain ⟨⟨before, after⟩, hcut, h⟩ := Option.bind_eq_some_iff.mp h
      have hyields := yields_of_clonedNameInLine h
      refine ⟨lineAround before after, ?_, fun text => ⟨(·.unique hyields), (· ▸ hyields)⟩⟩
      rw [hsource, Option.bind_some, hcut]
      rfl

theorem lineReadsStatement_iff :
    LineReadsStatement isAlphanumeric sources statementLength destination ↔
      Clones isAlphanumeric name.toList (statementText sources statementLength destination) := by
  obtain ⟨line, hline, hyields⟩ := sourceLine_of_sharedCloneSource h
  simp [LineReadsStatement, hline, hyields]

theorem firstUnshadowed_iff :
    FirstUnshadowed isAlphanumeric sources bindings destination ↔
      ∀ first ∈ bindings.find? fun source =>
          source.bodyId = destination.bodyId && source.binding.name = name,
        first.DeclaredBefore destination ∧
          ∀ other ∈ bindings, other.bodyId = destination.bodyId → other.binding.name = name →
            other.DeclaredBefore destination →
            ¬ first.binding.byteStart < other.binding.byteStart := by
  obtain ⟨line, hline, hyields⟩ := sourceLine_of_sharedCloneSource h
  simp [FirstUnshadowed, hline, hyields, String.toList_inj]

end CloneSource

end Reading

/-! ## Runs -/

section Runs

variable {isAlphanumeric : Char → Bool} {sources : Assoc.Map Path RepairSource}
  {bindings : List OwnershipBinding} {events : List OwnershipEvent} {loans : List OwnershipLoan}
  {steps : List BuildStep} {destination : OwnershipBinding} {sourceName : Option String}

/-- The name of a clone is the one that the line yields. -/
theorem sharedCloneSource_of_mem
    (hsteps : buildSteps isAlphanumeric sources bindings events loans = some steps)
    (hmem : .derivedClone destination sourceName ∈ steps) :
    sharedCloneSource isAlphanumeric sources destination = some sourceName := by
  obtain ⟨clones, hclones, hall⟩ := Option.bind_eq_some_iff.mp hsteps
  obtain rfl := Option.some.inj hall
  have hclone : .derivedClone destination sourceName ∈ clones := by
    simpa using hmem
  obtain ⟨destination', -, hread⟩ := (Search.mem_mapM_some hclones).1 _ hclone
  obtain ⟨name, hname, hstep⟩ := Option.map_eq_some_iff.mp hread
  cases hstep
  exact hname

theorem derivedTransfer_source {graph : MemoryGraph} {source : OwnershipBinding}
    {transfer : Transfer}
    (h : derivedTransfer bindings graph destination sourceName = some (source, transfer)) :
    ∃ name, sourceName = some name ∧ bindings.find? (fun source =>
      source.bodyId = destination.bodyId && source.binding.name = name) = some source := by
  obtain ⟨name, hname, h⟩ := Option.bind_eq_some_iff.mp h
  obtain ⟨first, hfirst, h⟩ := Option.bind_eq_some_iff.mp h
  obtain ⟨transfer', -, h⟩ := Option.bind_eq_some_iff.mp h
  split at h
  · cases h
    exact ⟨name, hname, hfirst⟩
  · cases h

end Runs

/-- **A clone that the builder reads off the text comes from the declaration of its destination**
just where the line yields a name that the statement clones and the first binding of that name is
not shadowed. -/
theorem derived_clone_declared_iff (isAlphanumeric : Char → Bool)
    (sources : Assoc.Map Path RepairSource) (statementLength : OwnershipBinding → Nat)
    (bindings : List OwnershipBinding) (events : List OwnershipEvent) (loans : List OwnershipLoan)
    (steps done rest : List BuildStep) (destination source : OwnershipBinding)
    (sourceName : Option String) (transfer : Transfer)
    (hsteps : buildSteps isAlphanumeric sources bindings events loans = some steps)
    (hstep : steps = done ++ .derivedClone destination sourceName :: rest)
    (hadded : derivedTransfer bindings (graphAfter bindings done) destination sourceName =
      some (source, transfer)) :
    FromDeclaration isAlphanumeric sources statementLength bindings destination source ↔
      LineReadsStatement isAlphanumeric sources statementLength destination ∧
        FirstUnshadowed isAlphanumeric sources bindings destination := by
  obtain ⟨name, rfl, hfirst⟩ := derivedTransfer_source hadded
  have hread : sharedCloneSource isAlphanumeric sources destination = some (some name) :=
    sharedCloneSource_of_mem hsteps (hstep ▸ List.mem_append_right _ List.mem_cons_self)
  rw [lineReadsStatement_iff hread, firstUnshadowed_iff hread]
  have hsource := List.find?_some hfirst
  simp only [Bool.and_eq_true, decide_eq_true_eq] at hsource
  obtain ⟨hbody, rfl⟩ := hsource
  constructor
  · intro h
    refine ⟨h.clones, fun first hfirst' => ?_⟩
    obtain rfl := Option.some.inj (hfirst.symm.trans hfirst')
    exact ⟨h.scope.before, fun other hother hbody' hname hbefore =>
      (h.scope.latest other hother hbody' hname hbefore).not_gt⟩
  · rintro ⟨hclones, hunshadowed⟩
    obtain ⟨hbefore, hbetween⟩ := hunshadowed source hfirst
    refine ⟨hclones, List.mem_of_find?_eq_some hfirst, hbody, hbefore, ?_⟩
    intro other hother hbody' hname hbefore'
    exact Nat.le_of_not_lt (hbetween other hother hbody' hname hbefore')

/-! ## Programs -/

/-- A statement ends with its semicolon. -/
def toSemicolon (text : Text) (byteStart : Nat) : Nat :=
  ((text.drop byteStart).takeWhile (· ≠ ';')).length + 1

theorem exists_transfer {bindings : List OwnershipBinding} {graph : MemoryGraph}
    {destination source : OwnershipBinding} {name : Option String}
    (h : ((derivedTransfer bindings graph destination name).any fun found =>
      found.1 = source) = true) :
    ∃ transfer, derivedTransfer bindings graph destination name = some (source, transfer) := by
  obtain ⟨⟨source', transfer⟩, hfound, hsource⟩ := (Option.any_eq_true _ _).mp h
  obtain rfl : source' = source := of_decide_eq_true hsource
  exact ⟨transfer, hfound⟩

/-- The text of `rcSources`, which has every statement on a line of its own. -/
def twoLines : Text := "let a = Rc::new(5);\nlet mut b = Rc::clone(&a);\nb = a;".toList

theorem rcClone_declared :
    FromDeclaration Char.isAlphanum rcSources
      (fun binding => toSemicolon twoLines binding.binding.byteStart) rcBindings (rcBinding "b" 28)
      (rcBinding "a" 4) := by
  obtain ⟨transfer, hadded⟩ : ∃ transfer, derivedTransfer rcBindings (graphAfter rcBindings rcStart)
      (rcBinding "b" 28) (some "a") = some (rcBinding "a" 4, transfer) :=
    exists_transfer (by decide +kernel)
  have hread : sharedCloneSource Char.isAlphanum rcSources (rcBinding "b" 28) = some (some "a") := by
    decide +kernel
  refine (derived_clone_declared_iff Char.isAlphanum rcSources _ rcBindings [] []
    (rcStart ++ [rcClone]) rcStart [] _ _ (some "a") transfer (by decide +kernel) rfl hadded).mpr ?_
  rw [lineReadsStatement_iff hread, firstUnshadowed_iff hread]
  decide +kernel

/-- `b` and `c` are declared on one line. -/
def oneLine : Text := "let a = Rc::new(1);\nlet b = Rc::clone(&a); let c = Rc::new(2);".toList

def oneLineBindings : List OwnershipBinding :=
  [rcBinding "a" 4, rcBinding "b" 24, rcBinding "c" 47]

def oneLineSources : Assoc.Map Path RepairSource := sourceMap (String.ofList oneLine)

def oneLineStart : List BuildStep :=
  oneLineBindings.map .binding ++ [.derivedClone (rcBinding "a" 4) none,
    .derivedClone (rcBinding "b" 24) (some "a")]

/-- The value of `c` is taken for a clone of `a`. -/
theorem neighbour_taken_for_clone :
    buildSteps Char.isAlphanum oneLineSources oneLineBindings [] [] =
        some (oneLineStart ++ [.derivedClone (rcBinding "c" 47) (some "a")]) ∧
      (∃ transfer, derivedTransfer oneLineBindings (graphAfter oneLineBindings oneLineStart)
        (rcBinding "c" 47) (some "a") = some (rcBinding "a" 4, transfer)) ∧
      statementText oneLineSources (fun binding => toSemicolon oneLine binding.binding.byteStart)
        (rcBinding "c" 47) = "c = Rc::new(2);".toList ∧
      ¬ FromDeclaration Char.isAlphanum oneLineSources
        (fun binding => toSemicolon oneLine binding.binding.byteStart) oneLineBindings
        (rcBinding "c" 47) (rcBinding "a" 4) := by
  have htext : statementText oneLineSources
      (fun binding => toSemicolon oneLine binding.binding.byteStart) (rcBinding "c" 47) =
        "c = Rc::new(2);".toList := by decide +kernel
  refine ⟨by decide +kernel, exists_transfer (by decide +kernel), htext, fun h => ?_⟩
  have hclones := h.clones
  rw [htext] at hclones
  exact absurd hclones (by decide +kernel)

end RustWorkbench.Compiler
