import RustWorkbench.Analyzer.Types
import Mathlib.Data.List.Forall2

/-!
# Ownership modifiers of semantic tokens

`enrich_ownership_tokens` walks over the tokens of a file, which come with the distance from the token
before, and adds to each the modifiers of the events at its range.  An event belongs to a token that
has a character in common with it; the test also passes for one that merely touches it.

* `enrichOwnershipTokens_eq` — each token is enriched at the range where it is.
* `ownership_modifiers_exact_iff` — the modifiers are right exactly if events that merely touch a token
  have nothing to add to it.
-/

namespace RustWorkbench.Analyzer

structure SemanticToken where
  deltaLine : Nat
  deltaStart : Nat
  length : Nat
  tokenType : Nat
  tokenModifiersBitset : BitVec 32
  deriving DecidableEq, Repr

/-! ## The code -/

/-- `OwnershipEventKind::modifier`. -/
def OwnershipEventKind.modifier : OwnershipEventKind → String
  | .borrowActivate => "borrowedMut"
  | .borrowEnd => "borrowEnd"
  | .borrowMutable => "borrowedMut"
  | .borrowShared => "borrowed"
  | .clone => "clone"
  | .copy => "copy"
  | .drop => "dropped"
  | .invalidUse => "invalidUse"
  | .lastUse => "lastUse"
  | .move => "moved"
  | .partialMove => "partialMove"
  | OwnershipEventKind.reinitialize => "reinitialized"

/-- `SupportedModifiers`, by their names. -/
def supportedModifiers : List String :=
  ["async", "documentation", "declaration", "static", "defaultLibrary", "deprecated", "dropped",
    "associated", "attribute", "borrowEnd", "borrowed", "borrowedMut", "callable", "constant",
    "consuming", "controlFlow", "crateRoot", "injected", "intraDocLink", "invalidUse", "library",
    "lastUse", "macro", "moved", "mutable", "partialMove", "procMacro", "public", "reference",
    "reinitialized", "trait", "unsafe"]

/-- Clones and copies have no modifier of their own. -/
def modifierBit (name : String) : Option (BitVec 32) :=
  (supportedModifiers.findIdx? (· = name)).map fun index => 1#32 <<< index

def lspRangesOverlap (left right : Range) : Bool :=
  left.start ≤ right.stop && right.start ≤ left.stop

/-- The start of a token, from the start of the one before; `u32` additions wrap. -/
def advance (before : Position) (token : SemanticToken) : Position where
  line := (before.line + token.deltaLine) % 2 ^ 32
  character :=
    if token.deltaLine = 0 then (before.character + token.deltaStart) % 2 ^ 32 else token.deltaStart

def tokenRange (start : Position) (token : SemanticToken) : Range :=
  ⟨start, ⟨start.line, (start.character + token.length) % 2 ^ 32⟩⟩

/-- The loop over the events of a token. -/
def addModifiers (range : Range) : List OwnershipEvent → BitVec 32 → BitVec 32
  | [], bits => bits
  | event :: events, bits =>
    addModifiers range events <|
      if lspRangesOverlap event.range range then
        match modifierBit event.kind.modifier with
        | some bit => bits ||| bit
        | none => bits
      else bits

def enrichToken (events : List OwnershipEvent) (range : Range) (token : SemanticToken) :
    SemanticToken :=
  { token with tokenModifiersBitset := addModifiers range events token.tokenModifiersBitset }

def enrichFrom (events : List OwnershipEvent) : Position → List SemanticToken → List SemanticToken
  | _, [] => []
  | before, token :: tokens =>
    let start := advance before token
    enrichToken events (tokenRange start token) token :: enrichFrom events start tokens

def enrichOwnershipTokens (tokens : List SemanticToken) (events : List OwnershipEvent) :
    List SemanticToken :=
  enrichFrom events ⟨0, 0⟩ tokens

/-! ## What the tokens should gain -/

/-- The ranges that a list of tokens stands for, behind a position. -/
def absoluteRanges : Position → List SemanticToken → List Range
  | _, [] => []
  | before, token :: tokens =>
    let start : Position :=
      if token.deltaLine = 0 then ⟨before.line, before.character + token.deltaStart⟩
      else ⟨before.line + token.deltaLine, token.deltaStart⟩
    ⟨start, ⟨start.line, start.character + token.length⟩⟩ :: absoluteRanges start tokens

/-- The tokens of a file, each with its range. -/
def placed (tokens : List SemanticToken) : List (SemanticToken × Range) :=
  tokens.zip (absoluteRanges ⟨0, 0⟩ tokens)

/-- The list encodes tokens at positions of 32 bits. -/
def Encoded (tokens : List SemanticToken) : Prop :=
  ∀ range ∈ absoluteRanges ⟨0, 0⟩ tokens, range.stop.line < 2 ^ 32 ∧ range.stop.character < 2 ^ 32

def SharesCharacter (left right : Range) : Prop :=
  ∃ position, (left.start ≤ position ∧ position < left.stop) ∧
    right.start ≤ position ∧ position < right.stop

/-- The event has the modifier of this bit. -/
def HasModifier (event : OwnershipEvent) (i : Nat) : Prop :=
  ∃ bit ∈ modifierBit event.kind.modifier, bit.getLsbD i = true

/-- The second token is the first with the modifiers of the events that share a character with it. -/
structure GainsExactly (events : List OwnershipEvent) (range : Range)
    (token token' : SemanticToken) : Prop where
  rest : token' = { token with tokenModifiersBitset := token'.tokenModifiersBitset }
  bits : ∀ i, token'.tokenModifiersBitset.getLsbD i = true ↔
    token.tokenModifiersBitset.getLsbD i = true ∨
      ∃ event ∈ events, SharesCharacter event.range range ∧ HasModifier event i

/-- The event ends where the token starts, starts where it ends, or one of the two is empty. -/
def MerelyTouches (left right : Range) : Prop :=
  lspRangesOverlap left right = true ∧ ¬ SharesCharacter left right

theorem overlap_of_sharesCharacter {left right : Range} (h : SharesCharacter left right) :
    lspRangesOverlap left right = true := by
  obtain ⟨position, ⟨hleft, hleft'⟩, hright, hright'⟩ := h
  simp only [lspRangesOverlap, Bool.and_eq_true, decide_eq_true_eq]
  exact ⟨hleft.trans hright'.le, hright.trans hleft'.le⟩

/-! ## One token -/

theorem getLsbD_addModifiers {range : Range} {i : Nat} :
    ∀ {events : List OwnershipEvent} {bits : BitVec 32},
      (addModifiers range events bits).getLsbD i = true ↔ bits.getLsbD i = true ∨
        ∃ event ∈ events, lspRangesOverlap event.range range = true ∧ HasModifier event i
  | [], bits => by simp [addModifiers]
  | event :: events, bits => by
    rw [addModifiers, getLsbD_addModifiers, List.exists_mem_cons_iff, ← or_assoc]
    refine or_congr_left ?_
    split
    · next hoverlap =>
      cases hbit : modifierBit event.kind.modifier with
      | none => simp [HasModifier, hbit]
      | some bit => simp [HasModifier, hbit, hoverlap]
    · next hoverlap => simp [hoverlap]

theorem gainsExactly_enrichToken_iff {events : List OwnershipEvent} {range : Range}
    {token : SemanticToken} :
    GainsExactly events range token (enrichToken events range token) ↔
      ∀ event ∈ events, MerelyTouches event.range range → ∀ i, HasModifier event i →
        token.tokenModifiersBitset.getLsbD i = true ∨
          ∃ other ∈ events, SharesCharacter other.range range ∧ HasModifier other i := by
  constructor
  · intro h event hevent htouches i hi
    exact (h.bits i).mp (getLsbD_addModifiers.mpr (.inr ⟨event, hevent, htouches.1, hi⟩))
  · intro h
    refine ⟨rfl, fun i => getLsbD_addModifiers.trans ⟨?_, ?_⟩⟩
    · rintro (hbit | ⟨event, hevent, hoverlap, hi⟩)
      · exact .inl hbit
      · by_cases hshares : SharesCharacter event.range range
        · exact .inr ⟨event, hevent, hshares, hi⟩
        · exact h event hevent ⟨hoverlap, hshares⟩ i hi
    · rintro (hbit | ⟨event, hevent, hshares, hi⟩)
      · exact .inl hbit
      · exact .inr ⟨event, hevent, overlap_of_sharesCharacter hshares, hi⟩

/-! ## All tokens -/

/-- The positions of the walk are those of the encoded tokens. -/
theorem enrichFrom_eq {events : List OwnershipEvent} :
    ∀ {tokens : List SemanticToken} {before : Position},
      (∀ range ∈ absoluteRanges before tokens,
        range.stop.line < 2 ^ 32 ∧ range.stop.character < 2 ^ 32) →
      enrichFrom events before tokens = (tokens.zip (absoluteRanges before tokens)).map
        fun (token, range) => enrichToken events range token
  | [], _, _ => rfl
  | token :: tokens, before, h => by
    obtain ⟨⟨hline, hstop⟩, hrest⟩ := List.forall_mem_cons.mp h
    have hadvance : advance before token =
        if token.deltaLine = 0 then ⟨before.line, before.character + token.deltaStart⟩
        else ⟨before.line + token.deltaLine, token.deltaStart⟩ := by
      unfold advance
      by_cases hsame : token.deltaLine = 0
      · simp only [hsame, if_true, Position.mk.injEq] at hline hstop ⊢
        omega
      · simp only [hsame, if_false, Position.mk.injEq, and_true] at hline hstop ⊢
        omega
    rw [enrichFrom, absoluteRanges, List.zip_cons_cons, List.map_cons, hadvance,
      enrichFrom_eq hrest, tokenRange, Nat.mod_eq_of_lt hstop]

theorem enrichOwnershipTokens_eq {tokens : List SemanticToken} (h : Encoded tokens)
    (events : List OwnershipEvent) :
    enrichOwnershipTokens tokens events =
      (placed tokens).map fun (token, range) => enrichToken events range token :=
  enrichFrom_eq h

/-- **The modifiers of a list of tokens are right** exactly if every modifier of an event that merely
touches a token is one that the token has or gets from an event it shares a character with. -/
theorem ownership_modifiers_exact_iff {tokens : List SemanticToken} (h : Encoded tokens)
    (events : List OwnershipEvent) :
    List.Forall₂ (fun (token, range) token' => GainsExactly events range token token')
        (placed tokens) (enrichOwnershipTokens tokens events) ↔
      ∀ place ∈ placed tokens, ∀ event ∈ events, MerelyTouches event.range place.2 →
        ∀ i, HasModifier event i → place.1.tokenModifiersBitset.getLsbD i = true ∨
          ∃ other ∈ events, SharesCharacter other.range place.2 ∧ HasModifier other i := by
  rw [enrichOwnershipTokens_eq h, List.forall₂_map_right_iff, List.forall₂_same]
  exact forall₂_congr fun _ _ => gainsExactly_enrichToken_iff

/-- The event of a move at a range. -/
def moveAt (range : Range) : OwnershipEvent where
  eventId := "event"
  bodyId := 1
  basicBlock := 0
  statementIndex := 0
  kind := .move
  state := .moved
  range := range
  bindingRange := range
  name := "value"
  place := "value"
  loanId := none
  exact := true
  detail := none
  destination := none

/-- A token that is moved. -/
theorem moved_token_exact :
    let tokens : List SemanticToken := [⟨3, 4, 5, 0, 0⟩]
    let events := [moveAt ⟨⟨3, 4⟩, ⟨3, 9⟩⟩]
    List.Forall₂ (fun (token, range) token' => GainsExactly events range token token')
        (placed tokens) (enrichOwnershipTokens tokens events) ∧
      (enrichOwnershipTokens tokens events).map (·.tokenModifiersBitset) = [1#32 <<< 23] := by
  have hencoded : Encoded [⟨3, 4, 5, 0, 0⟩] :=
    List.forall_mem_singleton.mpr ⟨by decide, by decide⟩
  refine ⟨(ownership_modifiers_exact_iff hencoded _).mpr ?_, by decide⟩
  have hshares : SharesCharacter ⟨⟨3, 4⟩, ⟨3, 9⟩⟩ ⟨⟨3, 4⟩, ⟨3, 9⟩⟩ :=
    ⟨⟨3, 4⟩, ⟨by decide, by decide⟩, by decide, by decide⟩
  refine List.forall_mem_singleton.mpr (List.forall_mem_singleton.mpr fun htouches => ?_)
  exact absurd hshares htouches.2

/-- **The token behind a moved value is marked as moved.**  In `f(a)` the parenthesis starts where the
move of `a` ends. -/
theorem touching_token_marked :
    let tokens : List SemanticToken := [⟨0, 2, 1, 0, 0⟩, ⟨0, 1, 1, 1, 0⟩]
    let events := [moveAt ⟨⟨0, 2⟩, ⟨0, 3⟩⟩]
    Encoded tokens ∧ ¬ SharesCharacter ⟨⟨0, 2⟩, ⟨0, 3⟩⟩ ⟨⟨0, 3⟩, ⟨0, 4⟩⟩ ∧
      (enrichOwnershipTokens tokens events).map (·.tokenModifiersBitset)
        = [1#32 <<< 23, 1#32 <<< 23] ∧
      ¬ List.Forall₂ (fun (token, range) token' => GainsExactly events range token token')
        (placed tokens) (enrichOwnershipTokens tokens events) := by
  have hapart : ¬ SharesCharacter ⟨⟨0, 2⟩, ⟨0, 3⟩⟩ ⟨⟨0, 3⟩, ⟨0, 4⟩⟩ := by
    rintro ⟨position, ⟨-, hbefore⟩, hafter, -⟩
    exact absurd (hafter.trans_lt hbefore) (lt_irrefl _)
  refine ⟨?_, hapart, by decide, fun h => ?_⟩
  · exact List.forall_mem_cons.mpr ⟨⟨by decide, by decide⟩,
      List.forall_mem_singleton.mpr ⟨by decide, by decide⟩⟩
  · obtain ⟨-, h⟩ := List.forall₂_cons.mp h
    obtain ⟨hparenthesis, -⟩ := List.forall₂_cons.mp h
    rcases (hparenthesis.bits 23).mp (by decide) with hbit | ⟨event, hevent, hshares, -⟩
    · exact absurd hbit (by decide)
    · obtain rfl := List.mem_singleton.mp hevent
      exact hapart hshares

end RustWorkbench.Analyzer
