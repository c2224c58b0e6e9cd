import RustWorkbench.Compiler.GraphTypes

/-!
# The memory layers of a type

`memory_layers` describes a binding by its place on the stack and by what its type leads to, one
wrapper inside the other, down to a depth of 12.  A type is known by its kind, its text and its
layout.

* `pushMemoryLayers` — the recursion, over the table `wrappers` of the types it knows.
* `length_memoryLayers_of_stops` — a type that is not expanded to its end has more layers than the
  graph takes.
-/

namespace RustWorkbench.Compiler

variable {T : Type}

/-- `ty.kind()`; of the arguments of a named type only the first type is read. -/
inductive TyKind (T : Type)
  | ref (mutable : Bool) (pointee : T)
  | rawPtr (mutable : Bool) (pointee : T)
  | array | tuple | str | slice | dynamic
  | adt (path : String) (inner : Option T)
  | other

structure Types (T : Type) where
  kind : T → TyKind T
  text : T → String
  layout : T → Option Nat × Option Nat

/-- The layers that are conceptual even if they have a size. -/
def MemoryKind.isConceptual : MemoryKind → Bool
  | arcAllocation | containerBuffer | fatPointerMetadata | pinConstraint | rcAllocation
  | stringBuffer | vecBuffer | weakAllocation => true
  | _ => false

/-- A layer as it is serialized. -/
def memoryLayer (kind : MemoryKind) (storage : MemoryStorage) (label typeName : String)
    (layout : Option Nat × Option Nat) : MemoryLayer where
  kind := kind
  storage := storage
  label := label
  typeName := typeName
  size := layout.1
  align := layout.2
  provenance := if layout.1.isSome && !kind.isConceptual then "target_layout" else "conceptual"

/-! ## Named types -/

/-- A layer that a wrapper adds, of its own type or of its argument. -/
structure WrapperLayer where
  kind : MemoryKind
  storage : MemoryStorage
  label : String
  ofInner : Bool
  exactLayout : Bool

/-- One branch over the path of a named type. -/
structure Wrapper where
  suffixes : List String
  layers : List WrapperLayer
  needsInner : Bool
  recurses : Bool

/-- A wrapper around an inline value. -/
def inlineWrapper (suffixes : List String) (kind : MemoryKind) (label : String) : Wrapper :=
  ⟨suffixes, [⟨kind, .inline, label, false, true⟩], true, true⟩

def wrappers : List Wrapper :=
  [⟨["::boxed::Box"],
      [⟨.boxHandle, .inline, "Box handle (unique owner)", false, true⟩,
        ⟨.boxAllocation, .heap, "Box allocation containing the owned value", true, true⟩],
      true, true⟩,
    ⟨["::rc::Rc"],
      [⟨.rcHandle, .inline, "Rc handle (shared owner)", false, true⟩,
        ⟨.rcAllocation, .heap, "Rc allocation containing the value and strong/weak counters", true,
          false⟩], true, true⟩,
    ⟨["::sync::Arc"],
      [⟨.arcHandle, .inline, "Arc handle (thread-safe shared owner)", false, true⟩,
        ⟨.arcAllocation, .heap, "Arc allocation containing the value and atomic counters", true,
          false⟩], true, true⟩,
    ⟨["::rc::Weak", "::sync::Weak"],
      [⟨.weakHandle, .inline, "Weak handle (non-owning shared reference)", false, true⟩,
        ⟨.weakAllocation, .heap, "shared control block (the value may already be dropped)", true,
          false⟩], true, false⟩,
    ⟨["::pin::Pin"],
      [⟨.pinConstraint, .conceptual, "pinning constraint (not a storage location)", true, false⟩],
      true, true⟩,
    ⟨["::ptr::non_null::NonNull"],
      [⟨.rawPointer, .inline, "non-null raw pointer (non-owning; unsafe access contract)", true,
        false⟩], true, false⟩,
    inlineWrapper ["::cell::Cell"] .cellState "interior-mutable inline value (copy in/out)",
    inlineWrapper ["::cell::RefCell"] .refCellState "runtime borrow flag and interior value",
    inlineWrapper ["::cell::UnsafeCell"] .unsafeCellState "unsafe interior-mutation boundary",
    inlineWrapper ["::cell::OnceCell", "::cell::once::OnceCell", "::sync::once_lock::OnceLock"]
      .onceState "one-time initialization state and conditional value",
    inlineWrapper ["::sync::poison::mutex::Mutex", "::sync::Mutex"] .mutexState
      "exclusive lock state and interior value",
    inlineWrapper ["::sync::poison::rwlock::RwLock", "::sync::RwLock"] .rwLockState
      "reader/writer lock state and interior value",
    ⟨["::sync::poison::mutex::MutexGuard", "::sync::MutexGuard",
        "::sync::poison::rwlock::RwLockReadGuard", "::sync::RwLockReadGuard",
        "::sync::poison::rwlock::RwLockWriteGuard", "::sync::RwLockWriteGuard", "::cell::Ref",
        "::cell::RefMut"],
      [⟨.guardState, .inline, "temporary guard; access ends when this value is dropped", false,
        true⟩], false, false⟩,
    ⟨["::vec::Vec"],
      [⟨.vecHeader, .inline, "pointer, length, and capacity", false, true⟩,
        ⟨.vecBuffer, .heap, "element buffer (capacity is runtime data)", true, false⟩],
      false, false⟩,
    ⟨["::string::String"],
      [⟨.stringHeader, .inline, "UTF-8 pointer, length, and capacity", false, true⟩,
        ⟨.stringBuffer, .heap, "UTF-8 byte buffer (capacity is runtime data)", false, false⟩],
      false, false⟩,
    ⟨["::collections::vec_deque::VecDeque", "::collections::binary_heap::BinaryHeap",
        "::path::PathBuf", "::ffi::os_str::OsString", "::collections::hash::map::HashMap",
        "::collections::hash::set::HashSet", "::collections::btree::map::BTreeMap",
        "::collections::btree::set::BTreeSet", "::collections::linked_list::LinkedList"],
      [⟨.containerHeader, .inline,
          "fixed-size container handle; private fields are not a stable API", false, true⟩,
        ⟨.containerBuffer, .heap,
          "conceptual allocation; runtime length/capacity/node count is unknown", false, false⟩],
      false, false⟩,
    ⟨["::option::Option", "::result::Result", "::borrow::Cow"],
      [⟨.conditionalValue, .inline, "conditional variant; active runtime branch is unknown", false,
        true⟩], false, true⟩]

def Wrapper.matches (wrapper : Wrapper) (path : String) : Bool :=
  wrapper.suffixes.any fun suffix => suffix.toList.isSuffixOf path.toList

section Layers

variable (types : Types T)

def wrapperLayer (ty : T) (inner : Option T) (layer : WrapperLayer) : Option MemoryLayer :=
  (if layer.ofInner then inner else some ty).map fun ty =>
    memoryLayer layer.kind layer.storage layer.label (types.text ty)
      (if layer.exactLayout then types.layout ty else (none, none))

/-! ## All types -/

/-- The body of `push_memory_layers`, with what the recursive call adds. -/
def expand (below : T → List MemoryLayer) (ty : T) : List MemoryLayer :=
  match types.kind ty with
  | .ref isMutable pointee =>
    memoryLayer .referenceHandle .inline
      (if isMutable then "mutable reference handle" else "shared reference handle")
      (types.text ty) (types.layout ty) ::
    match types.kind pointee with
    | .str | .slice | .dynamic =>
      [memoryLayer .fatPointerMetadata .inline "fat-pointer metadata (runtime length or vtable)"
        (types.text pointee) (none, none)]
    | _ => []
  | .rawPtr isMutable pointee =>
    [memoryLayer .rawPointer .inline
      (if isMutable then "mutable raw pointer (non-owning; unsafe to dereference)"
        else "const raw pointer (non-owning; unsafe to dereference)")
      (types.text pointee) (types.layout ty)]
  | .array | .tuple =>
    [memoryLayer .aggregateValue .inline "inline aggregate value" (types.text ty) (types.layout ty)]
  | .adt path inner =>
    match wrappers.find? (·.matches path) with
    | some wrapper =>
      if wrapper.needsInner && inner.isNone then []
      else wrapper.layers.filterMap (wrapperLayer types ty inner) ++
        if wrapper.recurses then inner.elim [] below else []
    | none =>
      [memoryLayer .aggregateValue .inline
        "inline aggregate (field ownership is opaque unless proven)" (types.text ty)
        (types.layout ty)]
  | _ => [memoryLayer .inlineValue .inline "inline value" (types.text ty) (types.layout ty)]

/-- `push_memory_layers`, by the number of levels that are left. -/
def pushMemoryLayers : Nat → T → List MemoryLayer
  | 0 => fun _ => []
  | remaining + 1 => expand types (pushMemoryLayers remaining)

def memoryLayers (bindingName : String) (ty : T) : List MemoryLayer :=
  memoryLayer .stackBinding .stack ("stack binding \x60" ++ bindingName ++ "\x60") (types.text ty)
    (types.layout ty) :: pushMemoryLayers types 12 ty

/-- With more levels the type would have other layers. -/
def StopsExpanding (ty : T) : Prop :=
  ∃ levels, pushMemoryLayers types (12 + levels) ty ≠ pushMemoryLayers types 12 ty

variable {types}

/-- A wrapper that leads to its argument adds a layer of its own. -/
theorem layers_ne_nil_of_recurses {wrapper : Wrapper} (h : wrapper ∈ wrappers)
    (hrecurses : wrapper.recurses = true) (ty inner : T) :
    wrapper.layers.filterMap (wrapperLayer types ty (some inner)) ≠ [] := by
  have hlayers : ∀ wrapper ∈ wrappers, wrapper.recurses = true → wrapper.layers ≠ [] := by
    simp [wrappers, inlineWrapper]
  obtain ⟨layer, rest, hcons⟩ := List.exists_cons_of_ne_nil (hlayers wrapper h hrecurses)
  have hsome : (wrapperLayer types ty (some inner) layer).isSome = true := by
    rw [wrapperLayer, Option.isSome_map]
    split <;> rfl
  obtain ⟨first, hfirst⟩ := Option.isSome_iff_exists.mp hsome
  rw [hcons, List.filterMap_cons, hfirst]
  exact List.cons_ne_nil _ _

/-- Where what is below matters, it is the argument of a wrapper that adds a layer. -/
theorem exists_of_expand_ne {below below' : T → List MemoryLayer} {ty : T}
    (h : expand types below' ty ≠ expand types below ty) :
    ∃ inner, below' inner ≠ below inner ∧ (below inner).length < (expand types below ty).length := by
  unfold expand at h ⊢
  cases hkind : types.kind ty with
  | adt path inner =>
    simp only [hkind] at h ⊢
    cases hfind : wrappers.find? (·.matches path) with
    | none => simp [hfind] at h
    | some wrapper =>
      simp only [hfind] at h ⊢
      cases inner with
      | none => simp at h
      | some inner =>
        cases hrecurses : wrapper.recurses with
        | false => simp [hrecurses] at h
        | true =>
          have hlayers := @layers_ne_nil_of_recurses T types wrapper
            (List.mem_of_find?_eq_some hfind) hrecurses ty inner
          refine ⟨inner, fun hsame => h ?_, ?_⟩
          · simp [hsame]
          · simpa [hrecurses] using List.length_pos_iff.mpr hlayers
  | _ => simp [hkind] at h

theorem le_length_pushMemoryLayers {levels : Nat} : ∀ {remaining : Nat} {ty : T},
    pushMemoryLayers types (remaining + levels) ty ≠ pushMemoryLayers types remaining ty →
      remaining ≤ (pushMemoryLayers types remaining ty).length
  | 0, _, _ => Nat.zero_le _
  | remaining + 1, ty, h => by
    rw [Nat.succ_add] at h
    obtain ⟨inner, hinner, hlength⟩ := exists_of_expand_ne h
    exact Nat.succ_le_of_lt ((le_length_pushMemoryLayers hinner).trans_lt hlength)

theorem length_memoryLayers_of_stops {ty : T} (h : StopsExpanding types ty) (name : String) :
    12 < (memoryLayers types name ty).length := by
  obtain ⟨levels, hlevels⟩ := h
  exact Nat.succ_le_succ (le_length_pushMemoryLayers hlevels)

end Layers

end RustWorkbench.Compiler
