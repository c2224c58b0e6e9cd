import RustWorkbench.Analyzer.Text
import RustWorkbench.Compiler.GraphTypes

/-!
# Access paths

`access_paths_for_binding`: how a program gets from a binding to the value it holds, read off
the printed type of the binding by a cascade of prefix and substring tests.
-/

namespace RustWorkbench.Compiler

open Analyzer (containsText startsWith trimStartMatches)

/-- `str::split_once` for a character. -/
def splitOnce (text : Text) (separator : Char) : Option (Text × Text) :=
  match text.dropWhile (· ≠ separator) with
  | [] => none
  | _ :: rest => some (text.takeWhile (· ≠ separator), rest)

def accessStep (kind : AccessKind) (startingType resultType : String)
    (mutability : AccessMutability) (explicitness : AccessExplicitness)
    (fallible mayPanic requiresUnsafe : Bool) (explanation : String) : AccessStep :=
  { kind, startingType, resultType, mutability, explicitness, fallible, mayPanic, requiresUnsafe,
    explanation, provenance := .derived }

/-- The type of the first layer below the binding that is not the type of the binding. -/
def innerType (binding : OwnershipBinding) : String :=
  (((binding.memoryLayers.drop 1).map MemoryLayer.typeName).find? (· ≠ binding.typeName)).getD
    "the inner value"

/-- The closure `push` of the source: one path for a purpose. -/
def accessPath (binding : OwnershipBinding) (nodeId purpose : String) (steps : List AccessStep) :
    AccessPath where
  id := graphId "access" (toString binding.bodyId ++ ":" ++ nodeId ++ ":" ++ purpose)
  bodyId := binding.bodyId
  nodeId := nodeId
  place := binding.binding.name
  purpose := purpose
  steps := steps
  provenance := .derived

def accessPathsForBinding (binding : OwnershipBinding) (nodeId : String) : List AccessPath :=
  let ty := binding.typeName
  let inner := innerType binding
  let push := accessPath binding nodeId
  if startsWith ty "&mut " then
    [push "mutate the referenced value"
      [accessStep .builtinDeref ty (trimStartMatches ty "&mut ") .mutable .either
        false false false
        "A mutable reference provides exclusive access while its loan is live."]]
  else if startsWith ty "&" then
    [push "read the referenced value"
      [accessStep .builtinDeref ty (String.ofList (ty.toList.dropWhile (· == '&'))) .shared .either
        false false false
        "A shared reference permits reads but not mutation through this path."]]
  else if startsWith ty "*mut " || startsWith ty "*const " then
    [push "dereference the raw pointer"
      [accessStep .rawPointerDeref ty
        (((splitOnce ty.toList ' ').map fun (_, pointee) => String.ofList pointee).getD "the pointee")
        (if startsWith ty "*mut " then .mutable else .shared) .explicit
        false false true
        "The compiler cannot prove raw-pointer validity; dereferencing requires unsafe."]]
  else if containsText ty "NonNull<" then
    [push "dereference the non-null raw pointer"
      [accessStep .rawPointerDeref ty inner .unknown .explicit
        false false true
        "NonNull proves non-nullness, not validity, alignment, initialization, or alias safety."]]
  else if containsText ty "RefMut<" || containsText ty "MutexGuard<"
      || containsText ty "RwLockWriteGuard<" then
    [push "mutate through the live guard"
      [accessStep .guardDeref ty inner .mutable .either
        false false false
        "Dropping the guard releases the runtime borrow or synchronization gate."]]
  else if containsText ty "Ref<" || containsText ty "RwLockReadGuard<" then
    [push "read through the live guard"
      [accessStep .guardDeref ty inner .shared .either
        false false false
        "Dropping the guard releases the runtime borrow or synchronization gate."]]
  else if (containsText ty "Rc<" || containsText ty "Arc<") && containsText ty "RefCell<" then
    [push "mutate a shared value through runtime borrow checking"
      [accessStep .traitDeref ty "RefCell<inner>" .shared .either
        false false false
        "The shared handle dereferences to the allocation without granting mutable access.",
       accessStep .wrapperBorrowMut "RefCell<inner>" inner .mutable .explicit
        false true false
        "borrow_mut() checks exclusivity at runtime and can panic on a conflict."]]
  else if (containsText ty "Arc<" || containsText ty "Rc<")
      && (containsText ty "Mutex<" || containsText ty "RwLock<") then
    [push "reach a shared value through a synchronization guard"
      [accessStep .traitDeref ty "synchronization wrapper" .shared .either
        false false false
        "The shared handle dereferences to the synchronization wrapper.",
       accessStep .lockAcquire "synchronization wrapper" "lock guard" .mutable .explicit
        true false false
        "Acquiring a lock can block and may report poisoning.",
       accessStep .guardDeref "lock guard" inner .mutable .either
        false false false
        "The guard grants access until it is dropped."]]
  else if containsText ty "RefCell<" && !containsText ty "Weak<" then
    [push "read through runtime borrow checking"
      [accessStep .wrapperBorrow ty inner .shared .explicit
        false true false
        "borrow() creates a shared guard and panics if a mutable guard is active."],
     push "mutate through runtime borrow checking"
      [accessStep .wrapperBorrowMut ty inner .mutable .explicit
        false true false
        "borrow_mut() creates an exclusive guard and panics if any guard is active."]]
  else if (containsText ty "Mutex<" || containsText ty "RwLock<") && !containsText ty "Weak<" then
    let readOnly := containsText ty "RwLock<"
    let mutability : AccessMutability := if readOnly then .shared else .mutable
    [push (if readOnly then "read through a lock guard" else "mutate through a lock guard")
      [accessStep .lockAcquire ty "lock guard" mutability .explicit
        true false false
        "Lock acquisition can block and returns a Result because a lock may be poisoned.",
       accessStep .guardDeref "lock guard" inner mutability .either
        false false false
        "The guard controls how long access to the protected value remains active."]]
  else if containsText ty "Weak<" then
    [push "attempt to reach the shared allocation"
      [accessStep .weakUpgrade ty "Option<shared handle>" .shared .explicit
        true false false
        "upgrade() is fallible because all strong owners may already be gone.",
       accessStep .optionExtract "Option<shared handle>" inner .shared .explicit
        true false false
        "Handle the None case before accessing the value."]]
  else if containsText ty "Pin<" then
    [push "access through the pinned pointer"
      [accessStep .traitDeref ty inner .shared .either
        false false false
        "Pin constrains movement of the pointee; it is not a separate storage region."]]
  else if containsText ty "Option<" || containsText ty "Result<" then
    [push "extract the active value"
      [accessStep (if containsText ty "Option<" then .optionExtract else .resultExtract)
        ty inner .notApplicable .explicit
        true false false
        "The active runtime variant must be handled before the contained value is available."]]
  else if containsText ty "Box<" then
    [push "access the owned heap value"
      [accessStep .builtinDeref ty inner .mutable .either
        false false false
        "Box uniquely owns its allocation, so a mutable Box can provide mutable access."]]
  else if containsText ty "Rc<" || containsText ty "Arc<" then
    [push "read the shared allocation"
      [accessStep .traitDeref ty inner .shared .either
        false false false
        "Shared ownership provides shared dereference; mutation needs uniqueness or interior mutability."]]
  else []

/-! ## Identities -/

/-- The string that the id of an access path is the hash of. -/
def AccessPath.identity (path : AccessPath) : String :=
  toString path.bodyId ++ ":" ++ path.nodeId ++ ":" ++ path.purpose

/-- The paths of a binding are named by their purposes, which differ and have no colon. -/
def NamedByPurpose (binding : OwnershipBinding) (nodeId : String) (paths : List AccessPath) : Prop :=
  (∀ path ∈ paths, path.nodeId = nodeId ∧ path.id = graphId "access" path.identity
    ∧ path.identity = toString binding.bodyId ++ ":" ++ nodeId ++ ":" ++ path.purpose
    ∧ ':' ∉ path.purpose.toList)
  ∧ (paths.map AccessPath.purpose).Nodup

variable {binding : OwnershipBinding}

theorem namedByPurpose_singleton {nodeId purpose : String} {steps : List AccessStep}
    (hcolon : ':' ∉ purpose.toList) :
    NamedByPurpose binding nodeId [accessPath binding nodeId purpose steps] := by
  refine ⟨fun path h => ?_, List.nodup_singleton _⟩
  obtain rfl := List.mem_singleton.mp h
  exact ⟨rfl, rfl, rfl, hcolon⟩

theorem namedByPurpose_pair {nodeId purpose purpose' : String} {steps steps' : List AccessStep}
    (hcolon : ':' ∉ purpose.toList) (hcolon' : ':' ∉ purpose'.toList) (hne : purpose ≠ purpose') :
    NamedByPurpose binding nodeId
      [accessPath binding nodeId purpose steps, accessPath binding nodeId purpose' steps'] := by
  refine ⟨fun path h => ?_, by simpa [accessPath] using hne⟩
  rcases List.mem_cons.mp h with rfl | h
  · exact ⟨rfl, rfl, rfl, hcolon⟩
  · obtain rfl := List.mem_singleton.mp h
    exact ⟨rfl, rfl, rfl, hcolon'⟩

theorem namedByPurpose_ite {nodeId : String} {c : Prop} [Decidable c] {left right : List AccessPath}
    (hleft : NamedByPurpose binding nodeId left) (hright : NamedByPurpose binding nodeId right) :
    NamedByPurpose binding nodeId (if c then left else right) := by
  by_cases hc : c
  · rwa [if_pos hc]
  · rwa [if_neg hc]

/-- One step for each test of the cascade. -/
theorem accessPathsForBinding_named (binding : OwnershipBinding) (nodeId : String) :
    NamedByPurpose binding nodeId (accessPathsForBinding binding nodeId) := by
  unfold accessPathsForBinding
  iterate 8 refine namedByPurpose_ite (namedByPurpose_singleton (by decide)) ?_
  refine namedByPurpose_ite (namedByPurpose_pair (by decide) (by decide) (by decide)) ?_
  refine namedByPurpose_ite ?lock ?_
  case lock =>
    refine namedByPurpose_singleton ?_
    split <;> decide
  iterate 5 refine namedByPurpose_ite (namedByPurpose_singleton (by decide)) ?_
  exact ⟨(fun path h => nomatch h), List.nodup_nil⟩

end RustWorkbench.Compiler
