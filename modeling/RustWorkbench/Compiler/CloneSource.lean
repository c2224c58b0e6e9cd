import RustWorkbench.Compiler.AccessPaths
import RustWorkbench.Library.Assoc

/-!
# Clones read off the source text

`shared_clone_source`: the name of the binding that the line of a `let` clones, if it looks like
a clone.  Like `patchText`, a function here is `none` where the source panics.

The Unicode tables behind `char::is_alphanumeric` are a parameter.
-/

namespace RustWorkbench.Compiler

open Analyzer (isWhitespace)

/-- The parts of a text before and after the first occurrence of a pattern. -/
def splitAtText (pattern : Text) : Text → Option (Text × Text)
  | [] => if pattern.isEmpty then some ([], []) else none
  | c :: rest =>
    match (c :: rest).dropPrefix? pattern with
    | some after => some ([], after)
    | none => (splitAtText pattern rest).map fun (before, after) => (c :: before, after)

/-- The line that is cut in two by the start of a binding. -/
def lineAround (before after : Text) : Text :=
  (before.reverse.takeWhile (· ≠ '\n')).reverse ++ after.takeWhile (· ≠ '\n')

def nonEmptyName (name : Text) : Option String :=
  if name.isEmpty then none else some (String.ofList name)

section

variable (isAlphanumeric : Char → Bool)

def isNameChar (c : Char) : Bool := c == '_' || isAlphanumeric c

/-- The name that a text ends with.  The source starts it one byte after the last character that
is not part of a name, which is inside that character unless it is a single byte. -/
def lastName (text : Text) : Option (Option String) :=
  match text.reverse.dropWhile (isNameChar isAlphanumeric) with
  | c :: _ =>
    if c.utf8Size = 1 then
      some (nonEmptyName (text.reverse.takeWhile (isNameChar isAlphanumeric)).reverse)
    else none
  | [] => some (nonEmptyName text)

def clonedNameInLine (line : Text) : Option (Option String) :=
  match ["Rc::clone(&", "Arc::clone(&"].findSome? fun marker => splitAtText marker.toList line with
  | some (_, candidate) =>
    some (nonEmptyName (candidate.takeWhile (isNameChar isAlphanumeric)))
  | none =>
    match splitOnce line '=' with
    | none => some none
    | some (_, assignment) =>
      match splitAtText ".clone()".toList assignment with
      | none => some none
      | some (before, _) => lastName isAlphanumeric (before.reverse.dropWhile isWhitespace).reverse

/-- `shared_clone_source`. -/
def sharedCloneSource (sources : Assoc.Map Path RepairSource) (destination : OwnershipBinding) :
    Option (Option String) :=
  match (sources.get? destination.binding.path).bind RepairSource.source with
  | none => some none
  | some source =>
    if destination.binding.byteStart > byteLen source then some none
    else
      (Splice.cut Char.utf8Size destination.binding.byteStart source).bind fun (before, after) =>
        clonedNameInLine isAlphanumeric (lineAround before after)

end

example : clonedNameInLine Char.isAlphanum "let b = Rc::clone(&a);".toList = some (some "a") := by
  decide +kernel

example : clonedNameInLine Char.isAlphanum "let b = (a.clone(), 1);".toList = some (some "a") := by
  decide +kernel

end RustWorkbench.Compiler
