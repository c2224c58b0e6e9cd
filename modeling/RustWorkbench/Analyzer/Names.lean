import Mathlib.Data.List.Basic
import RustWorkbench.Lsp

/-!
# Names and places in compiler text

The helpers by which the analyzer reads a binding name out of a compiler message and relates
places (`self.events`, `items[0]`) to the binding they start from.
-/

namespace RustWorkbench.Analyzer

/-- `str::split` on one character. -/
def splitOnChar (sep : Char) : List Char → List (List Char)
  | [] => [[]]
  | c :: cs =>
    if c = sep then [] :: splitOnChar sep cs
    else
      match splitOnChar sep cs with
      | [] => [[c]]
      | word :: words => (c :: word) :: words

/-- `ownership_name_from_message`: the text between the first two backticks, if any. -/
def ownershipNameFromMessage (message : String) : Option String :=
  match (splitOnChar '`' message.toList)[1]? with
  | some (c :: cs) => some (String.ofList (c :: cs))
  | _ => none

/-- `ownership_name_refers_to_binding`: the binding itself, or a field or element of it. -/
def ownershipNameRefersToBinding (place binding : String) : Bool :=
  place == binding ||
    match place.toList.dropPrefix? binding.toList with
    | some (c :: _) => c == '.' || c == '['
    | _ => false

/-- `ownership_problem_id`: `{code}-{name}-{line}-{character}-{line}-{character}`. -/
def ownershipProblemId (code name : String) (range : Range) : String :=
  code ++ "-" ++ name ++ "-" ++ toString range.start.line ++ "-" ++ toString range.start.character
    ++ "-" ++ toString range.stop.line ++ "-" ++ toString range.stop.character

end RustWorkbench.Analyzer
