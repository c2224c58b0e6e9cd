import RustWorkbench.Lsp

/-!
# Code actions on the wire

The workspace edits a repair is delivered as.  `changes` is a hash map in the source; it is a
list of its entries here, in whatever order the map iterates.
-/

namespace RustWorkbench

structure TextEdit where
  range : Range
  newText : String
  deriving DecidableEq, Repr

/-- `lsp_types::DocumentChange`. -/
inductive DocumentChange
  | textDocumentEdit (uri : String) (edits : List TextEdit)
  | createFile (uri : String)
  | renameFile (oldUri newUri : String)
  | deleteFile (uri : String)
  deriving DecidableEq, Repr

structure SnippetTextEdit where
  range : Range
  newText : String
  insertTextFormat : Option Nat
  annotationId : Option String
  deriving DecidableEq, Repr

inductive SnippetDocumentChangeOperation
  | change (change : DocumentChange)
  | edit (uri : String) (edits : List SnippetTextEdit)
  deriving DecidableEq, Repr

structure SnippetWorkspaceEdit where
  changes : Option (List (String × List TextEdit))
  documentChanges : Option (List SnippetDocumentChangeOperation)
  deriving DecidableEq, Repr

structure CodeAction where
  title : String
  group : Option String
  kind : Option String
  edit : Option SnippetWorkspaceEdit
  isPreferred : Option Bool
  deriving DecidableEq, Repr

end RustWorkbench
