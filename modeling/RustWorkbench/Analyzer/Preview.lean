import RustWorkbench.Analyzer.Snapshot
import RustWorkbench.Library.Splice
import Mathlib.Data.String.Basic

/-!
# Previews of fixes

The unified-diff text shown for a fix: for each file the fix touches, the edited lines with one
line of context, grouped into hunks and cut at a fixed number of lines.
-/

namespace RustWorkbench.Analyzer

open StableSort (sortByKey dedupBy sameKey)

/-- The characters of a source. -/
abbrev Chars := List Char

structure OwnershipPreviewEdit where
  range : TextRange
  replacement : String
  startLine : Nat
  endLine : Nat

structure OwnershipFixPreview where
  diff : String
  affectedFiles : List String
  complete : Bool

/-! ## The files of a fix -/

/-- The URL and the edits of a change to a text document. -/
def changeEdits : SnippetDocumentChangeOperation → Option (String × List (Range × String))
  | .edit uri edits => some (uri, edits.map fun edit => (edit.range, edit.newText))
  | .change (.textDocumentEdit uri edits) =>
    some (uri, edits.map fun edit => (edit.range, edit.newText))
  | .change _ => none

/-- `ownership_fix_uris`. -/
def ownershipFixUris (fix : Fix) : List String :=
  match fix.action.edit with
  | none => []
  | some edit =>
    let uris := (edit.changes.getD []).map (·.1)
      ++ (edit.documentChanges.getD []).filterMap fun change => (changeEdits change).map (·.1)
    dedupBy (sameKey id) (sortByKey id uris)

/-- `ownership_fix_file_label`. -/
def ownershipFixFileLabel (snap : Snapshot) (uri : String) : String :=
  (snap.urlFileName uri).getD uri

/-! ## One file -/

/-- `str::get` of a byte range. -/
def slice (text : Chars) (start stop : Nat) : Option Chars :=
  if start ≤ stop then
    (Splice.cut Char.utf8Size stop text).bind fun p =>
      (Splice.cut Char.utf8Size start p.1).map (·.2)
  else none

/-- The part of a text after its last newline. -/
def lastLine (text : Chars) : Chars := (text.reverse.takeWhile (· != '\n')).reverse

/-- The part of a text before its first newline. -/
def firstLine (text : Chars) : Chars := text.takeWhile (· != '\n')

def size (text : Chars) : Nat := Splice.size Char.utf8Size text

theorem size_append (s t : Chars) : size (s ++ t) = size s + size t :=
  Splice.size_append Char.utf8Size s t

/-- The replacements of a hunk, from the last to the first; `none` if one leaves the text. -/
def patchHunk (coreStart : Nat) (edits : List OwnershipPreviewEdit) (old : Chars) :
    Option Chars :=
  edits.reverse.foldl (fun patched edit => patched.bind fun text =>
    if coreStart ≤ edit.range.start ∧ coreStart ≤ edit.range.stop then
      let start := edit.range.start - coreStart
      let stop := edit.range.stop - coreStart
      (slice text start stop).bind fun _ =>
        Splice.replaceRange Char.utf8Size text ⟨start, stop, edit.replacement.toList⟩
    else none) (some old)

/-- `ownership_diff_hunk`. -/
def ownershipDiffHunk (source : Chars) (edits : List OwnershipPreviewEdit) :
    Option (List String) := do
  let first ← edits.head?
  let start ← (edits.map fun edit => edit.range.start).min?
  let stop ← (edits.map fun edit => edit.range.stop).max?
  let endAnchor ←
    if stop > start then
      (Splice.cut Char.utf8Size stop source).map fun p => size p.1.dropLast
    else some stop
  let beforeStart ← Splice.cut Char.utf8Size start source
  let coreStart := start - size (lastLine beforeStart.1)
  let afterAnchor ← Splice.cut Char.utf8Size endAnchor source
  let coreEnd := endAnchor + size (firstLine afterAnchor.2)
  let old ← slice source coreStart coreEnd
  let patched ← patchHunk coreStart edits old
  if old = patched then none
  else
    let header := "@@ line " ++ toString (first.startLine + 1) ++ " @@"
    let before ←
      if coreStart > 0 then
        (Splice.cut Char.utf8Size (coreStart - 1) source).map fun p =>
          [" " ++ String.ofList (lastLine p.1)]
      else some []
    let after ←
      if coreEnd < size source then
        (Splice.cut Char.utf8Size (coreEnd + 1) source).map fun p =>
          [" " ++ String.ofList (firstLine p.2)]
      else some []
    some ([header] ++ before
      ++ (splitOnChar '\n' old).map (fun line => "-" ++ String.ofList line)
      ++ (splitOnChar '\n' patched).map (fun line => "+" ++ String.ofList line)
      ++ after)

/-- An edit joins the group before it if it starts at most one line below its end. -/
def groupEditsFrom : List OwnershipPreviewEdit → List OwnershipPreviewEdit →
    List (List OwnershipPreviewEdit)
  | group, [] => [group]
  | group, edit :: edits =>
    if ((group.map fun edit => edit.endLine).max?.getD 0) + 1 ≥ edit.startLine then
      groupEditsFrom (group ++ [edit]) edits
    else group :: groupEditsFrom [edit] edits

def groupEdits : List OwnershipPreviewEdit → List (List OwnershipPreviewEdit)
  | [] => []
  | edit :: edits => groupEditsFrom [edit] edits

/-- The edits a fix makes in one file. -/
def fixEdits (fix : Fix) (uri : String) : Option (List (Range × String)) := do
  let edit ← fix.action.edit
  match edit.changes with
  | some changes =>
    (changes.find? fun entry => entry.1 = uri).map fun entry =>
      entry.2.map fun edit => (edit.range, edit.newText)
  | none =>
    let changes ← edit.documentChanges
    some (changes.flatMap fun change =>
      match changeEdits change with
      | some (target, edits) => if target = uri then edits else []
      | none => [])

/-- An edit with the lines it spans; an edit that ends at the start of a line does not span it. -/
def previewEdit (lineIndex : LineIndex) (edit : Range × String) : Option OwnershipPreviewEdit :=
  match lineIndex.textRange edit.1 with
  | .error _ => none
  | .ok range =>
    some
      { range
        replacement := edit.2
        startLine := edit.1.start.line
        endLine :=
          if edit.1.stop.character = 0 ∧ edit.1.stop.line > edit.1.start.line then
            edit.1.stop.line - 1
          else edit.1.stop.line }

/-- Two neighbouring edits overlap, or are insertions at one offset. -/
def editsCollide (left right : OwnershipPreviewEdit) : Bool :=
  left.range.stop > right.range.start
    || (left.range.start = left.range.stop && right.range.start = right.range.stop
      && left.range.start = right.range.start)

def MAX_DIFF_LINES : Nat := 24

/-- `ownership_fix_diff`. -/
def ownershipFixDiff (source : Chars) (lineIndex : LineIndex) (uri : String) (fix : Fix) :
    Option String := do
  let sourceEdits ← fixEdits fix uri
  let edits ← sourceEdits.mapM (previewEdit lineIndex)
  let edits := sortByKey (fun edit => toLex (edit.range.start, edit.range.stop)) edits
  if (edits.zip edits.tail).any fun pair => editsCollide pair.1 pair.2 then none
  else
    let lines := ((groupEdits edits).filterMap (ownershipDiffHunk source)).flatten
    let lines :=
      if lines.length > MAX_DIFF_LINES then
        lines.take (MAX_DIFF_LINES - 1)
          ++ [" ... preview truncated; use Ctrl+. to apply the complete rewrite ..."]
      else lines
    if lines.isEmpty then none else some ("\n".intercalate lines)

/-! ## All files -/

/-- The diff of one file of a fix; the file of the request is read from its own source. -/
def ownershipFileDiff (snap : Snapshot) (currentFile : FileId) (currentUri : String) (fix : Fix)
    (uri : String) : Option String :=
  if uri = currentUri then
    ownershipFixDiff (snap.fileText currentFile).toList (snap.fileLineIndex currentFile) uri fix
  else
    match snap.urlToFileId uri with
    | .ok (some fileId) =>
      ownershipFixDiff (snap.fileText fileId).toList (snap.fileLineIndex fileId) uri fix
    | _ => none

/-- `ownership_workspace_fix_diff`. -/
def ownershipWorkspaceFixDiff (snap : Snapshot) (currentFile : FileId) (currentUri : String)
    (fix : Fix) : Option OwnershipFixPreview :=
  let uris := ownershipFixUris fix
  let diffs := uris.map fun uri => (uri, ownershipFileDiff snap currentFile currentUri fix uri)
  let sections := diffs.filterMap fun entry => entry.2.map fun diff =>
    if uris.length > 1 then
      let label := ownershipFixFileLabel snap entry.1
      "--- " ++ label ++ "\n+++ " ++ label ++ "\n" ++ diff
    else diff
  if sections.isEmpty then none
  else some
    { diff := "\n\n".intercalate sections
      affectedFiles := uris.map (ownershipFixFileLabel snap)
      complete := diffs.all fun entry => entry.2.isSome }

end RustWorkbench.Analyzer
