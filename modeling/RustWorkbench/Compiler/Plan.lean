import RustWorkbench.Library.Splice

/-!
# Repair plans and the edits they make

The plan that the compiler writes for a crate, the choice among its repairs, and the texts of one
wrapper variant.

A text is the list of its characters and an offset counts UTF-8 bytes; a path is the list of
its components, which is what comparing two `PathBuf`s looks at.  The files that hold the patched
texts are in `PatchedFiles` and `Autofix`; failures of the file system are left out.
-/

namespace RustWorkbench.Compiler

abbrev Text := List Char

abbrev Path := List String

def Path.display (path : Path) : String := "/".intercalate path

/-! ## The plan -/

structure RepairSource where
  path : Path
  sourceHash : String
  source : Option Text
deriving DecidableEq, Repr

structure RepairEdit where
  path : Path
  byteStart : Nat
  byteEnd : Nat
  replacement : Text
deriving DecidableEq, Repr

structure Binding where
  path : Path
  byteStart : Nat
  name : String
deriving DecidableEq, Repr

inductive RepairKind where
  | cloneMovedValue
  | makeBindingMutable
deriving DecidableEq, Repr

structure RepairGroup where
  kind : RepairKind
  binding : Option Binding
  edits : List RepairEdit
deriving DecidableEq, Repr

structure RepairPlan where
  sources : List RepairSource
  repairs : List RepairGroup
deriving DecidableEq, Repr

/-- How a function of the driver ends when it does not return a value. -/
inductive Failure where
  | error (message : String)
  | panic
deriving DecidableEq, Repr

/-- The texts of the plan, or the error for the first source without one. -/
def planSourceTexts (plan : RepairPlan) : Except String (List (Path × Text)) :=
  plan.sources.mapM fun source =>
    match source.source with
    | some text => .ok (source.path, text)
    | none => .error ("source text for " ++ source.path.display
        ++ " was not included in the repair plan")

/-- Lookup in the map collected from the texts: the last entry of a path wins. -/
def sourceOf (sources : List (Path × Text)) (path : Path) : Option Text :=
  (sources.reverse.find? fun source => source.1 = path).map Prod.snd

/-! ## Edits -/

/-- `str::len`. -/
def byteLen (text : Text) : Nat := Splice.size Char.utf8Size text

/-- `str::is_char_boundary`. -/
def isCharBoundary (text : Text) (n : Nat) : Bool := (Splice.cut Char.utf8Size n text).isSome

/-- The check on the byte range that both callers make; true if the range is refused. -/
def invalidRange (source : Text) (edit : RepairEdit) : Bool :=
  edit.byteStart > edit.byteEnd
    || edit.byteEnd > byteLen source
    || !isCharBoundary source edit.byteStart
    || !isCharBoundary source edit.byteEnd

def editsConflict (left right : RepairEdit) : Bool :=
  if left.path ≠ right.path then false
  else if left.byteStart = right.byteStart && left.byteEnd = right.byteEnd
      && left.replacement = right.replacement then false
  else if left.byteStart = left.byteEnd then
    right.byteStart ≤ left.byteStart && left.byteStart ≤ right.byteEnd
  else if right.byteStart = right.byteEnd then
    left.byteStart ≤ right.byteStart && right.byteStart ≤ left.byteEnd
  else left.byteStart < right.byteEnd && right.byteStart < left.byteEnd

/-- The edit as a splice of the file it is in. -/
def RepairEdit.splice (edit : RepairEdit) : Splice.Edit Char :=
  ⟨edit.byteStart, edit.byteEnd, edit.replacement⟩

/-- The edits of one file. -/
def editsFor (path : Path) (edits : List RepairEdit) : List RepairEdit :=
  edits.filter fun edit => edit.path = path

/-- Sort by `(byte_start, byte_end)` and `replace_range` from the last edit to the first;
`none` if a replacement panics. -/
def patchText (source : Text) (edits : List RepairEdit) : Option Text :=
  (StableSort.sortByKey Splice.editKey (edits.map RepairEdit.splice)).reverse.foldl
    (fun patched edit => patched.bind fun text => Splice.replaceRange Char.utf8Size text edit)
    (some source)

/-- The files that a list of edits touches. -/
def touchedPaths (edits : List RepairEdit) : List Path := (edits.map RepairEdit.path).dedup

/-! ## Applying the repairs of a plan -/

structure AppliedRepair where
  round : Nat
  repair : RepairGroup
deriving DecidableEq, Repr

structure SkippedRepair where
  round : Nat
  reason : String
  repair : RepairGroup
deriving DecidableEq, Repr

/-- The loop over the edits of one repair: the new edits, or the reason to skip it. -/
def checkEdits (sources : List (Path × Text)) (accepted seen : List RepairEdit) :
    List RepairEdit → List RepairEdit → Except String (List RepairEdit)
  | candidate, [] => .ok candidate
  | candidate, edit :: edits =>
    match sourceOf sources edit.path with
    | none => .error "repair source was not included in the compiler plan"
    | some source =>
      if invalidRange source edit then
        .error "repair did not describe valid UTF-8 byte boundaries"
      else if accepted.any (fun old => editsConflict old edit)
          || candidate.any (fun old => editsConflict old edit) then
        .error "repair overlaps another borrow-checker repair"
      else
        checkEdits sources accepted seen (if edit ∈ seen then candidate else candidate ++ [edit])
          edits

/-- The variables of the loop over the repairs. -/
structure Acceptance where
  accepted : List RepairEdit
  seen : List RepairEdit
  appliedGroups : List RepairGroup
  skippedRepairs : List SkippedRepair
deriving DecidableEq, Repr

/-- The body of the loop over the repairs. -/
def considerRepair (sources : List (Path × Text)) (round : Nat) (st : Acceptance)
    (repair : RepairGroup) : Acceptance :=
  match checkEdits sources st.accepted st.seen [] repair.edits with
  | .error reason =>
    { st with skippedRepairs := st.skippedRepairs ++ [⟨round, reason, repair⟩] }
  | .ok candidate =>
    if candidate.isEmpty then st
    else
      { st with
        seen := st.seen ++ candidate
        accepted := st.accepted ++ candidate
        appliedGroups := st.appliedGroups ++ [repair] }

def considerRepairs (sources : List (Path × Text)) (round : Nat) (skipped : List SkippedRepair)
    (repairs : List RepairGroup) : Acceptance :=
  repairs.foldl (considerRepair sources round) ⟨[], [], [], skipped⟩

/-! ## Materialising a wrapper variant -/

/-- The loop over the edits of a variant. -/
def normalizeEdits (sources : List (Path × Text)) :
    List RepairEdit → List RepairEdit → List RepairEdit → Except String (List RepairEdit)
  | accepted, _, [] => .ok accepted
  | accepted, seen, edit :: edits =>
    match sourceOf sources edit.path with
    | none => .error "variant edit source was not included in the plan"
    | some source =>
      if invalidRange source edit then .error "variant edit has invalid UTF-8 byte boundaries"
      else if edit ∈ seen then normalizeEdits sources accepted seen edits
      else if accepted.any (fun old => editsConflict old edit) then
        .error "variant edit overlaps another selected repair"
      else normalizeEdits sources (accepted ++ [edit]) (seen ++ [edit]) edits

def normalizeVariantEdits (plan : RepairPlan) (edits : List RepairEdit) :
    Except String (List RepairEdit) :=
  match planSourceTexts plan with
  | .error message => .error message
  | .ok sources => normalizeEdits sources [] [] edits

/-- `BTreeMap::insert` on the overlay. -/
def insertOverlay (overlay : List (Path × Text)) (path : Path) (text : Text) :
    List (Path × Text) :=
  overlay.filter (fun entry => entry.1 ≠ path) ++ [(path, text)]

/-- The loop over `edits_by_path`; a missing source panics here. -/
def materializeFiles (sources : List (Path × Text)) (accepted : List RepairEdit) :
    List (Path × Text) → List Path → Except Failure (List (Path × Text))
  | overlay, [] => .ok overlay
  | overlay, original :: paths =>
    match sourceOf sources original with
    | none => .error .panic
    | some source =>
      match patchText source (editsFor original accepted) with
      | none => .error .panic
      | some patched =>
        materializeFiles sources accepted (insertOverlay overlay original patched) paths

/-- The texts that `materialize_variant_sources` writes, one for each original. -/
def variantTexts (plan : RepairPlan) (edits : List RepairEdit) :
    Except Failure (List (Path × Text)) :=
  match normalizeVariantEdits plan edits with
  | .error message => .error (.error message)
  | .ok accepted =>
    match planSourceTexts plan with
    | .error message => .error (.error message)
    | .ok sources => materializeFiles sources accepted [] (touchedPaths accepted)

/-- The text the overlay has for a path. -/
def overlayText (overlay : List (Path × Text)) (path : Path) : Option Text :=
  (overlay.find? fun entry => entry.1 = path).map Prod.snd

end RustWorkbench.Compiler
