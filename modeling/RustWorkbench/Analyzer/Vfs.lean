import RustWorkbench.Analyzer.Types

/-!
# The virtual file system

`Vfs` keeps the state of every file, a content hash where the file exists, and the changes made
since the analyzer last took them.  Contents and hashes are abstract: a theorem that needs a
hash to determine the contents says so.
-/

namespace RustWorkbench.Analyzer

variable {Contents Hash : Type}

inductive FileState (Hash : Type)
  | existing (hash : Hash)
  | deleted
  | excluded
  deriving DecidableEq

/-- `vfs::Change`. -/
inductive Change (Contents Hash : Type)
  | create (contents : Contents) (hash : Hash)
  | modify (contents : Contents) (hash : Hash)
  | delete

namespace Change

/-- The contents a change leaves the file with. -/
def contents? : Change Contents Hash → Option Contents
  | create contents _ | modify contents _ => some contents
  | delete => none

/-- `set_data`. -/
def state : Change Contents Hash → FileState Hash
  | create _ hash | modify _ hash => .existing hash
  | delete => .deleted

/-- Two changes to one file in one cycle. -/
def merge : Change Contents Hash → Change Contents Hash → Change Contents Hash
  | _, delete => delete
  | create _ _, create contents hash | create _ _, modify contents hash => create contents hash
  | modify _ _, modify contents hash => modify contents hash
  | delete, create contents hash => modify contents hash
  | delete, modify contents hash => create contents hash
  | modify _ _, create contents hash => create contents hash

@[simp] theorem merge_contents? (old new : Change Contents Hash) :
    (merge old new).contents? = new.contents? := by
  cases old <;> cases new <;> rfl

@[simp] theorem merge_state (old new : Change Contents Hash) :
    (merge old new).state = new.state := by
  cases old <;> cases new <;> rfl

end Change

structure Vfs (Contents Hash : Type) where
  /-- A file without an entry was never allocated; it counts as deleted. -/
  data : HashMap FileId (FileState Hash)
  changes : HashMap FileId (Change Contents Hash)
  changes_nodup : changes.keys.Nodup

namespace Vfs

def empty : Vfs Contents Hash := ⟨[], [], List.nodup_nil⟩

def get (vfs : Vfs Contents Hash) (fileId : FileId) : FileState Hash :=
  (vfs.data.get? fileId).getD .deleted

def fileContentHash (vfs : Vfs Contents Hash) (fileId : FileId) : Option Hash :=
  match vfs.get fileId with
  | .existing hash => some hash
  | .deleted | .excluded => none

/-- The change a write amounts to, if any. -/
def changeOf [DecidableEq Hash] (contentHash : Contents → Hash) :
    FileState Hash → Option Contents → Option (Change Contents Hash)
  | .deleted, none => none
  | .deleted, some contents => some (.create contents (contentHash contents))
  | .existing _, none => some .delete
  | .existing hash, some contents =>
    if contentHash contents = hash then none
    else some (.modify contents (contentHash contents))
  | .excluded, _ => none

/-- Record a change of a file. -/
def record (vfs : Vfs Contents Hash) (fileId : FileId) (change : Change Contents Hash) :
    Vfs Contents Hash where
  data := vfs.data.insert fileId change.state
  changes := vfs.changes.insert fileId change
  changes_nodup := Assoc.Map.nodup_keys_modify _ _ _ vfs.changes_nodup

/-- `set_file_contents`; `none` deletes the file. -/
def setFileContents [DecidableEq Hash] (contentHash : Contents → Hash)
    (vfs : Vfs Contents Hash) (fileId : FileId) (contents : Option Contents) :
    Vfs Contents Hash :=
  match changeOf contentHash (vfs.get fileId) contents with
  | none => vfs
  | some change =>
    match vfs.changes.get? fileId with
    | some pending => vfs.record fileId (pending.merge change)
    | none => vfs.record fileId change

def insertExcludedFile (vfs : Vfs Contents Hash) (fileId : FileId) : Vfs Contents Hash :=
  { vfs with data := vfs.data.insert fileId .excluded }

/-- `take_changes`. -/
def takeChanges (vfs : Vfs Contents Hash) : Vfs Contents Hash := ⟨vfs.data, [], List.nodup_nil⟩

theorem get_record (vfs : Vfs Contents Hash) (fileId : FileId) (change : Change Contents Hash)
    (fileId' : FileId) :
    (vfs.record fileId change).get fileId'
      = if fileId' = fileId then change.state else vfs.get fileId' := by
  unfold get record
  rw [Assoc.Map.get?_insert]
  split <;> rfl

theorem get_insertExcludedFile (vfs : Vfs Contents Hash) (fileId fileId' : FileId) :
    (vfs.insertExcludedFile fileId).get fileId'
      = if fileId' = fileId then .excluded else vfs.get fileId' := by
  unfold get insertExcludedFile
  rw [Assoc.Map.get?_insert]
  split <;> rfl

/-- **A write.**  It leaves the files as they are, or the file has a pending change to the new
contents, whose hash is its state; other files are not touched. -/
theorem setFileContents_spec [DecidableEq Hash] (contentHash : Contents → Hash)
    (vfs : Vfs Contents Hash) (fileId : FileId) (contents : Option Contents) :
    vfs.setFileContents contentHash fileId contents = vfs ∨
      ∃ change : Change Contents Hash, change.contents? = contents ∧
        change.state = (contents.map fun c => FileState.existing (contentHash c)).getD .deleted ∧
        vfs.setFileContents contentHash fileId contents = vfs.record fileId change := by
  unfold setFileContents
  cases hchange : changeOf contentHash (vfs.get fileId) contents with
  | none => exact .inl rfl
  | some change =>
    have hnew : change.contents? = contents ∧
        change.state = (contents.map fun c => FileState.existing (contentHash c)).getD .deleted := by
      unfold changeOf at hchange
      split at hchange
      · cases hchange
      · cases hchange
        exact ⟨rfl, rfl⟩
      · cases hchange
        exact ⟨rfl, rfl⟩
      · split at hchange
        · cases hchange
        · cases hchange
          exact ⟨rfl, rfl⟩
      · cases hchange
    refine .inr ?_
    cases hpending : vfs.changes.get? fileId with
    | none => exact ⟨change, hnew.1, hnew.2, rfl⟩
    | some pending =>
      exact ⟨pending.merge change, by rw [Change.merge_contents?, hnew.1],
        by rw [Change.merge_state, hnew.2], rfl⟩

end Vfs

end RustWorkbench.Analyzer
