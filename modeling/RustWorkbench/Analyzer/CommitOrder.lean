import RustWorkbench.Analyzer.Commits
import RustWorkbench.Analyzer.Stale

/-!
# The order of commits

Workers finish in any order, and so do the batches they send.  A commit compares the sequence number
of its batch with the last one that was installed for the file, so the file ends up as the newest
batch has it, whatever was installed and replaced on the way.

* `commits_order_independent` — the exact events and the model after any order of commits.
-/

namespace RustWorkbench.Analyzer

variable {Contents Hash : Type}

namespace GlobalState

section Order

/-- `batches` are committed from `start` on, in this order; in between nothing touches the file. -/
inductive Delivered [DecidableEq Hash] (fileId : FileId) (start : GlobalState Contents Hash) :
    List (PreparedOwnershipBatch Hash) → GlobalState Contents Hash → Prop
  | start : Delivered fileId start [] start
  | commit {batches : List (PreparedOwnershipBatch Hash)} {state : GlobalState Contents Hash}
      (batch : PreparedOwnershipBatch Hash) : Delivered fileId start batches state →
      Delivered fileId start (batches ++ [batch]) (state.commitOwnershipModelArtifacts batch)
  | other {batches : List (PreparedOwnershipBatch Hash)} {state state' : GlobalState Contents Hash} :
      Delivered fileId start batches state → LeavesFile fileId state state' →
      Delivered fileId start batches state'

/-- The batch has one prepared version of the file, for the contents with this hash. -/
structure PreparedFor (fileId : FileId) (hash : Option Hash) (batch : PreparedOwnershipBatch Hash)
    (file : PreparedOwnershipFile Hash) : Prop where
  only : batch.files.filter (·.fileId = fileId) = [file]
  hash : hash = some file.vfsHash

variable {fileId : FileId} {start state state' : GlobalState Contents Hash}
  {batches : List (PreparedOwnershipBatch Hash)} {latest batch : PreparedOwnershipBatch Hash}
  {file newest : PreparedOwnershipFile Hash}

theorem PreparedFor.fileId_eq {hash : Option Hash} (h : PreparedFor fileId hash batch file) :
    file.fileId = fileId := by
  have hmem : file ∈ batch.files.filter (·.fileId = fileId) := h.only ▸ List.mem_singleton_self file
  exact of_decide_eq_true (List.mem_filter.mp hmem).2

/-- What holds while the batches up to the newest one arrive. -/
structure NewestWins (start : GlobalState Contents Hash) (latest : PreparedOwnershipBatch Hash)
    (newest : PreparedOwnershipFile Hash) (committed : List (PreparedOwnershipBatch Hash))
    (state : GlobalState Contents Hash) : Prop where
  hash : state.ownershipFileHashes.get? newest.fileId
    = start.ownershipFileHashes.get? newest.fileId
  bound : ∀ sequence ∈ state.ownershipFileSequences.get? newest.fileId, sequence ≤ latest.sequence
  installed : latest ∈ committed → InstalledFile latest.sequence newest state

theorem NewestWins.leavesFile (h : NewestWins start latest newest batches state)
    (hleaves : LeavesFile newest.fileId state state') :
    NewestWins start latest newest batches state' where
  hash := hleaves.hash.trans h.hash
  bound := by
    rw [hleaves.sequence]
    exact h.bound
  installed hmem := (h.installed hmem).leavesFile hleaves

variable [DecidableEq Hash]

/-- A prepared file for the current contents is installed unless a newer one was. -/
theorem installs_iff (sequence : Nat) (hhash : state.ownershipFileHashes.get? file.fileId
      = some file.vfsHash) :
    state.installs sequence file = true
      ↔ ∀ recorded ∈ state.ownershipFileSequences.get? file.fileId, recorded ≤ sequence := by
  unfold installs
  rw [hhash, beq_self_eq_true, Bool.and_true]
  cases state.ownershipFileSequences.get? file.fileId with
  | none => simp
  | some recorded => simp

/-- **A commit keeps the invariant**: the newest batch is installed whenever it comes, and an older
one is refused after it. -/
theorem NewestWins.commit (h : NewestWins start latest newest batches state)
    (hnewest : PreparedFor newest.fileId (start.ownershipFileHashes.get? newest.fileId) latest newest)
    (hfile : PreparedFor newest.fileId (start.ownershipFileHashes.get? newest.fileId) batch file)
    (hle : batch.sequence ≤ latest.sequence)
    (hsame : batch.sequence = latest.sequence → batch = latest) :
    NewestWins start latest newest (batches ++ [batch])
      (state.commitOwnershipModelArtifacts batch) := by
  have hid := hfile.fileId_eq
  have hcurrent : state.ownershipFileHashes.get? file.fileId = some file.vfsHash := by
    rw [hid, h.hash, hfile.hash]
  obtain ⟨hhash, ⟨hinstalls, hinstalled⟩ | ⟨hrefused, hleaves⟩⟩ := commit_cases hfile.only state
  · rw [installs_iff batch.sequence hcurrent] at hinstalls
    refine ⟨hhash.trans h.hash, fun sequence hsequence => ?_, fun hmem => ?_⟩
    · rw [← hid, hinstalled.sequence] at hsequence
      exact Option.some.inj hsequence ▸ hle
    · have hbatch : batch = latest := by
        rcases List.mem_append.mp hmem with hmem | hmem
        · have hnewer := hinstalls latest.sequence (hid ▸ (h.installed hmem).sequence)
          exact hsame (le_antisymm hle hnewer)
        · exact (List.mem_singleton.mp hmem).symm
      subst hbatch
      obtain rfl : file = newest := List.singleton_inj.mp (hfile.only.symm.trans hnewest.only)
      exact hinstalled
  · have hkept := h.leavesFile hleaves
    refine ⟨hkept.hash, hkept.bound, fun hmem => ?_⟩
    rcases List.mem_append.mp hmem with hmem | hmem
    · exact hkept.installed hmem
    · -- The newest batch is never refused.
      obtain rfl := List.mem_singleton.mp hmem
      have hinstalls := (installs_iff latest.sequence hcurrent).mpr (hid ▸ h.bound)
      rw [hrefused] at hinstalls
      exact nomatch hinstalls

/-- **The invariant holds along every delivery.** -/
theorem newestWins_of_delivered (h : Delivered newest.fileId start batches state)
    (hprepared : ∀ batch ∈ batches, ∃ file, PreparedFor newest.fileId
      (start.ownershipFileHashes.get? newest.fileId) batch file)
    (hnewest : PreparedFor newest.fileId (start.ownershipFileHashes.get? newest.fileId) latest newest)
    (hstart : ∀ sequence ∈ start.ownershipFileSequences.get? newest.fileId,
      sequence ≤ latest.sequence)
    (hmax : ∀ batch ∈ batches, batch.sequence ≤ latest.sequence
      ∧ (batch.sequence = latest.sequence → batch = latest)) :
    NewestWins start latest newest batches state := by
  induction h with
  | start => exact ⟨rfl, hstart, nofun⟩
  | @commit earlier state batch _ ih =>
    have hbefore := ih (fun batch hmem => hprepared batch (List.mem_append_left _ hmem))
      fun batch hmem => hmax batch (List.mem_append_left _ hmem)
    have hbatch : batch ∈ earlier ++ [batch] := List.mem_append_right _ (List.mem_singleton_self batch)
    obtain ⟨file, hfile⟩ := hprepared batch hbatch
    exact hbefore.commit hnewest hfile (hmax batch hbatch).1 (hmax batch hbatch).2
  | other _ hleaves ih => exact (ih hprepared hmax).leavesFile hleaves

/-- **Commits are order-independent.**  Batches with distinct sequence numbers, each prepared for the
contents that the file has, are committed in any order and nothing else touches the file: then its
exact events and its tutorial model are those of the batch with the greatest sequence number.  No
newer batch was installed for the file before. -/
theorem commits_order_independent (h : Delivered fileId start batches state)
    (hdistinct : (batches.map (·.sequence)).Nodup)
    (hprepared : ∀ batch ∈ batches, ∃ file, PreparedFor fileId
      (start.ownershipFileHashes.get? fileId) batch file)
    (hlatest : latest ∈ batches) (hmax : ∀ batch ∈ batches, batch.sequence ≤ latest.sequence)
    (hstart : ∀ sequence ∈ start.ownershipFileSequences.get? fileId, sequence ≤ latest.sequence)
    (hnewest : PreparedFor fileId (start.ownershipFileHashes.get? fileId) latest newest) :
    (∀ event, event ∈ ownershipEventsForFile state.diagnostics.ownershipEvents fileId
        ∧ event.exact = true ↔ event ∈ newest.events ∧ event.exact = true)
      ∧ state.diagnostics.ownershipTutorialModels.get? fileId = newest.model := by
  obtain rfl := hnewest.fileId_eq
  have hinstalled := (newestWins_of_delivered h hprepared hnewest hstart fun batch hmem =>
    ⟨hmax batch hmem, fun heq => List.inj_on_of_nodup_map hdistinct hmem hlatest heq⟩).installed
      hlatest
  exact ⟨fun event => and_congr_left fun hexact => hinstalled.events event hexact,
    hinstalled.model⟩

end Order

/-! ## Two batches out of order -/

/-- A move in the only file, as an artifact has it. -/
def artifactMove (name : String) : OwnershipEvent :=
  { invalidUseEvent ⟨none, ""⟩ (columns 8 9) with
    eventId := "move-" ++ name
    bodyId := 1
    kind := .move
    name
    place := name
    detail := none }

/-- The file prepared from an artifact with one move. -/
def moveFile (name : String) : PreparedOwnershipFile String where
  uri := "main.rs"
  fileId := 0
  vfsHash := "let b = a;"
  sourceHash := stableSourceHash "let b = a;"
  schemaVersion := 7
  events := [artifactMove name]
  model := none

/-- The batches of two checks, the older one of another flycheck. -/
def olderBatch : PreparedOwnershipBatch String := ⟨1, some "app", 1, [moveFile "b"]⟩

def newerBatch : PreparedOwnershipBatch String := ⟨0, none, 2, [moveFile "a"]⟩

/-- The newer batch comes first, and its move is what remains. -/
theorem older_batch_refused :
    (∀ event, event ∈ ownershipEventsForFile
          ((opened.commitOwnershipModelArtifacts newerBatch).commitOwnershipModelArtifacts
            olderBatch).diagnostics.ownershipEvents 0
        ∧ event.exact = true ↔ event ∈ [artifactMove "a"] ∧ event.exact = true)
      ∧ ((opened.commitOwnershipModelArtifacts newerBatch).commitOwnershipModelArtifacts
          olderBatch).diagnostics.ownershipTutorialModels.get? 0 = none := by
  have hnewer : PreparedFor 0 (opened.ownershipFileHashes.get? 0) newerBatch (moveFile "a") :=
    ⟨rfl, rfl⟩
  have holder : PreparedFor 0 (opened.ownershipFileHashes.get? 0) olderBatch (moveFile "b") :=
    ⟨rfl, rfl⟩
  have hbatches : ∀ {P : PreparedOwnershipBatch String → Prop}, P newerBatch → P olderBatch →
      ∀ batch ∈ [newerBatch, olderBatch], P batch := by
    intro P h h' batch hmem
    rcases List.mem_pair.mp hmem with rfl | rfl
    · exact h
    · exact h'
  exact commits_order_independent (.commit olderBatch (.commit newerBatch .start)) (by decide)
    (hbatches ⟨_, hnewer⟩ ⟨_, holder⟩) List.mem_cons_self (hbatches (by decide) (by decide))
    (fun _ hnone => nomatch hnone) hnewer

end GlobalState

end RustWorkbench.Analyzer
