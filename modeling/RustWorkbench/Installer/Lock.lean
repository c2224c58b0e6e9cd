import RustWorkbench.Library.Runs
import Mathlib.Logic.Function.Basic

/-!
# The lock of the installer

Every run of `install-user` creates the install root if it is missing, opens the file
`.install.lock` in it and waits for an exclusive `flock` on what it opened.  Uninstalling deletes
the file, and the root if nothing else is in it, before the process ends.

The lock is held on the inode, not on the name: a file that is opened after the name was deleted is
another inode, and locking it waits for nobody.

* `one_installer_at_a_time` — at most one process is between its `flock` and its exit, if a missing
  lock file is only made while no process has one open.
* `two_installers_hold_locks` — else an installation starts while an uninstallation runs.
-/

namespace RustWorkbench.Installer

open Runs

inductive Mode
  | install | rollback | uninstall
deriving DecidableEq, Repr

/-- How far a process is. -/
inductive Phase
  | absent
  | started (mode : Mode)
  /-- After `mkdir -p`. -/
  | rooted (mode : Mode)
  /-- After opening the lock file, waiting for the lock on the inode. -/
  | waiting (mode : Mode) (inode : Nat)
  /-- After `flock`. -/
  | holding (mode : Mode) (inode : Nat)
  | exited
deriving DecidableEq, Repr

/-- The inode that the process has open. -/
def Phase.descriptor : Phase → Option Nat
  | waiting _ inode | holding _ inode => some inode
  | _ => none

/-- The install root, as far as the lock goes, and the processes. -/
structure LockState where
  rootExists : Bool
  /-- The inode that `.install.lock` names. -/
  lockFile : Option Nat
  nextInode : Nat
  /-- The locks of the kernel, by inode. -/
  holder : Nat → Option Nat
  phase : Nat → Phase

inductive LockAction
  | start (process : Nat) (mode : Mode)
  | makeRoot (process : Nat)
  | openLock (process : Nat)
  | acquire (process : Nat)
  /-- `rm -f .install.lock` of an uninstallation. -/
  | unlink (process : Nat)
  /-- `rmdir` of the root, which does nothing if the directory is not empty. -/
  | removeRoot (process : Nat) (empty : Bool)
  /-- The end of a process, whether it is done, has failed or was stopped. -/
  | exit (process : Nat)
deriving DecidableEq, Repr

namespace LockState

def setPhase (s : LockState) (process : Nat) (phase : Phase) : LockState :=
  { s with phase := Function.update s.phase process phase }

/-- The end of a process closes what it has open, and with it goes its lock. -/
def release (s : LockState) (process : Nat) : LockState :=
  { s with
    holder := fun inode => if s.holder inode = some process then none else s.holder inode
    phase := Function.update s.phase process .exited }

end LockState

def lockStep (s : LockState) : LockAction → Option LockState
  | .start process mode =>
    match s.phase process with
    | .absent =>
      -- only a rollback asks for the root before it makes it
      if mode = .rollback ∧ s.rootExists = false then some (s.setPhase process .exited)
      else some (s.setPhase process (.started mode))
    | _ => none
  | .makeRoot process =>
    match s.phase process with
    | .started mode => some { s.setPhase process (.rooted mode) with rootExists := true }
    | _ => none
  | .openLock process =>
    match s.phase process with
    | .rooted mode =>
      if s.rootExists then
        match s.lockFile with
        | some inode => some (s.setPhase process (.waiting mode inode))
        | none => some { s.setPhase process (.waiting mode s.nextInode) with
            lockFile := some s.nextInode
            nextInode := s.nextInode + 1 }
      else some (s.setPhase process .exited)
    | _ => none
  | .acquire process =>
    match s.phase process with
    | .waiting mode inode =>
      match s.holder inode with
      | none => some { s.setPhase process (.holding mode inode) with
          holder := Function.update s.holder inode (some process) }
      | some _ => none
    | _ => none
  | .unlink process =>
    match s.phase process with
    | .holding .uninstall _ => some { s with lockFile := none }
    | _ => none
  | .removeRoot process empty =>
    match s.phase process with
    | .holding .uninstall _ =>
      if s.lockFile = none ∧ empty = true then some { s with rootExists := false } else some s
    | _ => none
  | .exit process =>
    match s.phase process with
    | .absent | .exited => none
    | _ => some (s.release process)

/-- No process has started; the root and the lock file in it may be there. -/
def lockSystem (rootExists lockExists : Bool) : System LockState LockAction where
  init :=
    { rootExists
      lockFile := if rootExists && lockExists then some 0 else none
      nextInode := 1
      holder := fun _ => none
      phase := fun _ => .absent }
  step := lockStep

/-! ## The invariant -/

/-- A missing lock file is opened, and so made anew, only when no process has one open. -/
def OpensAlone (s : LockState) (a : LockAction) : Prop :=
  ∀ process, a = .openLock process → s.lockFile = none → ∀ other, (s.phase other).descriptor = none

structure LockInv (s : LockState) : Prop where
  holder_iff : ∀ inode process,
    s.holder inode = some process ↔ ∃ mode, s.phase process = .holding mode inode
  shared : ∀ p q i j, (s.phase p).descriptor = some i → (s.phase q).descriptor = some j → i = j
  named : ∀ p i j, s.lockFile = some i → (s.phase p).descriptor = some j → i = j

variable {s : LockState}

/-- A process that moves from one phase without a lock to another, with the same open inode or
none. -/
theorem LockInv.setPhase (h : LockInv s) {process : Nat} {phase : Phase}
    (hbefore : ∀ mode inode, s.phase process ≠ .holding mode inode)
    (hafter : ∀ mode inode, phase ≠ .holding mode inode)
    (hdescriptor : ∀ i, phase.descriptor = some i →
      s.lockFile = some i ∨ (s.phase process).descriptor = some i) :
    LockInv (s.setPhase process phase) := by
  -- every descriptor after the step agrees with one from before, or with the name
  have hagree : ∀ p i, (Function.update s.phase process phase p).descriptor = some i →
      s.lockFile = some i ∨ ∃ q, (s.phase q).descriptor = some i := by
    intro p i hp
    by_cases hpp : p = process
    · subst hpp
      rw [Function.update_self] at hp
      exact (hdescriptor i hp).imp id fun h => ⟨p, h⟩
    · rw [Function.update_of_ne hpp] at hp
      exact .inr ⟨p, hp⟩
  refine ⟨fun inode p => ?_, fun p q i j hp hq => ?_, fun p i j hfile hp => ?_⟩
  · by_cases hpp : p = process
    · subst hpp
      simp only [LockState.setPhase, Function.update_self, h.holder_iff, hbefore, hafter]
    · simp only [LockState.setPhase, Function.update_of_ne hpp, h.holder_iff]
  · rcases hagree p i hp with hi | ⟨p', hi⟩
    · rcases hagree q j hq with hj | ⟨q', hj⟩
      · exact Option.some.inj (hi.symm.trans hj)
      · exact h.named q' i j hi hj
    · rcases hagree q j hq with hj | ⟨q', hj⟩
      · exact (h.named p' j i hj hi).symm
      · exact h.shared p' q' i j hi hj
  · rcases hagree p j hp with hj | ⟨p', hj⟩
    · exact Option.some.inj (hfile.symm.trans hj)
    · exact h.named p' i j hfile hj

theorem LockInv.init (rootExists lockExists : Bool) :
    LockInv (lockSystem rootExists lockExists).init :=
  ⟨fun _ _ => by simp [lockSystem], fun _ _ _ _ h => (nomatch h), fun _ _ _ _ h => (nomatch h)⟩

/-- A lock file that is made when none is open is the only one open. -/
theorem LockInv.openNew (h : LockInv s) {process : Nat} {mode : Mode}
    (hphase : s.phase process = .rooted mode)
    (halone : ∀ other, (s.phase other).descriptor = none) :
    LockInv { s.setPhase process (.waiting mode s.nextInode) with
      lockFile := some s.nextInode
      nextInode := s.nextInode + 1 } := by
  have honly : ∀ p i,
      (Function.update s.phase process (.waiting mode s.nextInode) p).descriptor = some i →
      i = s.nextInode := by
    intro p i hp
    by_cases hpp : p = process
    · subst hpp
      rw [Function.update_self] at hp
      exact (Option.some.inj hp).symm
    · rw [Function.update_of_ne hpp, halone p] at hp
      cases hp
  refine ⟨fun inode p => ?_, fun p q i j hp hq => ?_, fun p i j hfile hp => ?_⟩
  · by_cases hpp : p = process
    · subst hpp
      simp [LockState.setPhase, h.holder_iff, hphase]
    · simp only [LockState.setPhase, Function.update_of_ne hpp, h.holder_iff]
  · exact (honly p i hp).trans (honly q j hq).symm
  · exact (Option.some.inj hfile).symm.trans (honly p j hp).symm

/-- The lock of a free inode goes to one of the processes that wait for it. -/
theorem LockInv.acquire (h : LockInv s) {process inode : Nat} {mode : Mode}
    (hphase : s.phase process = .waiting mode inode) (hfree : s.holder inode = none) :
    LockInv { s.setPhase process (.holding mode inode) with
      holder := Function.update s.holder inode (some process) } := by
  have hsame : ∀ p, (Function.update s.phase process (.holding mode inode) p).descriptor
      = (s.phase p).descriptor := by
    intro p
    by_cases hpp : p = process
    · subst hpp
      rw [Function.update_self, hphase]
      rfl
    · rw [Function.update_of_ne hpp]
  refine ⟨fun i p => ?_, fun p q i j hp hq => ?_, fun p i j hfile hp => ?_⟩
  · by_cases hpp : p = process
    · subst hpp
      by_cases hi : i = inode
      · subst hi
        simp [LockState.setPhase]
      · have hother : s.holder i ≠ some p := by
          rw [Ne, h.holder_iff]
          rintro ⟨mode', hmode'⟩
          rw [hphase] at hmode'
          cases hmode'
        simp [LockState.setPhase, Function.update_of_ne hi, hother, Ne.symm hi]
    · by_cases hi : i = inode
      · subst hi
        have hother : ¬ ∃ mode, s.phase p = .holding mode i := by
          rw [← h.holder_iff, hfree]
          exact fun hnone => nomatch hnone
        simp only [LockState.setPhase, Function.update_self, Function.update_of_ne hpp, hother,
          Option.some.injEq, iff_false]
        exact Ne.symm hpp
      · simp only [LockState.setPhase, Function.update_of_ne hi, Function.update_of_ne hpp,
          h.holder_iff]
  · exact h.shared p q i j ((hsame p).symm.trans hp) ((hsame q).symm.trans hq)
  · exact h.named p i j hfile ((hsame p).symm.trans hp)

theorem LockInv.release (h : LockInv s) (process : Nat) : LockInv (s.release process) := by
  have hsome : ∀ p i, (Function.update s.phase process .exited p).descriptor = some i →
      (s.phase p).descriptor = some i := by
    intro p i hp
    by_cases hpp : p = process
    · subst hpp
      rw [Function.update_self] at hp
      cases hp
    · rwa [Function.update_of_ne hpp] at hp
  refine ⟨fun i p => ?_, fun p q i j hp hq => ?_, fun p i j hfile hp => ?_⟩
  · by_cases hpp : p = process
    · subst hpp
      simp only [LockState.release, Function.update_self, reduceCtorEq, exists_false, iff_false]
      split
      · exact fun hnone => nomatch hnone
      · assumption
    · simp only [LockState.release, Function.update_of_ne hpp, ← h.holder_iff]
      split
      · rename_i hheld
        simp [hheld, Ne.symm hpp]
      · exact Iff.rfl
  · exact h.shared p q i j (hsome p i hp) (hsome q j hq)
  · exact h.named p i j hfile (hsome p j hp)

/-- **One step.** -/
theorem LockInv.step {s s' : LockState} {a : LockAction} (h : LockInv s) (hok : OpensAlone s a)
    (hstep : lockStep s a = some s') : LockInv s' := by
  cases a with
  | start process mode =>
    simp only [lockStep] at hstep
    split at hstep
    · rename_i hphase
      split at hstep
      · cases hstep
        exact h.setPhase (by simp [hphase]) (by simp) (by simp [Phase.descriptor])
      · cases hstep
        exact h.setPhase (by simp [hphase]) (by simp) (by simp [Phase.descriptor])
    · cases hstep
  | makeRoot process =>
    simp only [lockStep] at hstep
    split at hstep
    · rename_i mode hphase
      cases hstep
      have hnext : LockInv (s.setPhase process (.rooted mode)) :=
        h.setPhase (by simp [hphase]) (by simp) (by simp [Phase.descriptor])
      exact ⟨hnext.holder_iff, hnext.shared, hnext.named⟩
    · cases hstep
  | openLock process =>
    simp only [lockStep] at hstep
    split at hstep
    · rename_i mode hphase
      split at hstep
      · split at hstep
        · rename_i inode hfile
          cases hstep
          refine h.setPhase (by simp [hphase]) (by simp) fun i hi => .inl ?_
          exact hfile.trans hi
        · rename_i hfile
          cases hstep
          exact h.openNew hphase (hok process rfl hfile)
      · cases hstep
        exact h.setPhase (by simp [hphase]) (by simp) (by simp [Phase.descriptor])
    · cases hstep
  | acquire process =>
    simp only [lockStep] at hstep
    split at hstep
    · rename_i mode inode hphase
      split at hstep
      · rename_i hfree
        cases hstep
        exact h.acquire hphase hfree
      · cases hstep
    · cases hstep
  | unlink process =>
    simp only [lockStep] at hstep
    split at hstep
    · cases hstep
      exact ⟨h.holder_iff, h.shared, fun _ _ _ hfile => nomatch hfile⟩
    · cases hstep
  | removeRoot process empty =>
    simp only [lockStep] at hstep
    split at hstep
    · split at hstep
      · cases hstep
        exact ⟨h.holder_iff, h.shared, h.named⟩
      · cases hstep
        exact h
    · cases hstep
  | exit process =>
    simp only [lockStep] at hstep
    split at hstep
    · cases hstep
    · cases hstep
    · cases hstep
      exact h.release process

/-! ## Mutual exclusion -/

/-- The process is between its `flock` and its exit. -/
def Holds (s : LockState) (process : Nat) : Prop := ∃ mode inode, s.phase process = .holding mode inode

theorem LockInv.holder_unique (h : LockInv s) {p q : Nat} (hp : Holds s p) (hq : Holds s q) :
    p = q := by
  obtain ⟨mode, i, hp⟩ := hp
  obtain ⟨mode', j, hq⟩ := hq
  have hsame : i = j := h.shared p q i j (by rw [hp]; rfl) (by rw [hq]; rfl)
  subst hsame
  have hholder := (h.holder_iff i p).mpr ⟨mode, hp⟩
  rw [(h.holder_iff i q).mpr ⟨mode', hq⟩] at hholder
  exact (Option.some.inj hholder).symm

/-- **One installer at a time.**  In every run of any number of processes in which a missing lock
file is only made while no process has one open, at most one is between its `flock` and its exit. -/
theorem one_installer_at_a_time {rootExists lockExists : Bool} {tr : List (LockState × LockAction)}
    {s : LockState} (hrun : Run (lockSystem rootExists lockExists) OpensAlone tr s) {p q : Nat}
    (hp : Holds s p) (hq : Holds s q) : p = q := by
  have hinv : LockInv s := hrun.invariant (LockInv.init rootExists lockExists)
    fun _ _ _ h hok hstep => h.step hok hstep
  exact hinv.holder_unique hp hq

/-! ## Two processes -/

def twoPhases (s : LockState) : Phase × Phase := (s.phase 0, s.phase 1)

def hasLockFile (s : LockState) (_ : LockAction) : Bool := s.lockFile.isSome

/-- While the lock file stays, an uninstallation waits for the installation. -/
theorem uninstall_waits_for_install :
    ∃ tr s, Run (lockSystem true true) OpensAlone tr s ∧ s.phase 1 = .waiting .uninstall 0
      ∧ Holds s 0 ∧ ∀ q, Holds s q → q = 0 := by
  have heval : (runActions (lockSystem true true) [.start 0 .install, .makeRoot 0, .openLock 0,
      .acquire 0, .start 1 .uninstall, .makeRoot 1, .openLock 1] [] (lockSystem true true).init).map
        (fun r => (r.1.all fun p => hasLockFile p.1 p.2, twoPhases r.2))
      = some (true, .holding .install 0, .waiting .uninstall 0) := by decide
  obtain ⟨tr, s, hrun, hphases⟩ := exists_checked_run_of_runActions heval
  have hsafe : Run (lockSystem true true) OpensAlone tr s := by
    refine hrun.mono fun s a hsome process _ hnone => ?_
    rw [hasLockFile, hnone] at hsome
    cases hsome
  obtain ⟨hfirst, hsecond⟩ := Prod.mk.inj hphases
  have hholds : Holds s 0 := ⟨.install, 0, hfirst⟩
  exact ⟨tr, s, hsafe, hsecond, hholds, fun q hq => one_installer_at_a_time hsafe hq hholds⟩

/-- An uninstallation deletes the lock file; an installation that starts then locks a new one and
goes on beside it. -/
theorem two_installers_hold_locks :
    ∃ tr s, Run (lockSystem true true) anyStep tr s ∧ Holds s 0 ∧ Holds s 1 := by
  have heval : (runActions (lockSystem true true) [.start 0 .uninstall, .makeRoot 0, .openLock 0,
      .acquire 0, .unlink 0, .start 1 .install, .makeRoot 1, .openLock 1, .acquire 1] []
        (lockSystem true true).init).map (fun r => twoPhases r.2)
      = some (.holding .uninstall 0, .holding .install 1) := by decide
  obtain ⟨tr, s, hrun, hphases⟩ := exists_run_of_runActions heval
  obtain ⟨hfirst, hsecond⟩ := Prod.mk.inj hphases
  exact ⟨tr, s, hrun, ⟨.uninstall, 0, hfirst⟩, ⟨.install, 1, hsecond⟩⟩

end RustWorkbench.Installer
