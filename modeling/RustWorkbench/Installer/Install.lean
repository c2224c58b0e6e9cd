import RustWorkbench.Library.Scripts
import Mathlib.Logic.Function.Basic

/-!
# The install mode of the installer

The commands of `install-user` from `mkdir` of the install root to the last `echo`, in the order of
the script, over what the installer manages: the links `current` and `previous`, the payload
directories below `versions`, the two command links, the desktop file, the icon and the launcher of
an earlier application id.

A command may fail, and then leaves what such a command can leave: a rename leaves its source, a
copy may leave half a file, a removal of a directory may have removed some of it.  The script stops
(`set -Eeuo pipefail`), after the trap that is set at that point.

* `rollback` — `rollback_on_error`, and the same three recoveries after a failed doctor.
* `installScript` — the script, by the traps that are set.
-/

namespace RustWorkbench.Installer

open Scripts

/-- The links that the installer sets. -/
inductive Link
  | current | previous | command | uninstall
deriving DecidableEq, Repr

/-- What is at a path, as `cp -a` copies it. -/
abbrev File := String

/-- What the installer manages. -/
structure Managed where
  /-- The texts of the links. -/
  links : Link → Option String
  desktop : Option File
  icon : Option File
  /-- The desktop file of the earlier application id, where that is not this one. -/
  legacy : Option File
  /-- The directories in `versions`, in the order of the glob. -/
  payloads : List String

def versionsPath (id : String) : String := "versions/" ++ id

/-- The payload is the one that `current` or `previous` leads to. -/
def Managed.Names (m : Managed) (id : String) : Prop :=
  m.links .current = some (versionsPath id) ∨ m.links .previous = some (versionsPath id)

/-- The release to install and what the run finds beside the managed state. -/
structure Release where
  payloadId : String
  appId : String
  installRoot : String
  /-- The desktop file with its `Exec` line rewritten. -/
  desktopFile : File
  iconFile : File
  requiredKib : Nat
  availableKib : Nat
  /-- The link leads below the install root or into an old bundle. -/
  owned : String → Bool
  /-- The doctor accepts the payload that is in place of the new one before. -/
  payloadValid : Bool

namespace Release

def currentTarget (r : Release) : String := versionsPath r.payloadId

def commandTarget (r : Release) : String := r.installRoot ++ "/current/bin/rust-workbench"

def uninstallTarget (r : Release) : String := r.installRoot ++ "/current/bin/install-user"

def reserveKib (r : Release) : Nat := r.requiredKib / 10 + 262144

end Release

/-- Where the script can stop, and what the failing command has left where that can differ. -/
inductive Place
  | makeRoot | openLock | takeLock | requireCommand
  | owned (link : Link)
  | sourceDoctor | makeVersions | payloadDoctor | date | moveInvalid | reportInvalid
  | du | df | space | makeStaging | copyBundle | stagingDoctor | moveStaging
  | readLink (link : Link) | pattern (link : Link)
  | makeBackup | saveDesktop | saveIcon
  /-- `ln -s` to the temporary name. -/
  | linkNew (link : Link)
  /-- `mv -Tf` of the temporary name. -/
  | moveNew (link : Link)
  | currentDoctor
  | dirnameDesktop | dirnameIcon | makeDirectories
  | installIcon (left : Option File)
  | writeDesktop | chmodDesktop | moveDesktop | removeLegacy | refreshCaches
  | commandDoctor | makeData | writeMarker
  /-- `rm -rf` of the backup, with what it has removed. -/
  | removeBackup (desktop icon : Bool)
  | readCurrentAgain | readPreviousAgain
  | basename (id : String) | prune (id : String)
  | removeInvalid | report
deriving DecidableEq, Repr

structure Backup where
  desktop : Option File := none
  icon : Option File := none
deriving DecidableEq, Repr

/-- The managed state with the temporary files and the variables of the script. -/
structure Machine extends Managed where
  /-- The links at `….new.$$`. -/
  temporary : Link → Option String := fun _ => none
  /-- `previous_current`, `previous_previous`, `previous_bin_target`,
  `previous_uninstall_target`. -/
  saved : Link → Option String := fun _ => none
  backup : Backup := {}
  /-- The doctor has rejected the payload that is in place. -/
  invalid : Bool := false
  /-- `payload_created` -/
  created : Bool := false
  /-- `current_payload` -/
  currentSeen : Option String := none
  /-- `previous_payload` -/
  previousSeen : Option String := none

namespace Machine

def removePayload (id : String) (s : Machine) : Machine :=
  { s with payloads := s.payloads.filter (· ≠ id) }

/-! ## The recoveries -/

/-- `atomic_symlink` without `errexit`: where a link is at the temporary name already, `ln -s` does
not replace it (it fails, or makes a link in the directory that the first one leads to). -/
def atomicSymlink (link : Link) (target : String) (s : Machine) : Machine :=
  { s with
    links := Function.update s.links link (some ((s.temporary link).getD target))
    temporary := Function.update s.temporary link none }

def restoreLink (link : Link) (s : Machine) : Machine :=
  match s.saved link with
  | some target => s.atomicSymlink link target
  | none => { s with links := Function.update s.links link none }

def rollbackCurrent (s : Machine) : Machine := (s.restoreLink .current).restoreLink .previous

/-- A file that is not in the backup is removed. -/
def restoreIntegration (s : Machine) : Machine :=
  { (s.restoreLink .command).restoreLink .uninstall with
    desktop := s.backup.desktop
    icon := s.backup.icon }

def discardNewPayload (r : Release) (s : Machine) : Machine :=
  if s.created then s.removePayload r.payloadId else s

def rollback (r : Release) (s : Machine) : Machine :=
  { s.rollbackCurrent.restoreIntegration.discardNewPayload r with backup := {} }

end Machine

/-! ## Kinds of commands -/

section Kinds

variable {ι : Type}

/-- A command with the trap that is set where it stands. -/
def command [DecidableEq ι] (trap : Machine → Machine) (place : ι)
    (effect : Machine → Machine := id) : Command Machine ι where
  effect := effect
  breaks p s := if p = place then some (.exits (trap s)) else none

/-- A command in an `if`. -/
def whenever (condition : Machine → Bool) (c : Command Machine ι) : Command Machine ι :=
  { c with applies := condition }

/-- A test that ends in `die`. -/
def check (place : ι) (refused : Machine → Bool) : Command Machine ι where
  refuses s := if refused s then some place else none

end Kinds

/-! ## Before anything is switched -/

/-- `require_owned_or_absent_command` -/
def requireOwned (r : Release) (link : Link) : Command Machine Place where
  applies s := (s.links link).isSome
  refuses s := if (s.links link).any fun text => !r.owned text then some (.owned link) else none
  breaks p s := if p = .owned link then some (.exits s) else none

/-- The doctor of the payload in place, whose failure is tested for. -/
def payloadDoctor (r : Release) : Command Machine Place where
  applies s := s.payloads.contains r.payloadId
  effect s := { s with invalid := !r.payloadValid }
  breaks p s := if p = .payloadDoctor then some (.continues { s with invalid := true }) else none

def examine (r : Release) : List (Command Machine Place) :=
  [ command id .makeRoot,
    command id .openLock,
    command id .takeLock,
    command id .requireCommand,
    requireOwned r .command,
    requireOwned r .uninstall,
    command id .sourceDoctor,
    command id .makeVersions,
    payloadDoctor r,
    whenever (·.invalid) (command id .date) ]

def moveInvalid (r : Release) : Command Machine Place :=
  whenever (·.invalid) (command id .moveInvalid (·.removePayload r.payloadId))

def absent (r : Release) (s : Machine) : Bool := !s.payloads.contains r.payloadId

def stage (r : Release) : List (Command Machine Place) :=
  [ whenever (·.invalid) (command id .reportInvalid),
    whenever (absent r) (command id .du),
    whenever (absent r) (command id .df),
    whenever (absent r)
      (check .space fun _ => decide (r.availableKib < r.requiredKib + r.reserveKib)),
    whenever (absent r) (command id .makeStaging),
    whenever (absent r) (command id .copyBundle),
    whenever (absent r) (command id .stagingDoctor) ]

def moveStaging (r : Release) : Command Machine Place :=
  whenever (absent r) (command id .moveStaging fun s =>
    { s with payloads := r.payloadId :: s.payloads, created := true })

/-! ## What is there is read and saved -/

/-- `^versions/[A-Za-z0-9][A-Za-z0-9._+-]*$` -/
def versionsPattern (text : String) : Bool :=
  text.toList.take 9 = "versions/".toList &&
    match text.toList.drop 9 with
    | [] => false
    | first :: rest =>
      first.isAlphanum && rest.all fun c => c.isAlphanum || c ∈ ['.', '_', '+', '-']

def readLink (trap : Machine → Machine) (link : Link) : Command Machine Place where
  effect s := { s with saved := Function.update s.saved link (s.links link) }
  breaks p s := if p = .readLink link ∧ (s.links link).isSome then some (.exits (trap s)) else none

def checkPattern (link : Link) : Command Machine Place :=
  check (.pattern link) fun s => (s.saved link).any fun text => !versionsPattern text

/-- `cleanup_integration_backup` -/
def dropBackup (s : Machine) : Machine := { s with backup := {} }

def saveDesktop : Command Machine Place where
  effect s := { s with backup := { s.backup with desktop := s.desktop } }
  breaks p s := if p = .saveDesktop ∧ s.desktop.isSome then some (.exits (dropBackup s)) else none

def saveIcon : Command Machine Place where
  effect s := { s with backup := { s.backup with icon := s.icon } }
  breaks p s := if p = .saveIcon ∧ s.icon.isSome then some (.exits (dropBackup s)) else none

def save : List (Command Machine Place) :=
  [ readLink id .current,
    checkPattern .current,
    readLink id .previous,
    checkPattern .previous,
    command id .makeBackup,
    readLink dropBackup .command,
    readLink dropBackup .uninstall,
    saveDesktop,
    saveIcon ]

/-! ## The switch, under the trap `rollback_on_error` -/

/-- `atomic_symlink`: a failing `mv` leaves the temporary link. -/
def switchLink (r : Release) (link : Link) (target : Machine → String) :
    Command Machine Place where
  effect s := { s with links := Function.update s.links link (some (target s)) }
  breaks p s :=
    if p = .linkNew link then some (.exits (s.rollback r))
    else if p = .moveNew link then
      some (.exits (Machine.rollback r
        { s with temporary := Function.update s.temporary link (some (target s)) }))
    else none

/-- `$(dirname …)` among the arguments of `mkdir -p`.  With `set -E` the substitution has the trap
too: the handler runs in the subshell, and again in the script, where `mkdir` fails for the empty
name. -/
def dirname (r : Release) (place : Place) : Command Machine Place :=
  command (fun s => (s.rollback r).rollback r) place

def installIcon (r : Release) : Command Machine Place where
  effect s := { s with icon := some r.iconFile }
  breaks p s :=
    match p with
    | .installIcon left => some (.exits (Machine.rollback r { s with icon := left }))
    | _ => none

/-- `rm -f` of the desktop file of the earlier application id. -/
def removeLegacy (r : Release) (s : Machine) : Machine :=
  if r.appId = "dev.rustworkbench.RustWorkbench" then { s with desktop := none }
  else { s with legacy := none }

/-- Another version is current. -/
def replaces (r : Release) (text : Option String) : Bool := text.any (· ≠ r.currentTarget)

def switch (r : Release) : List (Command Machine Place) :=
  [ whenever (fun s => replaces r (s.saved .current))
      (switchLink r .previous fun s => (s.saved .current).getD ""),
    switchLink r .current fun _ => r.currentTarget,
    command (·.rollback r) .currentDoctor,
    dirname r .dirnameDesktop,
    dirname r .dirnameIcon,
    command (·.rollback r) .makeDirectories,
    switchLink r .command fun _ => r.commandTarget,
    switchLink r .uninstall fun _ => r.uninstallTarget,
    installIcon r,
    command (·.rollback r) .writeDesktop,
    command (·.rollback r) .chmodDesktop,
    command (·.rollback r) .moveDesktop fun s => { s with desktop := some r.desktopFile },
    command (·.rollback r) .removeLegacy (removeLegacy r),
    command (·.rollback r) .refreshCaches,
    command (·.rollback r) .commandDoctor,
    command (·.rollback r) .makeData,
    command (·.rollback r) .writeMarker ]

/-- The trap is still set when the backup goes. -/
def removeBackup (r : Release) : Command Machine Place where
  effect := dropBackup
  breaks p s :=
    match p with
    | .removeBackup desktop icon =>
      some (.exits (Machine.rollback r { s with
        backup := {
          desktop := if desktop then none else s.backup.desktop
          icon := if icon then none else s.backup.icon } }))
    | _ => none

/-! ## After the traps are reset -/

/-- `readlink … || true` -/
def readPreviousAgain : Command Machine Place where
  effect s := { s with previousSeen := s.links .previous }
  breaks p s :=
    if p = .readPreviousAgain then some (.continues { s with previousSeen := none }) else none

def look : List (Command Machine Place) :=
  [ command id .readCurrentAgain fun s => { s with currentSeen := s.links .current },
    readPreviousAgain ]

def kept (s : Machine) (id : String) : Bool :=
  some (versionsPath id) = s.currentSeen || some (versionsPath id) = s.previousSeen

/-- The loop over `versions`, stopped at a candidate. -/
def prunedBefore (s : Machine) (id : String) : Machine :=
  { s with
    payloads := (s.payloads.takeWhile (· ≠ id)).filter (kept s) ++ s.payloads.dropWhile (· ≠ id) }

def prune : Command Machine Place where
  effect s := { s with payloads := s.payloads.filter (kept s) }
  breaks p s :=
    match p with
    | .basename id => if id ∈ s.payloads then some (.exits (prunedBefore s id)) else none
    | .prune id =>
      if id ∈ s.payloads ∧ kept s id = false then some (.exits (prunedBefore s id)) else none
    | _ => none

def conclude : List (Command Machine Place) :=
  [ command id .removeInvalid,
    command id .report ]

/-! ## The script -/

def installScript (r : Release) : List (Command Machine Place) :=
  examine r ++ moveInvalid r :: stage r ++ moveStaging r :: save ++ switch r ++
    removeBackup r :: look ++ prune :: conclude

/-- A run from a managed state, in which the command at the place fails. -/
def Managed.install (m : Managed) (r : Release) (fault : Option Place) : Outcome Machine Place :=
  run fault (installScript r) { toManaged := m }

end RustWorkbench.Installer
