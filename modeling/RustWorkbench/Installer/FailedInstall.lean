import RustWorkbench.Installer.Recovery

/-!
# What a failed installation leaves

A run of the install mode in which one command or one doctor fails, and what is left of the links,
the command links, the desktop file, the icon, the launcher of an earlier application id and the
payloads that the links led to.

* `Staged.rollback_iff` — what the recoveries bring back during the switch: not a payload that this
  run has put in the place of a rejected one.
* `failed_install_unchanged_iff` — a failure leaves everything as it was exactly where the place is
  `Harmless`, for every managed state.
* `failed_upgrade_switches_current` — a failed rename of `current` ends with `current` leading to
  the payload that was discarded.
-/

namespace RustWorkbench.Installer

open Scripts

/-- The text that the switch gives to a link. -/
def Release.target (r : Release) (m : Managed) : Link → Option String
  | .current => some r.currentTarget
  | .previous => m.links .current
  | .command => some r.commandTarget
  | .uninstall => some r.uninstallTarget

/-- The payload in place of the new one is not replaced where it is in use. -/
def KeepsPayload (r : Release) (m : Managed) : Prop :=
  r.payloadId ∈ m.payloads → m.Names r.payloadId → r.payloadValid = true

def Release.installedDesktop (r : Release) : Option File :=
  if r.appId = "dev.rustworkbench.RustWorkbench" then none else some r.desktopFile

/-- What the switch leaves of the launcher of an earlier application id. -/
def Release.keptLegacy (r : Release) (m : Managed) : Option File :=
  if r.appId = "dev.rustworkbench.RustWorkbench" then m.legacy else none

/-- There is no such launcher to lose. -/
def KeepsLegacy (r : Release) (m : Managed) : Prop :=
  r.appId ≠ "dev.rustworkbench.RustWorkbench" → m.legacy = none

/-- This release is what is installed. -/
structure Installed (r : Release) (m : Managed) : Prop where
  current : m.links .current = some r.currentTarget
  command : m.links .command = some r.commandTarget
  uninstall : m.links .uninstall = some r.uninstallTarget
  desktop : m.desktop = r.installedDesktop
  icon : m.icon = some r.iconFile
  legacy : KeepsLegacy r m

/-- **When a failure at the place leaves everything as it was.** -/
def Harmless (r : Release) (m : Managed) : Place → Prop
  -- the payload that the doctor has rejected is moved away, and not moved back
  | .reportInvalid | .du | .df | .space | .makeStaging | .copyBundle | .stagingDoctor
  | .moveStaging => r.payloadId ∈ m.payloads → ¬ m.Names r.payloadId
  -- the payload that has taken its place is discarded
  | .linkNew _ | .currentDoctor | .makeDirectories | .installIcon _ | .writeDesktop
  | .chmodDesktop | .moveDesktop | .removeLegacy => KeepsPayload r m
  -- the launcher of the earlier application id is not in the backup
  | .refreshCaches | .commandDoctor | .makeData | .writeMarker => KeepsPayload r m ∧ KeepsLegacy r m
  -- the temporary link is what the recovery moves
  | .moveNew link =>
    KeepsPayload r m ∧ ∀ text, m.links link = some text → r.target m link = some text
  -- the second recovery has no backup
  | .dirnameDesktop | .dirnameIcon => KeepsPayload r m ∧ m.desktop = none ∧ m.icon = none
  | .removeBackup desktop icon =>
    KeepsPayload r m ∧ (desktop = true → m.desktop = none) ∧ (icon = true → m.icon = none) ∧
      KeepsLegacy r m
  -- no trap is set any more
  | .readCurrentAgain | .basename _ | .prune _ | .removeInvalid | .report => Installed r m
  | _ => True

theorem keptLegacy_eq_iff {r : Release} {m : Managed} :
    r.keptLegacy m = m.legacy ↔ KeepsLegacy r m := by
  unfold Release.keptLegacy KeepsLegacy
  split
  · next h => simp [h]
  · next h => simp [h, eq_comm]

/-! ## The payload is put in place -/

/-- A failure at the place leaves things as they were just where `Harmless` says so. -/
def Exits (r : Release) (m : Managed) (place : Place) (t : Machine) : Prop :=
  Unchanged m t.toManaged ↔ Harmless r m place

theorem exits_of_unchanged {r : Release} {m : Managed} {place : Place} {t : Machine}
    (hplace : Harmless r m place) (h : Unchanged m t.toManaged) : Exits r m place t :=
  iff_of_true h hplace

section Phases

variable (r : Release) (m : Managed) (fault : Option Place)

/-- Nothing has happened yet. -/
structure Before (s : Machine) : Prop where
  managed : s.toManaged = m
  temporary : s.temporary = fun _ => none
  created : s.created = false

/-- The doctor has looked at the payload that is in place. -/
structure Examined (s : Machine) : Prop extends Before m s where
  invalid : s.invalid = true →
    r.payloadId ∈ m.payloads ∧ (r.payloadValid = false ∨ fault = some .payloadDoctor)
  valid : s.invalid = false → r.payloadId ∈ m.payloads → r.payloadValid = true

/-- A payload that was rejected is out of the way. -/
structure Aside (s : Machine) : Prop where
  links : s.links = m.links
  desktop : s.desktop = m.desktop
  icon : s.icon = m.icon
  legacy : s.legacy = m.legacy
  temporary : s.temporary = fun _ => none
  created : s.created = false
  others : ∀ id, id ≠ r.payloadId → (id ∈ s.payloads ↔ id ∈ m.payloads)
  valid : r.payloadId ∈ s.payloads → r.payloadValid = true
  moved : r.payloadId ∉ s.payloads → r.payloadId ∈ m.payloads →
    r.payloadValid = false ∨ fault = some .payloadDoctor
  invalid : s.invalid = true → r.payloadId ∉ s.payloads

/-- The payload is in place, from before or from this run. -/
structure Staged (payloads : List String) (created : Bool) : Prop where
  others : ∀ id, id ≠ r.payloadId → (id ∈ payloads ↔ id ∈ m.payloads)
  present : r.payloadId ∈ payloads
  valid : created = false → r.payloadValid = true
  replaced : created = true → r.payloadId ∈ m.payloads →
    r.payloadValid = false ∨ fault = some .payloadDoctor

variable {r m fault} {s : Machine}

theorem Before.links (h : Before m s) : s.links = m.links := congrArg Managed.links h.managed

theorem Before.desktop (h : Before m s) : s.desktop = m.desktop :=
  congrArg Managed.desktop h.managed

theorem Before.icon (h : Before m s) : s.icon = m.icon := congrArg Managed.icon h.managed

theorem Before.legacy (h : Before m s) : s.legacy = m.legacy := congrArg Managed.legacy h.managed

theorem Before.payloads (h : Before m s) : s.payloads = m.payloads :=
  congrArg Managed.payloads h.managed

theorem Before.unchanged (h : Before m s) : Unchanged m s.toManaged := by
  rw [h.managed]
  exact ⟨rfl, rfl, rfl, rfl, fun _ _ hid => hid⟩

theorem Staged.mem {payloads : List String} {created : Bool}
    (h : Staged r m fault payloads created) {id : String} (hid : id ∈ m.payloads) :
    id ∈ payloads := by
  by_cases heq : id = r.payloadId
  · exact heq ▸ h.present
  · exact (h.others id heq).mpr hid

/-- A payload that this run has made is discarded, also where it stands for one in use. -/
theorem Staged.discard_iff {payloads : List String} {created : Bool}
    (h : Staged r m fault payloads created) (hfault : fault ≠ some .payloadDoctor) :
    (∀ id, m.Names id → id ∈ m.payloads →
      id ∈ if created then payloads.filter (· ≠ r.payloadId) else payloads) ↔
      KeepsPayload r m := by
  cases hcreated : created with
  | false =>
    refine iff_of_true (fun id _ hid => ?_) fun _ _ => h.valid hcreated
    simpa using h.mem hid
  | true =>
    constructor
    · intro hall hid hnames
      simpa using hall _ hnames hid
    · intro hkeeps id hnames hid
      have hne : id ≠ r.payloadId := by
        rintro rfl
        have hvalid := hkeeps hid hnames
        rcases h.replaced hcreated hid with hinvalid | hfailed
        · simp [hvalid] at hinvalid
        · exact hfault hfailed
      simpa [hne] using h.mem hid

theorem requireOwned_triple (link : Link) :
    Triple fault (fun s => Before m s ∧ s.invalid = false) [requireOwned r link]
      (fun s => Before m s ∧ s.invalid = false) (Exits r m) := by
  refine .command (fun _ hs _ => hs) (fun _ hs _ _ => hs) ?_ ?_ ?_
  · intro s place hs _ href
    simp only [requireOwned, Option.ite_none_right_eq_some, Option.some.injEq] at href
    obtain ⟨-, rfl⟩ := href
    exact exits_of_unchanged trivial hs.1.unchanged
  · intro s place t hs _ _ hbreaks
    simp only [requireOwned, Reaction.ite_exits_eq_some] at hbreaks
    obtain ⟨rfl, rfl⟩ := hbreaks
    exact exits_of_unchanged trivial hs.1.unchanged
  · intro s place t _ _ _ hbreaks
    simp [requireOwned] at hbreaks

theorem payloadDoctor_triple :
    Triple fault (fun s => Before m s ∧ s.invalid = false) [payloadDoctor r] (Examined r m fault)
      (Exits r m) := by
  have hcontains : ∀ s : Machine, Before m s →
      ((payloadDoctor r).applies s = true ↔ r.payloadId ∈ m.payloads) := by
    intro s hs
    simp [payloadDoctor, hs.payloads]
  refine .command ?_ ?_ ?_ ?_ ?_
  · rintro s ⟨hbefore, hinvalid⟩ happ
    refine ⟨hbefore, fun h => by simp [hinvalid] at h, fun _ hid => ?_⟩
    rw [(hcontains s hbefore).mpr hid] at happ
    exact absurd happ (by decide)
  · rintro s ⟨hbefore, -⟩ happ -
    refine ⟨⟨hbefore.managed, hbefore.temporary, hbefore.created⟩,
      fun h => ⟨(hcontains s hbefore).mp happ, .inl ?_⟩, fun h _ => ?_⟩
    · simpa [payloadDoctor] using h
    · simpa [payloadDoctor] using h
  · intro s place _ _ href
    simp [payloadDoctor] at href
  · intro s place t _ _ _ hbreaks
    simp [payloadDoctor] at hbreaks
  · rintro s place t ⟨hbefore, -⟩ happ hfault hbreaks
    simp only [payloadDoctor, Option.ite_none_right_eq_some, Option.some.injEq,
      Reaction.continues.injEq] at hbreaks
    obtain ⟨rfl, rfl⟩ := hbreaks
    exact ⟨⟨hbefore.managed, hbefore.temporary, hbefore.created⟩,
      fun _ => ⟨(hcontains s hbefore).mp happ, .inr hfault⟩, fun h => by simp at h⟩

theorem examine_triple :
    Triple fault (fun s => Before m s ∧ s.invalid = false) (examine r) (Examined r m fault)
      (Exits r m) := by
  have hquiet : ∀ place, Harmless r m place → Triple fault
      (fun s => Before m s ∧ s.invalid = false) [command id place]
      (fun s => Before m s ∧ s.invalid = false) (Exits r m) :=
    fun place hplace => quiet_triple fun s hs _ => exits_of_unchanged hplace hs.1.unchanged
  refine .cons (hquiet .makeRoot trivial) ?_
  refine .cons (hquiet .openLock trivial) ?_
  refine .cons (hquiet .takeLock trivial) ?_
  refine .cons (hquiet .requireCommand trivial) ?_
  refine .cons (requireOwned_triple .command) ?_
  refine .cons (requireOwned_triple .uninstall) ?_
  refine .cons (hquiet .sourceDoctor trivial) ?_
  refine .cons (hquiet .makeVersions trivial) ?_
  refine .cons payloadDoctor_triple ?_
  exact whenever_triple rfl (fun _ hs _ => hs) <| command_triple (fun _ hs => hs.1)
    fun s hs _ => exits_of_unchanged trivial hs.1.unchanged

theorem moveInvalid_triple :
    Triple fault (Examined r m fault) [moveInvalid r] (Aside r m fault) (Exits r m) := by
  refine whenever_triple rfl ?_ (command_triple ?_ ?_)
  · intro s hs hinvalid
    exact {
      links := hs.links
      desktop := hs.desktop
      icon := hs.icon
      legacy := hs.legacy
      temporary := hs.temporary
      created := hs.created
      others := fun id _ => by rw [hs.payloads]
      valid := fun hid => hs.valid hinvalid (hs.payloads ▸ hid)
      moved := fun hid hid' => absurd (hs.payloads ▸ hid') hid
      invalid := fun h => by simp [hinvalid] at h }
  · rintro s ⟨hs, hinvalid⟩
    have hgone : r.payloadId ∉ (s.removePayload r.payloadId).payloads := by
      simp [Machine.removePayload]
    exact {
      links := hs.links
      desktop := hs.desktop
      icon := hs.icon
      legacy := hs.legacy
      temporary := hs.temporary
      created := hs.created
      others := fun id hid => by simp [Machine.removePayload, hs.payloads, hid]
      valid := fun hid => absurd hid hgone
      moved := fun _ _ => (hs.invalid hinvalid).2
      invalid := fun _ => hgone }
  · rintro s ⟨hs, -⟩ -
    exact exits_of_unchanged trivial hs.unchanged

/-- Without the payload, all is as before just where nothing led to it. -/
theorem Aside.unchanged_iff (h : Aside r m fault s) (hgone : r.payloadId ∉ s.payloads) :
    Unchanged m s.toManaged ↔ (r.payloadId ∈ m.payloads → ¬ m.Names r.payloadId) := by
  constructor
  · intro hun hid hnames
    exact hgone (hun.payloads _ hnames hid)
  · intro hunused
    refine ⟨h.links, h.desktop, h.icon, h.legacy, fun id hnames hid => ?_⟩
    have hne : id ≠ r.payloadId := by
      rintro rfl
      exact hunused hid hnames
    exact (h.others id hne).mpr hid

theorem absent_iff : absent r s = true ↔ r.payloadId ∉ s.payloads := by
  simp [absent]

theorem stage_triple :
    Triple fault (Aside r m fault) (stage r) (Aside r m fault) (Exits r m) := by
  have hexit : ∀ s, Aside r m fault s ∧ absent r s = true →
      (Unchanged m s.toManaged ↔ (r.payloadId ∈ m.payloads → ¬ m.Names r.payloadId)) :=
    fun s hs => hs.1.unchanged_iff (absent_iff.mp hs.2)
  have hquiet : ∀ place, (∀ s, Aside r m fault s ∧ absent r s = true → Exits r m place s) →
      Triple fault (Aside r m fault) [whenever (absent r) (command id place)] (Aside r m fault)
        (Exits r m) :=
    fun place h => whenever_triple rfl (fun _ hs _ => hs) <|
      command_triple (fun _ hs => hs.1) fun s hs _ => h s hs
  have hreport : Triple fault (Aside r m fault)
      [whenever (·.invalid) (command id .reportInvalid)] (Aside r m fault) (Exits r m) :=
    whenever_triple rfl (fun _ hs _ => hs) <| command_triple (fun _ hs => hs.1)
      fun s hs _ => hs.1.unchanged_iff (hs.1.invalid hs.2)
  have hspace : ∀ refused, Triple fault (Aside r m fault)
      [whenever (absent r) (check .space refused)] (Aside r m fault) (Exits r m) :=
    fun refused => whenever_triple rfl (fun _ hs _ => hs) <|
      (check_triple (P := fun s => Aside r m fault s ∧ absent r s = true) hexit).weaken
        fun _ hs => hs.1
  refine .cons hreport ?_
  refine .cons (hquiet .du hexit) ?_
  refine .cons (hquiet .df hexit) ?_
  refine .cons (hspace _) ?_
  refine .cons (hquiet .makeStaging hexit) ?_
  refine .cons (hquiet .copyBundle hexit) ?_
  exact hquiet .stagingDoctor hexit

/-! ## What is there is saved -/

variable (r m fault) in
/-- The payload is in place; nothing else has changed. -/
structure Placed (s : Machine) : Prop where
  links : s.links = m.links
  desktop : s.desktop = m.desktop
  icon : s.icon = m.icon
  legacy : s.legacy = m.legacy
  temporary : s.temporary = fun _ => none
  staged : Staged r m fault s.payloads s.created

theorem Placed.unchanged (h : Placed r m fault s) : Unchanged m s.toManaged :=
  ⟨h.links, h.desktop, h.icon, h.legacy, fun _ _ hid => h.staged.mem hid⟩

theorem moveStaging_triple :
    Triple fault (Aside r m fault) [moveStaging r] (Placed r m fault) (Exits r m) := by
  refine whenever_triple rfl ?_ (command_triple ?_ ?_)
  · intro s hs habsent
    have hpresent : r.payloadId ∈ s.payloads := by simpa [absent] using habsent
    refine ⟨hs.links, hs.desktop, hs.icon, hs.legacy, hs.temporary, hs.others, hpresent,
      fun _ => hs.valid hpresent, fun h => ?_⟩
    simp [hs.created] at h
  · rintro s ⟨hs, habsent⟩
    refine ⟨hs.links, hs.desktop, hs.icon, hs.legacy, hs.temporary, fun id hid => ?_, .head _,
      fun h => by simp at h, fun _ => hs.moved (absent_iff.mp habsent)⟩
    simp [hid, hs.others id hid]
  · rintro s ⟨hs, habsent⟩ -
    exact hs.unchanged_iff (absent_iff.mp habsent)

variable (r m fault) in
/-- Some of the links are read. -/
structure Saving (read : List Link) (s : Machine) : Prop extends Placed r m fault s where
  saved : ∀ link ∈ read, s.saved link = m.links link

theorem readLink_triple (trap : Machine → Machine) (htrap : ∀ s, (trap s).toManaged = s.toManaged)
    (link : Link) (read : List Link) :
    Triple fault (Saving r m fault read) [readLink trap link] (Saving r m fault (link :: read))
      (Exits r m) := by
  refine .plain rfl rfl (by simp [readLink]) ?_ ?_
  · intro s hs
    refine ⟨⟨hs.links, hs.desktop, hs.icon, hs.legacy, hs.temporary, hs.staged⟩, fun l hl => ?_⟩
    by_cases hlink : l = link
    · simp [readLink, hlink, hs.links]
    · have hread : l ∈ read := by simpa [hlink] using hl
      simpa [readLink, hlink] using hs.saved l hread
  · intro s place t hs _ hbreaks
    simp only [readLink, Reaction.ite_exits_eq_some] at hbreaks
    obtain ⟨⟨rfl, -⟩, rfl⟩ := hbreaks
    refine exits_of_unchanged trivial ?_
    rw [htrap]
    exact hs.unchanged

variable (r m fault) in
/-- Everything that the recoveries read is there. -/
structure Recoverable (s : Machine) : Prop where
  temporary : s.temporary = fun _ => none
  saved : s.saved = m.links
  savedDesktop : s.backup.desktop = m.desktop
  savedIcon : s.backup.icon = m.icon
  staged : Staged r m fault s.payloads s.created

variable (r m fault) in
/-- The same with what the links and the files are at that point of the switch. -/
structure Switching (links : Link → Option String) (desktop icon legacy : Option File)
    (s : Machine) : Prop extends Recoverable r m fault s where
  links : s.links = links
  desktop : s.desktop = desktop
  icon : s.icon = icon
  legacy : s.legacy = legacy

theorem saveDesktop_triple {read : List Link} :
    Triple fault (Saving r m fault read) [saveDesktop]
      (fun s => Saving r m fault read s ∧ s.backup.desktop = m.desktop) (Exits r m) := by
  refine .plain rfl rfl (by simp [saveDesktop]) ?_ ?_
  · intro s hs
    exact ⟨⟨⟨hs.links, hs.desktop, hs.icon, hs.legacy, hs.temporary, hs.staged⟩, hs.saved⟩, hs.desktop⟩
  · intro s place t hs _ hbreaks
    simp only [saveDesktop, Reaction.ite_exits_eq_some] at hbreaks
    obtain ⟨⟨rfl, -⟩, rfl⟩ := hbreaks
    exact exits_of_unchanged trivial hs.unchanged

theorem saveIcon_triple :
    Triple fault
      (fun s => Saving r m fault [.uninstall, .command, .previous, .current] s ∧
        s.backup.desktop = m.desktop)
      [saveIcon] (Switching r m fault m.links m.desktop m.icon m.legacy) (Exits r m) := by
  refine .plain rfl rfl (by simp [saveIcon]) ?_ ?_
  · rintro s ⟨hs, hdesktop⟩
    have hsaved : s.saved = m.links := by
      funext link
      exact hs.saved link (by cases link <;> simp)
    exact ⟨⟨hs.temporary, hsaved, hdesktop, hs.icon, hs.staged⟩, hs.links, hs.desktop, hs.icon,
      hs.legacy⟩
  · rintro s place t ⟨hs, -⟩ - hbreaks
    simp only [saveIcon, Reaction.ite_exits_eq_some] at hbreaks
    obtain ⟨⟨rfl, -⟩, rfl⟩ := hbreaks
    exact exits_of_unchanged trivial hs.unchanged

theorem save_triple :
    Triple fault (Placed r m fault) save (Switching r m fault m.links m.desktop m.icon m.legacy)
      (Exits r m) := by
  have hpattern : ∀ link read, Triple fault (Saving r m fault read) [checkPattern link]
      (Saving r m fault read) (Exits r m) :=
    fun link read => check_triple fun s hs => exits_of_unchanged trivial hs.unchanged
  have hstart : ∀ s, Placed r m fault s → Saving r m fault [] s :=
    fun s hs => ⟨hs, fun link hlink => by simp at hlink⟩
  have hsave : Triple fault (Saving r m fault []) save
      (Switching r m fault m.links m.desktop m.icon m.legacy) (Exits r m) := by
    refine .cons (readLink_triple id (fun _ => rfl) .current []) ?_
    refine .cons (hpattern .current _) ?_
    refine .cons (readLink_triple id (fun _ => rfl) .previous _) ?_
    refine .cons (hpattern .previous _) ?_
    refine .cons (quiet_triple fun s hs _ => exits_of_unchanged trivial hs.unchanged) ?_
    refine .cons (readLink_triple dropBackup (fun _ => rfl) .command _) ?_
    refine .cons (readLink_triple dropBackup (fun _ => rfl) .uninstall _) ?_
    exact .cons saveDesktop_triple saveIcon_triple
  exact fun s hs => hsave s (hstart s hs)

/-! ## The switch -/

theorem Staged.rollback_iff (hstaged : Staged r m fault s.payloads s.created)
    (hsaved : s.saved = m.links) (hfault : fault ≠ some .payloadDoctor) :
    Unchanged m (s.rollback r).toManaged ↔
      KeepsPayload r m ∧
        (∀ l text, m.links l = some text → (s.temporary l).getD text = text) ∧
        s.backup.desktop = m.desktop ∧ s.backup.icon = m.icon ∧ s.legacy = m.legacy := by
  rw [Machine.rollback_unchanged_iff r s hsaved, Machine.rollback_payloads,
    hstaged.discard_iff hfault]
  tauto

theorem Recoverable.rollback_unchanged_iff (h : Recoverable r m fault s)
    (hfault : fault ≠ some .payloadDoctor) :
    Unchanged m (s.rollback r).toManaged ↔ KeepsPayload r m ∧ s.legacy = m.legacy := by
  rw [h.staged.rollback_iff h.saved hfault]
  simp [h.temporary, h.savedDesktop, h.savedIcon]

/-- A link that a failed rename has left behind takes the place of the one that was saved. -/
theorem Recoverable.rollback_temporary_iff (h : Recoverable r m fault s) (hlegacy : s.legacy = m.legacy)
    (hfault : fault ≠ some .payloadDoctor) (link : Link) (target : String) :
    Unchanged m (Machine.rollback r { s with
        temporary := Function.update s.temporary link (some target) }).toManaged ↔
      KeepsPayload r m ∧ ∀ text, m.links link = some text → some target = some text := by
  refine (Staged.rollback_iff ?_ ?_ hfault).trans (and_congr_right fun _ => ?_)
  · exact h.staged
  · exact h.saved
  simp only [h.savedDesktop, h.savedIcon, hlegacy, and_true]
  constructor
  · intro hall text htext
    simpa using hall link text htext
  · intro hlink l text htext
    by_cases hl : l = link
    · subst hl
      simpa using hlink text htext
    · simp [hl, h.temporary]

/-- The second of two recoveries removes the files. -/
theorem Recoverable.rollback_twice_iff (h : Recoverable r m fault s) (hlegacy : s.legacy = m.legacy)
    (hfault : fault ≠ some .payloadDoctor) :
    Unchanged m ((s.rollback r).rollback r).toManaged ↔
      KeepsPayload r m ∧ m.desktop = none ∧ m.icon = none := by
  have hsaved : (s.rollback r).saved = m.links := (Machine.rollback_saved r s).trans h.saved
  have hpayloads : ((s.rollback r).rollback r).payloads = (s.rollback r).payloads := by
    cases hcreated : s.created <;> simp [Machine.rollback_payloads, hcreated]
  rw [Machine.rollback_unchanged_iff r _ hsaved, hpayloads, Machine.rollback_payloads,
    h.staged.discard_iff hfault, Machine.rollback_temporary r s h.temporary]
  have hbackup : (s.rollback r).backup = {} := rfl
  simp only [hbackup, Machine.rollback_legacy, hlegacy, Option.getD_none, implies_true, true_and]
  constructor
  · rintro ⟨hdesktop, hicon, hkeeps⟩
    exact ⟨hkeeps, hdesktop.symm, hicon.symm⟩
  · rintro ⟨hkeeps, hdesktop, hicon⟩
    exact ⟨hdesktop.symm, hicon.symm, hkeeps⟩

/-- A backup that is removed in part. -/
theorem Recoverable.rollback_backup_iff (h : Recoverable r m fault s)
    (hfault : fault ≠ some .payloadDoctor) (desktop icon : Bool) :
    Unchanged m (Machine.rollback r { s with
        backup := {
          desktop := if desktop then none else s.backup.desktop
          icon := if icon then none else s.backup.icon } }).toManaged ↔
      KeepsPayload r m ∧ (desktop = true → m.desktop = none) ∧ (icon = true → m.icon = none) ∧
        s.legacy = m.legacy := by
  have hgone : ∀ (gone : Bool) (file : Option File),
      (if gone then none else file) = file ↔ (gone = true → file = none) := by
    intro gone file
    cases gone <;> simp [eq_comm]
  refine (Staged.rollback_iff ?_ ?_ hfault).trans (and_congr_right fun _ => ?_)
  · exact h.staged
  · exact h.saved
  simp only [h.temporary, h.savedDesktop, h.savedIcon, hgone, Option.getD_none, implies_true,
    true_and]

variable {links : Link → Option String} {desktop icon legacy : Option File}

theorem switchLink_triple {link : Link} {target : Machine → String} {text : String}
    (htext : ∀ s, Recoverable r m fault s → target s = text)
    (htarget : r.target m link = some text) :
    Triple fault (Switching r m fault links desktop icon m.legacy) [switchLink r link target]
      (Switching r m fault (Function.update links link (some text)) desktop icon m.legacy)
      (Exits r m) := by
  refine .plain rfl rfl ?_ ?_ ?_
  · intro s place t hbreaks
    simp only [switchLink] at hbreaks
    split at hbreaks
    · simp at hbreaks
    · simp at hbreaks
  · intro s hs
    refine ⟨⟨hs.temporary, hs.saved, hs.savedDesktop, hs.savedIcon, hs.staged⟩, ?_, hs.desktop,
      hs.icon, hs.legacy⟩
    simp [switchLink, hs.links, htext s hs.toRecoverable]
  · intro s place t hs hfault hbreaks
    by_cases hlink : place = .linkNew link
    · subst hlink
      have ht : s.rollback r = t := by simpa [switchLink] using hbreaks
      rw [← ht]
      exact (hs.rollback_unchanged_iff (by simp [hfault])).trans (and_iff_left hs.legacy)
    · simp only [switchLink, hlink, if_false, Reaction.ite_exits_eq_some] at hbreaks
      obtain ⟨rfl, rfl⟩ := hbreaks
      rw [htext s hs.toRecoverable]
      refine (hs.rollback_temporary_iff hs.legacy (by simp [hfault]) link text).trans ?_
      rw [← htarget]
      exact Iff.rfl

theorem installIcon_triple :
    Triple fault (Switching r m fault links desktop icon m.legacy) [installIcon r]
      (Switching r m fault links desktop (some r.iconFile) m.legacy) (Exits r m) := by
  refine .plain rfl rfl ?_ ?_ ?_
  · intro s place t hbreaks
    simp only [installIcon] at hbreaks
    split at hbreaks <;> simp at hbreaks
  · intro s hs
    exact ⟨⟨hs.temporary, hs.saved, hs.savedDesktop, hs.savedIcon, hs.staged⟩, hs.links,
      hs.desktop, rfl, hs.legacy⟩
  · intro s place t hs hfault hbreaks
    cases place with
    | installIcon left =>
      obtain rfl : Machine.rollback r { s with icon := left } = t := by
        simpa [installIcon] using hbreaks
      have hbroken : Recoverable r m fault { s with icon := left } :=
        ⟨hs.temporary, hs.saved, hs.savedDesktop, hs.savedIcon, hs.staged⟩
      exact (hbroken.rollback_unchanged_iff (by simp [hfault])).trans (and_iff_left hs.legacy)
    | _ => simp [installIcon] at hbreaks

/-- The links when the new version is current. -/
def switchedLinks (r : Release) (m : Managed) : Link → Option String
  | .current => some r.currentTarget
  | .previous => if replaces r (m.links .current) then m.links .current else m.links .previous
  | .command => some r.commandTarget
  | .uninstall => some r.uninstallTarget

variable (r m) in
/-- The links when `previous` is set. -/
def previousLinks : Link → Option String :=
  if replaces r (m.links .current) then Function.update m.links .previous (m.links .current)
  else m.links

theorem switchPrevious_triple :
    Triple fault (Switching r m fault m.links m.desktop m.icon m.legacy)
      [whenever (fun s => replaces r (s.saved .current))
        (switchLink r .previous fun s => (s.saved .current).getD "")]
      (Switching r m fault (previousLinks r m) m.desktop m.icon m.legacy) (Exits r m) := by
  cases hreplaces : replaces r (m.links .current) with
  | false =>
    refine whenever_triple rfl ?_ ?_
    · intro s hs _
      simpa [previousLinks, hreplaces] using hs
    · rintro s ⟨hs, hcondition⟩
      rw [hs.saved, hreplaces] at hcondition
      exact absurd hcondition (by decide)
  | true =>
    obtain ⟨text, htext⟩ : ∃ text, m.links .current = some text := by
      cases h : m.links .current with
      | none => simp [replaces, h] at hreplaces
      | some text => exact ⟨text, rfl⟩
    have hlinks : previousLinks r m = Function.update m.links .previous (some text) := by
      rw [previousLinks, if_pos hreplaces, htext]
    rw [hlinks]
    refine whenever_triple rfl ?_ ?_
    · intro s hs hcondition
      rw [hs.saved, hreplaces] at hcondition
      exact absurd hcondition (by decide)
    · have hswitch : Triple fault (Switching r m fault m.links m.desktop m.icon m.legacy)
          [switchLink r .previous fun s => (s.saved .current).getD ""]
          (Switching r m fault (Function.update m.links .previous (some text)) m.desktop m.icon m.legacy)
          (Exits r m) :=
        switchLink_triple (fun s hs => by simp [hs.saved, htext]) htext
      exact fun s hs => hswitch s hs.1

theorem rollback_command_triple {desktop desktop' icon legacy legacy' : Option File} {place : Place}
    {effect : Machine → Machine} (hplace : place ≠ .payloadDoctor)
    (hharmless : Harmless r m place ↔ KeepsPayload r m ∧ legacy = m.legacy)
    (heffect : ∀ s, Switching r m fault links desktop icon legacy s →
      Switching r m fault links desktop' icon legacy' (effect s)) :
    Triple fault (Switching r m fault links desktop icon legacy) [command (·.rollback r) place effect]
      (Switching r m fault links desktop' icon legacy') (Exits r m) := by
  refine command_triple heffect fun s hs hfault => ?_
  rw [Exits, hs.rollback_unchanged_iff (by simpa [hfault] using hplace), hs.legacy, hharmless]

theorem dirname_triple {place : Place} (hplace : place ≠ .payloadDoctor)
    (hharmless : Harmless r m place ↔ KeepsPayload r m ∧ m.desktop = none ∧ m.icon = none) :
    Triple fault (Switching r m fault links desktop icon m.legacy) [dirname r place]
      (Switching r m fault links desktop icon m.legacy) (Exits r m) := by
  refine quiet_triple fun s hs hfault => ?_
  exact (hs.rollback_twice_iff hs.legacy (by simpa [hfault] using hplace)).trans hharmless.symm

theorem moveDesktop_switching (h : Switching r m fault links desktop icon legacy s) :
    Switching r m fault links (some r.desktopFile) icon legacy
      { s with desktop := some r.desktopFile } :=
  ⟨⟨h.temporary, h.saved, h.savedDesktop, h.savedIcon, h.staged⟩, h.links, rfl, h.icon, h.legacy⟩

theorem removeLegacy_switching {icon : Option File}
    (h : Switching r m fault links (some r.desktopFile) icon m.legacy s) :
    Switching r m fault links r.installedDesktop icon (r.keptLegacy m) (removeLegacy r s) := by
  unfold removeLegacy Release.installedDesktop Release.keptLegacy
  split
  · exact ⟨⟨h.temporary, h.saved, h.savedDesktop, h.savedIcon, h.staged⟩, h.links, rfl, h.icon,
      h.legacy⟩
  · exact ⟨⟨h.temporary, h.saved, h.savedDesktop, h.savedIcon, h.staged⟩, h.links, h.desktop, h.icon,
      rfl⟩

theorem switchedLinks_eq :
    Function.update
      (Function.update
        (Function.update (previousLinks r m) .current (some r.currentTarget))
        .command (some r.commandTarget))
      .uninstall (some r.uninstallTarget) = switchedLinks r m := by
  funext link
  cases link with
  | previous => by_cases h : replaces r (m.links .current) = true <;>
      simp [switchedLinks, previousLinks, h]
  | _ => simp [switchedLinks]

theorem switch_triple :
    Triple fault (Switching r m fault m.links m.desktop m.icon m.legacy) (switch r)
      (Switching r m fault (switchedLinks r m) r.installedDesktop (some r.iconFile)
        (r.keptLegacy m))
      (Exits r m) := by
  have hearly : ∀ {place : Place}, (Harmless r m place ↔ KeepsPayload r m) →
      (Harmless r m place ↔ KeepsPayload r m ∧ m.legacy = m.legacy) :=
    fun h => h.trans (and_iff_left rfl).symm
  have hlate : KeepsPayload r m ∧ KeepsLegacy r m ↔ KeepsPayload r m ∧ r.keptLegacy m = m.legacy :=
    and_congr_right fun _ => keptLegacy_eq_iff.symm
  have hquiet : ∀ {links desktop icon legacy} (place : Place), place ≠ .payloadDoctor →
      (Harmless r m place ↔ KeepsPayload r m ∧ legacy = m.legacy) →
      Triple fault (Switching r m fault links desktop icon legacy) [command (·.rollback r) place]
        (Switching r m fault links desktop icon legacy) (Exits r m) :=
    fun place hplace hharmless => rollback_command_triple hplace hharmless fun _ hs => hs
  rw [← switchedLinks_eq]
  refine .cons switchPrevious_triple ?_
  refine .cons (switchLink_triple (fun _ _ => rfl) rfl) ?_
  refine .cons (hquiet .currentDoctor (by decide) (hearly Iff.rfl)) ?_
  refine .cons (dirname_triple (by decide) Iff.rfl) ?_
  refine .cons (dirname_triple (by decide) Iff.rfl) ?_
  refine .cons (hquiet .makeDirectories (by decide) (hearly Iff.rfl)) ?_
  refine .cons (switchLink_triple (fun _ _ => rfl) rfl) ?_
  refine .cons (switchLink_triple (fun _ _ => rfl) rfl) ?_
  refine .cons installIcon_triple ?_
  refine .cons (hquiet .writeDesktop (by decide) (hearly Iff.rfl)) ?_
  refine .cons (hquiet .chmodDesktop (by decide) (hearly Iff.rfl)) ?_
  refine .cons (rollback_command_triple (by decide) (hearly Iff.rfl) fun _ => moveDesktop_switching) ?_
  refine .cons (rollback_command_triple (by decide) (hearly Iff.rfl) fun _ => removeLegacy_switching) ?_
  refine .cons (hquiet .refreshCaches (by decide) hlate) ?_
  refine .cons (hquiet .commandDoctor (by decide) hlate) ?_
  refine .cons (hquiet .makeData (by decide) hlate) ?_
  exact hquiet .writeMarker (by decide) hlate

/-! ## After the switch -/

variable (r m fault) in
/-- The new version is current, and the payloads in use are kept. -/
structure Switched (s : Machine) : Prop where
  links : s.links = switchedLinks r m
  desktop : s.desktop = r.installedDesktop
  icon : s.icon = some r.iconFile
  legacy : s.legacy = r.keptLegacy m
  retained : fault ≠ some .readPreviousAgain →
    ∀ id, s.Names id → id ∈ m.payloads → id ∈ s.payloads

theorem Switched.unchanged_iff (h : Switched r m fault s)
    (hfault : fault ≠ some .readPreviousAgain) :
    Unchanged m s.toManaged ↔ Installed r m := by
  constructor
  · intro hun
    have hlinks : m.links = switchedLinks r m := hun.links.symm.trans h.links
    exact ⟨congrFun hlinks .current, congrFun hlinks .command, congrFun hlinks .uninstall,
      hun.desktop.symm.trans h.desktop, hun.icon.symm.trans h.icon,
      keptLegacy_eq_iff.mp (h.legacy.symm.trans hun.legacy)⟩
  · intro hinst
    have hlinks : switchedLinks r m = m.links := by
      funext link
      cases link with
      | current => exact hinst.current.symm
      | previous => simp [switchedLinks, replaces, hinst.current]
      | command => exact hinst.command.symm
      | uninstall => exact hinst.uninstall.symm
    have hsame : s.links = m.links := h.links.trans hlinks
    refine ⟨hsame, h.desktop.trans hinst.desktop.symm, h.icon.trans hinst.icon.symm,
      h.legacy.trans (keptLegacy_eq_iff.mpr hinst.legacy), ?_⟩
    intro id hnames hid
    refine h.retained hfault id ?_ hid
    simpa [Managed.Names, hsame] using hnames

theorem removeBackup_triple :
    Triple fault (Switching r m fault (switchedLinks r m) r.installedDesktop (some r.iconFile)
        (r.keptLegacy m))
      [removeBackup r] (Switched r m fault) (Exits r m) := by
  refine .plain rfl rfl ?_ ?_ ?_
  · intro s place t hbreaks
    simp only [removeBackup] at hbreaks
    split at hbreaks <;> simp at hbreaks
  · intro s hs
    exact ⟨hs.links, hs.desktop, hs.icon, hs.legacy, fun _ _ _ hid => hs.staged.mem hid⟩
  · intro s place t hs hfault hbreaks
    cases place with
    | removeBackup desktop icon =>
      simp only [removeBackup, Option.some.injEq, Reaction.exits.injEq] at hbreaks
      rw [← hbreaks]
      rw [Exits, hs.rollback_backup_iff (by simp [hfault]) desktop icon, hs.legacy, keptLegacy_eq_iff]
      exact Iff.rfl
    | _ => simp [removeBackup] at hbreaks

variable (r m fault) in
/-- The links are read again. -/
structure Looked (s : Machine) : Prop extends Switched r m fault s where
  current : s.currentSeen = s.links .current
  previous : fault ≠ some .readPreviousAgain → s.previousSeen = s.links .previous

theorem look_triple :
    Triple fault (Switched r m fault) look (Looked r m fault) (Exits r m) := by
  have hcurrent : Triple fault (Switched r m fault)
      [command id .readCurrentAgain fun s => { s with currentSeen := s.links .current }]
      (fun s => Switched r m fault s ∧ s.currentSeen = s.links .current) (Exits r m) :=
    command_triple (fun s hs => ⟨⟨hs.links, hs.desktop, hs.icon, hs.legacy, hs.retained⟩, rfl⟩)
      fun s hs hfault => hs.unchanged_iff (by simp [hfault])
  refine .cons hcurrent (.command ?_ ?_ ?_ ?_ ?_)
  · intro s _ happ
    simp [readPreviousAgain] at happ
  · rintro s ⟨hs, hseen⟩ - -
    exact ⟨⟨hs.links, hs.desktop, hs.icon, hs.legacy, hs.retained⟩, hseen, fun _ => rfl⟩
  · intro s place _ _ href
    simp [readPreviousAgain] at href
  · intro s place t _ _ _ hbreaks
    simp [readPreviousAgain] at hbreaks
  · rintro s place t ⟨hs, hseen⟩ - hfault hbreaks
    simp only [readPreviousAgain, Option.ite_none_right_eq_some, Option.some.injEq,
      Reaction.continues.injEq] at hbreaks
    obtain ⟨rfl, rfl⟩ := hbreaks
    exact ⟨⟨hs.links, hs.desktop, hs.icon, hs.legacy, hs.retained⟩, hseen, fun h => absurd hfault h⟩

theorem Looked.kept_of_names (h : Looked r m fault s) (hfault : fault ≠ some .readPreviousAgain)
    {id : String} (hnames : s.Names id) : kept s id = true := by
  unfold kept
  rw [h.current, h.previous hfault]
  rcases hnames with hnames | hnames <;> simp [hnames]

theorem mem_prunedBefore {id stop : String} (hid : id ∈ s.payloads) (hkept : kept s id = true) :
    id ∈ (prunedBefore s stop).payloads := by
  rw [← List.takeWhile_append_dropWhile (p := (· ≠ stop)) (l := s.payloads)] at hid
  rcases List.mem_append.mp hid with hbefore | hrest
  · exact List.mem_append_left _ (List.mem_filter.mpr ⟨hbefore, hkept⟩)
  · exact List.mem_append_right _ hrest

theorem prune_triple :
    Triple fault (Looked r m fault) [prune] (Switched r m fault) (Exits r m) := by
  have hstopped : ∀ s id, Looked r m fault s → Switched r m fault (prunedBefore s id) :=
    fun s id hs => ⟨hs.links, hs.desktop, hs.icon, hs.legacy, fun hfault p hnames hid =>
      mem_prunedBefore (hs.retained hfault p hnames hid) (hs.kept_of_names hfault hnames)⟩
  refine .plain rfl rfl ?_ ?_ ?_
  · intro s place t hbreaks
    simp only [prune] at hbreaks
    split at hbreaks <;> simp at hbreaks
  · intro s hs
    exact ⟨hs.links, hs.desktop, hs.icon, hs.legacy, fun hfault p hnames hid =>
      List.mem_filter.mpr ⟨hs.retained hfault p hnames hid, hs.kept_of_names hfault hnames⟩⟩
  · intro s place t hs hfault hbreaks
    cases place with
    | basename id =>
      simp only [prune, Reaction.ite_exits_eq_some] at hbreaks
      rw [← hbreaks.2]
      exact (hstopped s id hs).unchanged_iff (by simp [hfault])
    | prune id =>
      simp only [prune, Reaction.ite_exits_eq_some] at hbreaks
      rw [← hbreaks.2]
      exact (hstopped s id hs).unchanged_iff (by simp [hfault])
    | _ => simp [prune] at hbreaks

theorem conclude_triple :
    Triple fault (Switched r m fault) conclude (Switched r m fault) (Exits r m) := by
  have hinvalid : Triple fault (Switched r m fault) [command id .removeInvalid]
      (Switched r m fault) (Exits r m) :=
    quiet_triple fun s hs hfault => hs.unchanged_iff (by simp [hfault])
  have hreport : Triple fault (Switched r m fault) [command id .report] (Switched r m fault)
      (Exits r m) :=
    quiet_triple fun s hs hfault => hs.unchanged_iff (by simp [hfault])
  exact .cons hinvalid hreport

/-! ## The whole run -/

theorem throughSwitch_triple :
    Triple fault (fun s => Before m s ∧ s.invalid = false)
      (examine r ++ moveInvalid r :: stage r ++ moveStaging r :: save ++ switch r)
      (Switching r m fault (switchedLinks r m) r.installedDesktop (some r.iconFile)
        (r.keptLegacy m))
      (Exits r m) := by
  refine .append ?_ switch_triple
  refine .append ?_ (.cons moveStaging_triple save_triple)
  exact .append examine_triple (.cons moveInvalid_triple stage_triple)

theorem install_triple :
    Triple fault (fun s => Before m s ∧ s.invalid = false) (installScript r) (Switched r m fault)
      (Exits r m) := by
  refine .append ?_ (.cons prune_triple conclude_triple)
  exact .append throughSwitch_triple (.cons removeBackup_triple look_triple)

/-- **What a failed installation leaves**: for every managed state and every failure, all is as
before just where the place of the failure is harmless. -/
theorem failed_install_unchanged_iff {place : Place} {t : Machine}
    (h : m.install r fault = .failed place t) :
    Unchanged m t.toManaged ↔ Harmless r m place := by
  have hexits : (m.install r fault).Meets (Switched r m fault) (Exits r m) :=
    install_triple _ ⟨⟨rfl, rfl, rfl⟩, rfl⟩
  rw [h] at hexits
  exact hexits

end Phases

/-! ## An upgrade -/

def firstInstalled : Managed where
  links
    | .current => some "versions/1"
    | .previous => none
    | .command => some "/opt/current/bin/rust-workbench"
    | .uninstall => some "/opt/current/bin/install-user"
  desktop := some "desktop 1"
  icon := some "icon 1"
  legacy := none
  payloads := ["1"]

def secondRelease : Release where
  payloadId := "2"
  appId := "dev.rustworkbench.EditorDev"
  installRoot := "/opt"
  desktopFile := "desktop 2"
  iconFile := "icon 2"
  requiredKib := 1000000
  availableKib := 2000000
  owned _ := true
  payloadValid := true

/-- A doctor that rejects the new version after the switch leaves the first one installed. -/
theorem failed_doctor_keeps_first :
    ∃ t, firstInstalled.install secondRelease (some .currentDoctor) = .failed .currentDoctor t ∧
      Unchanged firstInstalled t.toManaged := by
  obtain ⟨t, ht⟩ : ∃ t, firstInstalled.install secondRelease (some .currentDoctor) =
      .failed .currentDoctor t := ⟨_, rfl⟩
  have hnew : secondRelease.payloadId ∉ firstInstalled.payloads := by decide
  exact ⟨t, ht, (failed_install_unchanged_iff ht).mpr fun h => absurd h hnew⟩

/-- A failed rename of `current` leaves it leading to the version that the recovery discards. -/
theorem failed_upgrade_switches_current :
    ∃ t, firstInstalled.install secondRelease (some (.moveNew .current)) =
        .failed (.moveNew .current) t ∧
      t.links .current = some "versions/2" ∧ t.payloads = ["1"] ∧
      ¬ Unchanged firstInstalled t.toManaged := by
  refine ⟨_, rfl, rfl, rfl, fun h => ?_⟩
  exact absurd (congrFun h.links .current) (by decide)

end RustWorkbench.Installer
