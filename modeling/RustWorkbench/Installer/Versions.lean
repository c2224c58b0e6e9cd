import RustWorkbench.Installer.FailedInstall
import RustWorkbench.Installer.Rollback
import RustWorkbench.Library.Runs

/-!
# The versions that are installed

What the installer is for: to remember the version in use and the one to go back to.  `History` is
that memory by itself, and every successful installation and rollback does to the links and the
payload directories what the corresponding operation does to the history.

* `installed_versions_consistent` — so, after any sequence of runs from an empty root, `current` and
  `previous` lead to two payloads and no other payload is left, unless a run that could not read
  `previous` went on.
* `rollback_undoes_install` — and going back right after an installation undoes it.
-/

namespace RustWorkbench.Installer

open Scripts Runs

/-! ## What an installation leaves -/

section Settled

variable (r : Release) (m : Managed)

/-- The links are switched; the payload is there beside those from before. -/
structure Unpruned (s : Machine) : Prop where
  links : s.links = switchedLinks r m
  payloads : ∀ id, id ∈ s.payloads ↔ id = r.payloadId ∨ id ∈ m.payloads

variable (fault : Option Place)

/-- Both links are read again; the script goes on where `previous` cannot be read. -/
structure ReadAgain (s : Machine) : Prop extends Unpruned r m s where
  current : s.currentSeen = s.links .current
  previous : s.previousSeen = if fault = some .readPreviousAgain then none else s.links .previous

/-- Only the payloads that the links lead to, as they were read, are left. -/
structure Settled (after : Managed) : Prop where
  links : after.links = switchedLinks r m
  payloads : ∀ id, id ∈ after.payloads ↔ (id = r.payloadId ∨ id ∈ m.payloads) ∧
    (after.links .current = some (versionsPath id) ∨
      fault ≠ some .readPreviousAgain ∧ after.links .previous = some (versionsPath id))

variable {r m fault}

theorem removeBackup_unpruned {desktop icon legacy : Option File} :
    Triple fault (Switching r m fault (switchedLinks r m) desktop icon legacy) [removeBackup r]
      (Unpruned r m) fun _ _ => True := by
  refine .plain rfl rfl ?_ (fun s hs => ⟨hs.links, fun id => ?_⟩) fun _ _ _ _ _ _ => trivial
  · intro s place t hbreaks
    simp only [removeBackup] at hbreaks
    split at hbreaks <;> simp at hbreaks
  · by_cases hid : id = r.payloadId
    · exact iff_of_true (hid ▸ hs.staged.present) (.inl hid)
    · exact (hs.staged.others id hid).trans (by simp [hid])

theorem look_readAgain :
    Triple fault (Unpruned r m) look (ReadAgain r m fault) fun _ _ => True := by
  have hcurrent : Triple fault (Unpruned r m)
      [command id .readCurrentAgain fun s => { s with currentSeen := s.links .current }]
      (fun s => Unpruned r m s ∧ s.currentSeen = s.links .current) fun _ _ => True :=
    command_triple (fun s hs => ⟨⟨hs.links, hs.payloads⟩, rfl⟩) fun _ _ _ => trivial
  refine .cons hcurrent fun s hs => ?_
  by_cases hfault : fault = some .readPreviousAgain
  · subst hfault
    exact ⟨⟨hs.1.links, hs.1.payloads⟩, hs.2, rfl⟩
  · have hdone : run fault [readPreviousAgain] s = .done { s with previousSeen := s.links .previous } := by
      cases fault with
      | none => rfl
      | some place =>
        have hplace : place ≠ .readPreviousAgain := fun h => hfault (congrArg some h)
        simp [run, Command.run, Command.execute, readPreviousAgain, hplace]
    rw [hdone]
    exact ⟨⟨hs.1.links, hs.1.payloads⟩, hs.2, (if_neg hfault).symm⟩

theorem ReadAgain.kept_iff {s : Machine} (h : ReadAgain r m fault s) (id : String) :
    kept s id = true ↔ s.links .current = some (versionsPath id) ∨
      fault ≠ some .readPreviousAgain ∧ s.links .previous = some (versionsPath id) := by
  simp only [kept, h.current, h.previous, Bool.or_eq_true, decide_eq_true_eq]
  split
  · next hfault => simp [hfault, eq_comm]
  · next hfault => simp [hfault, eq_comm]

theorem prune_settled :
    Triple fault (ReadAgain r m fault) [prune] (fun s => Settled r m fault s.toManaged)
      fun _ _ => True := by
  refine .plain rfl rfl ?_ (fun s hs => ⟨hs.links, fun id => ?_⟩) fun _ _ _ _ _ _ => trivial
  · intro s place t hbreaks
    simp only [prune] at hbreaks
    split at hbreaks <;> simp at hbreaks
  · change id ∈ s.payloads.filter (kept s) ↔ _
    rw [List.mem_filter, hs.payloads, hs.kept_iff]
    rfl

/-- **An installation that ends leaves the links of the switch and the payloads they lead to.** -/
theorem install_settled {s : Machine} (h : m.install r fault = .done s) :
    Settled r m fault s.toManaged := by
  have htriple : Triple fault (fun s => Before m s ∧ s.invalid = false) (installScript r)
      (fun s => Settled r m fault s.toManaged) fun _ _ => True := by
    refine .append (.append throughSwitch_triple.anyExit
      (.cons removeBackup_unpruned look_readAgain)) (.cons prune_settled ?_)
    exact .cons (quiet_triple fun _ _ _ => trivial) (quiet_triple fun _ _ _ => trivial)
  have hmeets : (m.install r fault).Meets (fun s => Settled r m fault s.toManaged) fun _ _ => True :=
    htriple _ ⟨⟨rfl, rfl, rfl⟩, rfl⟩
  rw [h] at hmeets
  exact hmeets

end Settled

/-! ## The history -/

/-- The version in use and the one to go back to. -/
structure History where
  current : String
  previous : Option String
  apart : previous ≠ some current

namespace History

/-- A version that is in use already stays with the one before it. -/
def install : Option History → String → History
  | none, id => ⟨id, none, (Option.some_ne_none id).symm⟩
  | some h, id =>
    if hid : h.current = id then h else ⟨id, some h.current, fun h => hid (Option.some.inj h)⟩

def rollback (h : History) : Option History :=
  match hprevious : h.previous with
  | none => none
  | some id => some ⟨id, some h.current, fun hsame => h.apart (hprevious.trans hsame.symm)⟩

/-- One of the two versions. -/
def Has (h : History) (id : String) : Prop := id = h.current ∨ h.previous = some id

theorem has_install {h : History} {id new : String} (hid : (install (some h) new).Has id) :
    id = new ∨ h.Has id := by
  simp only [install] at hid
  split at hid
  · exact .inr hid
  · exact hid.imp_right fun hprevious => .inl (Option.some.inj hprevious).symm

/-- A history with a version to go back to. -/
theorem exists_rollback {h : History} {id : String} (hprevious : h.previous = some id) :
    ∃ back, h.rollback = some back ∧ back.current = id ∧ back.previous = some h.current := by
  unfold rollback
  split
  · next hnone => simp [hnone] at hprevious
  · next other hother => exact ⟨_, rfl, Option.some.inj (hother.symm.trans hprevious), rfl⟩

end History

/-! ## The managed state against the history -/

theorem versionsPath_injective : Function.Injective versionsPath :=
  fun _ _ h => (String.append_right_inj _).mp h

/-- The links spell the history. -/
structure Spells (links : Link → Option String) (h : History) : Prop where
  current : links .current = some (versionsPath h.current)
  previous : links .previous = h.previous.map versionsPath

variable {m : Managed} {h : History} {r : Release} {fault : Option Place}

theorem Spells.names_iff (hspells : Spells m.links h) (id : String) : m.Names id ↔ h.Has id := by
  have hprevious : m.links .previous = some (versionsPath id) ↔ h.previous = some id := by
    rw [hspells.previous, ← Option.map_some]
    exact (Option.map_injective versionsPath_injective).eq_iff
  unfold Managed.Names History.Has
  rw [hprevious, hspells.current, Option.some.injEq, versionsPath_injective.eq_iff, eq_comm]

/-- The links spell the history, and the payloads are those of its versions. -/
structure Represents (m : Managed) (h : History) : Prop extends Spells m.links h where
  payloads : ∀ id, id ∈ m.payloads ↔ h.Has id

/-- Nothing is installed. -/
structure Managed.Empty (m : Managed) : Prop where
  current : m.links .current = none
  previous : m.links .previous = none
  payloads : m.payloads = []

/-- What is there, before the first installation or after. -/
def Tracks (m : Managed) : Option History → Prop
  | none => m.Empty
  | some h => Represents m h

theorem Settled.represents {m after : Managed} (hsettled : Settled r m fault after)
    (hread : fault ≠ some .readPreviousAgain ∨ after.links .previous = none)
    (hspells : Spells after.links h) (hfrom : ∀ id, h.Has id → id = r.payloadId ∨ id ∈ m.payloads) :
    Represents after h where
  toSpells := hspells
  payloads id := by
    have hnames : (after.links .current = some (versionsPath id) ∨
        fault ≠ some .readPreviousAgain ∧ after.links .previous = some (versionsPath id)) ↔
        after.Names id := by
      rcases hread with hread | hread
      · simp [Managed.Names, hread]
      · simp [Managed.Names, hread]
    rw [hsettled.payloads, hnames, hspells.names_iff]
    exact and_iff_right_of_imp (hfrom id)

theorem replaces_iff (r : Release) (id : String) :
    replaces r (some (versionsPath id)) = true ↔ id ≠ r.payloadId := by
  simp [replaces, Release.currentTarget, versionsPath_injective.eq_iff]

theorem spells_switchedLinks (hspells : Spells m.links h) :
    Spells (switchedLinks r m) (History.install (some h) r.payloadId) := by
  have hreplaces := replaces_iff r h.current
  rw [← hspells.current] at hreplaces
  simp only [History.install]
  split
  · next hid =>
    refine ⟨by rw [hid]; rfl, ?_⟩
    rw [← hspells.previous]
    exact if_neg fun hnew => hreplaces.mp hnew hid
  · next hid =>
    refine ⟨rfl, ?_⟩
    rw [Option.map_some, ← hspells.current]
    exact if_pos (hreplaces.mpr hid)

/-- **An installation refines the one of the history.** -/
theorem Tracks.install {m after : Managed} {h : Option History} (htracks : Tracks m h)
    (hsettled : Settled r m fault after)
    (hread : fault ≠ some .readPreviousAgain ∨ after.links .previous = none) :
    Represents after (History.install h r.payloadId) := by
  cases h with
  | none =>
    have hprevious : after.links .previous = none := by
      simp [hsettled.links, switchedLinks, replaces, htracks.current, htracks.previous]
    have hcurrent : after.links .current = some (versionsPath r.payloadId) := by
      rw [hsettled.links]
      rfl
    refine hsettled.represents hread ⟨hcurrent, hprevious⟩ fun id hid => ?_
    exact hid.imp_right fun hnone => absurd hnone (Option.some_ne_none id).symm
  | some h =>
    refine hsettled.represents hread ?_ fun id hid => ?_
    · rw [hsettled.links]
      exact spells_switchedLinks htracks.toSpells
    · exact (History.has_install hid).imp_right (htracks.payloads id).mpr

/-- **A rollback refines the one of the history.** -/
theorem Tracks.rollback {m after : Managed} {h : Option History} (htracks : Tracks m h)
    (hexchanged : Exchanged m after) :
    ∃ back, h.bind History.rollback = some back ∧ Represents after back := by
  cases h with
  | none =>
    have hsome := hexchanged.current.1
    rw [htracks.current] at hsome
    cases hsome
  | some h =>
    obtain ⟨id, hid⟩ : ∃ id, h.previous = some id := by
      have hsome := hexchanged.previous.1
      rw [htracks.previous] at hsome
      simpa [Option.isSome_iff_exists] using hsome
    obtain ⟨back, hback, hcurrent, hprevious⟩ := History.exists_rollback hid
    refine ⟨back, hback, ⟨?_, ?_⟩, fun p => ?_⟩
    · rw [hexchanged.previous.2, htracks.previous, hid, hcurrent, Option.map_some]
    · rw [hexchanged.current.2, htracks.current, hprevious, Option.map_some]
    · rw [hexchanged.payloads, htracks.payloads]
      unfold History.Has
      rw [hid, hcurrent, hprevious, Option.some.injEq, Option.some.injEq, or_comm, eq_comm,
        @eq_comm _ h.current]

/-! ## Sequences of runs -/

/-- What a run finds beside the links and payloads of the install root. -/
structure Surroundings where
  command : Option String
  uninstall : Option String
  desktop : Option File
  icon : Option File
  legacy : Option File

def Managed.among (m : Managed) (around : Surroundings) : Managed where
  links
    | .current => m.links .current
    | .previous => m.links .previous
    | .command => around.command
    | .uninstall => around.uninstall
  desktop := around.desktop
  icon := around.icon
  legacy := around.legacy
  payloads := m.payloads

/-- A run of the installer on the install root, in which a command may fail. -/
inductive Operation
  | install (around : Surroundings) (r : Release) (fault : Option Place)
  | rollback (around : Surroundings) (fault : Option RollbackPlace)

/-- What a successful run leaves: one that gets to the end of the script. -/
def Operation.run (m : Managed) : Operation → Option Managed
  | .install around r fault => ((m.among around).install r fault).result.map (·.toManaged)
  | .rollback around fault => ((m.among around).rollback fault).result.map (·.toManaged)

/-- The last `readlink` of `previous`, whose failure the script ignores, does not fail. -/
def Operation.ReadsPrevious : Operation → Prop
  | .install _ _ fault => fault ≠ some .readPreviousAgain
  | .rollback _ _ => True

def versionsSystem (m : Managed) : System Managed Operation := ⟨m, Operation.run⟩

/-- What the history becomes. -/
def Operation.apply (h : Option History) : Operation → Option History
  | .install _ r _ => some (History.install h r.payloadId)
  | .rollback _ _ => h.bind History.rollback

theorem Tracks.among {h : Option History} (htracks : Tracks m h) (around : Surroundings) :
    Tracks (m.among around) h := by
  cases h with
  | none => exact ⟨htracks.current, htracks.previous, htracks.payloads⟩
  | some h => exact ⟨⟨htracks.current, htracks.previous⟩, htracks.payloads⟩

theorem Tracks.step {m after : Managed} {h : Option History} {op : Operation} (htracks : Tracks m h)
    (hop : op.run m = some after) (hreads : op.ReadsPrevious) : ∃ h', op.apply h = some h' ∧ Represents after h' := by
  cases op with
  | install around r fault =>
    obtain ⟨s, hs, rfl⟩ := Option.map_eq_some_iff.mp hop
    have hsettled := install_settled (Outcome.result_eq_some hs)
    exact ⟨_, rfl, (htracks.among around).install hsettled (.inl hreads)⟩
  | rollback around fault =>
    obtain ⟨s, hs, rfl⟩ := Option.map_eq_some_iff.mp hop
    exact (htracks.among around).rollback (rollback_done (Outcome.result_eq_some hs))

/-- The runs of the installer that read `previous`. -/
def readingRuns (_ : Managed) (op : Operation) : Prop := op.ReadsPrevious

/-- What a sequence of operations makes of no history. -/
def historyAfter (tr : List (Managed × Operation)) : Option History :=
  (tr.map Prod.snd).foldl Operation.apply none

theorem historyAfter_snoc (tr : List (Managed × Operation)) (m : Managed) (op : Operation) :
    historyAfter (tr ++ [(m, op)]) = op.apply (historyAfter tr) := by
  simp [historyAfter]

/-- **The runs on an install root refine the history**, which is not empty after the first one. -/
theorem run_tracks {m₀ m : Managed} (hempty : m₀.Empty) {tr : List (Managed × Operation)}
    (hrun : Run (versionsSystem m₀) readingRuns tr m) :
    Tracks m (historyAfter tr) ∧ (tr ≠ [] → (historyAfter tr).isSome) := by
  refine hrun.invariant_history
    (I := fun tr m => Tracks m (historyAfter tr) ∧ (tr ≠ [] → (historyAfter tr).isSome)) ?_ ?_
  · exact ⟨hempty, fun h => absurd rfl h⟩
  · rintro tr s op s' ⟨htracks, -⟩ hreads hop
    obtain ⟨h, hh, hrep⟩ := htracks.step hop hreads
    rw [historyAfter_snoc, hh]
    exact ⟨hrep, fun _ => rfl⟩

/-- `current` leads to a payload, and `previous`, where it is there, to another one. -/
structure Consistent (m : Managed) : Prop where
  current : ∃ id ∈ m.payloads, m.links .current = some (versionsPath id)
  previous : ∀ text, m.links .previous = some text →
    (∃ id ∈ m.payloads, text = versionsPath id) ∧ m.links .current ≠ some text

theorem Represents.consistent (hrep : Represents m h) :
    Consistent m where
  current := ⟨h.current, (hrep.payloads _).mpr (.inl rfl), hrep.current⟩
  previous text htext := by
    rw [hrep.previous] at htext
    obtain ⟨id, hid, rfl⟩ := Option.map_eq_some_iff.mp htext
    refine ⟨⟨id, (hrep.payloads _).mpr (.inr hid), rfl⟩, fun hsame => ?_⟩
    rw [hrep.current, Option.some.injEq, versionsPath_injective.eq_iff] at hsame
    exact h.apart (hid.trans (congrArg some hsame.symm))

/-- An installation that could not read `previous` has removed the payload that it leads to. -/
theorem Settled.consistent_iff {m after : Managed} {h : Option History} (htracks : Tracks m h)
    (hsettled : Settled r m (some .readPreviousAgain) after) :
    Consistent after ↔ after.links .previous = none := by
  constructor
  · intro hconsistent
    by_contra hsome
    obtain ⟨text, htext⟩ := Option.ne_none_iff_exists'.mp hsome
    obtain ⟨⟨id, hid, rfl⟩, hne⟩ := hconsistent.previous text htext
    have hkept := ((hsettled.payloads id).mp hid).2
    simp only [ne_eq, not_true_eq_false, false_and, or_false] at hkept
    exact hne hkept
  · exact fun hnone => (htracks.install hsettled (.inr hnone)).consistent

/-- **The installed versions stay consistent**, whatever releases are installed and whenever the
installer goes back to the version before, and each installation leaves no payload that the links
do not lead to, in runs whose last `readlink` of `previous` does not fail.  An installation in which
it does fail leaves them consistent just if there is no link `previous`. -/
theorem installed_versions_consistent {m₀ m : Managed} (hempty : m₀.Empty)
    {tr : List (Managed × Operation)} (hrun : Run (versionsSystem m₀) readingRuns tr m)
    (hsome : tr ≠ []) :
    Consistent m ∧
      (∀ earlier before around r fault, tr = earlier ++ [(before, .install around r fault)] →
        ∀ id ∈ m.payloads, m.Names id) ∧
      ∀ around r after, (Operation.install around r (some .readPreviousAgain)).run m = some after →
        (Consistent after ↔ after.links .previous = none) := by
  obtain ⟨htracks, hisSome⟩ := run_tracks hempty hrun
  obtain ⟨h, hh⟩ := Option.isSome_iff_exists.mp (hisSome hsome)
  rw [hh] at htracks
  refine ⟨htracks.consistent, fun _ _ _ _ _ _ id hid => ?_, fun around r after hafter => ?_⟩
  · exact (htracks.toSpells.names_iff id).mpr ((htracks.payloads id).mp hid)
  · obtain ⟨s, hs, rfl⟩ := Option.map_eq_some_iff.mp hafter
    exact Settled.consistent_iff (Tracks.among (h := some h) htracks around)
      (install_settled (Outcome.result_eq_some hs))

/-- **A rollback undoes an installation**: on a root that any runs have left, it brings back the
version that the new release has replaced, and its payload is still there. -/
theorem rollback_undoes_install {m₀ m upgraded back : Managed} (hempty : m₀.Empty)
    {tr : List (Managed × Operation)} (hrun : Run (versionsSystem m₀) readingRuns tr m)
    (hsome : tr ≠ []) {r : Release} (hnew : m.links .current ≠ some (versionsPath r.payloadId))
    {around around' : Surroundings} {fault : Option Place} (hreads : fault ≠ some .readPreviousAgain)
    (hinstall : (Operation.install around r fault).run m = some upgraded)
    {fault' : Option RollbackPlace}
    (hrollback : (Operation.rollback around' fault').run upgraded = some back) :
    back.links .current = m.links .current
      ∧ back.links .previous = some (versionsPath r.payloadId)
      ∧ Consistent back := by
  obtain ⟨htracks, hisSome⟩ := run_tracks hempty hrun
  obtain ⟨h, hh⟩ := Option.isSome_iff_exists.mp (hisSome hsome)
  rw [hh] at htracks
  have hcurrent : m.links .current = some (versionsPath h.current) := htracks.current
  have hne : h.current ≠ r.payloadId := fun heq => hnew (heq ▸ hcurrent)
  obtain ⟨h₁, heq₁, hupgraded⟩ := htracks.step hinstall hreads
  obtain ⟨h₂, heq₂, hback⟩ := Tracks.step (h := some h₁) hupgraded hrollback trivial
  obtain rfl := Option.some.inj heq₁
  have hprevious : (History.install (some h) r.payloadId).previous = some h.current := by
    rw [History.install, dif_neg hne]
  obtain ⟨restored, hrestored, hfirst, hsecond⟩ := History.exists_rollback hprevious
  obtain rfl : restored = h₂ := Option.some.inj (hrestored.symm.trans heq₂)
  have hid : (History.install (some h) r.payloadId).current = r.payloadId := by
    rw [History.install, dif_neg hne]
  refine ⟨?_, ?_, hback.consistent⟩
  · rw [hback.current, hfirst, hcurrent]
  · rw [hback.previous, hsecond, hid, Option.map_some]

/-! ## Three releases and a rollback -/

def nothingAround : Surroundings := ⟨none, none, none, none, none⟩

def nothingInstalled : Managed := ⟨fun _ => none, none, none, none, []⟩

def releaseOf (id : String) (valid : Bool) : Release :=
  { secondRelease with payloadId := id, payloadValid := valid }

def threeReleases : List Operation :=
  [ .install nothingAround (releaseOf "1-a" true) none,
    .install nothingAround (releaseOf "2-b" true) none,
    .install nothingAround (releaseOf "3-c" true) none,
    .rollback nothingAround none,
    .install nothingAround (releaseOf "2-b" false) (some .payloadDoctor) ]

/-- The third release takes the place of the first as the version to go back to; the rollback
returns to the second, whose payload the last installation finds broken and replaces. -/
theorem three_releases_consistent :
    ∃ tr m, Run (versionsSystem nothingInstalled) readingRuns tr m ∧
      m.payloads = ["2-b", "3-c"] ∧ Consistent m := by
  have heval : (runActions (versionsSystem nothingInstalled) threeReleases []
      (versionsSystem nothingInstalled).init).map (fun r => r.2.payloads)
      = some ["2-b", "3-c"] := by decide +kernel
  obtain ⟨tr, m, hrun, hactions, hpayloads⟩ := exists_run_of_actions heval
  have hsome : tr ≠ [] := by
    rintro rfl
    simp [threeReleases] at hactions
  have hreads : ∀ op ∈ threeReleases, op.ReadsPrevious := by simp [threeReleases, Operation.ReadsPrevious]
  have hrun : Run (versionsSystem nothingInstalled) readingRuns tr m :=
    hrun.of_history fun p hp => hreads p.2 (hactions ▸ List.mem_map_of_mem hp)
  exact ⟨tr, m, hrun, hpayloads, (installed_versions_consistent ⟨rfl, rfl, rfl⟩ hrun hsome).1⟩

/-- The second installation cannot read `previous`, takes the first payload for an unused one and
ends as if nothing had happened. -/
theorem unread_previous_dangles :
    ∃ tr m, Run (versionsSystem nothingInstalled) anyStep tr m ∧
      (m.links .previous, m.payloads) = (some (versionsPath "1-a"), ["2-b"]) ∧ ¬ Consistent m := by
  have heval : (runActions (versionsSystem nothingInstalled)
      [ .install nothingAround (releaseOf "1-a" true) none,
        .install nothingAround (releaseOf "2-b" true) (some .readPreviousAgain) ] []
      (versionsSystem nothingInstalled).init).map (fun r => (r.2.links .previous, r.2.payloads))
      = some (some (versionsPath "1-a"), ["2-b"]) := by decide +kernel
  obtain ⟨tr, m, hrun, hleft⟩ := exists_run_of_runActions
    (f := fun m : Managed => (m.links .previous, m.payloads)) heval
  refine ⟨tr, m, hrun, hleft, fun h => ?_⟩
  obtain ⟨hprevious, hpayloads⟩ := Prod.mk.inj hleft
  obtain ⟨⟨id, hid, hpath⟩, -⟩ := h.previous _ hprevious
  rw [hpayloads, List.mem_singleton] at hid
  exact absurd (versionsPath_injective hpath) (by rw [hid]; decide)

/-- The second release is taken back. -/
theorem second_release_undone : ∃ back : Managed,
    back.links .current = some (versionsPath "1-a") ∧ back.payloads = ["2-b", "1-a"] := by
  have heval : (do
      let m ← (Operation.install nothingAround (releaseOf "1-a" true) none).run nothingInstalled
      let upgraded ← (Operation.install nothingAround (releaseOf "2-b" true) none).run m
      let back ← (Operation.rollback nothingAround none).run upgraded
      some (m.links .current, back.payloads)) = some (some (versionsPath "1-a"), ["2-b", "1-a"]) := by
    decide +kernel
  obtain ⟨m, hm, hrest⟩ := Option.bind_eq_some_iff.mp heval
  obtain ⟨upgraded, hupgraded, hrest⟩ := Option.bind_eq_some_iff.mp hrest
  obtain ⟨back, hback, hrest⟩ := Option.bind_eq_some_iff.mp hrest
  obtain ⟨hcurrent, hpayloads⟩ := Prod.mk.inj (Option.some.inj hrest)
  have hnew : m.links .current ≠ some (versionsPath (releaseOf "2-b" true).payloadId) := by
    rw [hcurrent]
    decide
  have hrun : Run (versionsSystem nothingInstalled) readingRuns
      [(nothingInstalled, .install nothingAround (releaseOf "1-a" true) none)] m :=
    .snoc .start (by simp [readingRuns, Operation.ReadsPrevious]) hm
  have hundone := rollback_undoes_install ⟨rfl, rfl, rfl⟩ hrun (by simp) hnew (by simp) hupgraded
    hback
  exact ⟨back, hundone.1.trans hcurrent, hpayloads⟩

end RustWorkbench.Installer
