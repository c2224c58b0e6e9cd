import RustWorkbench.Installer.Recovery

/-!
# The rollback mode of the installer

The commands of `install-user rollback` from the test for the install root to the last `echo`: the
texts of `current` and `previous` are read, the payload that `previous` leads to is examined, and
the two links are exchanged.

* `rollbackScript` — the script, by the traps that are set.
-/

namespace RustWorkbench.Installer

open Scripts

/-- Where a rollback can stop. -/
inductive RollbackPlace
  | noRoot | makeRoot | openLock | takeLock
  /-- The link is missing. -/
  | absent (link : Link)
  | readLink (link : Link) | pattern (link : Link)
  | previousDoctor
  | linkNew (link : Link) | moveNew (link : Link)
  | commandDoctor | report
deriving DecidableEq, Repr

namespace Machine

/-- The text that was read from the link. -/
def savedTarget (s : Machine) (link : Link) : String := (s.saved link).getD ""

/-- `rollback_swap_error` -/
def rollbackSwapError (s : Machine) : Machine :=
  (s.atomicSymlink .current (s.savedTarget .current)).atomicSymlink .previous
    (s.savedTarget .previous)

end Machine

/-- `[[ -L … ]] || die` -/
def requireLink (link : Link) : Command Machine RollbackPlace :=
  check (.absent link) fun s => (s.links link).isNone

def readTarget (link : Link) : Command Machine RollbackPlace :=
  command id (.readLink link) fun s => { s with saved := Function.update s.saved link (s.links link) }

def checkTarget (link : Link) : Command Machine RollbackPlace :=
  check (.pattern link) fun s => !versionsPattern (s.savedTarget link)

/-- The doctor of the payload that `previous` leads to: without one there is no such command. -/
def previousDoctor : Command Machine RollbackPlace where
  refuses s :=
    if (s.payloads.map versionsPath).contains (s.savedTarget .previous) then none
    else some .previousDoctor
  breaks p s := if p = .previousDoctor then some (.exits s) else none

/-- `atomic_symlink` of the text that another link had, under the trap of the exchange. -/
def exchangeLink (link other : Link) : Command Machine RollbackPlace where
  effect s := { s with links := Function.update s.links link (some (s.savedTarget other)) }
  breaks p s :=
    if p = .linkNew link then some (.exits s.rollbackSwapError)
    else if p = .moveNew link then
      some (.exits (Machine.rollbackSwapError
        { s with temporary := Function.update s.temporary link (some (s.savedTarget other)) }))
    else none

def rollbackScript : List (Command Machine RollbackPlace) :=
  [ command id .noRoot,
    command id .makeRoot,
    command id .openLock,
    command id .takeLock,
    requireLink .current,
    requireLink .previous,
    readTarget .current,
    readTarget .previous,
    checkTarget .current,
    checkTarget .previous,
    previousDoctor,
    exchangeLink .current .previous,
    exchangeLink .previous .current,
    command (·.rollbackSwapError) .commandDoctor,
    command id .report ]

/-- A rollback from a managed state, in which the command at the place fails. -/
def Managed.rollback (m : Managed) (fault : Option RollbackPlace) :
    Outcome Machine RollbackPlace :=
  run fault rollbackScript { toManaged := m }

/-! ## A rollback that ends -/

/-- The links are exchanged, and everything else is as before. -/
structure Exchanged (before after : Managed) : Prop where
  current : (before.links .current).isSome ∧ after.links .previous = before.links .current
  previous : (before.links .previous).isSome ∧ after.links .current = before.links .previous
  command : after.links .command = before.links .command
  uninstall : after.links .uninstall = before.links .uninstall
  payloads : after.payloads = before.payloads

section Phases

variable (m : Managed)

/-- Nothing has changed, the given links are there and of some of them the text is read. -/
structure Reading (there read : List Link) (s : Machine) : Prop where
  managed : s.toManaged = m
  there : ∀ link ∈ there, (m.links link).isSome
  saved : ∀ link ∈ read, s.saved link = m.links link

variable {m} {fault : Option RollbackPlace} {there read : List Link}

theorem Reading.savedTarget {s : Machine} (h : Reading m there read s) {link : Link}
    (hthere : link ∈ there) (hread : link ∈ read) : some (s.savedTarget link) = m.links link := by
  obtain ⟨text, htext⟩ := Option.isSome_iff_exists.mp (h.there link hthere)
  rw [Machine.savedTarget, h.saved link hread, htext, Option.getD_some]

theorem requireLink_triple (link : Link) :
    Triple fault (Reading m there read) [requireLink link] (Reading m (link :: there) read)
      fun _ _ => True := by
  refine passed_triple (fun s hs hlink => ⟨hs.managed, ?_, hs.saved⟩) fun _ _ => trivial
  have hsome : (m.links link).isSome := by simpa [← hs.managed, Option.isSome_iff_ne_none] using hlink
  exact List.forall_mem_cons.mpr ⟨hsome, hs.there⟩

theorem readTarget_triple (link : Link) :
    Triple fault (Reading m there read) [readTarget link] (Reading m there (link :: read))
      fun _ _ => True := by
  refine command_triple (fun s hs => ⟨hs.managed, hs.there, fun l hl => ?_⟩) fun _ _ _ => trivial
  by_cases hlink : l = link
  · simp [hlink, ← hs.managed]
  · have hread : l ∈ read := by simpa [hlink] using hl
    simpa [hlink] using hs.saved l hread

theorem previousDoctor_triple {P : Machine → Prop} :
    Triple fault P [previousDoctor] P fun _ _ => True := by
  refine .command (fun _ hs _ => hs) (fun _ hs _ _ => hs) (fun _ _ _ _ _ => trivial)
    (fun _ _ _ _ _ _ _ => trivial) ?_
  intro s place t _ _ _ hbreaks
  simp [previousDoctor] at hbreaks

theorem exchangeLink_triple {P Q : Machine → Prop} {link other : Link}
    (h : ∀ s, P s → Q { s with
      links := Function.update s.links link (some (s.savedTarget other)) }) :
    Triple fault P [exchangeLink link other] Q fun _ _ => True := by
  refine .plain rfl rfl ?_ h fun _ _ _ _ _ _ => trivial
  intro s place t hbreaks
  simp only [exchangeLink] at hbreaks
  split at hbreaks
  · simp at hbreaks
  · simp at hbreaks

variable (m) in
/-- The first of the two links is switched. -/
structure HalfExchanged (s : Machine) : Prop where
  managed : s.toManaged = { m with
    links := Function.update m.links .current (m.links .previous) }
  there : (m.links .current).isSome ∧ (m.links .previous).isSome
  saved : some (s.savedTarget .current) = m.links .current

theorem rollback_triple :
    Triple fault (Reading m [] []) rollbackScript (fun s => Exchanged m s.toManaged)
      fun _ _ => True := by
  have hquiet : ∀ {P : Machine → Prop} {trap} place,
      Triple fault P [command trap place] P fun _ _ => True :=
    fun place => quiet_triple fun _ _ _ => trivial
  have hcheck : ∀ {P : Machine → Prop} link,
      Triple fault P [checkTarget link] P fun _ _ => True :=
    fun link => check_triple fun _ _ => trivial
  refine .cons (hquiet .noRoot) ?_
  refine .cons (hquiet .makeRoot) ?_
  refine .cons (hquiet .openLock) ?_
  refine .cons (hquiet .takeLock) ?_
  refine .cons (requireLink_triple .current) ?_
  refine .cons (requireLink_triple .previous) ?_
  refine .cons (readTarget_triple .current) ?_
  refine .cons (readTarget_triple .previous) ?_
  refine .cons (hcheck .current) ?_
  refine .cons (hcheck .previous) ?_
  refine .cons previousDoctor_triple ?_
  refine .cons (exchangeLink_triple (Q := HalfExchanged m) ?_) ?_
  · intro s hs
    have hcurrent : some (s.savedTarget .current) = m.links .current :=
      hs.savedTarget (by simp) (by simp)
    have hprevious : some (s.savedTarget .previous) = m.links .previous :=
      hs.savedTarget (by simp) (by simp)
    refine ⟨?_, ⟨hs.there .current (by simp), hs.there .previous (by simp)⟩, hcurrent⟩
    rw [hprevious]
    simp [← hs.managed]
  refine .cons (exchangeLink_triple (Q := fun s => Exchanged m s.toManaged) ?_) ?_
  · intro s hs
    exact {
      current := ⟨hs.there.1, by simp [hs.saved]⟩
      previous := ⟨hs.there.2, by simp [hs.managed]⟩
      command := by simp [hs.managed]
      uninstall := by simp [hs.managed]
      payloads := by simp [hs.managed] }
  exact .cons (hquiet .commandDoctor) (hquiet .report)

/-- **A rollback that ends has exchanged the two links.** -/
theorem rollback_done {s : Machine} (h : m.rollback fault = .done s) :
    Exchanged m s.toManaged := by
  have hmeets : (m.rollback fault).Meets (fun s => Exchanged m s.toManaged) fun _ _ => True :=
    rollback_triple _ ⟨rfl, List.forall_mem_nil _, List.forall_mem_nil _⟩
  rw [h] at hmeets
  exact hmeets

end Phases

end RustWorkbench.Installer
