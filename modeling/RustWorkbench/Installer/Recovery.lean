import RustWorkbench.Installer.Install

/-!
# The recoveries of the installer

What the handlers of the install mode bring back, from whatever state they start in, and the rules
by which the commands of the script are reasoned about.

* `command_triple`, `check_triple`, `whenever_triple` — one rule for each kind of command.
* `rollback_links` — a link gets what is at its temporary name, and the saved text only where
  nothing is there.
-/

namespace RustWorkbench.Installer

open Scripts

/-- Everything that was managed is as before. -/
structure Unchanged (before after : Managed) : Prop where
  links : after.links = before.links
  desktop : after.desktop = before.desktop
  icon : after.icon = before.icon
  legacy : after.legacy = before.legacy
  payloads : ∀ id, before.Names id → id ∈ before.payloads → id ∈ after.payloads

/-! ## Rules for the kinds of commands -/

section Rules

variable {ι : Type} {fault : Option ι} {P Q : Machine → Prop}
  {E : ι → Machine → Prop} {c : Command Machine ι} {trap effect : Machine → Machine} {place : ι}

theorem command_triple [DecidableEq ι] (hdone : ∀ s, P s → Q (effect s))
    (hexit : ∀ s, P s → fault = some place → E place (trap s)) :
    Triple fault P [command trap place effect] Q E := by
  refine .plain rfl rfl (by simp [command]) hdone fun s p t hs hfault hbreaks => ?_
  simp only [command, Reaction.ite_exits_eq_some] at hbreaks
  obtain ⟨rfl, rfl⟩ := hbreaks
  exact hexit s hs hfault

/-- A command that does nothing to the state. -/
theorem quiet_triple [DecidableEq ι] (hexit : ∀ s, P s → fault = some place → E place (trap s)) :
    Triple fault P [command trap place] P E :=
  command_triple (fun _ hs => hs) hexit

/-- After a test that does not end the script, it was not met. -/
theorem passed_triple {refused : Machine → Bool} (hpass : ∀ s, P s → refused s = false → Q s)
    (hexit : ∀ s, P s → E place s) : Triple fault P [check place refused] Q E := by
  refine .command ?_ ?_ ?_ ?_ ?_
  · intro s _ happ
    simp [check] at happ
  · intro s hs _ href
    exact hpass s hs (by simpa [check] using href)
  · intro s p hs _ href
    simp only [check, Option.ite_none_right_eq_some, Option.some.injEq] at href
    obtain ⟨-, rfl⟩ := href
    exact hexit s hs
  · intro s p t _ _ _ hbreaks
    simp [check] at hbreaks
  · intro s p t _ _ _ hbreaks
    simp [check] at hbreaks

theorem check_triple {refused : Machine → Bool} (hexit : ∀ s, P s → E place s) :
    Triple fault P [check place refused] P E :=
  passed_triple (fun _ hs _ => hs) hexit

theorem whenever_triple {condition : Machine → Bool} (happ : c.applies = fun _ => true)
    (hskip : ∀ s, P s → condition s = false → Q s)
    (h : Triple fault (fun s => P s ∧ condition s = true) [c] Q E) :
    Triple fault P [whenever condition c] Q E := by
  intro s hs
  cases hcond : condition s with
  | false => simpa [run, Command.run, whenever, hcond, Outcome.Meets] using hskip s hs hcond
  | true =>
    have hrun : (whenever condition c).run fault s = c.run fault s := by
      simp [Command.run, Command.execute, whenever, hcond, happ]
    have hc := h s ⟨hs, hcond⟩
    rwa [run, ← hrun] at hc

end Rules

/-! ## The recoveries -/

namespace Machine

variable (r : Release) (s : Machine)

theorem restoreLink_links (link l : Link) :
    (s.restoreLink link).links l =
      if l = link then (s.saved link).map ((s.temporary link).getD ·) else s.links l := by
  unfold restoreLink
  split
  · next target hsaved => simp [atomicSymlink, Function.update_apply, hsaved]
  · next hsaved => simp [Function.update_apply, hsaved]

theorem restoreLink_temporary {link l : Link} (hl : l ≠ link) :
    (s.restoreLink link).temporary l = s.temporary l := by
  unfold restoreLink
  split <;> simp [atomicSymlink, hl]

variable (link : Link)

@[simp] theorem restoreLink_saved : (s.restoreLink link).saved = s.saved := by
  unfold restoreLink
  split <;> rfl

@[simp] theorem restoreLink_backup : (s.restoreLink link).backup = s.backup := by
  unfold restoreLink
  split <;> rfl

@[simp] theorem restoreLink_created : (s.restoreLink link).created = s.created := by
  unfold restoreLink
  split <;> rfl

@[simp] theorem restoreLink_legacy : (s.restoreLink link).legacy = s.legacy := by
  unfold restoreLink
  split <;> rfl

@[simp] theorem restoreLink_payloads : (s.restoreLink link).payloads = s.payloads := by
  unfold restoreLink
  split <;> rfl

theorem rollback_links :
    (s.rollback r).links = fun l => (s.saved l).map ((s.temporary l).getD ·) := by
  have hdiscard : ∀ t : Machine, (t.discardNewPayload r).links = t.links := by
    intro t
    unfold discardNewPayload
    split <;> rfl
  funext l
  cases l <;>
    simp [rollback, hdiscard, restoreIntegration, rollbackCurrent, restoreLink_links,
      restoreLink_temporary]

@[simp] theorem rollback_desktop : (s.rollback r).desktop = s.backup.desktop := by
  unfold rollback discardNewPayload
  split <;> simp [restoreIntegration, rollbackCurrent, removePayload]

@[simp] theorem rollback_icon : (s.rollback r).icon = s.backup.icon := by
  unfold rollback discardNewPayload
  split <;> simp [restoreIntegration, rollbackCurrent, removePayload]

@[simp] theorem rollback_legacy : (s.rollback r).legacy = s.legacy := by
  unfold rollback discardNewPayload
  split <;> simp [restoreIntegration, rollbackCurrent, removePayload]

@[simp] theorem rollback_saved : (s.rollback r).saved = s.saved := by
  unfold rollback discardNewPayload
  split <;> simp [restoreIntegration, rollbackCurrent, removePayload]

@[simp] theorem rollback_created : (s.rollback r).created = s.created := by
  unfold rollback discardNewPayload
  split <;> simp [restoreIntegration, rollbackCurrent, removePayload]

theorem rollback_payloads :
    (s.rollback r).payloads =
      if s.created then s.payloads.filter (· ≠ r.payloadId) else s.payloads := by
  by_cases hcreated : s.created = true <;>
    simp [rollback, discardNewPayload, restoreIntegration, rollbackCurrent, removePayload,
      hcreated]

theorem rollback_temporary (h : s.temporary = fun _ => none) :
    (s.rollback r).temporary = fun _ => none := by
  have hrestore : ∀ (t : Machine) link, t.temporary = (fun _ => none) →
      (t.restoreLink link).temporary = fun _ => none := by
    intro t link ht
    unfold restoreLink
    split <;> simp [atomicSymlink, ht]
  have hall : s.rollbackCurrent.restoreIntegration.temporary = fun _ => none :=
    hrestore _ _ (hrestore _ _ (hrestore _ _ (hrestore _ _ h)))
  unfold rollback discardNewPayload
  split
  · exact hall
  · exact hall

/-- **What the recoveries bring back.** -/
theorem rollback_unchanged_iff {m : Managed} (hsaved : s.saved = m.links) :
    Unchanged m (s.rollback r).toManaged ↔
      (∀ l text, m.links l = some text → (s.temporary l).getD text = text) ∧
        s.backup.desktop = m.desktop ∧ s.backup.icon = m.icon ∧ s.legacy = m.legacy ∧
        ∀ id, m.Names id → id ∈ m.payloads → id ∈ (s.rollback r).payloads := by
  have hlinks : (s.rollback r).links = m.links ↔
      ∀ l text, m.links l = some text → (s.temporary l).getD text = text := by
    rw [rollback_links, hsaved, funext_iff]
    refine forall_congr' fun l => ?_
    cases m.links l <;> simp
  constructor
  · intro h
    exact ⟨hlinks.mp h.links, (rollback_desktop r s) ▸ h.desktop, (rollback_icon r s) ▸ h.icon,
      (rollback_legacy r s) ▸ h.legacy, h.payloads⟩
  · rintro ⟨htemp, hdesktop, hicon, hlegacy, hpayloads⟩
    exact ⟨hlinks.mpr htemp, (rollback_desktop r s).trans hdesktop,
      (rollback_icon r s).trans hicon, (rollback_legacy r s).trans hlegacy, hpayloads⟩

end Machine

end RustWorkbench.Installer
