import Mathlib.Logic.Basic
import Mathlib.Data.Option.Basic

/-!
# One-slot request channels

A client that debounces its requests keeps a *slot*, which holds at most one task, and the key
of the request it is *pending* on.  Assigning to the slot cancels the task it held, so a
response can only come from the request in the slot.  `Tracked` says that the bookkeeping is
right: whoever waits for a key has the request with that key in flight.  A channel that is
pending on a key without being tracked waits for a response that never comes.

* `tracked_timer`, `tracked_ready` — a slot without a request is tracked only when nothing is
  pending.
* `tracked_request` — a request in flight tracks its own key and nothing else.
-/

namespace Channel

variable {κ ρ : Type}

/-- What a task slot holds: nothing that is still running, a debounce timer whose handler has
not run yet, or a request in flight. -/
inductive Slot (ρ : Type)
  | ready
  | timer
  | request (issued : ρ)
  deriving DecidableEq, Repr

/-- If the channel waits for the response to `k`, its slot holds the request issued for `k`. -/
def Tracked (key : ρ → κ) (pending : Option κ) (slot : Slot ρ) : Prop :=
  ∀ k, pending = some k → ∃ r, slot = .request r ∧ key r = k

variable {key : ρ → κ} {pending : Option κ} {slot : Slot ρ}

@[simp] theorem tracked_none : Tracked key none slot := by
  intro k hk
  cases hk

/-- A slot without a request is tracked only while the channel waits for nothing. -/
theorem tracked_iff_of_idle (hidle : ∀ r, slot ≠ .request r) :
    Tracked key pending slot ↔ pending = none := by
  constructor
  · intro h
    cases pending with
    | none => rfl
    | some k =>
      obtain ⟨r, hr, -⟩ := h k rfl
      exact absurd hr (hidle r)
  · rintro rfl
    exact tracked_none

@[simp] theorem tracked_ready : Tracked key pending .ready ↔ pending = none :=
  tracked_iff_of_idle (fun _ h => nomatch h)

@[simp] theorem tracked_timer : Tracked key pending .timer ↔ pending = none :=
  tracked_iff_of_idle (fun _ h => nomatch h)

theorem tracked_request {r : ρ} :
    Tracked key pending (.request r) ↔ ∀ k, pending = some k → k = key r := by
  constructor
  · intro h k hk
    obtain ⟨r', hr, rfl⟩ := h k hk
    cases hr
    rfl
  · intro h k hk
    exact ⟨r, rfl, (h k hk).symm⟩

/-- A channel that has just issued a request is tracked. -/
theorem tracked_issued {r : ρ} {k : κ} (h : key r = k) : Tracked key (some k) (.request r) := by
  rw [tracked_request]
  intro k' hk
  cases hk
  exact h.symm

end Channel
