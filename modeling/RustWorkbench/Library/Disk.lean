import Mathlib.Data.List.Basic

/-!
# Programs that write files

A disk maps a path, the list of its components, to what is stored there; directories are not kept.
A program leaves a log of what it did and ends with a value or a failure.

* `run_of_untouched` — a path that no effect touches keeps its contents.
-/

namespace Disk

variable {ν κ : Type}

/-! ## Files -/

abbrev Files (ν κ : Type) := List ν → Option κ

inductive Effect (ν κ : Type)
  | write (path : List ν) (contents : κ)
  | removeAll (directory : List ν)
  deriving DecidableEq, Repr

/-- The file or the directory that the effect is about. -/
def Effect.target : Effect ν κ → List ν
  | .write path _ => path
  | .removeAll directory => directory

def Effect.Touches (path : List ν) : Effect ν κ → Prop
  | .write written _ => written = path
  | .removeAll directory => directory <+: path

/-- What an effect touches is below its target. -/
theorem Effect.Touches.target_prefix {path : List ν} : ∀ {effect : Effect ν κ},
    effect.Touches path → effect.target <+: path
  | .write _ _, h => h ▸ List.prefix_rfl
  | .removeAll _, h => h

/-- An effect below a directory touches nothing outside it. -/
theorem Effect.not_touches {directory path : List ν} {effect : Effect ν κ}
    (h : directory <+: effect.target) (hpath : ¬ directory <+: path) : ¬ effect.Touches path :=
  fun htouches => hpath (h.trans htouches.target_prefix)

section

variable [DecidableEq ν]

def Effect.apply (files : Files ν κ) : Effect ν κ → Files ν κ
  | .write written contents => fun path => if path = written then some contents else files path
  | .removeAll directory => fun path => if directory.isPrefixOf path then none else files path

/-- The effects in order. -/
def run (effects : List (Effect ν κ)) (files : Files ν κ) : Files ν κ :=
  effects.foldl Effect.apply files

theorem run_append (effects later : List (Effect ν κ)) (files : Files ν κ) :
    run (effects ++ later) files = run later (run effects files) :=
  List.foldl_append

variable {path : List ν}

theorem Effect.apply_of_untouched (files : Files ν κ) : ∀ {effect : Effect ν κ},
    ¬ effect.Touches path → effect.apply files path = files path
  | .write _ _, h => if_neg fun heq => h heq.symm
  | .removeAll _, h => if_neg fun hbegins => h (List.isPrefixOf_iff_prefix.mp hbegins)

theorem run_of_untouched : ∀ {effects : List (Effect ν κ)} {files : Files ν κ},
    (∀ effect ∈ effects, ¬ effect.Touches path) → run effects files path = files path
  | [], _, _ => rfl
  | effect :: effects, files, h => by
    have hrest : run effects (effect.apply files) path = effect.apply files path :=
      run_of_untouched fun later hlater => h later (List.mem_cons_of_mem _ hlater)
    exact hrest.trans (effect.apply_of_untouched files (h effect List.mem_cons_self))

/-- **A path that is written once, or with the same contents every time**, has these contents. -/
theorem run_writes {contents : κ} :
    ∀ {written : List (List ν × κ)} {files : Files ν κ},
      (∀ file ∈ written, file.1 = path → file.2 = contents) → path ∈ written.map Prod.fst →
      run (written.map fun file => .write file.1 file.2) files path = some contents
  | file :: written, files, h, hmem => by
    change run (written.map _) (Effect.apply files _) path = _
    by_cases hlater : path ∈ written.map Prod.fst
    · exact run_writes (fun later hmem => h later (List.mem_cons_of_mem _ hmem)) hlater
    · -- The first file is the one with this path, and nothing later is written to it.
      have hpath : path = file.1 := (List.mem_cons.mp hmem).resolve_right hlater
      rw [run_of_untouched]
      · exact (if_pos hpath).trans (congrArg some (h file List.mem_cons_self hpath.symm))
      · intro effect heffect
        obtain ⟨other, hother, rfl⟩ := List.mem_map.mp heffect
        exact fun heq => hlater (List.mem_map.mpr ⟨other, hother, heq⟩)

end

/-! ## Programs -/

/-- A program that has been run: its log and how it ended. -/
structure Logged (ω ε α : Type) where
  log : List ω
  result : Except ε α

namespace Logged

variable {ω ε α β : Type}

def bind (program : Logged ω ε α) (next : α → Logged ω ε β) : Logged ω ε β :=
  match program.result with
  | .error failure => ⟨program.log, .error failure⟩
  | .ok value => ⟨program.log ++ (next value).log, (next value).result⟩

instance : Monad (Logged ω ε) where
  pure value := ⟨[], .ok value⟩
  bind := bind

def emit (event : ω) : Logged ω ε Unit := ⟨[event], .ok ()⟩

def fail (failure : ε) : Logged ω ε α := ⟨[], .error failure⟩

variable {program : Logged ω ε α} {next : α → Logged ω ε β}

theorem bind_of_ok {first : α} (h : program.result = .ok first) :
    program >>= next = ⟨program.log ++ (next first).log, (next first).result⟩ := by
  change bind program next = _
  unfold bind
  rw [h]

/-- **A program in two parts that ends with a value.** -/
theorem bind_eq_ok {value : β} (h : (program >>= next).result = .ok value) :
    ∃ first, program.result = .ok first ∧ (next first).result = .ok value
      ∧ (program >>= next).log = program.log ++ (next first).log := by
  change (bind program next).result = _ at h
  change ∃ first, _ ∧ _ ∧ (bind program next).log = _
  unfold bind at h ⊢
  split at h
  · cases h
  · rename_i first hfirst
    exact ⟨first, hfirst, h, rfl⟩

/-- Every entry of the log has the property. -/
def Emits (P : ω → Prop) (program : Logged ω ε α) : Prop := ∀ event ∈ program.log, P event

variable {P Q : ω → Prop}

theorem Emits.pure (value : α) : Emits P (Pure.pure value : Logged ω ε α) := fun _ h => nomatch h

theorem Emits.fail (failure : ε) : Emits P (Logged.fail failure : Logged ω ε α) :=
  fun _ h => nomatch h

theorem Emits.emit {event : ω} (h : P event) : Emits P (Logged.emit event : Logged ω ε Unit) :=
  fun _ hmem => List.mem_singleton.mp hmem ▸ h

/-- The second part may use what the first one ended with. -/
theorem Emits.bind_of_ok (h : Emits P program)
    (hnext : ∀ value, program.result = .ok value → Emits P (next value)) :
    Emits P (program >>= next) := by
  change Emits P (Logged.bind program next)
  unfold Logged.bind
  split
  · exact h
  · rename_i value hvalue
    intro event hevent
    rcases List.mem_append.mp hevent with hevent | hevent
    · exact h event hevent
    · exact hnext value hvalue event hevent

theorem Emits.bind (h : Emits P program) (hnext : ∀ value, Emits P (next value)) :
    Emits P (program >>= next) :=
  h.bind_of_ok fun value _ => hnext value

/-- A bound on how often the second part emits something bounds the whole. -/
theorem countP_bind_le (q : ω → Bool) (program : Logged ω ε α) {n : Nat}
    (hnext : ∀ value, program.result = .ok value → (next value).log.countP q ≤ n) :
    (program >>= next).log.countP q ≤ program.log.countP q + n := by
  change (Logged.bind program next).log.countP q ≤ _
  unfold Logged.bind
  split
  · exact Nat.le_add_right _ _
  · rename_i value hvalue
    rw [List.countP_append]
    exact Nat.add_le_add_left (hnext value hvalue) _

theorem Emits.mono (hle : ∀ event, P event → Q event) (h : Emits P program) : Emits Q program :=
  fun event hevent => hle event (h event hevent)

end Logged

end Disk
