import RustWorkbench.Library.Chunks

/-!
# Errors in the output of the compiler

`run_rustc_observing_errors`: the wrapper copies what the compiler writes to its standard error and
looks for errors in it, read by read, in what was read together with the 32 bytes before it.

* `observe` — one round of the loop.
* `observation_exact_iff` — the answer is that of the whole output unless a read ends just 32 bytes
  behind the start of an `error` that does not start a line.
-/

namespace RustWorkbench.Analyzer.RustcWrapper

abbrev Bytes := List UInt8

/-- A byte string literal. -/
def ascii (text : String) : Bytes := text.toList.map fun c => UInt8.ofNat c.toNat

/-- What one call of `read` gives before the end of the stream. -/
abbrev Read := { bytes : Bytes // bytes ≠ [] ∧ bytes.length ≤ 8192 }

/-- `slice::windows` -/
def sliceWindows (size : Nat) (slice : Bytes) : List Bytes :=
  (List.range (slice.length + 1 - size)).map fun start => (slice.drop start).take size

def byteSliceContains (haystack needle : Bytes) : Bool :=
  !needle.isEmpty && (sliceWindows needle.length haystack).any (· == needle)

/-- The variables of the loop, and what was written to the standard error of the wrapper. -/
structure Observation where
  tail : Bytes := []
  emittedError : Bool := false
  forwarded : Bytes := []

def levelError : Bytes := ascii "\"level\":\"error\""

def errorWord : Bytes := ascii "error"

def newlineError : Bytes := ascii "\nerror"

def errorCode : Bytes := ascii "error["

/-- What is looked for in a window. -/
def showsError (window : Bytes) : Bool :=
  byteSliceContains window levelError || errorWord.isPrefixOf window
    || byteSliceContains window newlineError || byteSliceContains window errorCode

def observe (o : Observation) (chunk : Read) : Observation :=
  let observationWindow := o.tail ++ chunk.1
  { tail := observationWindow.drop (observationWindow.length - 32)
    emittedError := o.emittedError || showsError observationWindow
    forwarded := o.forwarded ++ chunk.1 }

/-- How the compiler ended: `none` where a signal stopped it. -/
structure ExitStatus where
  code : Option Int

structure ObservedRustcRun where
  exitCode : UInt8
  succeeded : Bool
  emittedError : Bool

/-- The run of a compiler that writes the given reads to its standard error. -/
def runRustcObservingErrors (reads : List Read) (status : ExitStatus) : ObservedRustcRun where
  exitCode := UInt8.ofInt (status.code.getD 102)
  succeeded := status.code == some 0
  emittedError := (reads.foldl observe {}).emittedError

/-! ## The whole output -/

/-- The output of the compiler. -/
def output (reads : List Read) : Bytes := (reads.map Subtype.val).flatten

/-- The output contains a diagnostic of level `error` or a line that starts with `error`. -/
def ReportsError (stream : Bytes) : Prop :=
  levelError <:+: stream ∨ errorCode <:+: stream ∨ errorWord <+: stream ∨ newlineError <:+: stream

theorem byteSliceContains_iff {haystack needle : Bytes} (hne : needle ≠ []) :
    byteSliceContains haystack needle = true ↔ needle <:+: haystack := by
  have hnonempty : needle.isEmpty = false := by simpa using hne
  simp only [byteSliceContains, hnonempty, Bool.not_false, Bool.true_and, List.any_eq_true,
    sliceWindows, List.mem_map, List.mem_range, beq_iff_eq, exists_eq_right]
  constructor
  · rintro ⟨start, -, hneedle⟩
    rw [← hneedle]
    exact (List.take_prefix _ _).isInfix.trans (List.drop_suffix _ _).isInfix
  · rintro ⟨front, back, rfl⟩
    refine ⟨front.length, ?_, ?_⟩
    · simp only [List.length_append]
      omega
    · rw [List.append_assoc, List.drop_left, List.take_left]

theorem showsError_iff {window : Bytes} :
    showsError window = true ↔ ReportsError window := by
  unfold showsError ReportsError
  rw [Bool.or_eq_true, Bool.or_eq_true, Bool.or_eq_true, List.isPrefixOf_iff_prefix,
    byteSliceContains_iff (by decide), byteSliceContains_iff (by decide),
    byteSliceContains_iff (by decide)]
  simp only [or_left_comm, or_comm]

/-! ## The loop -/

/-- A round carries the last 32 bytes of all that was read. -/
theorem observe_tail {o : Observation} {seen : Bytes} (h : o.tail = seen.rtake 32) (chunk : Read) :
    (observe o chunk).tail = (seen ++ chunk.1).rtake 32 := by
  rw [← Chunks.rtake_rtake_append, ← h]
  rfl

theorem observe_run {seen : Bytes} {reads : List Read} {o : Observation}
    (htail : o.tail = seen.rtake 32) :
    (reads.foldl observe o).emittedError = true ↔ o.emittedError = true ∨
      ∃ window ∈ Chunks.windows 32 seen (reads.map Subtype.val), ReportsError window := by
  induction reads generalizing o seen with
  | nil => simp [Chunks.windows]
  | cons chunk rest ih =>
    rw [List.foldl_cons, ih (observe_tail htail chunk), List.map_cons, Chunks.windows, ← htail]
    simp only [observe, Bool.or_eq_true, showsError_iff, List.mem_cons, exists_eq_or_imp, or_assoc]

/-- A read, not the last one, ends 32 bytes behind the start of an `error` that is not the start of
the output. -/
def EndsBehindError (reads : List Read) : Prop :=
  ∃ earlier later, reads = earlier ++ later ∧ later ≠ [] ∧
    32 < (output earlier).length ∧ errorWord <+: (output earlier).rtake 32

theorem exists_error_window_iff (reads : List Read) :
    (∃ window ∈ Chunks.windows 32 [] (reads.map Subtype.val), errorWord <+: window) ↔
      errorWord <+: output reads ∨ EndsBehindError reads := by
  rw [Chunks.exists_prefix_window_iff (by decide) (by decide)]
  refine or_congr Iff.rfl ⟨?_, ?_⟩
  · rintro ⟨earlier, later, hsplit, hlater, hlong, hbegins⟩
    obtain ⟨first, second, rfl, rfl, rfl⟩ := List.map_eq_append_iff.mp hsplit
    exact ⟨first, second, rfl, fun h => hlater (by rw [h, List.map_nil]), hlong, hbegins⟩
  · rintro ⟨earlier, later, rfl, hlater, hlong, hbegins⟩
    refine ⟨_, _, List.map_append, fun h => hlater (List.map_eq_nil_iff.mp h), hlong, hbegins⟩

/-- **What the rounds find.** -/
theorem observed_error_iff (reads : List Read) (status : ExitStatus) :
    (runRustcObservingErrors reads status).emittedError = true ↔
      ReportsError (output reads) ∨ EndsBehindError reads := by
  have hfind : ∀ needle : Bytes, needle ≠ [] → needle.length ≤ 33 →
      ((∃ window ∈ Chunks.windows 32 [] (reads.map Subtype.val), needle <:+: window) ↔
        needle <:+: output reads) := by
    intro needle hne hlength
    have hall : needle <:+: [] ++ output reads ↔ needle <:+: [] ∨ _ :=
      Chunks.infix_flatten_iff hlength
    simpa [hne] using hall.symm
  have hrun : (runRustcObservingErrors reads status).emittedError = true ↔
      ∃ window ∈ Chunks.windows 32 [] (reads.map Subtype.val), ReportsError window := by
    have htail : ({} : Observation).tail = ([] : Bytes).rtake 32 := rfl
    refine (observe_run htail).trans ?_
    simp
  rw [hrun]
  simp only [ReportsError, and_or_left, exists_or, hfind levelError (by decide) (by decide),
    hfind errorCode (by decide) (by decide), hfind newlineError (by decide) (by decide),
    exists_error_window_iff]
  simp only [or_left_comm, or_comm]

/-- **When the answer is that of the whole output**, however it is cut into reads. -/
theorem observation_exact_iff (reads : List Read) (status : ExitStatus) :
    ((runRustcObservingErrors reads status).emittedError = true ↔ ReportsError (output reads)) ↔
      (EndsBehindError reads → ReportsError (output reads)) := by
  rw [observed_error_iff]
  exact or_iff_left_iff_imp

/-- The word starts 32 bytes before the end of the first read, in the middle of a line. -/
theorem carried_word_reported :
    ∃ first second : Read,
      (runRustcObservingErrors [first, second] ⟨some 1⟩).emittedError = true ∧
        ¬ ReportsError (output [first, second]) := by
  refine ⟨⟨ascii "an error was made while linking: ld", by decide⟩, ⟨ascii " failed", by decide⟩,
    ?_, ?_⟩
  · decide +kernel
  · rw [← showsError_iff]
    decide +kernel

end RustWorkbench.Analyzer.RustcWrapper
