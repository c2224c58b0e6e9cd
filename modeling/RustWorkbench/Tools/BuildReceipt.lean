import RustWorkbench.Library.Assoc
import RustWorkbench.Library.Checks
import RustWorkbench.Library.Runs
import RustWorkbench.Library.Search
import Mathlib.Data.List.Induction

/-!
# The build receipt

A build writes into a receipt which artifacts it made, at which commit and whether the tree was dirty.
A receipt of another commit or of another dirty state is started afresh, one of the same is continued,
and a build without one of its artifacts leaves it as it is.  A release is made only from a valid
receipt.

* `recordBuild`, `validateBuildReceipt` — the two functions; only the first one writes the file.
* `valid_receipt_clean_build` — a valid receipt proves a clean build of the commit.
-/

namespace RustWorkbench.Tools

open Assoc Assoc.Map Checks Runs

/-- The parts of an absolute path. -/
abbrev Path := List String

/-- What the script reads of the machine: the output of git, the clock and the disk, whose files are
found by the paths without links. -/
structure Machine where
  commit : String
  changes : String
  epoch : Nat
  resolve : Path → Path
  files : Path → Option (List UInt8)
  resolve_resolve : ∀ path, resolve (resolve path) = resolve path

/-- Opening a file follows the links. -/
def Machine.read (machine : Machine) (path : Path) : Option (List UInt8) :=
  machine.files (machine.resolve path)

def Machine.dirty (machine : Machine) : Bool := machine.changes != ""

/-- An artifact of the receipt, by its path below the root. -/
structure Artifact where
  path : Path
  sha256 : String
deriving DecidableEq

/-- A keyword argument of a build, as a JSON value; all but the Booleans by their text. -/
inductive Detail
  | flag (value : Bool)
  | other (text : String)
deriving DecidableEq

structure Component where
  artifacts : List Artifact
  details : Map String Detail
deriving DecidableEq

/-- The JSON document of the receipt, as it is written. -/
structure Receipt where
  formatVersion : Nat
  sourceCommit : String
  sourceDirty : Bool
  builtAtEpoch : Nat
  components : Map String Component
deriving DecidableEq

/-- A call of `record_build`, with the machine it runs on. -/
structure Call where
  machine : Machine
  component : String
  artifacts : List Path
  details : Map String Detail

def pathText (path : Path) : String := "/" ++ "/".intercalate path

section Script

variable (root : Path) (sha256 : List UInt8 → String)

/-- `Path.relative_to` fails for a path that is not below the root. -/
def recordArtifact (machine : Machine) (artifact : Path) : Except String Artifact :=
  match machine.read artifact with
  | none => .error ("build did not produce required artifact: " ++ pathText artifact)
  | some content =>
    if root <+: artifact then .ok ⟨artifact.drop root.length, sha256 content⟩
    else .error (pathText artifact ++ " is not in the subpath of " ++ pathText root)

def Call.records (call : Call) : Except String (List Artifact) :=
  call.artifacts.mapM (recordArtifact root sha256 call.machine)

/-- The components of the receipt that a build continues. -/
def continued (commit : String) (dirty : Bool) : Option Receipt → Map String Component
  | some loaded =>
    if loaded.sourceCommit = commit ∧ loaded.sourceDirty = dirty then loaded.components else []
  | none => []

/-- The receipt that the call writes. -/
def recordBuild (file : Option Receipt) (call : Call) : Except String Receipt := do
  let components := continued call.machine.commit call.machine.dirty file
  let artifacts ← call.records root sha256
  return ⟨1, call.machine.commit, call.machine.dirty, call.machine.epoch,
    components.insert call.component ⟨artifacts, call.details⟩⟩

/-- A call that fails does not get to write. -/
def receiptAfterCall (file : Option Receipt) (call : Call) : Option Receipt :=
  match recordBuild root sha256 file call with
  | .ok receipt => some receipt
  | .error _ => file

/-- The receipt after a sequence of calls. -/
def receiptAfter (calls : List Call) : Option Receipt :=
  calls.foldl (receiptAfterCall root sha256) none

def validateArtifact (machine : Machine) (component : String) (artifact : Artifact) : Check := do
  let path := machine.resolve (root ++ artifact.path)
  ensure (path != root && root.isPrefixOf path)
    ("unsafe " ++ component ++ " artifact path in build receipt: " ++ pathText path)
  ensure ((machine.read path).map sha256 == some artifact.sha256)
    ("stale or modified " ++ component ++ " artifact: " ++ pathText path
      ++ "; rebuild without --skip-build")

def validateComponent (machine : Machine) (receipt : Receipt) (component : String) : Check :=
  match receipt.components.get? component with
  | none => .error ("release build receipt is missing " ++ component)
  | some record => do
    ensure (component != "editor" || record.details.get? "portable" == some (.flag true))
      "release editor receipt is not marked portable"
    ensure (!record.artifacts.isEmpty)
      ("release build receipt has no " ++ component ++ " artifacts")
    forEach record.artifacts (validateArtifact root sha256 machine component)

def validateBuildReceipt (machine : Machine) : Option Receipt → Check
  | none => .error "missing or invalid release build receipt; rebuild without --skip-build"
  | some receipt => do
    ensure (receipt.sourceCommit == machine.commit && !receipt.sourceDirty)
      ("release artifacts were not built from the current clean commit; "
        ++ "rebuild without --skip-build")
    forEach ["compiler", "editor"] (validateComponent root sha256 machine receipt)

/-! ## What the receipt says -/

/-- The call is a successful build of the component. -/
def Builds (component : String) (call : Call) : Prop :=
  call.component = component ∧ ∃ artifacts, call.records root sha256 = .ok artifacts

/-- The call recorded this at this commit and in this state of the tree. -/
structure Recorded (component commit : String) (dirty : Bool) (artifacts : List Artifact)
    (call : Call) : Prop where
  component : call.component = component
  commit : call.machine.commit = commit
  dirty : call.machine.dirty = dirty
  artifacts : call.records root sha256 = .ok artifacts

variable {root sha256}

theorem receiptAfterCall_of_error {file : Option Receipt} {call : Call} {message : String}
    (h : call.records root sha256 = .error message) :
    receiptAfterCall root sha256 file call = file := by
  rw [receiptAfterCall, recordBuild, h]
  rfl

theorem receiptAfterCall_of_ok {file : Option Receipt} {call : Call} {artifacts : List Artifact}
    (h : call.records root sha256 = .ok artifacts) :
    receiptAfterCall root sha256 file call
      = some ⟨1, call.machine.commit, call.machine.dirty, call.machine.epoch,
          (continued call.machine.commit call.machine.dirty file).insert call.component
            ⟨artifacts, call.details⟩⟩ := by
  rw [receiptAfterCall, recordBuild, h]
  rfl

/-- What is continued comes from a receipt of the same commit and the same state. -/
theorem get?_continued {commit : String} {dirty : Bool} {file : Option Receipt} {component : String}
    {record : Component} (h : (continued commit dirty file).get? component = some record) :
    ∃ loaded, file = some loaded ∧ loaded.sourceCommit = commit ∧ loaded.sourceDirty = dirty ∧
      loaded.components.get? component = some record := by
  cases file with
  | none => cases h
  | some loaded =>
    rw [continued] at h
    split at h
    · next hsame => exact ⟨loaded, rfl, hsame.1, hsame.2, h⟩
    · cases h

/-- **What a receipt says of a component is what its latest build recorded**, at the commit and in
the state of the receipt. -/
theorem receipt_of_calls {calls : List Call} : ∀ {receipt : Receipt},
    receiptAfter root sha256 calls = some receipt → ∀ {component : String} {record : Component},
      receipt.components.get? component = some record →
        LastSince (Recorded root sha256 component receipt.sourceCommit receipt.sourceDirty
          record.artifacts) (Builds root sha256 component) calls := by
  induction calls using List.reverseRecOn with
  | nil => exact fun h => nomatch h
  | append_singleton calls call ih =>
    intro receipt hreceipt component record hrecord
    rw [receiptAfter, List.foldl_concat] at hreceipt
    cases hrecords : call.records root sha256 with
    | error message =>
      rw [receiptAfterCall_of_error hrecords] at hreceipt
      refine (ih hreceipt hrecord).snoc ?_
      rintro ⟨-, artifacts, hok⟩
      cases hrecords.symm.trans hok
    | ok artifacts =>
      rw [receiptAfterCall_of_ok hrecords] at hreceipt
      obtain rfl := Option.some.inj hreceipt
      rw [get?_insert] at hrecord
      split at hrecord
      · next hcomponent =>
        obtain rfl := Option.some.inj hrecord
        exact lastSince_last calls ⟨hcomponent.symm, rfl, rfl, hrecords⟩
      · next hother =>
        obtain ⟨loaded, hfile, hcommit, hdirty, hloaded⟩ := get?_continued hrecord
        have hlast := ih hfile hloaded
        rw [hcommit, hdirty] at hlast
        exact hlast.snoc fun hbuilds => hother hbuilds.1.symm

/-! ## What a valid receipt proves -/

/-- The record of an artifact has the digest of its content, and its path leads back to it. -/
theorem recordArtifact_ok {machine : Machine} {path : Path} {artifact : Artifact}
    (h : recordArtifact root sha256 machine path = .ok artifact) :
    ∃ content, machine.read path = some content ∧ artifact.sha256 = sha256 content ∧
      root ++ artifact.path = path := by
  rw [recordArtifact] at h
  split at h
  · cases h
  · next content hread =>
    split at h
    · next hbelow =>
      cases h
      exact ⟨content, hread, rfl, List.prefix_iff_eq_append.mp hbelow⟩
    · cases h

theorem read_of_validateArtifact {machine : Machine} {component : String} {artifact : Artifact}
    (h : validateArtifact root sha256 machine component artifact = .ok ()) :
    (machine.read (root ++ artifact.path)).map sha256 = some artifact.sha256 := by
  rw [validateArtifact, seq_ok_iff, ensure_ok_iff, ensure_ok_iff, beq_iff_eq, Machine.read,
    machine.resolve_resolve] at h
  exact h.2

/-- **A valid receipt proves a clean build of this commit.**  Whatever was built before and in
whichever states of the tree, the latest build of the compiler and that of the editor were made at
the commit of the machine and with a clean tree, and the artifacts they recorded are still on the
disk as they were. -/
theorem valid_receipt_clean_build (hsha256 : Function.Injective sha256) (machine : Machine)
    (calls : List Call)
    (hvalid : validateBuildReceipt root sha256 machine (receiptAfter root sha256 calls) = .ok ()) :
    ∀ component ∈ ["compiler", "editor"],
      LastSince (fun call => Builds root sha256 component call ∧
          call.machine.commit = machine.commit ∧ call.machine.changes = "" ∧ call.artifacts ≠ [] ∧
          ∀ artifact ∈ call.artifacts, ∃ content,
            call.machine.read artifact = some content ∧ machine.read artifact = some content)
        (Builds root sha256 component) calls := by
  intro component hcomponent
  cases hfile : receiptAfter root sha256 calls with
  | none => rw [hfile] at hvalid; cases hvalid
  | some receipt =>
    rw [hfile, validateBuildReceipt, seq_ok_iff, ensure_ok_iff, forEach_ok_iff, Bool.and_eq_true,
      beq_iff_eq, Bool.not_eq_true'] at hvalid
    obtain ⟨⟨hcommit, hclean⟩, hcomponents⟩ := hvalid
    have hvalidated := hcomponents component hcomponent
    rw [validateComponent] at hvalidated
    split at hvalidated
    · cases hvalidated
    · next record hrecord =>
      rw [seq_ok_iff, seq_ok_iff, forEach_ok_iff, ensure_ok_iff, ensure_ok_iff] at hvalidated
      obtain ⟨-, hnonempty, hartifacts⟩ := hvalidated
      obtain ⟨before, call, after, hcalls, hcall, hlater⟩ := receipt_of_calls hfile hrecord
      refine ⟨before, call, after, hcalls, ?_, hlater⟩
      refine ⟨⟨hcall.component, _, hcall.artifacts⟩, hcall.commit.trans hcommit, ?_, ?_, ?_⟩
      · have hdirty := hcall.dirty.trans hclean
        rw [Machine.dirty] at hdirty
        simpa using hdirty
      · intro hnil
        have hrecords := hcall.artifacts
        rw [Call.records, hnil, List.mapM_nil] at hrecords
        rw [← Except.ok.inj hrecords] at hnonempty
        cases hnonempty
      · intro path hpath
        obtain ⟨artifact, hartifact, hrecorded⟩ := (Search.mem_mapM_ok hcall.artifacts).2 _ hpath
        obtain ⟨content, hread, hdigest, rfl⟩ := recordArtifact_ok hrecorded
        obtain ⟨content', hread', hdigest'⟩ :=
          Option.map_eq_some_iff.mp (read_of_validateArtifact (hartifacts artifact hartifact))
        obtain rfl := hsha256 (hdigest'.trans hdigest)
        exact ⟨content', hread, hread'⟩

end Script

/-- A digest that is injective. -/
def plainDigest (content : List UInt8) : String := String.ofList (content.map Char.ofUInt8)

theorem plainDigest_injective : Function.Injective plainDigest := by
  intro content content' h
  refine List.map_injective_iff.mpr ?_ (String.ofList_injective h)
  intro byte byte' hbyte
  have hval : byte.toUInt32 = byte'.toUInt32 := congrArg Char.val hbyte
  exact UInt8.toUInt32_inj.mp hval

/-- A clean tree at a commit with a file of one byte at every path. -/
def releaseMachine (commit : String) : Machine where
  commit := commit
  changes := ""
  epoch := 0
  resolve := id
  files := fun _ => some [7]
  resolve_resolve := fun _ => rfl

/-- The two builds of a release, after a build at another commit. -/
def releaseCalls : List Call :=
  [⟨releaseMachine "b", "editor", [["w", "zed"]], []⟩,
    ⟨releaseMachine "c", "compiler", [["w", "rustc"]], []⟩,
    ⟨releaseMachine "c", "editor", [["w", "zed"]], [("portable", .flag true)]⟩]

theorem releaseCalls_clean_builds :
    LastSince (fun call => Builds ["w"] plainDigest "editor" call ∧
        call.machine.commit = "c" ∧ call.machine.changes = "" ∧ call.artifacts ≠ [] ∧
        ∀ artifact ∈ call.artifacts, ∃ content,
          call.machine.read artifact = some content ∧
            (releaseMachine "c").read artifact = some content)
      (Builds ["w"] plainDigest "editor") releaseCalls :=
  valid_receipt_clean_build plainDigest_injective (releaseMachine "c") releaseCalls
    (by decide +kernel) "editor" (by decide)

end RustWorkbench.Tools
