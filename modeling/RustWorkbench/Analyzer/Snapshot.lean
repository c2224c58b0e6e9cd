import RustWorkbench.Analyzer.Text
import RustWorkbench.Analyzer.Types
import RustWorkbench.Wire.Model

/-!
# The snapshot a request reads

A request handler sees one immutable snapshot of the analyzer: the stored facts, and the answers
of the rest of rust-analyzer (virtual file system, line tables, syntax trees, resolved calls,
assists).  Those answers are fields: a snapshot may hold any of them, within the invariants the
structures carry.  Cancellation of a request is not modelled, nor is a failing conversion of an
assist into a code action.
-/

namespace RustWorkbench.Analyzer

/-- `TextRange`: byte offsets in order. -/
structure TextRange where
  start : Nat
  stop : Nat
  le : start ≤ stop
  deriving DecidableEq

/-- A line table.  `offset` is `from_proto::offset`: it fails for a line the file does not have
and moves a column past the end of the line to its end. -/
structure LineIndex where
  offset : Position → Except String Nat
  position : Nat → Position
  position_mono : ∀ {m n : Nat}, m ≤ n → position m ≤ position n

namespace LineIndex

/-- `from_proto::text_range`. -/
def textRange (lineIndex : LineIndex) (range : Range) : Except String TextRange :=
  match lineIndex.offset range.start with
  | .error message => .error message
  | .ok start =>
    match lineIndex.offset range.stop with
    | .error message => .error message
    | .ok stop => if h : start ≤ stop then .ok ⟨start, stop, h⟩ else .error "Invalid Range"

/-- `to_proto::range`. -/
def range (lineIndex : LineIndex) (range : TextRange) : Range :=
  ⟨lineIndex.position range.start, lineIndex.position range.stop⟩

theorem range_wellFormed (lineIndex : LineIndex) (range : TextRange) :
    (lineIndex.range range).WellFormed :=
  lineIndex.position_mono range.le

end LineIndex

/-! ## Syntax -/

/-- The expressions that `ownership_root_place` looks through. -/
inductive PeeledKind
  | refExpr | methodCall | index | paren | tryExpr | await | cast | prefixExpr
  deriving DecidableEq, Repr

/-- An initializer, as far as `ownership_root_place` reads it. -/
inductive Expr
  | place (text : String) (range : TextRange)
  | peeled (kind : PeeledKind) (text : String) (range : TextRange) (inner : Expr)
  | incomplete (kind : PeeledKind) (text : String) (range : TextRange)

namespace Expr

def text : Expr → String
  | place text _ | peeled _ text _ _ | incomplete _ text _ => text

def range : Expr → TextRange
  | place _ range | peeled _ _ range _ | incomplete _ _ range => range

end Expr

/-- `ownership_root_place`. -/
def ownershipRootPlace : Expr → Option Expr
  | .place text range => some (.place text range)
  | .peeled _ _ _ inner => ownershipRootPlace inner
  | .incomplete .. => none

/-- A `let` statement: the named identifier patterns below its pattern with the range of the
pattern, the first identifier pattern (which may lack a name) and the initializer. -/
structure LetStatement where
  start : Nat
  identifiers : List (String × TextRange)
  first : Option (Option String × TextRange)
  initializer : Option Expr

inductive SelfParamKind
  | owned | ref | mutRef
  deriving DecidableEq, Repr

/-- What the handlers ask a syntax tree.  An offset stands for the token right of it. -/
structure SourceFile where
  /-- All named identifier patterns with the range of the name, in document order. -/
  identPats : List (String × TextRange)
  /-- The innermost `let` statement around an offset. -/
  letAt : Nat → Option LetStatement
  /-- The `let` statements of the innermost function or closure around an offset. -/
  scopeAt : Nat → Option (List LetStatement)
  /-- The text of the receiver of the method call around an offset with the given range. -/
  receiverAt : Nat → TextRange → Option String
  /-- The `self` parameter of the innermost function around an offset. -/
  selfParamAt : Nat → Option SelfParamKind
  /-- Kind, label and range of the named items around an offset, innermost first. -/
  itemsAt : Nat → List (String × String × TextRange)
  /-- The name of the innermost function around an offset. -/
  functionNameAt : Nat → Option TextRange

/-! ## Resolved calls -/

structure OwnershipCallReceiver where
  expression : String
  range : TextRange
  transfer : String
  after : String
  provenance : String

structure OwnershipCallArgument where
  index : Nat
  expression : String
  range : TextRange
  parameterType : String
  transfer : String
  after : String
  provenance : String

structure OwnershipCallInsight where
  range : TextRange
  name : String
  signature : String
  receiverType : Option String
  requiredAccess : String
  availableAccess : String
  whyRequired : String
  documentation : Option String
  effects : List String
  effectFacts : List OwnershipOperationEffect
  callChain : List String
  alternatives : List OwnershipOperationAlternative
  provenance : String
  truncated : Bool
  summary : String
  ownershipRelevant : Bool
  receiverFlow : Option OwnershipCallReceiver
  argumentFlows : List OwnershipCallArgument
  returnFlow : OwnershipOperationReturn

/-- A caller that `incoming_calls` finds: its name and the calls in it. -/
structure IncomingCall where
  name : String
  ranges : List (FileId × TextRange)

/-! ## The snapshot -/

structure Snapshot where
  checkFixes : CheckFixes
  ownershipEvents : OwnershipEvents
  ownershipDiagnostics : OwnershipDiagnostics
  ownershipTutorialModels : OwnershipTutorialModels
  /-- The file of a URL: an error for a URL that is no file or not in the VFS, `none` for an
  excluded file. -/
  urlToFileId : String → Except String (Option FileId)
  /-- The last component of the path of a URL, for a URL that is a file path. -/
  urlFileName : String → Option String
  fileText : FileId → String
  fileLineIndex : FileId → LineIndex
  parse : FileId → Option SourceFile
  /-- `ownership_call_insights_for_positions`, for offsets of one file. -/
  callInsights : FileId → List Nat → List OwnershipCallInsight
  /-- The label of each assist at a range, with the code action it converts to. -/
  assists : FileId → TextRange → List (String × CodeAction)
  /-- The file belongs to a local source root. -/
  isLocal : FileId → Bool
  /-- `to_proto::url`. -/
  fileUrl : FileId → String
  /-- The callers of the function named at an offset. -/
  incomingCalls : FileId → Nat → Option (List IncomingCall)

/-- `from_proto::file_range`; `none` for an excluded file. -/
def Snapshot.fileRange (snap : Snapshot) (uri : String) (range : Range) :
    Except String (Option (FileId × TextRange)) :=
  match snap.urlToFileId uri with
  | .error message => .error message
  | .ok none => .ok none
  | .ok (some fileId) =>
    match (snap.fileLineIndex fileId).textRange range with
    | .error message => .error message
    | .ok textRange => .ok (some (fileId, textRange))

end RustWorkbench.Analyzer
