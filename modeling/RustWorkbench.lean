import RustWorkbench.Compiler.LiveRecords
import RustWorkbench.Bridge.AcceptGuide
import RustWorkbench.Bridge.RepairIds
import RustWorkbench.Analyzer.ClearComplete
import RustWorkbench.Analyzer.CommitOrder
import RustWorkbench.Analyzer.RejectedUse
import RustWorkbench.Panel.LoanReplay
import RustWorkbench.Compiler.PlaceOwners
import RustWorkbench.Bridge.Malformed
import RustWorkbench.Installer.Lock
import RustWorkbench.Panel.PreviewedText
import RustWorkbench.Compiler.VariantDirectories
import RustWorkbench.Panel.Outcome
import RustWorkbench.Compiler.AutofixRounds
import RustWorkbench.Analyzer.ProblemFacts
import RustWorkbench.Analyzer.MemoryPicture
import RustWorkbench.Panel.KeptFacts
import RustWorkbench.Analyzer.GuideComplete
import RustWorkbench.Installer.Versions
import RustWorkbench.Analyzer.ObservedErrors
import RustWorkbench.Panel.BeginnerPath
import RustWorkbench.Compiler.DerivedClones
import RustWorkbench.Compiler.InitialStates
import RustWorkbench.Panel.InnermostProblem
import RustWorkbench.Bridge.EventNames
import RustWorkbench.Panel.SceneLayout
import RustWorkbench.Tools.BuildReceipt
import RustWorkbench.Bridge.MechanicsHints
import RustWorkbench.Tools.Redaction
import RustWorkbench.Compiler.SilentCaps
