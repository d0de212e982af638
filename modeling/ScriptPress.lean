import ScriptPress.Main
import ScriptPress.Interpreter.Scenario
import ScriptPress.Page.Recorder
import ScriptPress.Proofs.StoreContent
import ScriptPress.Proofs.Journal
import ScriptPress.Proofs.Work
import ScriptPress.Proofs.DeliveryCourse
import ScriptPress.Proofs.ConversionCourse
import ScriptPress.Proofs.FatalError
import ScriptPress.Proofs.Leftover
import ScriptPress.Proofs.AutoInvocation
import ScriptPress.Proofs.Dialogue
import ScriptPress.Proofs.RawLine
import ScriptPress.Proofs.RepairedLine
import ScriptPress.Proofs.LocalRepair
import ScriptPress.Proofs.WrappedText
import ScriptPress.Proofs.DrawnText
import ScriptPress.Proofs.ErrorReport
import ScriptPress.Proofs.ScriptLine
import ScriptPress.Proofs.DiagnosisLine
import ScriptPress.Proofs.Rebase
import ScriptPress.Proofs.MemoryStore
import ScriptPress.Proofs.AlteredFile
import ScriptPress.Proofs.FreshStart
import ScriptPress.Proofs.ContentStream
import ScriptPress.Proofs.LaidLine
import ScriptPress.Proofs.DrawingRun
import ScriptPress.Proofs.ConsistentOutput
import ScriptPress.Proofs.FileStream
import ScriptPress.Proofs.FirstDocument
import ScriptPress.Proofs.CheckAgreement
import ScriptPress.Proofs.Opening
import ScriptPress.Proofs.CapturedOutput
import ScriptPress.Proofs.Narration
import ScriptPress.Proofs.DroppedFile
import ScriptPress.Proofs.OwnChange
import ScriptPress.Proofs.DefinedFunction
import ScriptPress.Proofs.FunctionTour
import ScriptPress.Proofs.CallOrder
import ScriptPress.Proofs.JsonText
import ScriptPress.Proofs.RecordText
import ScriptPress.Proofs.MirroredFolder
import ScriptPress.Proofs.DocumentName
import ScriptPress.Proofs.LineBreak
import ScriptPress.Proofs.QuoteScan
import ScriptPress.Proofs.RepairScan
import ScriptPress.Proofs.ClosedLiteral
import ScriptPress.Proofs.HeaderColon
import ScriptPress.Proofs.KeptText
import ScriptPress.Proofs.TrailingComment
import ScriptPress.Proofs.MissingDelimiter
import ScriptPress.Proofs.LiteralContent
import ScriptPress.Proofs.CharClass
import ScriptPress.Proofs.NextRepair
import ScriptPress.Proofs.SettledRepair
import ScriptPress.Proofs.DigitRun
import ScriptPress.Proofs.SizeCall
import ScriptPress.Proofs.SizeKind
import ScriptPress.Proofs.SettledSize
import ScriptPress.Proofs.MarkerRemoval
import ScriptPress.Proofs.LeftMarker
import ScriptPress.Proofs.NumeralList
import ScriptPress.Proofs.SizeMark
import ScriptPress.Proofs.Respacing
import ScriptPress.Proofs.SizeReach
import ScriptPress.Proofs.OneCall
import ScriptPress.Proofs.SizeLiteral
import ScriptPress.Proofs.LossyCell
import ScriptPress.Proofs.RestOfLine
import ScriptPress.Proofs.RefusedCell
import ScriptPress.Proofs.TypesetOutput
import ScriptPress.Proofs.StorageFault
import ScriptPress.Proofs.FolderTree
import ScriptPress.Proofs.PathName
import ScriptPress.Proofs.SavedFile
import ScriptPress.Proofs.RemovedFile
import ScriptPress.Proofs.TrailingGap
import ScriptPress.Proofs.ReportLine
import ScriptPress.Proofs.OpenDelimiter
import ScriptPress.Proofs.LastChoice
import ScriptPress.Proofs.ReportedName
import ScriptPress.Proofs.CallDeadline
import ScriptPress.Proofs.NestedCapture
