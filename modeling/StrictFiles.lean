import StrictFiles.Distinct
import StrictFiles.Text.CharClass
import StrictFiles.Text.Quoted
import StrictFiles.Text.Utf8
import StrictFiles.Path.Basic
import StrictFiles.Path.Order
import StrictFiles.Path.Relative
import StrictFiles.Vendor
import StrictFiles.Document.Binary64
import StrictFiles.Document.Printer
import StrictFiles.Document.Reader
import StrictFiles.Document.Token
import StrictFiles.Document.Value
import StrictFiles.Tree.Basic
import StrictFiles.Tree.Edit
import StrictFiles.Tree.Execution
import StrictFiles.Tree.Lookup
import StrictFiles.Tree.SystemError
import StrictFiles.Search
import StrictFiles.Environment
import StrictFiles.Config.Load
import StrictFiles.Config.Update
import StrictFiles.Discovery.Files
import StrictFiles.Discovery.Glob
import StrictFiles.Check.FrontEnd
import StrictFiles.Check.Partitions
import StrictFiles.Check.Report
import StrictFiles.Check.Run
import StrictFiles.Check.RunError
import StrictFiles.Check.Verdicts
import StrictFiles.Compiler.Offset
import StrictFiles.Compiler.Output
import StrictFiles.Compiler.Tsc
import StrictFiles.CommandLine.Arguments
import StrictFiles.CommandLine.Help
import StrictFiles.CommandLine.Outcome
import StrictFiles.CommandLine.Surroundings
import StrictFiles.Main
import StrictFiles.Proofs.DistinctItems
import StrictFiles.Proofs.PathSpelling
import StrictFiles.Proofs.ReplacedContent
import StrictFiles.Proofs.TreeOutline
import StrictFiles.Proofs.ConfigGrowth
import StrictFiles.Proofs.LoadedConfig
import StrictFiles.Proofs.Attribution
import StrictFiles.Proofs.FourParts
import StrictFiles.Proofs.FailedRun
import StrictFiles.Proofs.Promotion
import StrictFiles.Proofs.FallibleSteps
import StrictFiles.Proofs.PreparedRun
import StrictFiles.Proofs.SettledRun
import StrictFiles.Proofs.ReachedPlace
import StrictFiles.Proofs.AtomicUpdate
import StrictFiles.Proofs.WrittenLast
import StrictFiles.Proofs.DocumentValues
import StrictFiles.Proofs.PrintedTokens
import StrictFiles.Proofs.PrintedDocument
import StrictFiles.Proofs.ReadDocument
import StrictFiles.Proofs.SoundReading
import StrictFiles.Proofs.ReloadedConfig
import StrictFiles.Proofs.ExtendedDocument
import StrictFiles.Proofs.RunHistory
import StrictFiles.Proofs.AnnouncedEntries
import StrictFiles.Proofs.AskedOnce
import StrictFiles.Proofs.TemporaryProject
import StrictFiles.Proofs.WorkingDirectory
import StrictFiles.Proofs.StagedResolution
import StrictFiles.Proofs.ShortestWay
import StrictFiles.Proofs.AskedProject
import StrictFiles.Proofs.MergedEntries
import StrictFiles.Proofs.ExactVerdicts
import StrictFiles.Proofs.LocatedLines
import StrictFiles.Proofs.QuotedLocations
import StrictFiles.Proofs.OutputLines
import StrictFiles.Proofs.RenderedDiagnostics
import StrictFiles.Proofs.TextPositions
import StrictFiles.Proofs.LineOffsets
import StrictFiles.Proofs.JoinedOutput
import StrictFiles.Proofs.ResolvedDiagnostics
import StrictFiles.Proofs.AcceptedConfig
import StrictFiles.Proofs.VerboseListing
import StrictFiles.Proofs.BrokenFiles
import StrictFiles.Proofs.SortedPaths
import StrictFiles.Proofs.ExtensionPattern
import StrictFiles.Proofs.SourceFiles
import StrictFiles.Proofs.OrderedOffsets
import StrictFiles.Proofs.LineSplits
import StrictFiles.Proofs.ShownPaths
import StrictFiles.Proofs.ColoredReport
import StrictFiles.Proofs.DirectoriesAbove
import StrictFiles.Proofs.DirectoryBlocks
import StrictFiles.Proofs.UpwardSearch
