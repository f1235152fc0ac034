import LintDaemon.Main
import LintDaemon.Proofs.Daemon.History
import LintDaemon.Proofs.Client.Refinement
import LintDaemon.Proofs.Report.Blocks
import LintDaemon.Proofs.Report.Echoes
import LintDaemon.Proofs.Protocol.Grammar
import LintDaemon.Proofs.Daemon.Replies
import LintDaemon.Proofs.Daemon.CompilerInUse
import LintDaemon.Proofs.Daemon.Endings
import LintDaemon.Proofs.CommandLine.ReplyText
import LintDaemon.Proofs.Text.Prefixes
import LintDaemon.Proofs.Daemon.Truncation
import LintDaemon.Proofs.Host.Changes
import LintDaemon.Proofs.Toolchain.WorkDirectory
import LintDaemon.Proofs.Host.Lookups
import LintDaemon.Proofs.Toolchain.Runs
import LintDaemon.Proofs.Toolchain.FailedRuns
import LintDaemon.Proofs.Toolchain.SamePaths
import LintDaemon.Proofs.Settings.Accepted
import LintDaemon.Proofs.Daemon.Starting
import LintDaemon.Proofs.Daemon.ReadTimeout
import LintDaemon.Proofs.Daemon.Stopping
import LintDaemon.Proofs.Protocol.SentAgain
import LintDaemon.Proofs.Toolchain.UnitPaths
import LintDaemon.Proofs.Host.Making
import LintDaemon.Proofs.Toolchain.Preparing
import LintDaemon.Proofs.Toolchain.ReportedFailures
import LintDaemon.Proofs.Text.Erasing
import LintDaemon.Proofs.Toolchain.EndToEnd
import LintDaemon.Proofs.Report.Continued
import LintDaemon.Proofs.Text.LastLine
import LintDaemon.Proofs.Toolchain.TwoOutputs
import LintDaemon.Proofs.Results
import LintDaemon.Proofs.Text.Digits
import LintDaemon.Proofs.Text.StretchNames
import LintDaemon.Proofs.Text.LetterCase
import LintDaemon.Proofs.Terminal.TaggedText
import LintDaemon.Proofs.Display.LiteralMessages
import LintDaemon.Proofs.CommandLine.LintStatus
import LintDaemon.Proofs.CommandLine.SettingsErrors
import LintDaemon.Proofs.Number.Written
import LintDaemon.Proofs.Settings.Precedence
import LintDaemon.Proofs.Report.Wire
import LintDaemon.Proofs.Toolchain.LookupOrder
import LintDaemon.Proofs.Settings.VariablesInFile
