import Overseer.GeneratedScript
import Overseer.LogLevel
import Overseer.Main
import Overseer.Proofs.Agent.ExitCode
import Overseer.Proofs.Agent.FailedRun
import Overseer.Proofs.Recovery.Pass
import Overseer.Proofs.Report.Conservation
import Overseer.Proofs.Supervisor.Order
import Overseer.Proofs.Supervisor.FirstDecision
import Overseer.Proofs.Supervisor.Reports
import Overseer.Proofs.TaskLog.Classification
import Overseer.Proofs.TaskLog.Interleaving
import Overseer.Proofs.TaskLog.Recorded
import Overseer.Proofs.TaskLog.Torn
import Overseer.Proofs.Invocation.Kill
import Overseer.Proofs.Report.Spool
import Overseer.Proofs.Agent.ProcessGroups
import Overseer.Proofs.Agent.Launch
import Overseer.Proofs.Agent.Transparency
import Overseer.Proofs.Invocation.Exec
import Overseer.Proofs.Text.Hexadecimal
import Overseer.Proofs.Seal.Acceptance
import Overseer.Proofs.Seal.Flushing
import Overseer.Proofs.Agent.RootRun
import Overseer.Proofs.Agent.CaptureFiles
import Overseer.Proofs.Seal.Corruption
import Overseer.Proofs.Capture.Sinks
import Overseer.Proofs.Settings.Reading
import Overseer.Proofs.Settings.Validation
import Overseer.Proofs.Locate.Program
