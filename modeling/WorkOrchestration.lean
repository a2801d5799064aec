import WorkOrchestration.Audit.ChainVerifies
import WorkOrchestration.Audit.QuotaRuns
import WorkOrchestration.Commands.CheckedSequence
import WorkOrchestration.Native.ActivationAudit
import WorkOrchestration.Native.ClaimReceipts
import WorkOrchestration.Native.ControlRuns
import WorkOrchestration.Native.DeadlineScheduling
import WorkOrchestration.Native.DifferenceReplay
import WorkOrchestration.Native.ExclusiveTiming
import WorkOrchestration.Native.InterruptOnce
import WorkOrchestration.Native.LinearLifecycles
import WorkOrchestration.Native.LiveLedgerCallers
import WorkOrchestration.Native.MaintenanceOnce
import WorkOrchestration.Native.NoStranded
import WorkOrchestration.Native.PoolReporting
import WorkOrchestration.Native.PoolWideFaults
import WorkOrchestration.Native.PrecommitExclusivity
import WorkOrchestration.Native.PrecommitReceipts
import WorkOrchestration.Native.ProtectedRefinements
import WorkOrchestration.Native.ReadinessAgreement
import WorkOrchestration.Native.ReceiptConsumption
import WorkOrchestration.Native.ReplanningBounds
import WorkOrchestration.Native.ReceiptVerdicts
import WorkOrchestration.Native.RetryEligibility
import WorkOrchestration.Native.SafeSets
import WorkOrchestration.Native.SchedulabilityVerdict
import WorkOrchestration.Native.SessionReader
import WorkOrchestration.Native.SessionUsage
import WorkOrchestration.Native.StopDiscipline
import WorkOrchestration.Native.StopMerging
import WorkOrchestration.Native.SupervisionStops
import WorkOrchestration.Native.TokenTelemetry
import WorkOrchestration.Native.TurnDispatchChains
import WorkOrchestration.Native.UncommittedLeases
import WorkOrchestration.Returns.CriticReadBack
import WorkOrchestration.Returns.MaskedSections
import WorkOrchestration.Routing.RouteAgreement
import WorkOrchestration.Workgraph.Continuation
import WorkOrchestration.Workgraph.MarkdownRoundTrip
import WorkOrchestration.Workspace.PathScopes
import WorkOrchestration.Workspace.WriteScopesExclusive
