import NocAgent.Cases.Acknowledgement
import NocAgent.Cases.ActiveFingerprint
import NocAgent.Cases.AliasTable
import NocAgent.Cases.ApprovalScope
import NocAgent.Cases.ArtifactReviews
import NocAgent.Cases.Attention
import NocAgent.Cases.AttentionLease
import NocAgent.Cases.AttentionQuery
import NocAgent.Cases.AttentionSpacing
import NocAgent.Cases.Cancellation
import NocAgent.Cases.CaseCards
import NocAgent.Cases.CaseTraffic
import NocAgent.Cases.ChildCounts
import NocAgent.Cases.CleanEvidence
import NocAgent.Cases.ConsoleRequests
import NocAgent.Cases.Correlation
import NocAgent.Cases.DecisionRoutes
import NocAgent.Cases.FiringStatus
import NocAgent.Cases.GraphMemory
import NocAgent.Cases.HandoffAtomicity
import NocAgent.Cases.HandoffDelivery
import NocAgent.Cases.HandoffIndex
import NocAgent.Cases.HandoffLedger
import NocAgent.Cases.HandoffStatus
import NocAgent.Cases.IndependentMark
import NocAgent.Cases.Investigation
import NocAgent.Cases.InvestigationClaims
import NocAgent.Cases.LateGraphWrites
import NocAgent.Cases.Lhp
import NocAgent.Cases.LhpConstructors
import NocAgent.Cases.LhpModels
import NocAgent.Cases.LinkChains
import NocAgent.Cases.LinkedIdentities
import NocAgent.Cases.Linking
import NocAgent.Cases.LoopSignatures
import NocAgent.Cases.LostHandoffs
import NocAgent.Cases.Membership
import NocAgent.Cases.MergedAlerts
import NocAgent.Cases.MetaCaseAtomicity
import NocAgent.Cases.Models
import NocAgent.Cases.Notifications
import NocAgent.Cases.ObjectiveOwners
import NocAgent.Cases.Observe
import NocAgent.Cases.ObserveSpec
import NocAgent.Cases.OperatorDecisions
import NocAgent.Cases.Outbox
import NocAgent.Cases.OutboxFencing
import NocAgent.Cases.PassCounts
import NocAgent.Cases.PayloadBounds
import NocAgent.Cases.Reachable
import NocAgent.Cases.ReactivePrimary
import NocAgent.Cases.RedactedKeys
import NocAgent.Cases.RejoinedSecrets
import NocAgent.Cases.RepeatedRequests
import NocAgent.Cases.ReportEmbeds
import NocAgent.Cases.ReportRequests
import NocAgent.Cases.ReportSpool
import NocAgent.Cases.ResultRequests
import NocAgent.Cases.RetainedReports
import NocAgent.Cases.RunSteps
import NocAgent.Cases.Sanitizers
import NocAgent.Cases.Service
import NocAgent.Cases.SettledFields
import NocAgent.Cases.StaleVerdict
import NocAgent.Cases.Store
import NocAgent.Cases.StoredRecords
import NocAgent.Cases.Verifier
import NocAgent.Cases.VerifierRuns
import NocAgent.Graph.Attribution
import NocAgent.Graph.Evidence
import NocAgent.Graph.Execution
import NocAgent.Graph.StandingGrant
import NocAgent.Graph.State
import NocAgent.Graph.Verification
import NocAgent.Knowledge.Promotion
import NocAgent.Knowledge.Redaction
import NocAgent.Lib.Action
import NocAgent.Lib.Atomic
import NocAgent.Lib.Chains
import NocAgent.Lib.Channel
import NocAgent.Lib.Disk
import NocAgent.Lib.Fields
import NocAgent.Lib.FileTree
import NocAgent.Lib.Grouping
import NocAgent.Lib.Guards
import NocAgent.Lib.Lts
import NocAgent.Lib.Occurrence
import NocAgent.Lib.Once
import NocAgent.Lib.Pattern
import NocAgent.Lib.PrefixCode
import NocAgent.Lib.Regex
import NocAgent.Lib.Script
import NocAgent.Lib.Sql
import NocAgent.Lib.Squeeze
import NocAgent.Lib.Stepwise
import NocAgent.Lib.Table
import NocAgent.Lib.Traced
import NocAgent.Lib.UniqueIndex
import NocAgent.Lib.Versioned
import NocAgent.Mail.LostMail
import NocAgent.Mail.Mailbox
import NocAgent.Mcp.AbandonedCalls
import NocAgent.Mcp.Backoff
import NocAgent.Mcp.Dealings
import NocAgent.Mcp.HyruleClient
import NocAgent.Mcp.Orderly
import NocAgent.Mcp.Owner
import NocAgent.Mcp.OwnerReplies
import NocAgent.Mcp.Runtime
import NocAgent.Proactive.AckPruning
import NocAgent.Proactive.BudgetRuns
import NocAgent.Proactive.CandidateIssues
import NocAgent.Proactive.Carry
import NocAgent.Proactive.Digest
import NocAgent.Proactive.DiskHandoffs
import NocAgent.Proactive.Hotspot
import NocAgent.Proactive.Insights
import NocAgent.Proactive.Ledger
import NocAgent.Proactive.Outcomes
import NocAgent.Proactive.PredictionOutcomes
import NocAgent.Proactive.RunLock
import NocAgent.Proactive.ScanCompleteness
import NocAgent.Proactive.Scanner
import NocAgent.Proactive.SelectiveMutes
import NocAgent.Proactive.Suppressions
import NocAgent.Python.JsonText
import NocAgent.Python.Stamp
import NocAgent.Python.Value
import NocAgent.Python.Words
import NocAgent.Cases.BackendAgreement
import NocAgent.Cases.AuditTrail
import NocAgent.Cases.CallbackInbox
import NocAgent.Cases.CaseScan
import NocAgent.Graph.ProposedActions
import NocAgent.Graph.ThreadSafety
import NocAgent.Cases.StoreLock
import NocAgent.Cases.DeliveryRollback
import NocAgent.Cases.PostgresPool
