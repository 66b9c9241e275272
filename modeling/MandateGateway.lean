import MandateGateway.Lib.OrderedMap
import MandateGateway.Lib.Runs
import MandateGateway.Lib.Escrow
import MandateGateway.Lib.UnicodeCase
import MandateGateway.Lib.Text
import MandateGateway.Lib.Binary64
import MandateGateway.Lib.FloatRange
import MandateGateway.Lib.Exceptions
import MandateGateway.Types
import MandateGateway.Values
import MandateGateway.Transaction
import MandateGateway.Nonce.Record
import MandateGateway.Authorization.ControlResults
import MandateGateway.Authorization.Aggregator
import MandateGateway.Execution.Records
import MandateGateway.Execution.Service
import MandateGateway.Execution.Effects
import MandateGateway.Execution.Dispatch
import MandateGateway.Execution.ToolProxy
import MandateGateway.Execution.Consistency
import MandateGateway.Budget.Engine
import MandateGateway.Budget.Effects
import MandateGateway.Budget.Accounting
import MandateGateway.Authorization.Consent
import MandateGateway.Authorization.Handoff
import MandateGateway.Lib.Checklist
import MandateGateway.Policy.Records
import MandateGateway.Policy.Engine
import MandateGateway.Policy.SamePurchase
import MandateGateway.Policy.ZoneTotality
import MandateGateway.Db.ExecutionAttemptRepository
import MandateGateway.Db.TransactionRepository
import MandateGateway.Execution.AsyncService
import MandateGateway.Execution.AsyncSettlement
import MandateGateway.Lib.Lifecycle
import MandateGateway.TransactionHistory
import MandateGateway.Budget.Coverage
import MandateGateway.Db.ClaimRace
import MandateGateway.Execution.AsyncEffects
import MandateGateway.Execution.AsyncRejection
import MandateGateway.Execution.ProcessRuns
import MandateGateway.Execution.CrashRetry
import MandateGateway.Execution.Repeats
import MandateGateway.Db.AuditRepository
import MandateGateway.Recovery.Service
import MandateGateway.Recovery.Outcomes
import MandateGateway.Recovery.Agreement
import MandateGateway.Recovery.Stranding
import MandateGateway.Adapter.RazorpayHttp
import MandateGateway.Adapter.Classification
import MandateGateway.Budget.AsyncAgreement
import MandateGateway.Budget.Expiry
import MandateGateway.Budget.ReserveRace
import MandateGateway.Policy.Dedicated
import MandateGateway.Policy.MandateTrace
import MandateGateway.StepUp.Approval
import MandateGateway.Lib.JsonDecode
import MandateGateway.Lib.JsonRoundTrip
import MandateGateway.Db.StepUpRepository
import MandateGateway.StepUp.AsyncConfirmation
import MandateGateway.StepUp.Resolution
import MandateGateway.Nonce.Effects
import MandateGateway.Db.NonceRepository
import MandateGateway.Nonce.AsyncAgreement
import MandateGateway.Lib.KeyedRuns
import MandateGateway.Replay.Effects
import MandateGateway.Db.ReplayRepository
import MandateGateway.Replay.AsyncAgreement
import MandateGateway.Audit.Event
import MandateGateway.Audit.Ledger
import MandateGateway.Lib.UniqueRows
import MandateGateway.Audit.Repository
import MandateGateway.Audit.AppendRace
import MandateGateway.Audit.MixedAppends
import MandateGateway.Db.MandateRepository
import MandateGateway.Db.WebhookRepository
import MandateGateway.Webhook.AuditIds
import MandateGateway.Webhook.Redelivery
import MandateGateway.Webhook.Settlement
import MandateGateway.Policy.CartIntegrity
import MandateGateway.Policy.CartDigest
import MandateGateway.Policy.MandateLifecycle
import MandateGateway.Policy.MandateRuns
import MandateGateway.Lib.Base64
import MandateGateway.Receipt.AuditLink
import MandateGateway.Receipt.Offline
import MandateGateway.Agent.Nodes
import MandateGateway.Agent.Runtime
import MandateGateway.Orchestrator.Engine
import MandateGateway.Orchestrator.Mandates
import MandateGateway.Orchestrator.Idempotency
import MandateGateway.Orchestrator.Race
import MandateGateway.Orchestrator.Receipts
import MandateGateway.Agent.StepUpManager
import MandateGateway.Agent.StepUpRuns
import MandateGateway.Agent.ConfirmationGate
import MandateGateway.Agent.ConfirmationRuns
import MandateGateway.Payments.Uap
import MandateGateway.Payments.UapLimits
import MandateGateway.Payments.PolicyEngine
import MandateGateway.Payments.PolicyRace
import MandateGateway.Payments.PolicyLaws
import MandateGateway.Payments.X402
import MandateGateway.Payments.X402Requirement
import MandateGateway.Commerce.WebhookReplay
import MandateGateway.Db.TransactionCreation
import MandateGateway.Db.CredentialRepository
import MandateGateway.Security.Authentication
import MandateGateway.Security.CredentialRuns
import MandateGateway.Security.RejectionEvidence
import MandateGateway.Db.OutboxRepository
import MandateGateway.Workers.OutboxWorker
import MandateGateway.Workers.OutboxRuns
import MandateGateway.Observability.Timeline
import MandateGateway.Observability.TimelineIsolation
import MandateGateway.Lib.JsonSpaces
import MandateGateway.Lib.DatetimeRead
import MandateGateway.Db.Schema
import MandateGateway.Deployment.BackupRestore
import MandateGateway.Deployment.RestoreLaw
import MandateGateway.Security.Guessing
import MandateGateway.Commerce.TransactionBinding
import MandateGateway.Db.OutcomeAtomicity
import MandateGateway.Recovery.ReceiptAudit
import MandateGateway.Recovery.StaleAudit
import MandateGateway.Webhook.Totality
import MandateGateway.Intent.Containment
import MandateGateway.Intent.Proposal
import MandateGateway.Intent.AuthorityClaims
import MandateGateway.Commerce.OrderBinding
import MandateGateway.Commerce.OrderRuns
import MandateGateway.Commerce.WebhookAtomicity
import MandateGateway.Lib.ExhaustiveSearch
import MandateGateway.Commerce.CartOptimizer
import MandateGateway.Lib.SlidingWindow
import MandateGateway.Security.SlidingWindow
import MandateGateway.Security.RetryAfter
import MandateGateway.Security.Redaction
import MandateGateway.Commerce.Webhooks
import MandateGateway.Lib.Datetime
import MandateGateway.Recovery.Worker
import MandateGateway.StepUp.Engine
import MandateGateway.Lib.Regex
import MandateGateway.Tools.Registry
import MandateGateway.Tools.Gate
import MandateGateway.Mcp.Gateway
import MandateGateway.Mcp.Dispatch
import MandateGateway.Agent.ProductTruth
import MandateGateway.Lib.Merging
import MandateGateway.Commerce.Deduplication
import MandateGateway.Lib.Url
import MandateGateway.Commerce.HandoffUrl
import MandateGateway.Commerce.Handoff
import MandateGateway.Agent.IntentDiscipline
import MandateGateway.Db.AtomicReservation
import MandateGateway.Observability.Incidents
import MandateGateway.Agent.PurchasePlanner
