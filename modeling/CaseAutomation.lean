import CaseAutomation.Framework.Program
import CaseAutomation.Framework.Safety
import CaseAutomation.Framework.Issues
import CaseAutomation.Framework.Ghost
import CaseAutomation.Framework.Dict
import CaseAutomation.Base.Printable
import CaseAutomation.Base.Values
import CaseAutomation.Base.Errors
import CaseAutomation.Base.PyStr
import CaseAutomation.Security.Rbac
import CaseAutomation.Orchestrator.States
import CaseAutomation.Orchestrator.Dsl
import CaseAutomation.Orchestrator.Tokens
import CaseAutomation.Orchestrator.Store
import CaseAutomation.Orchestrator.Idempotency
import CaseAutomation.Orchestrator.World
import CaseAutomation.Orchestrator.Engine
import CaseAutomation.Orchestrator.Gates
import CaseAutomation.Orchestrator.Triggers
import CaseAutomation.Orchestrator.Effects
import CaseAutomation.Orchestrator.System
import CaseAutomation.Orchestrator.Invariants
import CaseAutomation.Orchestrator.Calls
import CaseAutomation.Orchestrator.GateSafety
import CaseAutomation.Base.JsonCodec
import CaseAutomation.Security.Hmac
import CaseAutomation.Orchestrator.Reference
import CaseAutomation.Orchestrator.ExactlyOnce
import CaseAutomation.Orchestrator.Quorum
import CaseAutomation.Framework.Threads
import CaseAutomation.Orchestrator.OneDecision
import CaseAutomation.Orchestrator.Passes
import CaseAutomation.Orchestrator.Filing
import CaseAutomation.Orchestrator.StoppedRuns
import CaseAutomation.Orchestrator.Compensation
import CaseAutomation.Orchestrator.Progress
import CaseAutomation.Orchestrator.Retry
import CaseAutomation.Orchestrator.Starts
import CaseAutomation.Framework.Refinement
import CaseAutomation.Orchestrator.IdemStores
import CaseAutomation.Framework.Expand
import CaseAutomation.Orchestrator.TokenUse
import CaseAutomation.Orchestrator.RunLock
import CaseAutomation.Framework.HashChain
import CaseAutomation.Audit.Record
import CaseAutomation.Audit.Service
import CaseAutomation.Audit.Windows
import CaseAutomation.Audit.Writers
import CaseAutomation.Orchestrator.Pinning
import CaseAutomation.Orchestrator.Redrive
import CaseAutomation.Framework.Table
import CaseAutomation.Orchestrator.PostgresStore
import CaseAutomation.Orchestrator.RunStores
import CaseAutomation.Orchestrator.StoreCalls
import CaseAutomation.Orchestrator.StoresAlike
import CaseAutomation.Orchestrator.Resume
import CaseAutomation.Orchestrator.Completion
import CaseAutomation.Base.Text
import CaseAutomation.Domain.Models
import CaseAutomation.Qc.Registry
import CaseAutomation.Routing.Service
import CaseAutomation.Routing.Histories
import CaseAutomation.Deadline.Calendar
import CaseAutomation.Deadline.Compute
import CaseAutomation.Deadline.World
import CaseAutomation.Deadline.Schedule
import CaseAutomation.Deadline.Firing
import CaseAutomation.Deadline.Redundant
import CaseAutomation.Deadline.Updates
import CaseAutomation.Deadline.Celery
import CaseAutomation.Deadline.Ledger
import CaseAutomation.Deadline.Rules
import CaseAutomation.Intake.Types
import CaseAutomation.Packs.Base
import CaseAutomation.Deadline.Raised
import CaseAutomation.Intake.Deadlines
import CaseAutomation.Base.PyValues
import CaseAutomation.Base.Floats
import CaseAutomation.Workflows.Services
import CaseAutomation.Intake.Create
import CaseAutomation.Intake.Dedupe
import CaseAutomation.Intake.Workflow
import CaseAutomation.Orchestrator.OpenGates
import CaseAutomation.Orchestrator.Review
import CaseAutomation.Intake.Outputs
import CaseAutomation.Intake.Gaps
import CaseAutomation.StatusUpdate.Draft
import CaseAutomation.StatusUpdate.Workflow
import CaseAutomation.StatusUpdate.Outputs
import CaseAutomation.Workflows.Persistence
import CaseAutomation.Orchestrator.Recovery
import CaseAutomation.Connectors.Health
import CaseAutomation.Connectors.Client
import CaseAutomation.Connectors.Gating
import CaseAutomation.Connectors.IdemWrites
import CaseAutomation.Connectors.Webhook
import CaseAutomation.Connectors.Deliveries
import CaseAutomation.Connectors.Redeliveries
import CaseAutomation.DocumentGen.Context
import CaseAutomation.DocumentGen.Ledger
import CaseAutomation.DocumentGen.StoreOnce
import CaseAutomation.DocumentGen.Generate
import CaseAutomation.DocumentGen.Histories
import CaseAutomation.Extraction.Pages
import CaseAutomation.Framework.Pieces
import CaseAutomation.Extraction.Recovered
import CaseAutomation.StatusUpdate.Triggers
import CaseAutomation.StatusUpdate.OneEmail
import CaseAutomation.Connectors.HalfOpen
import CaseAutomation.Connectors.SharedHealth
import CaseAutomation.Security.Crypto
import CaseAutomation.Security.Rotation
import CaseAutomation.Security.Restarts
import CaseAutomation.Orchestrator.TokenCodec
import CaseAutomation.Deadline.Gregorian
import CaseAutomation.Orchestrator.Refusals
import CaseAutomation.Deadline.BusinessDays
import CaseAutomation.Deadline.DueDates
import CaseAutomation.Deadline.Monotone
import CaseAutomation.Deadline.Preview
import CaseAutomation.Deadline.ReminderKeys
import CaseAutomation.Deadline.PastDue
import CaseAutomation.Intake.PastDue
import CaseAutomation.Deadline.Reconcile
import CaseAutomation.Deadline.YamlRules
import CaseAutomation.Deadline.RuleLoads
import CaseAutomation.Intake.Completeness
import CaseAutomation.Intake.Duplicates
import CaseAutomation.Qc.Privilege
import CaseAutomation.Routing.Previews
import CaseAutomation.Routing.Classes
import CaseAutomation.Routing.Conflicts
import CaseAutomation.DocumentGen.Collisions
import CaseAutomation.Framework.Substitution
import CaseAutomation.DocumentGen.Placeholders
import CaseAutomation.DocumentGen.Docx
import CaseAutomation.Extraction.Verification
import CaseAutomation.Extraction.Coverage
import CaseAutomation.Extraction.Residency
import CaseAutomation.Connectors.RetryLoop
import CaseAutomation.Connectors.Totality
import CaseAutomation.Deadline.Additive
import CaseAutomation.Framework.Regex
import CaseAutomation.Framework.Redaction
import CaseAutomation.Obs.Scrubbing
import CaseAutomation.Obs.Signals
import CaseAutomation.Framework.Joined
import CaseAutomation.Intake.Run
import CaseAutomation.Workflows.DerivedKeys
import CaseAutomation.Framework.Mimicry
import CaseAutomation.Framework.Markup
import CaseAutomation.Framework.Numerals
import CaseAutomation.Sidecar.Approvals
import CaseAutomation.Sidecar.Traffic
import CaseAutomation.Qc.Checks
import CaseAutomation.Qc.Reports
import CaseAutomation.Qc.Callers
import CaseAutomation.Packs.Consulting
import CaseAutomation.Packs.Selection
import CaseAutomation.Audit.Export
import CaseAutomation.Deadline.IsoText
import CaseAutomation.Deadline.Upcoming
import CaseAutomation.Routing.LeastPrivilege
import CaseAutomation.Framework.Handlers
import CaseAutomation.Deadline.Deadman
import CaseAutomation.Deadline.Workers
import CaseAutomation.Framework.Relations
import CaseAutomation.Persistence.Repositories
import CaseAutomation.DocumentGen.Templates
import CaseAutomation.Deadline.Fingerprint
