import Ois.Kernel.ContractValidation
import Ois.Kernel.FencedWrites
import Ois.Kernel.Replay
import Ois.Kernel.CrashResume
import Ois.Infrastructure.LeaseEpochs
import Ois.Infrastructure.ClaimAndStage
import Ois.Kernel.SharedResults
import Ois.Kernel.NewestCheckpoint
import Ois.Kernel.StoreRefinement
import Ois.Production.LeaseProtocol
import Ois.Production.FencedLease
import Ois.Kernel.FencedLeases
import Ois.Kernel.EvidenceChain
import Ois.Kernel.FencedTransaction
import Ois.Runtime.JobClaims
import Ois.Runtime.JobStates
import Ois.ControlPlane.WorkerRuns
import Ois.ControlPlane.IntegratedRuns
import Ois.ControlPlane.SqliteEvidence
import Ois.ControlPlane.EvidenceBridge
import Ois.ControlPlane.PolicyAdapter
import Ois.Autonomy.SweptRuns
import Ois.Autonomy.DurableResults
import Ois.Autonomy.RunExecutions
import Ois.Autonomy.StrandedRuns
import Ois.Autonomy.DrainedEvents
import Ois.Autonomy.PoisonedEvents
import Ois.Autonomy.ActionRuns
import Ois.Autonomy.ApprovalDiscipline
import Ois.Sources.Publications
import Ois.Sources.AtomicIngest
import Ois.Sources.LedgerAgreement
import Ois.Sources.OperatorIntent
import Ois.Platform.Evolution
import Ois.Platform.Lineage
import Ois.Runtime.DeadLetters
import Ois.Integration.RedisPasses
import Ois.Production.RollbackPaths
import Ois.Production.Canary
import Ois.Production.Coordinator
import Ois.Football.PricingLaws
import Ois.Football.SettlementLaws
import Ois.Kernel.PlanDocuments
import Ois.Kernel.RecoveryBudgets
import Ois.Kernel.CommandIdentity
import Ois.Football.NoLeakage
import Ois.Social.Projections
import Ois.Social.PredictionDataset
import Ois.Infrastructure.RefreshTokens
import Ois.Sources.WebhookLosses
import Ois.Runtime.Resumption
import Ois.Runtime.ContentAddresses
import Ois.Autonomy.ApprovalStores
import Ois.Sources.DuplicateAnswers
import Ois.Sources.FabricRegistrations
import Ois.Sources.RateLimitLeases
import Ois.Governance.LimitWindows
import Ois.Production.KnowledgeWorld
import Ois.Runtime.LlmGateway
import Ois.Production.ModelGateway
import Ois.Football.Backtests
import Ois.Football.Storage
import Ois.Football.MarketCatalog
import Ois.Social.Experiments
import Ois.Social.Attribution
import Ois.Social.GrowthLoop
import Ois.Production.Connectors
import Ois.Sources.Cursors
import Ois.Sources.PollingSchedule
import Ois.Production.AgentFabric
import Ois.Integration.OcifDocuments
import Ois.Integration.CertificateVerdicts
