import AtlasPulse.Lib.Digits
import AtlasPulse.Lib.Datetime
import AtlasPulse.Lib.Machine
import AtlasPulse.Lib.Json
import AtlasPulse.Lib.Base64
import AtlasPulse.Lib.Once
import AtlasPulse.Lib.Newest
import AtlasPulse.Lib.Consumer
import AtlasPulse.Lib.Chain
import AtlasPulse.Lib.UnionFind
import AtlasPulse.Lib.Text
import AtlasPulse.Lib.Dict
import AtlasPulse.Lib.Binary64
import AtlasPulse.Lib.Keyset
import AtlasPulse.Lib.Csv
import AtlasPulse.Lib.Tsv
import AtlasPulse.Lib.Keyed
import AtlasPulse.Lib.Strata
import AtlasPulse.Lib.IpAddress
import AtlasPulse.Lib.Quantile
import AtlasPulse.Lib.Majorization
import AtlasPulse.Validation
import AtlasPulse.Percentiles
import AtlasPulse.Identity
import AtlasPulse.Valkey
import AtlasPulse.SourcePolling
import AtlasPulse.SourcePollStore
import AtlasPulse.StoreSound
import AtlasPulse.GdeltFeed
import AtlasPulse.GdeltFeedSound
import AtlasPulse.EventBus
import AtlasPulse.Ingestion
import AtlasPulse.IngestionSound
import AtlasPulse.BusSound
import AtlasPulse.Projection
import AtlasPulse.ProjectionSound
import AtlasPulse.LatestSound
import AtlasPulse.Retrieval
import AtlasPulse.RetrievalSound
import AtlasPulse.RateLimit
import AtlasPulse.RateLimitSound
import AtlasPulse.DenialSound
import AtlasPulse.Governance
import AtlasPulse.Ledger
import AtlasPulse.GovernanceSound
import AtlasPulse.LedgerSound
import AtlasPulse.ApprovalSound
import AtlasPulse.Correlation
import AtlasPulse.CorrelationSound
import AtlasPulse.IncidentSound
import AtlasPulse.Document
import AtlasPulse.Relationships
import AtlasPulse.RelationshipCapture
import AtlasPulse.RelationshipsSound
import AtlasPulse.CaptureSound
import AtlasPulse.AmbiguousTextSound
import AtlasPulse.Ranking
import AtlasPulse.EvidencePacks
import AtlasPulse.PackBuildSound
import AtlasPulse.EvidencePacksSound
import AtlasPulse.RankingSound
import AtlasPulse.CitationSound
import AtlasPulse.FusionSound
import AtlasPulse.PackSearchSound
import AtlasPulse.Pagination
import AtlasPulse.PaginationSound
import AtlasPulse.OperationalEvidence
import AtlasPulse.OperationalEvidenceSound
import AtlasPulse.ReviewAgreement
import AtlasPulse.RetrievalPools
import AtlasPulse.RetrievalAdjudication
import AtlasPulse.RetrievalAdjudicationSound
import AtlasPulse.RetrievalMetrics
import AtlasPulse.RetrievalMetricsSound
import AtlasPulse.JudgmentSheets
import AtlasPulse.ProtectedSheets
import AtlasPulse.RelationshipSheets
import AtlasPulse.JudgmentSheetsSound
import AtlasPulse.JudgmentSession
import AtlasPulse.JudgmentSessionSound
import AtlasPulse.SourceFreshness
import AtlasPulse.SourceFreshnessSound
import AtlasPulse.RelationshipPools
import AtlasPulse.RelationshipSampling
import AtlasPulse.RelationshipSamplingSound
import AtlasPulse.Lib.Kappa
import AtlasPulse.Lib.Rates
import AtlasPulse.Lib.FloatOrder
import AtlasPulse.ExactAgreement
import AtlasPulse.GroundedAgreement
import AtlasPulse.AgreementSound
import AtlasPulse.RetrievalAgreementSound
import AtlasPulse.RelationshipAgreementSound
import AtlasPulse.GroundedAgreementSound
import AtlasPulse.ReviewAgreementSound
import AtlasPulse.CandidateComparison
import AtlasPulse.CandidateComparisonSound
import AtlasPulse.AgentRelease
import AtlasPulse.AgentRuns
import AtlasPulse.AgentRunsSound
import AtlasPulse.RunIdentitySound
import AtlasPulse.GovernedRuns
import AtlasPulse.GovernedRunsSound
import AtlasPulse.ManifestReferenceSound
import AtlasPulse.ApprovalCycleSound
import AtlasPulse.AgentTrajectory
import AtlasPulse.AgentTrajectorySound
import AtlasPulse.TrajectoryDrift
import AtlasPulse.ReleaseEvaluation
import AtlasPulse.ReleaseEvaluationSound
