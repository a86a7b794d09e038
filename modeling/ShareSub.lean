import ShareSub.Transaction
import ShareSub.Table
import ShareSub.PlanModel
import ShareSub.ShareLedger
import ShareSub.PlanSystem
import ShareSub.PlanShareCap
import ShareSub.PlanSeats
import ShareSub.QuotaModel
import ShareSub.QuotaWindow
import ShareSub.QuotaMerge
import ShareSub.QuotaCoverage
import ShareSub.Apportion
import ShareSub.QuotaAttribution
import ShareSub.VoteModel
import ShareSub.VoteSafety
import ShareSub.ResetLease
import ShareSub.ResetOutcome
import ShareSub.MembershipModel
import ShareSub.GatewayModel
import ShareSub.MembershipPayments
import ShareSub.Numeral
import ShareSub.GatewayAttempts
import ShareSub.GatewayAccounting
import ShareSub.Counter
import ShareSub.FiniteMap
import ShareSub.HistoryModel
import ShareSub.HistoryIntegral
import ShareSub.HistorySystem
import ShareSub.HistoryPersistence
import ShareSub.TrafficModel
import ShareSub.TrafficWiring
import ShareSub.TrafficAccounting
import ShareSub.TrafficQuiescence
import ShareSub.TrafficSafety
import ShareSub.TrafficRate
import ShareSub.Reservation
import ShareSub.TrafficPool
import ShareSub.ProtectionModel
import ShareSub.ProtectionRate
import ShareSub.ProtectionBackoff
import ShareSub.FloatRounding
import ShareSub.QuotaHeaders
import ShareSub.PaymentModel
import ShareSub.PaymentAmount
import ShareSub.LabelledParts
import ShareSub.PaymentSignature
import ShareSub.TokenModel
import ShareSub.TokenSafety
import ShareSub.TokenRotation
import ShareSub.PlanMembers
import ShareSub.PlanDirectory
import ShareSub.PlanOwnership
import ShareSub.PlanConcurrency
import ShareSub.RollupModel
import ShareSub.RollupEquivalence
import ShareSub.PricingModel
import ShareSub.PricingChain
import ShareSub.CostModel
import ShareSub.CostRange
import ShareSub.ModelName
import ShareSub.FailoverModel
import ShareSub.FailoverSafety
import ShareSub.SseModel
import ShareSub.RelayModel
import ShareSub.RelayCore
import ShareSub.RelayConversion
import ShareSub.RelaySafety
import ShareSub.RelayRun
import ShareSub.RelayTransparency
import ShareSub.UsageModel
import ShareSub.RelayUsage
import ShareSub.EventStream
import ShareSub.JsonText
import ShareSub.RelayReadable
import ShareSub.PayloadText
import ShareSub.CapacityShed
import ShareSub.CapacityShedRelay
import ShareSub.CapacityShedAnswer
import ShareSub.ReplayBudget
import ShareSub.JsonValue
import ShareSub.FastPolicy
import ShareSub.GatewayRouting
import ShareSub.RoutingOrder
import ShareSub.TurnModel
import ShareSub.TurnUsage
import ShareSub.TurnControls
import ShareSub.TurnLifecycle
import ShareSub.TurnEnding
import ShareSub.AccessModel
import ShareSub.AccessSafety
import ShareSub.AccessBudget
import ShareSub.ReplayModel
import ShareSub.ReplaySession
import ShareSub.ReplayRepresentation
import ShareSub.ReplayInvariant
import ShareSub.ReplayChain
import ShareSub.WebSocketShutdown
import ShareSub.CodexStateModel
import ShareSub.CodexStateSafety
import ShareSub.CodexIdentity
import ShareSub.RequestModel
import ShareSub.RequestPreservation
import ShareSub.TagText
import ShareSub.RequestLocale
import ShareSub.RateLog
import ShareSub.IdentityModel
import ShareSub.IdentitySteps
import ShareSub.VerificationMail
import ShareSub.SessionSafety
import ShareSub.VerificationOnce
import ShareSub.TokenSealing
import ShareSub.AuthorizationModel
import ShareSub.AuthorizationSafety
import ShareSub.Evolution
import ShareSub.PlanLifecycle
import ShareSub.PlanDecisions
import ShareSub.PlanBinding
import ShareSub.KeyModel
import ShareSub.KeySafety
import ShareSub.KeyLockout
import ShareSub.Migrations
import ShareSub.FirstDifference
import ShareSub.CodexVersion
import ShareSub.RecencyCache
import ShareSub.ProxyClients
import ShareSub.BodyTimeout
import ShareSub.AccountInput
