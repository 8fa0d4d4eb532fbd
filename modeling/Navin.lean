import Navin.Shipments.StatusLaw
import Navin.Payments.SettlementLifecycle
import Navin.Payments.EscrowSafety
import Navin.Shipments.AttachmentService
import Navin.Shipments.RecordService
import Navin.Workers.StellarIndexer
import Navin.Ledger.Writers
import Navin.Ledger.CanonicalPayload
import Navin.Ledger.Citations
import Navin.Ledger.AppendOnly
import Navin.Semantics.TwoRuns
import Navin.Shipments.QueryService
import Navin.Shipments.Routes
import Navin.Shipments.ForeignShipments
import Navin.Shipments.TenantIsolation
import Navin.Shipments.OutsideShipment
import Navin.Backend.Query
import Navin.Shipments.ListService
import Navin.Shipments.ListingAccess
import Navin.Identity.Documents
import Navin.Identity.Interface
import Navin.Identity.World
import Navin.Auth.TokenBlocklist
import Navin.Auth.Service
import Navin.Users.Service
import Navin.Invitations.Service
import Navin.Identity.Routes
import Navin.Identity.Tokens
import Navin.Auth.TokenSeparation
import Navin.Users.RoleEscalation
import Navin.Auth.Revocation
import Navin.Auth.RevokedTokens
import Navin.Semantics.Trace
import Navin.Shipments.BulkReport
import Navin.Shipments.BulkAgreement
import Navin.Shipments.DeliverySettlement
import Navin.Backend.Runs
import Navin.Semantics.Promises
import Navin.Chain.Serializer
import Navin.Chain.SerializerStages
import Navin.Chain.SerializerLaw
import Navin.Semantics.History
import Navin.Shared.Chain
import Navin.Chain.Signing
import Navin.Chain.SigningProcess
import Navin.Webhooks.Redelivery
import Navin.Shipments.MilestoneHistory
import Navin.Chain.SigningSafety
import Navin.Chain.SubmissionAccounting
import Navin.Semantics.Upsert
import Navin.Workers.IndexerStream
import Navin.Workers.IndexerCrashes
import Navin.Chain.EventStreams
import Navin.Chain.AnchorRoundTrip
import Navin.Chain.PortContract
import Navin.Semantics.Readability
import Navin.Shared.JsString
import Navin.Shared.CanonicalJson
import Navin.Realtime.SseHub
import Navin.Auth.Sessions
import Navin.Auth.SessionRecords
import Navin.Auth.RefreshRotation
import Navin.Auth.EntryPoints
import Navin.Auth.PasswordResets
import Navin.TwoFactor.Requests
import Navin.TwoFactor.BackupCodes
import Navin.TwoFactor.Enabling
import Navin.Invitations.Operations
import Navin.Invitations.TokenSupersession
import Navin.Invitations.Lifecycle
import Navin.Semantics.Extension
import Navin.Telemetry.Documents
import Navin.Telemetry.Interface
import Navin.Auth.ApiKeyService
import Navin.Payments.TenantRecords
import Navin.Telemetry.ThresholdService
import Navin.Telemetry.AnomalyDetection
import Navin.Telemetry.EngineAgreement
import Navin.Telemetry.Service
import Navin.Webhooks.IotService
import Navin.Webhooks.IotScope
import Navin.Telemetry.Effects
import Navin.Workers.StellarWorker
import Navin.Shipments.PublicTracking
import Navin.Realtime.Fanout
import Navin.Realtime.SocketIo
import Navin.Realtime.SocketRooms
import Navin.Realtime.SocketHandlers
import Navin.Semantics.Paging
import Navin.Shipments.TimelinePaging
import Navin.Workers.AlertWorker
import Navin.Semantics.Restriction
import Navin.Workers.AnchorOnce
import Navin.Payments.SettlementAnnouncements
import Navin.Shipments.DeletionCascade
import Navin.Semantics.ReadThrough
import Navin.Semantics.WeakestPreconditions
import Navin.Shipments.EtaInputs
import Navin.Shipments.EtaOperations
import Navin.Webhooks.TelemetryEtas
import Navin.Webhooks.EtaCoherence
import Navin.Semantics.CursorPages
import Navin.Listings.Collections
import Navin.Listings.Services
import Navin.Listings.PageLaws
import Navin.Listings.EventListings
import Navin.Listings.CountedListings
import Navin.Users.ProfileUpdates
import Navin.Webhooks.Normalisation
import Navin.Telemetry.BulkRejection
import Navin.Webhooks.AnchorPairing
import Navin.Webhooks.GpsLoss
import Navin.Shipments.PhotoCap
import Navin.Semantics.SetMap
import Navin.Realtime.SseRegistry
import Navin.Realtime.RecentEvents
import Navin.Semantics.Stops
import Navin.Middleware.RateLimiter
import Navin.Middleware.CounterExpiry
import Navin.Semantics.Csv
import Navin.Shipments.CsvExport
import Navin.Semantics.Pcre
import Navin.Shipments.TextFilters
import Navin.Payments.SettlementSummary
import Navin.Analytics.Documents
import Navin.Analytics.Summary
import Navin.Analytics.SummarySparklines
import Navin.Analytics.SummaryRates
import Navin.Analytics.Performance
import Navin.Analytics.PerformanceTotals
import Navin.Chain.PositiveI128
import Navin.Ledger.EventTypeMigration
import Navin.Shared.IsoDatePlugin
import Navin.TwoFactor.SecretCodec
import Navin.Shipments.EtaEstimate
import Navin.Listings.SearchFilters
import Navin.Semantics.Timed
import Navin.Semantics.FixedWindow
import Navin.Middleware.RateWindow
import Navin.Semantics.Expiring
import Navin.Shared.Faults
import Navin.Notifications.SmsOtp
import Navin.Notifications.PhoneVerification
import Navin.Semantics.Noninterference
import Navin.Semantics.OwnedDocuments
import Navin.ShipmentTemplates.Service
import Navin.ShipmentTemplates.Isolation
import Navin.Payments.SummaryCache
import Navin.Payments.SummaryFreshness
import Navin.Semantics.Since
import Navin.Notifications.Inbox
import Navin.Notifications.InboxIsolation
import Navin.Notifications.MarkedRead
import Navin.Auth.ApiKeyCreation
import Navin.Auth.ApiKeyLifecycle
import Navin.Anomalies.Service
import Navin.Anomalies.Retention
import Navin.Anomalies.Stats
import Navin.Organizations.Service
import Navin.Telemetry.ThresholdUpdates
