import AppGateway.Lists
import AppGateway.Async.Detachment
import AppGateway.Async.Execution
import AppGateway.Async.Faults
import AppGateway.Async.Interruption
import AppGateway.Async.Journal
import AppGateway.Async.Lockstep
import AppGateway.Async.Modular
import AppGateway.Async.Noninterference
import AppGateway.Async.Program
import AppGateway.Async.Progress
import AppGateway.Async.Realization
import AppGateway.Async.Records
import AppGateway.Async.Replay
import AppGateway.Async.System
import AppGateway.Async.Trace
import AppGateway.Refinement.Simulation
import AppGateway.Store.BoundedLru
import AppGateway.Store.Counters
import AppGateway.Store.Expiring
import AppGateway.Store.InsertionMap
import AppGateway.Store.Recency
import AppGateway.Store.Texts
import AppGateway.Codec.Base64
import AppGateway.Codec.Binary64
import AppGateway.Codec.Bytes
import AppGateway.Codec.Decimal
import AppGateway.Codec.IpAddress
import AppGateway.Codec.Json
import AppGateway.Codec.JsonRoundTrip
import AppGateway.Codec.Percent
import AppGateway.Codec.Schema
import AppGateway.Codec.SchemaLaws
import AppGateway.Codec.Zod
import AppGateway.Model.AuthRouter
import AppGateway.Model.AuthRoutes
import AppGateway.Model.BoundedLru
import AppGateway.Model.CompactJwt
import AppGateway.Model.Crypto
import AppGateway.Model.CryptoEncoding
import AppGateway.Model.HttpLogger
import AppGateway.Model.KeyLoading
import AppGateway.Model.LocalKeySet
import AppGateway.Model.Platform
import AppGateway.Model.ProxyDispatch
import AppGateway.Model.ProxyRouter
import AppGateway.Model.ProxyService
import AppGateway.Model.RedisTexts
import AppGateway.Model.RefreshTokenService
import AppGateway.Model.RouteConfigFile
import AppGateway.Model.RouteSchema
import AppGateway.Model.Shutdown
import AppGateway.Model.SigningKeys
import AppGateway.Model.TenantKeyService
import AppGateway.Model.TenantKeyStore
import AppGateway.Model.TokenService
import AppGateway.Model.Types
import AppGateway.Model.UserService
import AppGateway.Model.Validate
import AppGateway.Sessions.Automaton
import AppGateway.Sessions.Calls
import AppGateway.Sessions.Histories
import AppGateway.Sessions.Lineage
import AppGateway.Sessions.Mirror
import AppGateway.Sessions.MirrorProtocol
import AppGateway.Sessions.Protocol
import AppGateway.Sessions.Refinement
import AppGateway.Sessions.ReuseDetection
import AppGateway.Sessions.Serial
import AppGateway.Sessions.SerialLaw
import AppGateway.Sessions.SingleUse
import AppGateway.Sessions.Table
import AppGateway.Handlers.AccessTokens
import AppGateway.Handlers.AuditRules
import AppGateway.Handlers.AuditTrail
import AppGateway.Handlers.Calls
import AppGateway.Handlers.ConcurrentRefresh
import AppGateway.Handlers.Deactivation
import AppGateway.Handlers.Failures
import AppGateway.Handlers.Guessing
import AppGateway.Handlers.IdempotentReplay
import AppGateway.Handlers.LogoutAtomicity
import AppGateway.Handlers.LogoutScope
import AppGateway.Handlers.Protocol
import AppGateway.Handlers.Provenance
import AppGateway.Handlers.Provisioned
import AppGateway.Handlers.Redis
import AppGateway.Handlers.RequestBodies
import AppGateway.Handlers.RevocationKeys
import AppGateway.Handlers.RotationAtomicity
import AppGateway.Handlers.RouterRuns
import AppGateway.Handlers.Routine
import AppGateway.Handlers.SessionAuthority
import AppGateway.Handlers.Smooth
import AppGateway.Handlers.StoredTexts
import AppGateway.Handlers.StuckClaims
import AppGateway.Handlers.TokenHashes
import AppGateway.Handlers.TokenRevocation
import AppGateway.Handlers.WaitFree
import AppGateway.Proxy.AccessLog
import AppGateway.Proxy.AppSteps
import AppGateway.Proxy.CounterExpiry
import AppGateway.Proxy.Credentials
import AppGateway.Proxy.EarnedRefusals
import AppGateway.Proxy.ErrorLeak
import AppGateway.Proxy.ForwardedUrl
import AppGateway.Proxy.IdentityHeaders
import AppGateway.Proxy.LimitHeaders
import AppGateway.Proxy.Mediation
import AppGateway.Proxy.MiddlewareOrder
import AppGateway.Proxy.MountedUrl
import AppGateway.Proxy.PathSpelling
import AppGateway.Proxy.QuotaIsolation
import AppGateway.Proxy.RateLimit
import AppGateway.Proxy.Refusal
import AppGateway.Proxy.RoleHeader
import AppGateway.Proxy.RouteLoading
import AppGateway.Proxy.RouteResolution
import AppGateway.Proxy.Settlement
import AppGateway.Proxy.StripPrefix
import AppGateway.Proxy.UnheardHits
import AppGateway.Proxy.UpstreamFailure
import AppGateway.Tenants.Agreement
import AppGateway.Tenants.Caches
import AppGateway.Tenants.Cipher
import AppGateway.Tenants.Discipline
import AppGateway.Tenants.Encryption
import AppGateway.Tenants.Envelope
import AppGateway.Tenants.Freshness
import AppGateway.Tenants.Isolation
import AppGateway.Tenants.KeyOrigins
import AppGateway.Tenants.KeyTable
import AppGateway.Tenants.Ledger
import AppGateway.Tenants.Locking
import AppGateway.Tenants.LruHistory
import AppGateway.Tenants.Orphans
import AppGateway.Tenants.Ownership
import AppGateway.Tenants.Protocol
import AppGateway.Tenants.Provisioning
import AppGateway.Tenants.Tampering
import AppGateway.Tenants.VersionRange
import AppGateway.Rotation.Acceptance
import AppGateway.Rotation.Fleet
import AppGateway.Rotation.KeySelection
import AppGateway.Rotation.LoadHistory
import AppGateway.Process.ServerInvariant
import AppGateway.Process.Shutdown
