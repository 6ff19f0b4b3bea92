import Chassis.Dict
import Chassis.ForwardedChain
import Chassis.ForwardedLines
import Chassis.Transition
import Chassis.RateLimitStore
import Chassis.RateLimitKey
import Chassis.ForwardedFallback
import Chassis.RateLimit
import Chassis.Expiry
import Chassis.Cache
import Chassis.AuthSettings
import Chassis.AuthKey
import Chassis.JwksCache
import Chassis.JwksFreshness
import Chassis.BodySize
import Chassis.Response
import Chassis.Timeout
import Chassis.TimeoutDelivery
import Chassis.TimeoutCause
import Chassis.Redis
import Chassis.RedisRateLimit
import Chassis.RedisInterleaving
import Chassis.RedisCache
import Chassis.Lifespan
import Chassis.Headers
import Chassis.TracingIds
import Chassis.SecurityHeaders
import Chassis.SecurityStack
import Chassis.ProbeRoutes
import Chassis.Shell
import Chassis.Deploy
import Chassis.DeployContract
import Chassis.DeployImage
import Chassis.DeployCompose
import Chassis.DeployPreserved
import Chassis.BodySizeAnswer
import Chassis.TracingContext
import Chassis.JwksEntries
import Chassis.JwksTasks
import Chassis.JwksHistories
import Chassis.JwksReadiness
import Chassis.JwksResolution
import Chassis.JwksFailures
import Chassis.JwksSharing
import Chassis.JsonText
import Chassis.JsonLimits
import Chassis.JsonDumps
import Chassis.Claims
import Chassis.ClaimErrors
import Chassis.ClaimEncodings
import Chassis.Urls
import Chassis.ConnectionUrls
import Chassis.RateLimitSurvivors
import Chassis.MemoryLimit
import Chassis.KeyIndependence
import Chassis.RetryAfter
import Chassis.RedisExpiry
import Chassis.JsonRender
import Chassis.Readiness
import Chassis.FormEncoding
import Chassis.RequestLogging
import Chassis.OtlpHeaders
import Chassis.ConfigParser
import Chassis.Migrations
import Chassis.ValidationErrors
import Chassis.Entrypoint
import Chassis.SettingsFields
import Chassis.HelmValues
import Chassis.HelmTemplate
import Chassis.ConfigMap
import Chassis.JsonLengths
import Chassis.ChartValues
import Chassis.ChartSettings
import Chassis.ChartRateLimit
import Chassis.YamlScalar
import Chassis.ProxySettings
import Chassis.CacheBackends
import Chassis.CachedTime
import Chassis.Process
import Chassis.StampedHeaders
import Chassis.AccessStack
import Chassis.Updates
import Chassis.SettingsResolution
import Chassis.Prefixes
import Chassis.Cidr
import Chassis.SlidingWindow
import Chassis.LineEdits
import Chassis.BaseDigests
import Chassis.JwksWithdrawal
import Chassis.ProtectedRoutes
import Chassis.AppReadiness
import Chassis.Layers
import Chassis.ContainerEnvironment
import Chassis.SettingsEnvironment
import Chassis.ChartWorkloads
import Chassis.MigrationJob
import Chassis.HelmPaths
import Chassis.ChartSecrets
import Chassis.SecretDelivery
