import Chassis.Literals
import Chassis.SettingsResolution

set_option autoImplicit false

namespace Chassis.Startup

open Chassis.Configuration Resolution

-- The fields of Settings that are not among settingsFields.
def otherFields : List AnyField :=
  [free "app_description" "Production-ready FastAPI template with Builder pattern configuration",
    free "log_text_template" ("%(asctime)s | %(levelname)-8s | %(name)s | request_id=%(request_id)s | " ++
      "correlation_id=%(correlation_id)s | %(module)s:%(funcName)s:%(lineno)d | %(message)s"),
    free "log_date_format" "%Y-%m-%d %H:%M:%S", free "logging_config_path" "", switch "log_redact_headers" false,
    free "database_postgres_password" "", free "database_url" "", free "alembic_database_url" "",
    switch "database_echo" false, free "auth_jwt_secret" "", free "auth_jwt_public_key" "",
    whole "auth_jwks_max_stale_seconds" (some 0) (some 86400) 3600, switch "auth_require_warmup" false,
    listed "cors_allowed_methods" ["GET", "POST", "PUT", "PATCH", "DELETE", "OPTIONS"],
    listed "cors_allowed_headers" ["Authorization", "Content-Type", "X-Request-ID", "X-Correlation-ID"],
    listed "cors_expose_headers" ["X-Request-ID", "X-Correlation-ID", "X-RateLimit-Remaining"],
    free "security_referrer_policy" "no-referrer",
    free "security_permissions_policy" "geolocation=(), camera=(), microphone=()",
    free "security_content_security_policy" "default-src 'none'; frame-ancestors 'none'",
    switch "security_trust_proxy_proto_header" false, listed "security_trusted_proxies" [],
    switch "info_endpoint_enabled" false, switch "endpoints_listing_enabled" false, free "cache_storage_url" "",
    whole "cache_health_timeout_seconds" (some 1) (some 30) 2]

def environmentFields : List AnyField := settingsFields ++ otherFields

def databaseBackend (text : Str) : Connections.DatabaseBackend :=
  if text = "postgres".toList then .postgres else if text = "custom".toList then .custom else .sqlite

def databaseFields (get : (field : AnyField) → field.1.Value) : Connections.Settings where
  databaseBackend := databaseBackend (get (chosen "database_backend" ["sqlite", "postgres", "custom"] "sqlite"))
  databaseSqlitePath := get (free "database_sqlite_path" "./data/app.db")
  databasePostgresHost := get (free "database_postgres_host" "postgres")
  databasePostgresPort := Int.toNat (get (whole "database_postgres_port" (some 1) (some 65535) 5432))
  databasePostgresName := get (free "database_postgres_name" "fastapi_chassis")
  databasePostgresUser := get (free "database_postgres_user" "fastapi")
  databasePostgresPassword := get (free "database_postgres_password" "")
  databaseUrl := get (free "database_url" "")
  alembicDatabaseUrl := get (free "alembic_database_url" "")
  rateLimitStorageUrl := get ⟨_, rateLimitStorageUrl⟩
  rateLimitStorageBackend := storageBackend (get ⟨_, rateLimitStorageBackend⟩)
  redisHost := get ⟨_, redisHost⟩
  redisPort := Int.toNat (get ⟨_, redisPort⟩)
  redisDb := Int.toNat (get ⟨_, redisDb⟩)
  redisPassword := get ⟨_, redisPassword⟩
  cacheBackend := storageBackend (get (chosen "cache_backend" ["memory", "redis"] "memory"))
  cacheRedisDb := Int.toNat (get (whole "cache_redis_db" (some 0) (some 15) 1))
  cacheStorageUrl := get (free "cache_storage_url" "")

def authFields (get : (field : AnyField) → field.1.Value) : Auth.Settings where
  authEnabled := get (switch "auth_enabled" false)
  authJwtIssuer := get (free "auth_jwt_issuer" "")
  authJwtAudience := get (free "auth_jwt_audience" "")
  authJwtAlgorithms := get (listed "auth_jwt_algorithms" ["HS256"])
  authJwtSecret := get (free "auth_jwt_secret" "")
  authJwtPublicKey := get (free "auth_jwt_public_key" "")
  authJwksUrl := get (free "auth_jwks_url" "")
  authRequireExp := get (switch "auth_require_exp" true)
  authRequireIssuer := get (switch "auth_require_issuer" true)
  authRequireAudience := get (switch "auth_require_audience" true)
  authJwksCacheTtlSeconds := get (whole "auth_jwks_cache_ttl_seconds" (some 5) (some 86400) 300)
  authJwksMaxStaleSeconds := get (whole "auth_jwks_max_stale_seconds" (some 0) (some 86400) 3600)
  authClockSkewSeconds := get (whole "auth_clock_skew_seconds" (some 0) (some 300) 30)

def fromFields (get : (field : AnyField) → field.1.Value) : Settings where
  appName := get (free "app_name" "FastAPI Chassis")
  appVersion := get (free "app_version" "1.0.0")
  docsEnabled := get (switch "docs_enabled" false)
  redocEnabled := get (switch "redoc_enabled" false)
  loggingConfigPath := get (free "logging_config_path" "")
  otelServiceName := get (free "otel_service_name" "")
  otelServiceVersion := get (free "otel_service_version" "")
  securityContentSecurityPolicy :=
    get (free "security_content_security_policy" "default-src 'none'; frame-ancestors 'none'")
  connections := databaseFields get
  auth := authFields get
  rateLimitTrustProxyHeaders := get ⟨_, rateLimitTrustProxyHeaders⟩
  rateLimitTrustedProxies := get ⟨_, rateLimitTrustedProxies⟩
  securityTrustProxyProtoHeader := get (switch "security_trust_proxy_proto_header" false)
  securityTrustedProxies := get (listed "security_trusted_proxies" [])
  corsAllowCredentials := get (switch "cors_allow_credentials" false)
  corsAllowedOrigins := get (listed "cors_allowed_origins" ["http://localhost:3000", "http://127.0.0.1:3000"])
  healthCheckPath := get (free "health_check_path" "/healthcheck")
  readinessCheckPath := get (free "readiness_check_path" "/ready")

def keyless (settings : Auth.Settings) : Auth.Settings := { settings with authJwtSecret := [], authJwtPublicKey := [] }

section Start

variable (parsing : Parsing)

def get (environment : Environment) (field : AnyField) : field.1.Value :=
  (field.2.read parsing environment).getD field.2.default

-- Every variable is read before the model validator runs.
def readSettings (environment : Environment) : Option Settings :=
  if environmentFields.all (fun field => (field.2.read parsing environment).isSome) then
    some (fromFields (get parsing environment))
  else none

-- Settings()
def startSettings (modulePath : Str) (environment : Environment) : Except Rejection Settings :=
  match readSettings parsing environment with
  | none => .error .field
  | some settings => (resolvePathsAndDefaults parsing.interpreter modulePath settings).mapError .validator

-- The three variables that the chart reads from Secrets of the operator in the
-- application's container only.
def keyNames : List Str := ["APP_REDIS_PASSWORD".toList, "APP_AUTH_JWT_SECRET".toList, "APP_AUTH_JWT_PUBLIC_KEY".toList]

def keyed (field : AnyField) : Bool := field.2.envName ∈ keyNames

variable (one other : Environment)

variable (interpreter : JsonText.Interpreter) (modulePath : Str)

end Start

end Chassis.Startup
