import Chassis.HelmTemplate
import Chassis.SettingsFields

set_option autoImplicit false

namespace Chassis.Chart

open Chassis.Configuration Helm

-- appVersion of Chart.yaml
def appVersion : Str := "1.0.0".toList

def value (path : String) : Pipeline := { path }

def valueOr (path : String) (fallback : Value) : Pipeline := { path, fallback := some (.literal fallback) }

def texted (contents : String) : Value := .text contents.toList

def databaseBackend : Expr := .default (.literal (texted "postgres")) (.values "database.backend")

def postgresLines : Template :=
  .entry "APP_DATABASE_POSTGRES_HOST" (value "database.postgres.host") <|
  .entry "APP_DATABASE_POSTGRES_PORT" (valueOr "database.postgres.port" (.int 5432)) <|
  .entry "APP_DATABASE_POSTGRES_NAME" (value "database.postgres.name") <|
  .entry "APP_DATABASE_POSTGRES_USER" (value "database.postgres.user") <|
  .done

def sqlitePath : Pipeline := valueOr "database.sqlite.path" (texted "./data/app.db")

def litefsPath : Pipeline :=
  { path := "litefs.proxy.db", fallback := some (.literal (texted "db")), conversion := .printf "/litefs/" }

def sqliteLines : Template :=
  .block (.values "litefs.enabled") (.entry "APP_DATABASE_SQLITE_PATH" litefsPath .done)
    (.entry "APP_DATABASE_SQLITE_PATH" sqlitePath .done) <|
  .entry "APP_DATABASE_SQLITE_JOURNAL_MODE" (valueOr "database.sqlite.journalMode" (texted "wal")) <|
  .entry "APP_DATABASE_SQLITE_SYNCHRONOUS" (valueOr "database.sqlite.synchronous" (texted "normal")) <|
  .entry "APP_DATABASE_SQLITE_BUSY_TIMEOUT" (valueOr "database.sqlite.busyTimeout" (.int 5000)) <|
  .entry "APP_DATABASE_SQLITE_CACHE_SIZE" (valueOr "database.sqlite.cacheSize" (.int (-64000))) <|
  .entry "APP_DATABASE_SQLITE_MMAP_SIZE" (valueOr "database.sqlite.mmapSize" (.int 0)) <|
  .entry "APP_DATABASE_SQLITE_FOREIGN_KEYS" (valueOr "database.sqlite.foreignKeys" (.bool true)) <|
  .done

def authLines : Template :=
  .entry "APP_AUTH_JWT_ISSUER" (valueOr "auth.jwtIssuer" (texted "")) <|
  .entry "APP_AUTH_JWT_AUDIENCE" (valueOr "auth.jwtAudience" (texted "")) <|
  .entry "APP_AUTH_JWT_ALGORITHMS" (valueOr "auth.jwtAlgorithms" (texted "[\"RS256\"]")) <|
  .block (.values "auth.jwksUrl") (.entry "APP_AUTH_JWKS_URL" (value "auth.jwksUrl") .done) .done <|
  .entry "APP_AUTH_REQUIRE_EXP" (valueOr "auth.requireExp" (.bool true)) <|
  .entry "APP_AUTH_REQUIRE_ISSUER" (valueOr "auth.requireIssuer" (.bool true)) <|
  .entry "APP_AUTH_REQUIRE_AUDIENCE" (valueOr "auth.requireAudience" (.bool true)) <|
  .entry "APP_AUTH_JWKS_CACHE_TTL_SECONDS" (valueOr "auth.jwksCacheTtl" (.int 300)) <|
  .entry "APP_AUTH_CLOCK_SKEW_SECONDS" (valueOr "auth.clockSkew" (.int 30)) <|
  .entry "APP_AUTH_HTTP_TIMEOUT_SECONDS" (valueOr "auth.httpTimeout" (.int 5)) <|
  .done

def rateLimitLines : Template :=
  .entry "APP_RATE_LIMIT_REQUESTS" (valueOr "rateLimit.requests" (.int 100)) <|
  .entry "APP_RATE_LIMIT_WINDOW_SECONDS" (valueOr "rateLimit.windowSeconds" (.int 60)) <|
  .entry "APP_RATE_LIMIT_KEY_STRATEGY" (valueOr "rateLimit.keyStrategy" (texted "ip")) <|
  .entry "APP_RATE_LIMIT_STORAGE_BACKEND" (valueOr "rateLimit.storageBackend" (texted "redis")) <|
  .entry "APP_RATE_LIMIT_TRUST_PROXY_HEADERS" (valueOr "rateLimit.trustProxyHeaders" (.bool true)) <|
  .done

def cacheLines : Template :=
  .entry "APP_CACHE_BACKEND" (valueOr "cache.backend" (texted "redis")) <|
  .entry "APP_CACHE_DEFAULT_TTL_SECONDS" (valueOr "cache.defaultTtl" (.int 300)) <|
  .entry "APP_CACHE_MAX_ENTRIES" (valueOr "cache.maxEntries" (.int 10000)) <|
  .entry "APP_CACHE_KEY_PREFIX" (valueOr "cache.keyPrefix" (texted "cache:")) <|
  .entry "APP_CACHE_REDIS_DB" (valueOr "cache.redisDb" (.int 1)) <|
  .done

def redisLines : Template :=
  .entry "APP_REDIS_HOST" (value "redis.host") <|
  .entry "APP_REDIS_PORT" (valueOr "redis.port" (.int 6379)) <|
  .entry "APP_REDIS_DB" (valueOr "redis.db" (.int 0)) <|
  .done

def tracingLines : Template :=
  .entry "APP_OTEL_SERVICE_NAME" { path := "tracing.serviceName", fallback := some (.values "app.name") } <|
  .entry "APP_OTEL_SERVICE_VERSION" { path := "tracing.serviceVersion", fallback := some .appVersion } <|
  .entry "APP_OTEL_ENVIRONMENT" (valueOr "tracing.environment" (texted "production")) <|
  .entry "APP_OTEL_EXPORTER_OTLP_ENDPOINT" (value "tracing.otlpEndpoint") <|
  .block (.values "tracing.otlpHeaders")
    (.entry "APP_OTEL_EXPORTER_OTLP_HEADERS" (value "tracing.otlpHeaders") .done) .done <|
  .done

def hstsMaxAge : Pipeline :=
  { path := "security.hstsMaxAge", fallback := some (.literal (.int 31536000)), conversion := .int64 }

def maxRequestBodyBytes : Pipeline :=
  { path := "security.maxRequestBodyBytes", fallback := some (.literal (.int 5242880)), conversion := .int64 }

def corsLines : Template :=
  .entry "APP_CORS_ALLOWED_ORIGINS" (valueOr "cors.allowedOrigins" (texted "[]")) <|
  .entry "APP_CORS_ALLOW_CREDENTIALS" (valueOr "cors.allowCredentials" (.bool false)) <|
  .done

-- fastapi-chassis.containerPort
def containerPort : Pipeline :=
  { path := "app.port", fallback := some (.literal (.int 8000)), conversion := .printed }

def configMap : Template :=
  .entry "APP_APP_NAME" (value "app.name") <|
  .entry "APP_APP_VERSION" { path := "app.version", fallback := some .appVersion } <|
  .entry "APP_DEBUG" (valueOr "app.debug" (.bool false)) <|
  .constant "APP_HOST" "\"0.0.0.0\"" <|
  .entry "APP_PORT" containerPort <|
  .entry "APP_LOG_LEVEL" (valueOr "app.logLevel" (texted "INFO")) <|
  .entry "APP_LOG_FORMAT" (valueOr "app.logFormat" (texted "json")) <|
  .entry "APP_REQUEST_TIMEOUT" (valueOr "app.requestTimeout" (.int 30)) <|
  .entry "APP_HEALTH_CHECK_PATH" (valueOr "app.healthCheckPath" (texted "/healthcheck")) <|
  .entry "APP_READINESS_CHECK_PATH" (valueOr "app.readinessCheckPath" (texted "/ready")) <|
  .entry "APP_READINESS_INCLUDE_DETAILS" (valueOr "app.readinessIncludeDetails" (.bool false)) <|
  .entry "APP_DATABASE_BACKEND" (valueOr "database.backend" (texted "postgres")) <|
  .block (.eq databaseBackend (.literal (texted "postgres"))) postgresLines .done <|
  .block (.eq databaseBackend (.literal (texted "sqlite"))) sqliteLines .done <|
  .entry "APP_DATABASE_POOL_SIZE" (valueOr "database.poolSize" (.int 5)) <|
  .entry "APP_DATABASE_MAX_OVERFLOW" (valueOr "database.maxOverflow" (.int 10)) <|
  .entry "APP_DATABASE_POOL_PRE_PING" (valueOr "database.poolPrePing" (.bool true)) <|
  .entry "APP_DATABASE_CONNECT_TIMEOUT_SECONDS" (valueOr "database.connectTimeout" (.int 5)) <|
  .entry "APP_DATABASE_HEALTH_TIMEOUT_SECONDS" (valueOr "database.healthTimeout" (.int 2)) <|
  .entry "RUN_DB_MIGRATIONS" (valueOr "database.runMigrations" (.bool false)) <|
  .entry "UVICORN_WORKERS" (valueOr "app.workers" (.int 1)) <|
  .entry "UVICORN_FORWARDED_ALLOW_IPS" (valueOr "app.forwardedAllowIps" (texted "*")) <|
  .entry "APP_AUTH_ENABLED" (valueOr "auth.enabled" (.bool false)) <|
  .block (.values "auth.enabled") authLines .done <|
  .entry "APP_RATE_LIMIT_ENABLED" (valueOr "rateLimit.enabled" (.bool false)) <|
  .block (.values "rateLimit.enabled") rateLimitLines .done <|
  .entry "APP_CACHE_ENABLED" (valueOr "cache.enabled" (.bool false)) <|
  .block (.values "cache.enabled") cacheLines .done <|
  .block (.or (.values "rateLimit.enabled") (.values "cache.enabled")) redisLines .done <|
  .entry "APP_METRICS_ENABLED" (valueOr "metrics.enabled" (.bool true)) <|
  .entry "APP_METRICS_PREFIX" (valueOr "metrics.prefix" (texted "http")) <|
  .entry "APP_OTEL_ENABLED" (valueOr "tracing.enabled" (.bool false)) <|
  .block (.values "tracing.enabled") tracingLines .done <|
  .entry "APP_SECURITY_HEADERS_ENABLED" (valueOr "security.headersEnabled" (.bool true)) <|
  .entry "APP_SECURITY_HSTS_ENABLED" (valueOr "security.hstsEnabled" (.bool true)) <|
  .entry "APP_SECURITY_HSTS_MAX_AGE_SECONDS" hstsMaxAge <|
  .entry "APP_MAX_REQUEST_BODY_BYTES" maxRequestBodyBytes <|
  .block (.values "cors") corsLines .done <|
  .block (.values "security.trustedHosts") (.entry "APP_TRUSTED_HOSTS" (value "security.trustedHosts") .done) .done <|
  .entry "APP_DOCS_ENABLED" (valueOr "app.docsEnabled" (.bool false)) <|
  .entry "APP_REDOC_ENABLED" (valueOr "app.redocEnabled" (.bool false)) <|
  .entry "APP_OPENAPI_ENABLED" (valueOr "app.openapiEnabled" (.bool false)) <|
  .each "extraEnv" <|
  .done

end Chassis.Chart
