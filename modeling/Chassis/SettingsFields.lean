import Chassis.ConnectionUrls
import Chassis.JsonText
import Chassis.Literals

set_option autoImplicit false

namespace Chassis.Configuration

open JsonText Text

abbrev Environment := Str → Option Str

-- The alternatives of a pattern ^(a|b)$.
inductive FieldKind where
  | bool
  | int (ge le : Option Int)
  | str (pattern : Option (List Str))
  | strings
deriving DecidableEq

def FieldKind.Value : FieldKind → Type
  | .bool => Bool
  | .int _ _ => Int
  | .str _ => Str
  | .strings => List Str

-- The JSON reader of the interpreter and what Pydantic takes for an int: the
-- decimal text of a number, and no exponent.
structure Parsing where
  interpreter : Interpreter
  int : Str → Option Int
  decimal : ∀ n : Int, n.natAbs ≤ 2 ^ 63 → int (intText n) = some n
  exponent : ∀ text, 'e' ∈ text → int text = none

def falseWords : List Str := ["0".toList, "off".toList, "f".toList, "false".toList, "n".toList, "no".toList]
def trueWords : List Str := ["1".toList, "on".toList, "t".toList, "true".toList, "y".toList, "yes".toList]

def parseBool (text : Str) : Option Bool :=
  let word := text.map Char.toLower
  if word ∈ falseWords then some false else if word ∈ trueWords then some true else none

def inRange (ge le : Option Int) (n : Int) : Bool := ge.all (· ≤ n) && le.all (n ≤ ·)

def stringItem : Json → Option Str
  | .str text => some text
  | _ => none

section Reading

variable (parsing : Parsing)

-- A list[str] field is JSON in its variable.
def parseStrings (text : Str) : Option (List Str) :=
  match loads parsing.interpreter text with
  | .ok (.array items) => items.mapM stringItem
  | _ => none

def parse : (kind : FieldKind) → Str → Option kind.Value
  | .bool, text => parseBool text
  | .int ge le, text => (parsing.int text).filter (inRange ge le)
  | .str none, text => some text
  | .str (some alternatives), text => if text ∈ alternatives then some text else none
  | .strings, text => parseStrings parsing text

end Reading

structure Field (kind : FieldKind) where
  name : Str
  default : kind.Value

-- env_prefix="APP_"; the variables are written in capitals.
def Field.envName {kind : FieldKind} (field : Field kind) : Str := "APP_".toList ++ field.name.map Char.toUpper

def Field.read {kind : FieldKind} (field : Field kind) (parsing : Parsing) (environment : Environment) :
    Option kind.Value :=
  match environment field.envName with
  | none => some field.default
  | some text => parse parsing kind text

theorem read_unset {kind : FieldKind} (field : Field kind) (parsing : Parsing) (environment : Environment)
    (unset : environment field.envName = none) : field.read parsing environment = some field.default := by
  rw [Field.read, unset]

theorem read_set {kind : FieldKind} (field : Field kind) (parsing : Parsing) (environment : Environment) (text : Str)
    (set : environment field.envName = some text) : field.read parsing environment = parse parsing kind text := by
  rw [Field.read, set]

theorem parse_decimal (parsing : Parsing) (ge le : Option Int) (n : Int) (small : n.natAbs ≤ 2 ^ 63) :
    parse parsing (.int ge le) (intText n) = (some n).filter (inRange ge le) := by
  rw [parse, parsing.decimal n small]
  rfl

theorem parse_exponent (parsing : Parsing) (ge le : Option Int) (text : Str) (exponent : 'e' ∈ text) :
    parse parsing (.int ge le) text = none := by
  rw [parse, parsing.exponent text exponent]
  rfl

def rateLimitEnabled : Field .bool := ⟨"rate_limit_enabled".toList, false⟩
def rateLimitRequests : Field (.int (some 1) (some 10000)) := ⟨"rate_limit_requests".toList, (100 : Int)⟩
def rateLimitWindowSeconds : Field (.int (some 1) (some 3600)) := ⟨"rate_limit_window_seconds".toList, (60 : Int)⟩
def rateLimitKeyStrategy : Field (.str (some ["ip".toList, "authorization".toList])) :=
  ⟨"rate_limit_key_strategy".toList, "ip".toList⟩
def rateLimitStorageUrl : Field (.str none) := ⟨"rate_limit_storage_url".toList, []⟩
def rateLimitStorageBackend : Field (.str (some ["memory".toList, "redis".toList])) :=
  ⟨"rate_limit_storage_backend".toList, "memory".toList⟩
def redisHost : Field (.str none) := ⟨"redis_host".toList, "redis".toList⟩
def redisPort : Field (.int (some 1) (some 65535)) := ⟨"redis_port".toList, (6379 : Int)⟩
def redisDb : Field (.int (some 0) (some 15)) := ⟨"redis_db".toList, (0 : Int)⟩
def redisPassword : Field (.str none) := ⟨"redis_password".toList, []⟩
def rateLimitTrustProxyHeaders : Field .bool := ⟨"rate_limit_trust_proxy_headers".toList, false⟩
def rateLimitProxyHeaders : Field .strings :=
  ⟨"rate_limit_proxy_headers".toList, ["X-Forwarded-For".toList, "X-Real-IP".toList]⟩
def rateLimitTrustedProxies : Field .strings := ⟨"rate_limit_trusted_proxies".toList, ([] : List Str)⟩

abbrev AnyField := Σ kind : FieldKind, Field kind

def switch (name : String) (default : Bool) : AnyField := ⟨.bool, name.toList, default⟩
def whole (name : String) (ge le : Option Int) (default : Int) : AnyField := ⟨.int ge le, name.toList, default⟩
def free (name : String) (default : String) : AnyField := ⟨.str none, name.toList, default.toList⟩
def chosen (name : String) (alternatives : List String) (default : String) : AnyField :=
  ⟨.str (some (alternatives.map String.toList)), name.toList, default.toList⟩
def listed (name : String) (default : List String) : AnyField := ⟨.strings, name.toList, default.map String.toList⟩

-- The fields of Settings that the chart sets, and those of rate limiting.
def settingsFields : List AnyField :=
  [free "app_name" "FastAPI Chassis", free "app_version" "1.0.0", switch "debug" false, switch "docs_enabled" false,
    switch "redoc_enabled" false, switch "openapi_enabled" false, free "host" "127.0.0.1",
    whole "port" (some 1) (some 65535) 8000,
    chosen "log_level" ["DEBUG", "INFO", "WARNING", "ERROR", "CRITICAL"] "INFO",
    chosen "log_format" ["text", "json"] "text",
    chosen "database_backend" ["sqlite", "postgres", "custom"] "sqlite",
    free "database_sqlite_path" "./data/app.db", free "database_postgres_host" "postgres",
    whole "database_postgres_port" (some 1) (some 65535) 5432, free "database_postgres_name" "fastapi_chassis",
    free "database_postgres_user" "fastapi", whole "database_pool_size" (some 1) (some 100) 5,
    whole "database_max_overflow" (some 0) (some 100) 10, switch "database_pool_pre_ping" true,
    whole "database_connect_timeout_seconds" (some 1) (some 60) 5,
    whole "database_health_timeout_seconds" (some 1) (some 30) 2,
    chosen "database_sqlite_journal_mode" ["wal", "delete", "truncate", "persist", "memory", "off"] "wal",
    chosen "database_sqlite_synchronous" ["off", "normal", "full", "extra"] "normal",
    whole "database_sqlite_busy_timeout" (some 0) (some 60000) 5000, whole "database_sqlite_cache_size" none none (-64000),
    whole "database_sqlite_mmap_size" (some 0) none 0, switch "database_sqlite_foreign_keys" true,
    switch "auth_enabled" false, free "auth_jwt_issuer" "", free "auth_jwt_audience" "",
    listed "auth_jwt_algorithms" ["HS256"], free "auth_jwks_url" "", switch "auth_require_exp" true,
    switch "auth_require_issuer" true, switch "auth_require_audience" true,
    whole "auth_jwks_cache_ttl_seconds" (some 5) (some 86400) 300, whole "auth_clock_skew_seconds" (some 0) (some 300) 30,
    whole "auth_http_timeout_seconds" (some 1) (some 60) 5,
    listed "cors_allowed_origins" ["http://localhost:3000", "http://127.0.0.1:3000"],
    switch "cors_allow_credentials" false, whole "request_timeout" (some 1) (some 300) 30,
    whole "max_request_body_bytes" (some 1024) (some 104857600) 5242880,
    listed "trusted_hosts" ["localhost", "127.0.0.1", "test", "testserver"], switch "security_headers_enabled" true,
    switch "security_hsts_enabled" false, whole "security_hsts_max_age_seconds" (some 0) (some 63072000) 31536000,
    switch "metrics_enabled" false, free "metrics_prefix" "http", switch "otel_enabled" false,
    free "otel_service_name" "", free "otel_service_version" "", free "otel_environment" "development",
    free "otel_exporter_otlp_endpoint" "http://localhost:4318/v1/traces", free "otel_exporter_otlp_headers" "",
    free "health_check_path" "/healthcheck", free "readiness_check_path" "/ready",
    switch "readiness_include_details" false, ⟨_, rateLimitEnabled⟩, ⟨_, rateLimitRequests⟩,
    ⟨_, rateLimitWindowSeconds⟩, ⟨_, rateLimitKeyStrategy⟩, ⟨_, rateLimitStorageUrl⟩, ⟨_, rateLimitStorageBackend⟩,
    ⟨_, redisHost⟩, ⟨_, redisPort⟩, ⟨_, redisDb⟩, ⟨_, redisPassword⟩, ⟨_, rateLimitTrustProxyHeaders⟩,
    ⟨_, rateLimitProxyHeaders⟩, ⟨_, rateLimitTrustedProxies⟩, switch "cache_enabled" false,
    chosen "cache_backend" ["memory", "redis"] "memory", whole "cache_default_ttl_seconds" (some 1) (some 86400) 300,
    whole "cache_max_entries" (some 1) (some 1000000) 10000, free "cache_key_prefix" "cache:",
    whole "cache_redis_db" (some 0) (some 15) 1]

-- What Pydantic would check of a default if it were given in a variable.
def admits : (kind : FieldKind) → kind.Value → Bool
  | .bool, _ => true
  | .int ge le, n => inRange ge le n
  | .str none, _ => true
  | .str (some alternatives), text => List.contains alternatives (show Str from text)
  | .strings, _ => true

theorem defaults_admitted : ∀ field ∈ settingsFields, admits field.1 field.2.default = true := by
  decide +kernel

-- A number for each name: the kernel compares numbers faster than texts.
def nameCode (name : Str) : Nat := name.foldl (fun code c => code * 256 + c.toNat) 0

theorem names_distinct : (settingsFields.map (fun field => field.2.envName)).Nodup := by
  unfold settingsFields free switch whole chosen listed rateLimitEnabled rateLimitRequests rateLimitWindowSeconds
    rateLimitKeyStrategy rateLimitStorageUrl rateLimitStorageBackend redisHost redisPort redisDb redisPassword
    rateLimitTrustProxyHeaders rateLimitProxyHeaders rateLimitTrustedProxies
  rw [Literals.to_list_bytewise]
  refine List.Nodup.of_map nameCode ?_
  rw [List.map_map]
  decide +kernel

structure RateLimitSettings where
  rateLimitEnabled : Bool
  rateLimitRequests : Int
  rateLimitWindowSeconds : Int
  rateLimitKeyStrategy : Str
  rateLimitTrustProxyHeaders : Bool
  rateLimitProxyHeaders : List Str
  rateLimitTrustedProxies : List Str
  storage : Connections.Settings

def storageBackend (text : Str) : Connections.StorageBackend := if text = "redis".toList then .redis else .memory

-- The fields of Settings that rate limiting reads, before its model validators.
def readRateLimitSettings (parsing : Parsing) (environment : Environment) : Option RateLimitSettings := do
  let enabled ← rateLimitEnabled.read parsing environment
  let requests ← rateLimitRequests.read parsing environment
  let windowSeconds ← rateLimitWindowSeconds.read parsing environment
  let keyStrategy ← rateLimitKeyStrategy.read parsing environment
  let storageUrl ← rateLimitStorageUrl.read parsing environment
  let backend ← rateLimitStorageBackend.read parsing environment
  let host ← redisHost.read parsing environment
  let port ← redisPort.read parsing environment
  let db ← redisDb.read parsing environment
  let password ← redisPassword.read parsing environment
  let trustProxyHeaders ← rateLimitTrustProxyHeaders.read parsing environment
  let proxyHeaders ← rateLimitProxyHeaders.read parsing environment
  let trustedProxies ← rateLimitTrustedProxies.read parsing environment
  some
    { rateLimitEnabled := enabled, rateLimitRequests := requests, rateLimitWindowSeconds := windowSeconds
      rateLimitKeyStrategy := keyStrategy, rateLimitTrustProxyHeaders := trustProxyHeaders
      rateLimitProxyHeaders := proxyHeaders, rateLimitTrustedProxies := trustedProxies
      storage :=
        { rateLimitStorageUrl := storageUrl, rateLimitStorageBackend := storageBackend backend, redisHost := host
          redisPort := Int.toNat port, redisDb := Int.toNat db, redisPassword := password } }

structure ReadFields (parsing : Parsing) (environment : Environment) (settings : RateLimitSettings) : Prop where
  enabled : rateLimitEnabled.read parsing environment = some settings.rateLimitEnabled
  storageUrl : rateLimitStorageUrl.read parsing environment = some settings.storage.rateLimitStorageUrl
  trustProxyHeaders : rateLimitTrustProxyHeaders.read parsing environment = some settings.rateLimitTrustProxyHeaders
  trustedProxies : rateLimitTrustedProxies.read parsing environment = some settings.rateLimitTrustedProxies

theorem read_settings_fields (parsing : Parsing) (environment : Environment) (settings : RateLimitSettings)
    (accepted : readRateLimitSettings parsing environment = some settings) : ReadFields parsing environment settings := by
  obtain ⟨enabled, readEnabled, accepted⟩ := Option.bind_eq_some_iff.mp accepted
  obtain ⟨_, _, accepted⟩ := Option.bind_eq_some_iff.mp accepted
  obtain ⟨_, _, accepted⟩ := Option.bind_eq_some_iff.mp accepted
  obtain ⟨_, _, accepted⟩ := Option.bind_eq_some_iff.mp accepted
  obtain ⟨url, readUrl, accepted⟩ := Option.bind_eq_some_iff.mp accepted
  obtain ⟨_, _, accepted⟩ := Option.bind_eq_some_iff.mp accepted
  obtain ⟨_, _, accepted⟩ := Option.bind_eq_some_iff.mp accepted
  obtain ⟨_, _, accepted⟩ := Option.bind_eq_some_iff.mp accepted
  obtain ⟨_, _, accepted⟩ := Option.bind_eq_some_iff.mp accepted
  obtain ⟨_, _, accepted⟩ := Option.bind_eq_some_iff.mp accepted
  obtain ⟨trust, readTrust, accepted⟩ := Option.bind_eq_some_iff.mp accepted
  obtain ⟨_, _, accepted⟩ := Option.bind_eq_some_iff.mp accepted
  obtain ⟨proxies, readProxies, built⟩ := Option.bind_eq_some_iff.mp accepted
  cases built
  exact ⟨readEnabled, readUrl, readTrust, readProxies⟩

-- storage_url as the builder hands it to the middleware.
def RateLimitSettings.resolvedUrl (settings : RateLimitSettings) : Str :=
  (Connections.resolveRateLimitStorageDefaults settings.storage).rateLimitStorageUrl

theorem build_redis_url_nonempty (host : Str) (port db : Nat) (password : Str) :
    Connections.buildRedisUrl host port db password ≠ [] := by
  unfold Connections.buildRedisUrl
  split <;> simp

theorem resolved_url_empty (settings : RateLimitSettings) :
    settings.resolvedUrl = [] ↔
      settings.storage.rateLimitStorageUrl = [] ∧ settings.storage.rateLimitStorageBackend = .memory := by
  unfold RateLimitSettings.resolvedUrl Connections.resolveRateLimitStorageDefaults
  by_cases kept : settings.storage.rateLimitStorageUrl ≠ [] ∨ settings.storage.rateLimitStorageBackend ≠ .redis
  · rw [if_pos kept]
    cases backend : settings.storage.rateLimitStorageBackend with
    | memory => simp
    | redis =>
        have given : settings.storage.rateLimitStorageUrl ≠ [] := kept.resolve_right (fun other => other backend)
        simp [given]
  · rw [if_neg kept]
    obtain ⟨_, redis⟩ := not_or.mp kept
    rw [not_not.mp redis]
    simp [build_redis_url_nonempty]

def number (digits : Str) : Option Nat :=
  if digits ≠ [] ∧ digits.all Char.isDigit = true then some (Nat.ofDigitChars 10 digits 0) else none

def plainInt : Str → Option Int
  | '-' :: digits => (number digits).map (fun n => -Int.ofNat n)
  | digits => (number digits).map Int.ofNat

theorem number_nat_text (n : Nat) : number (natText n) = some n := by
  have digits : (natText n).all Char.isDigit = true := List.all_eq_true.mpr (Connections.nat_text_digits n)
  have nonempty : natText n ≠ [] := by simp [natText]
  have read : Nat.ofDigitChars 10 (natText n) 0 = n := by simp [natText]
  rw [number, if_pos ⟨nonempty, digits⟩, read]

theorem plain_int_unsigned (digits : Str) (unsigned : digits.head? ≠ some '-') :
    plainInt digits = (number digits).map Int.ofNat := by
  unfold plainInt
  split
  next => simp at unsigned
  next => rfl

theorem plain_int_text (n : Int) : plainInt (intText n) = some n := by
  cases n with
  | ofNat n =>
      have unsigned : (natText n).head? ≠ some '-' := by
        intro sign
        have digit := Connections.nat_text_digits n '-' (List.mem_of_head? sign)
        exact absurd digit (by decide)
      rw [intText, plain_int_unsigned _ unsigned, number_nat_text]
      rfl
  | negSucc n =>
      rw [intText, plainInt, number_nat_text]
      rfl

theorem number_exponent (digits : Str) (exponent : 'e' ∈ digits) : number digits = none := by
  rw [number, if_neg]
  rintro ⟨_, all⟩
  exact absurd (List.all_eq_true.mp all 'e' exponent) (by decide)

theorem plain_int_exponent (text : Str) (exponent : 'e' ∈ text) : plainInt text = none := by
  unfold plainInt
  split
  next digits =>
    have inDigits : 'e' ∈ digits := by simpa using exponent
    rw [number_exponent digits inDigits]
    rfl
  next => rw [number_exponent _ exponent, Option.map_none]

def pydantic (interpreter : Interpreter) : Parsing where
  interpreter := interpreter
  int := plainInt
  decimal := fun n _ => plain_int_text n
  exponent := plain_int_exponent

end Chassis.Configuration
