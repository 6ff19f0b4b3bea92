import Chassis.AuthSettings
import Chassis.Urls

set_option autoImplicit false

namespace Chassis.Connections

open Text Urls
open Auth (startsWith)

inductive DatabaseBackend where
  | sqlite
  | postgres
  | custom
deriving DecidableEq, Repr

inductive StorageBackend where
  | memory
  | redis
deriving DecidableEq, Repr

structure Settings where
  databaseBackend : DatabaseBackend := .sqlite
  databaseSqlitePath : Str := "./data/app.db".toList
  databasePostgresHost : Str := "postgres".toList
  databasePostgresPort : Nat := 5432
  databasePostgresName : Str := "fastapi_chassis".toList
  databasePostgresUser : Str := "fastapi".toList
  databasePostgresPassword : Str := []
  databaseUrl : Str := []
  alembicDatabaseUrl : Str := []
  rateLimitStorageUrl : Str := []
  rateLimitStorageBackend : StorageBackend := .memory
  redisHost : Str := "redis".toList
  redisPort : Nat := 6379
  redisDb : Nat := 0
  redisPassword : Str := []
  cacheBackend : StorageBackend := .memory
  cacheRedisDb : Nat := 1
  cacheStorageUrl : Str := []

-- text.replace(old, new, 1)
def replaceFirst (old new : Str) : Str → Str
  | [] => if old = [] then new else []
  | c :: rest =>
      if startsWith old (c :: rest) then new ++ (c :: rest).drop old.length else c :: replaceFirst old new rest

def deriveAlembicDatabaseUrl (databaseUrl : Str) : Except Str Str :=
  if startsWith "sqlite+aiosqlite://".toList databaseUrl then
    .ok (replaceFirst "sqlite+aiosqlite://".toList "sqlite://".toList databaseUrl)
  else if startsWith "postgresql+asyncpg://".toList databaseUrl then
    .ok (replaceFirst "postgresql+asyncpg://".toList "postgresql+psycopg://".toList databaseUrl)
  else .error "APP_ALEMBIC_DATABASE_URL must be set explicitly for this database URL".toList

def deriveDatabaseUrl (settings : Settings) : Except Str Str :=
  match settings.databaseBackend with
  | .sqlite => .ok ("sqlite+aiosqlite:///".toList ++ settings.databaseSqlitePath)
  | .postgres =>
      if settings.databasePostgresPassword = [] then
        .error "APP_DATABASE_POSTGRES_PASSWORD must be set when APP_DATABASE_BACKEND=postgres".toList
      else
        .ok ("postgresql+asyncpg://".toList ++ settings.databasePostgresUser ++ ':' :: settings.databasePostgresPassword ++
          '@' :: settings.databasePostgresHost ++ ':' :: natText settings.databasePostgresPort ++
          '/' :: settings.databasePostgresName)
  | .custom => .error "APP_DATABASE_URL must be set when APP_DATABASE_BACKEND=custom".toList

def buildRedisUrl (host : Str) (port db : Nat) (password : Str) : Str :=
  if password ≠ [] then
    "redis://:".toList ++ password ++ '@' :: host ++ ':' :: natText port ++ '/' :: natText db
  else "redis://".toList ++ host ++ ':' :: natText port ++ '/' :: natText db

def resolveDatabaseDefaults (settings : Settings) : Except Str Settings := do
  let databaseUrl ← if settings.databaseUrl = [] then deriveDatabaseUrl settings else .ok settings.databaseUrl
  let alembicDatabaseUrl ←
    if settings.alembicDatabaseUrl = [] then deriveAlembicDatabaseUrl databaseUrl else .ok settings.alembicDatabaseUrl
  .ok { settings with databaseUrl := databaseUrl, alembicDatabaseUrl := alembicDatabaseUrl }

def resolveRateLimitStorageDefaults (settings : Settings) : Settings :=
  if settings.rateLimitStorageUrl ≠ [] ∨ settings.rateLimitStorageBackend ≠ .redis then settings
  else
    { settings with
      rateLimitStorageUrl := buildRedisUrl settings.redisHost settings.redisPort settings.redisDb settings.redisPassword }

def resolveCacheStorageDefaults (settings : Settings) : Settings :=
  if settings.cacheStorageUrl ≠ [] ∨ settings.cacheBackend ≠ .redis then settings
  else
    { settings with
      cacheStorageUrl :=
        buildRedisUrl settings.redisHost settings.redisPort settings.cacheRedisDb settings.redisPassword }

-- The URL parses back to the configured parts; ports and indexes as the decimal
-- text of the number.
def CarriesDatabase (settings : Settings) (url : Str) : Prop :=
  ∃ parsed, parseUrl url = some parsed ∧
    parsed.authority =
      ⟨some settings.databasePostgresUser, some settings.databasePostgresPassword, settings.databasePostgresHost,
        some (natText settings.databasePostgresPort)⟩ ∧
    parsed.path = '/' :: settings.databasePostgresName

-- No password and an empty one are the same setting.
def CarriesRedis (settings : Settings) (db : Nat) (url : Str) : Prop :=
  ∃ parsed, parseUrl url = some parsed ∧ parsed.authority.password.getD [] = settings.redisPassword ∧
    parsed.authority.host = settings.redisHost ∧ parsed.authority.port = some (natText settings.redisPort) ∧
    parsed.path = '/' :: natText db

def SafeDatabase (settings : Settings) : Prop :=
  SafeUserinfo settings.databasePostgresUser settings.databasePostgresPassword ∧
    SafeHostinfo settings.databasePostgresHost ∧ ∀ c ∈ settings.databasePostgresName, inPath c = true

def SafeRedis (settings : Settings) : Prop :=
  (∀ c ∈ settings.redisPassword, inAuthority c = true) ∧ NoEscapes settings.redisPassword ∧
    SafeHostinfo settings.redisHost

theorem nat_text_digits (n : Nat) : ∀ c ∈ natText n, c.isDigit = true :=
  fun _ member => Nat.isDigit_of_mem_toDigits (by decide) (by decide) member

theorem written_database_iff (settings : Settings) (scheme : Str) (plain : ':' ∉ scheme) :
    CarriesDatabase settings
        (writeUrl scheme (some (settings.databasePostgresUser, settings.databasePostgresPassword))
          settings.databasePostgresHost (natText settings.databasePostgresPort) ('/' :: settings.databasePostgresName)) ↔
      SafeDatabase settings := by
  have digits := nat_text_digits settings.databasePostgresPort
  constructor
  · rintro ⟨parsed, read, authority, path⟩
    have text : ∃ rest, writeUrl scheme (some (settings.databasePostgresUser, settings.databasePostgresPassword))
        settings.databasePostgresHost (natText settings.databasePostgresPort) ('/' :: settings.databasePostgresName) =
          scheme ++ "://".toList ++ rest := ⟨_, by simp [writeUrl]; rfl⟩
    obtain ⟨rest, same⟩ := text
    obtain ⟨hostSafe, pathPlain⟩ := parsed_host_safe scheme plain rest parsed (same ▸ read)
    rw [authority] at hostSafe
    rw [path] at pathPlain
    refine ⟨?_, hostSafe, fun c member => pathPlain c (by simp [member])⟩
    refine written_userinfo_safe scheme plain _ _ _ digits _ _ parsed read ?_ ?_ ?_ ?_
    · intro user named
      rw [authority] at named
      cases named
      exact Nat.le_refl _
    · rw [authority]
    · rw [authority]
    · rw [authority]
  · rintro ⟨userinfo, hostSafe, namePlain⟩
    refine ⟨_, parse_written scheme plain _ _ _ digits _ ?_ hostSafe namePlain, rfl, rfl⟩
    intro user password same
    cases same
    exact userinfo

theorem redis_scheme_plain : ':' ∉ "redis".toList := by simp

theorem build_redis_url_written (host : Str) (port db : Nat) (password : Str) :
    buildRedisUrl host port db password =
      writeUrl "redis".toList (if password ≠ [] then some ([], password) else none) host (natText port)
        ('/' :: natText db) := by
  unfold buildRedisUrl
  by_cases given : password ≠ []
  · rw [if_pos given, if_pos given]
    simp [writeUrl, writeUserinfo]
  · rw [if_neg given, if_neg given]
    simp [writeUrl, writeUserinfo]

theorem safe_secret_userinfo (password : Str) (plain : ∀ c ∈ password, inAuthority c = true) (escapes : NoEscapes password) :
    SafeUserinfo [] password :=
  ⟨by simp, by simp, plain, no_escapes_nil, escapes⟩

theorem index_in_path (db : Nat) : ∀ c ∈ natText db, inPath c = true := by
  intro c member
  have inside := (digits_in_authority (natText db) (nat_text_digits db)).1 c member
  simp only [inAuthority, decide_eq_true_eq] at inside
  exact decide_eq_true inside.2

theorem carries_redis_iff (settings : Settings) (db : Nat) :
    CarriesRedis settings db (buildRedisUrl settings.redisHost settings.redisPort db settings.redisPassword) ↔
      SafeRedis settings := by
  have digits := nat_text_digits settings.redisPort
  rw [build_redis_url_written]
  constructor
  · rintro ⟨parsed, read, password, host, port, path⟩
    obtain ⟨rest, same⟩ : ∃ rest, writeUrl "redis".toList
        (if settings.redisPassword ≠ [] then some ([], settings.redisPassword) else none) settings.redisHost
        (natText settings.redisPort) ('/' :: natText db) = "redis".toList ++ "://".toList ++ rest := by
      simp only [writeUrl, List.append_assoc]
      exact ⟨_, rfl⟩
    obtain ⟨hostSafe, _⟩ := parsed_host_safe "redis".toList redis_scheme_plain rest parsed (same ▸ read)
    rw [host] at hostSafe
    by_cases given : settings.redisPassword ≠ []
    · rw [if_pos given] at read
      have secret : parsed.authority.password = some settings.redisPassword := by
        cases found : parsed.authority.password with
        | none =>
            rw [found] at password
            exact absurd password.symm given
        | some text =>
            rw [found] at password
            exact congrArg some password
      have safe := written_userinfo_safe "redis".toList redis_scheme_plain _ _ _ digits [] _ parsed read
        (fun text _ => Nat.zero_le _) secret host port
      exact ⟨safe.passwordPlain, safe.passwordEscapes, hostSafe⟩
    · rw [SafeRedis, not_not.mp given]
      exact ⟨by simp, no_escapes_nil, hostSafe⟩
  · rintro ⟨plain, escapes, hostSafe⟩
    refine ⟨_, parse_written "redis".toList redis_scheme_plain _ _ _ digits _ ?_ hostSafe (index_in_path db), ?_, rfl, rfl, rfl⟩
    · intro user password same
      by_cases given : settings.redisPassword ≠ []
      · rw [if_pos given] at same
        cases same
        exact safe_secret_userinfo _ plain escapes
      · rw [if_neg given] at same
        cases same
    · by_cases given : settings.redisPassword ≠ []
      · rw [if_pos given]
        rfl
      · rw [if_neg given, not_not.mp given]
        rfl

theorem replace_first_start (old new rest : Str) (nonempty : old ≠ []) : replaceFirst old new (old ++ rest) = new ++ rest := by
  obtain ⟨c, tail, same⟩ := List.exists_cons_of_ne_nil nonempty
  subst same
  have starts : startsWith (c :: tail) (c :: (tail ++ rest)) = true := by
    simp [startsWith]
  simp only [List.cons_append, replaceFirst]
  rw [if_pos starts]
  simp

theorem written_starts (scheme : Str) (userinfo : Option (Str × Str)) (host port path : Str) :
    ∃ rest, writeUrl scheme userinfo host port path = scheme ++ "://".toList ++ rest ∧
      ∀ other, writeUrl other userinfo host port path = other ++ "://".toList ++ rest := by
  simp only [writeUrl, List.append_assoc]
  exact ⟨_, rfl, fun _ => rfl⟩

theorem alembic_url_written (userinfo : Option (Str × Str)) (host port path : Str) :
    deriveAlembicDatabaseUrl (writeUrl "postgresql+asyncpg".toList userinfo host port path) =
      .ok (writeUrl "postgresql+psycopg".toList userinfo host port path) := by
  obtain ⟨rest, whole, others⟩ := written_starts "postgresql+asyncpg".toList userinfo host port path
  have prefixed : "postgresql+asyncpg".toList ++ "://".toList = "postgresql+asyncpg://".toList := by simp
  have replaced : "postgresql+psycopg".toList ++ "://".toList = "postgresql+psycopg://".toList := by simp
  have other : startsWith "sqlite+aiosqlite://".toList ("postgresql+asyncpg://".toList ++ rest) = false := by
    simp [startsWith, List.isPrefixOf]
  have starts : startsWith "postgresql+asyncpg://".toList ("postgresql+asyncpg://".toList ++ rest) = true :=
    List.isPrefixOf_iff_prefix.mpr (List.prefix_append _ rest)
  rw [whole, others "postgresql+psycopg".toList, prefixed, replaced, deriveAlembicDatabaseUrl, other,
    if_neg Bool.false_ne_true, if_pos starts, replace_first_start _ _ rest (by simp)]

theorem derived_url_written (settings : Settings) (backend : settings.databaseBackend = .postgres)
    (given : settings.databasePostgresPassword ≠ []) :
    deriveDatabaseUrl settings =
      .ok (writeUrl "postgresql+asyncpg".toList (some (settings.databasePostgresUser, settings.databasePostgresPassword))
        settings.databasePostgresHost (natText settings.databasePostgresPort) ('/' :: settings.databasePostgresName)) := by
  rw [deriveDatabaseUrl, backend]
  simp only
  rw [if_neg given]
  simp [writeUrl, writeUserinfo]

theorem resolve_postgres (settings : Settings) (backend : settings.databaseBackend = .postgres)
    (given : settings.databasePostgresPassword ≠ []) (underived : settings.databaseUrl = [])
    (alembicUnderived : settings.alembicDatabaseUrl = []) :
    resolveDatabaseDefaults settings =
      .ok { settings with
        databaseUrl :=
          writeUrl "postgresql+asyncpg".toList (some (settings.databasePostgresUser, settings.databasePostgresPassword))
            settings.databasePostgresHost (natText settings.databasePostgresPort) ('/' :: settings.databasePostgresName)
        alembicDatabaseUrl :=
          writeUrl "postgresql+psycopg".toList (some (settings.databasePostgresUser, settings.databasePostgresPassword))
            settings.databasePostgresHost (natText settings.databasePostgresPort) ('/' :: settings.databasePostgresName) } := by
  have derived := derived_url_written settings backend given
  have alembic := alembic_url_written (some (settings.databasePostgresUser, settings.databasePostgresPassword))
    settings.databasePostgresHost (natText settings.databasePostgresPort) ('/' :: settings.databasePostgresName)
  rw [resolveDatabaseDefaults, if_pos underived, derived]
  simp only [bind, Except.bind]
  rw [if_pos alembicUnderived, alembic]

theorem postgres_accepted (settings resolved : Settings) (backend : settings.databaseBackend = .postgres)
    (underived : settings.databaseUrl = []) (accepted : resolveDatabaseDefaults settings = .ok resolved) :
    settings.databasePostgresPassword ≠ [] := by
  intro absent
  simp [resolveDatabaseDefaults, underived, deriveDatabaseUrl, backend, absent, bind, Except.bind] at accepted

theorem derived_urls_carry_iff (settings : Settings) :
    (∀ resolved, settings.databaseBackend = .postgres → settings.databaseUrl = [] → settings.alembicDatabaseUrl = [] →
        resolveDatabaseDefaults settings = .ok resolved →
        (CarriesDatabase settings resolved.databaseUrl ↔ SafeDatabase settings) ∧
          (CarriesDatabase settings resolved.alembicDatabaseUrl ↔ SafeDatabase settings)) ∧
      (settings.rateLimitStorageBackend = .redis → settings.rateLimitStorageUrl = [] →
        (CarriesRedis settings settings.redisDb (resolveRateLimitStorageDefaults settings).rateLimitStorageUrl ↔
          SafeRedis settings)) ∧
      (settings.cacheBackend = .redis → settings.cacheStorageUrl = [] →
        (CarriesRedis settings settings.cacheRedisDb (resolveCacheStorageDefaults settings).cacheStorageUrl ↔
          SafeRedis settings)) := by
  refine ⟨?_, ?_, ?_⟩
  · intro resolved backend underived alembicUnderived accepted
    have given := postgres_accepted settings resolved backend underived accepted
    rw [resolve_postgres settings backend given underived alembicUnderived] at accepted
    cases accepted
    exact ⟨written_database_iff settings _ (by simp), written_database_iff settings _ (by simp)⟩
  · intro backend underived
    rw [resolveRateLimitStorageDefaults, if_neg (by simp [backend, underived])]
    exact carries_redis_iff settings settings.redisDb
  · intro backend underived
    rw [resolveCacheStorageDefaults, if_neg (by simp [backend, underived])]
    exact carries_redis_iff settings settings.cacheRedisDb

def postgresSettings (password : Str) : Settings :=
  { databaseBackend := .postgres, databasePostgresPassword := password, rateLimitStorageBackend := .redis
    cacheBackend := .redis, redisPassword := password }

def slashSettings : Settings := postgresSettings "pass/word".toList

theorem derived_urls_carry_iff_slash :
    (∃ resolved, resolveDatabaseDefaults slashSettings = .ok resolved ∧
        (CarriesDatabase slashSettings resolved.databaseUrl ↔ SafeDatabase slashSettings) ∧
        (CarriesDatabase slashSettings resolved.alembicDatabaseUrl ↔ SafeDatabase slashSettings)) ∧
      (CarriesRedis slashSettings 0 (resolveRateLimitStorageDefaults slashSettings).rateLimitStorageUrl ↔
        SafeRedis slashSettings) ∧
      (CarriesRedis slashSettings 1 (resolveCacheStorageDefaults slashSettings).cacheStorageUrl ↔
        SafeRedis slashSettings) := by
  obtain ⟨database, rateLimit, cache⟩ := derived_urls_carry_iff slashSettings
  have accepted := resolve_postgres slashSettings rfl (by simp [slashSettings, postgresSettings]) rfl rfl
  exact ⟨⟨_, accepted, database _ rfl rfl rfl accepted⟩, rateLimit rfl rfl, cache rfl rfl⟩

theorem slash_password_lost :
    (¬ ∀ settings resolved, settings.databaseBackend = .postgres → settings.databaseUrl = [] →
        settings.alembicDatabaseUrl = [] → settings.databasePostgresUser ≠ [] → settings.databasePostgresPassword ≠ [] →
        settings.databasePostgresHost ≠ [] → settings.databasePostgresName ≠ [] →
        resolveDatabaseDefaults settings = .ok resolved →
        CarriesDatabase settings resolved.databaseUrl ∧ CarriesDatabase settings resolved.alembicDatabaseUrl) ∧
      ¬ ∀ settings, settings.rateLimitStorageBackend = .redis → settings.rateLimitStorageUrl = [] →
        CarriesRedis settings settings.redisDb (resolveRateLimitStorageDefaults settings).rateLimitStorageUrl := by
  have slash : '/' ∈ "pass/word".toList := by simp
  constructor
  · intro claim
    have accepted := resolve_postgres slashSettings rfl (by simp [slashSettings, postgresSettings]) rfl rfl
    have carried := (claim slashSettings _ rfl rfl rfl (by simp [slashSettings, postgresSettings])
      (by simp [slashSettings, postgresSettings]) (by simp [slashSettings, postgresSettings])
      (by simp [slashSettings, postgresSettings]) accepted).1
    have safe := (written_database_iff slashSettings "postgresql+asyncpg".toList (by simp)).mp carried
    exact absurd (safe.1.passwordPlain '/' slash) (by decide)
  · intro claim
    have carried := claim slashSettings rfl rfl
    rw [resolveRateLimitStorageDefaults, if_neg (by simp [slashSettings, postgresSettings])] at carried
    have safe := (carries_redis_iff slashSettings slashSettings.redisDb).mp carried
    exact absurd (safe.1 '/' slash) (by decide)

end Chassis.Connections
