import Chassis.ConnectionUrls
import Chassis.ProxySettings
import Chassis.Updates

set_option autoImplicit false

namespace Chassis.Resolution

open Connections Text Updates
open Auth (validateAuthSettings raiseIf)
open Chassis.Configuration (plainInterpreter validateTrustedProxyList)
open JsonText (Interpreter)

-- The fields that the model validator reads and derives.
structure Settings where
  appName : Str
  appVersion : Str
  docsEnabled : Bool
  redocEnabled : Bool
  loggingConfigPath : Str
  otelServiceName : Str
  otelServiceVersion : Str
  securityContentSecurityPolicy : Str
  connections : Connections.Settings
  auth : Auth.Settings
  rateLimitTrustProxyHeaders : Bool
  rateLimitTrustedProxies : List Str
  securityTrustProxyProtoHeader : Bool
  securityTrustedProxies : List Str
  corsAllowCredentials : Bool
  corsAllowedOrigins : List Str
  healthCheckPath : Str
  readinessCheckPath : Str

-- modulePath is the directory of the settings module.
def resolveLoggingDefaults (modulePath : Str) (settings : Settings) : Settings :=
  if settings.loggingConfigPath = [] then
    { settings with loggingConfigPath := modulePath ++ "/log_config/config.json".toList }
  else settings

def resolveOtelDefaults (settings : Settings) : Settings :=
  let named := if settings.otelServiceName = [] then { settings with otelServiceName := settings.appName } else settings
  if named.otelServiceVersion = [] then { named with otelServiceVersion := named.appVersion } else named

def defaultCsp : Str := "default-src 'none'; frame-ancestors 'none'".toList

-- directives.insert(-1, directive)
def insertBeforeLast (directive : Str) (directives : List Str) : List Str :=
  directives.dropLast ++ directive :: directives.getLast?.toList

def cspDirectives (redocEnabled : Bool) : List Str :=
  let directives :=
    ["default-src 'none'".toList,
      "connect-src 'self' https://cdn.jsdelivr.net".toList,
      "script-src 'self' 'unsafe-inline' https://cdn.jsdelivr.net".toList,
      "style-src 'self' 'unsafe-inline' https://cdn.jsdelivr.net".toList,
      "img-src 'self' https://fastapi.tiangolo.com".toList,
      "frame-ancestors 'none'".toList]
  if redocEnabled then
    let fonts := directives.modify 3 (fun directive => directive ++ " https://fonts.googleapis.com".toList)
    let images := fonts.modify 4 (fun directive => directive ++ " data: https://cdn.redoc.ly".toList)
    insertBeforeLast "worker-src 'self' blob:".toList
      (insertBeforeLast "font-src 'self' https://fonts.gstatic.com".toList images)
  else directives

def resolveCspForDocs (settings : Settings) : Settings :=
  if ¬ (settings.docsEnabled = true ∨ settings.redocEnabled = true) then settings
  else if settings.securityContentSecurityPolicy ≠ defaultCsp then settings
  else { settings with securityContentSecurityPolicy := join "; ".toList (cspDirectives settings.redocEnabled) }

def validateProxySettings (interpreter : Interpreter) (settings : Settings) : Except Str Unit := do
  validateTrustedProxyList interpreter settings.rateLimitTrustProxyHeaders settings.rateLimitTrustedProxies
    "APP_RATE_LIMIT_TRUSTED_PROXIES".toList "APP_RATE_LIMIT_TRUST_PROXY_HEADERS".toList
  validateTrustedProxyList interpreter settings.securityTrustProxyProtoHeader settings.securityTrustedProxies
    "APP_SECURITY_TRUSTED_PROXIES".toList "APP_SECURITY_TRUST_PROXY_PROTO_HEADER".toList

def validateCorsCredentials (settings : Settings) : Except Str Unit :=
  raiseIf (settings.corsAllowCredentials = true ∧ ['*'] ∈ settings.corsAllowedOrigins)
    ("APP_CORS_ALLOWED_ORIGINS must not contain '*' when " ++
      "APP_CORS_ALLOW_CREDENTIALS=true (browsers ignore such responses)")

def validateHealthPaths (settings : Settings) : Except Str Unit :=
  raiseIf (settings.healthCheckPath = settings.readinessCheckPath)
    "APP_HEALTH_CHECK_PATH and APP_READINESS_CHECK_PATH must be different"

structure Overrides (given resolved : Settings) : Prop where
  loggingConfigPath : given.loggingConfigPath ≠ [] → resolved.loggingConfigPath = given.loggingConfigPath
  otelServiceName : given.otelServiceName ≠ [] → resolved.otelServiceName = given.otelServiceName
  otelServiceVersion : given.otelServiceVersion ≠ [] → resolved.otelServiceVersion = given.otelServiceVersion
  databaseUrl : given.connections.databaseUrl ≠ [] → resolved.connections.databaseUrl = given.connections.databaseUrl
  alembicDatabaseUrl : given.connections.alembicDatabaseUrl ≠ [] →
    resolved.connections.alembicDatabaseUrl = given.connections.alembicDatabaseUrl
  rateLimitStorageUrl : given.connections.rateLimitStorageUrl ≠ [] →
    resolved.connections.rateLimitStorageUrl = given.connections.rateLimitStorageUrl
  cacheStorageUrl : given.connections.cacheStorageUrl ≠ [] →
    resolved.connections.cacheStorageUrl = given.connections.cacheStorageUrl
  securityContentSecurityPolicy : given.securityContentSecurityPolicy ≠ defaultCsp →
    resolved.securityContentSecurityPolicy = given.securityContentSecurityPolicy
  untouched : resolved =
    { given with
      loggingConfigPath := resolved.loggingConfigPath
      otelServiceName := resolved.otelServiceName
      otelServiceVersion := resolved.otelServiceVersion
      securityContentSecurityPolicy := resolved.securityContentSecurityPolicy
      connections :=
        { given.connections with
          databaseUrl := resolved.connections.databaseUrl
          alembicDatabaseUrl := resolved.connections.alembicDatabaseUrl
          rateLimitStorageUrl := resolved.connections.rateLimitStorageUrl
          cacheStorageUrl := resolved.connections.cacheStorageUrl } }

structure Filled (settings : Settings) : Prop where
  loggingConfigPath : settings.loggingConfigPath ≠ []
  otelServiceName : settings.appName ≠ [] → settings.otelServiceName ≠ []
  otelServiceVersion : settings.appVersion ≠ [] → settings.otelServiceVersion ≠ []
  databaseUrl : settings.connections.databaseUrl ≠ []
  alembicDatabaseUrl : settings.connections.alembicDatabaseUrl ≠ []
  rateLimitStorageUrl : settings.connections.rateLimitStorageBackend = .redis → settings.connections.rateLimitStorageUrl ≠ []
  cacheStorageUrl : settings.connections.cacheBackend = .redis → settings.connections.cacheStorageUrl ≠ []
  securityContentSecurityPolicy : settings.docsEnabled = true ∨ settings.redocEnabled = true →
    settings.securityContentSecurityPolicy ≠ defaultCsp

section Resolve

variable (interpreter : Interpreter) (modulePath : Str)

-- Settings._resolve_paths_and_defaults
def resolvePathsAndDefaults (settings : Settings) : Except Str Settings := do
  let settings := resolveLoggingDefaults modulePath settings
  let connections ← resolveDatabaseDefaults settings.connections
  let settings := { settings with connections := connections }
  let settings := resolveOtelDefaults settings
  let settings := { settings with connections := resolveRateLimitStorageDefaults settings.connections }
  let settings := { settings with connections := resolveCacheStorageDefaults settings.connections }
  let settings := resolveCspForDocs settings
  validateAuthSettings settings.auth
  validateProxySettings interpreter settings
  validateCorsCredentials settings
  validateHealthPaths settings
  .ok settings

inductive Step where
  | logging
  | database
  | otel
  | rateLimitStorage
  | cacheStorage
  | csp
  | auth
  | proxies
  | cors
  | healthPaths
deriving DecidableEq

def Step.all : List Step :=
  [.logging, .database, .otel, .rateLimitStorage, .cacheStorage, .csp, .auth, .proxies, .cors, .healthPaths]

-- One of the calls of the validator on its own.
def Step.run (step : Step) (settings : Settings) : Except Str Settings :=
  match step with
  | .logging => .ok (resolveLoggingDefaults modulePath settings)
  | .database => (resolveDatabaseDefaults settings.connections).map (fun found => { settings with connections := found })
  | .otel => .ok (resolveOtelDefaults settings)
  | .rateLimitStorage => .ok { settings with connections := resolveRateLimitStorageDefaults settings.connections }
  | .cacheStorage => .ok { settings with connections := resolveCacheStorageDefaults settings.connections }
  | .csp => .ok (resolveCspForDocs settings)
  | .auth => (validateAuthSettings settings.auth).map (fun _ => settings)
  | .proxies => (validateProxySettings interpreter settings).map (fun _ => settings)
  | .cors => (validateCorsCredentials settings).map (fun _ => settings)
  | .healthPaths => (validateHealthPaths settings).map (fun _ => settings)

def runAll (steps : List Step) (settings : Settings) : Except Str Settings :=
  steps.foldlM (fun settings step => step.run interpreter modulePath settings) settings

theorem map_bind {ε α β γ : Type} (first : Except ε α) (f : α → β) (next : β → Except ε γ) :
    first.map f >>= next = first >>= fun value => next (f value) := by
  cases first with
  | error message => rfl
  | ok value => rfl

theorem ok_bind {ε α β : Type} (value : α) (next : α → Except ε β) : Except.ok value >>= next = next value := rfl

theorem resolve_runs_all (settings : Settings) :
    resolvePathsAndDefaults interpreter modulePath settings = runAll interpreter modulePath Step.all settings := by
  simp only [resolvePathsAndDefaults, runAll, Step.all, List.foldlM_cons, List.foldlM_nil, Step.run, map_bind, ok_bind]
  rfl

def filled (value : Str) (derived : Except Str Str) : Except Str Str := if value = [] then derived else .ok value

def databaseUrls (settings : Connections.Settings) : Except Str (Str × Str) := do
  let databaseUrl ← filled settings.databaseUrl (deriveDatabaseUrl settings)
  let alembicDatabaseUrl ← filled settings.alembicDatabaseUrl (deriveAlembicDatabaseUrl databaseUrl)
  .ok (databaseUrl, alembicDatabaseUrl)

def withUrls (settings : Connections.Settings) (urls : Str × Str) : Connections.Settings :=
  { settings with databaseUrl := urls.1, alembicDatabaseUrl := urls.2 }

theorem database_defaults_urls (settings : Connections.Settings) :
    resolveDatabaseDefaults settings = (databaseUrls settings).map (withUrls settings) := by
  have alembic (url : Str) : (if settings.alembicDatabaseUrl = [] then do
        let found ← deriveAlembicDatabaseUrl url
        .ok { settings with databaseUrl := url, alembicDatabaseUrl := found }
      else Except.ok (ε := Str) { settings with databaseUrl := url, alembicDatabaseUrl := settings.alembicDatabaseUrl }) =
      (filled settings.alembicDatabaseUrl (deriveAlembicDatabaseUrl url) >>= fun found =>
        Except.ok (url, found)).map (withUrls settings) := by
    unfold filled
    by_cases given : settings.alembicDatabaseUrl = []
    · rw [if_pos given, if_pos given]
      cases deriveAlembicDatabaseUrl url with
      | error message => rfl
      | ok found => rfl
    · rw [if_neg given, if_neg given]
      rfl
  unfold resolveDatabaseDefaults databaseUrls
  rw [filled]
  by_cases given : settings.databaseUrl = []
  · rw [if_pos given, if_pos given]
    cases deriveDatabaseUrl settings with
    | error message => rfl
    | ok url => exact alembic url
  · rw [if_neg given, if_neg given]
    exact alembic settings.databaseUrl

def rateLimitStorageUrl (settings : Connections.Settings) : Str :=
  if settings.rateLimitStorageUrl ≠ [] ∨ settings.rateLimitStorageBackend ≠ .redis then settings.rateLimitStorageUrl
  else buildRedisUrl settings.redisHost settings.redisPort settings.redisDb settings.redisPassword

def cacheStorageUrl (settings : Connections.Settings) : Str :=
  if settings.cacheStorageUrl ≠ [] ∨ settings.cacheBackend ≠ .redis then settings.cacheStorageUrl
  else buildRedisUrl settings.redisHost settings.redisPort settings.cacheRedisDb settings.redisPassword

def contentSecurityPolicy (settings : Settings) : Str :=
  if ¬ (settings.docsEnabled = true ∨ settings.redocEnabled = true) then settings.securityContentSecurityPolicy
  else if settings.securityContentSecurityPolicy ≠ defaultCsp then settings.securityContentSecurityPolicy
  else join "; ".toList (cspDirectives settings.redocEnabled)

def check (verdict : Settings → Except Str Unit) : Update Settings :=
  ⟨Unit, fun settings => (verdict settings).toOption, fun _ settings => settings⟩

-- What each call reads off the settings and where it puts it.
def Step.update (step : Step) : Update Settings :=
  match step with
  | .logging =>
      ⟨Str,
        fun settings => some (
          if settings.loggingConfigPath = [] then modulePath ++ "/log_config/config.json".toList
          else settings.loggingConfigPath),
        fun path settings => { settings with loggingConfigPath := path }⟩
  | .database =>
      ⟨Str × Str, fun settings => (databaseUrls settings.connections).toOption,
        fun urls settings => { settings with connections := withUrls settings.connections urls }⟩
  | .otel =>
      ⟨Str × Str,
        fun settings => some (
          if settings.otelServiceName = [] then settings.appName else settings.otelServiceName,
          if settings.otelServiceVersion = [] then settings.appVersion else settings.otelServiceVersion),
        fun names settings => { settings with otelServiceName := names.1, otelServiceVersion := names.2 }⟩
  | .rateLimitStorage =>
      ⟨Str, fun settings => some (rateLimitStorageUrl settings.connections),
        fun url settings => { settings with connections := { settings.connections with rateLimitStorageUrl := url } }⟩
  | .cacheStorage =>
      ⟨Str, fun settings => some (cacheStorageUrl settings.connections),
        fun url settings => { settings with connections := { settings.connections with cacheStorageUrl := url } }⟩
  | .csp =>
      ⟨Str, fun settings => some (contentSecurityPolicy settings),
        fun policy settings => { settings with securityContentSecurityPolicy := policy }⟩
  | .auth => check (fun settings => validateAuthSettings settings.auth)
  | .proxies => check (validateProxySettings interpreter)
  | .cors => check validateCorsCredentials
  | .healthPaths => check validateHealthPaths

theorem check_apply (verdict : Settings → Except Str Unit) (settings : Settings) :
    ((verdict settings).map (fun _ => settings)).toOption = (check verdict).apply settings := by
  cases found : verdict settings with
  | error message => simp [Update.apply, check, found, Except.map, Except.toOption]
  | ok done => simp [Update.apply, check, found, Except.map, Except.toOption]

theorem database_apply (settings : Settings) :
    (Step.run interpreter modulePath .database settings).toOption = (Step.update interpreter modulePath .database).apply settings := by
  simp only [Step.run, Step.update, Update.apply, database_defaults_urls]
  cases databaseUrls settings.connections with
  | error message => rfl
  | ok urls => rfl

theorem otel_apply (settings : Settings) :
    (Step.run interpreter modulePath .otel settings).toOption = (Step.update interpreter modulePath .otel).apply settings := by
  simp only [Step.run, Step.update, Update.apply, resolveOtelDefaults]
  split <;> split <;> rfl

theorem rate_limit_apply (settings : Settings) :
    (Step.run interpreter modulePath .rateLimitStorage settings).toOption =
      (Step.update interpreter modulePath .rateLimitStorage).apply settings := by
  simp only [Step.run, Step.update, Update.apply, resolveRateLimitStorageDefaults, rateLimitStorageUrl]
  split <;> rfl

theorem cache_apply (settings : Settings) :
    (Step.run interpreter modulePath .cacheStorage settings).toOption =
      (Step.update interpreter modulePath .cacheStorage).apply settings := by
  simp only [Step.run, Step.update, Update.apply, resolveCacheStorageDefaults, cacheStorageUrl]
  split <;> rfl

theorem csp_apply (settings : Settings) :
    (Step.run interpreter modulePath .csp settings).toOption = (Step.update interpreter modulePath .csp).apply settings := by
  simp only [Step.run, Step.update, Update.apply, resolveCspForDocs, contentSecurityPolicy]
  split
  · rfl
  · split <;> rfl

theorem step_apply (step : Step) (settings : Settings) :
    (step.run interpreter modulePath settings).toOption = (step.update interpreter modulePath).apply settings := by
  cases step with
  | logging =>
      simp only [Step.run, Step.update, Update.apply, resolveLoggingDefaults]
      split <;> rfl
  | database => exact database_apply interpreter modulePath settings
  | otel => exact otel_apply interpreter modulePath settings
  | rateLimitStorage => exact rate_limit_apply interpreter modulePath settings
  | cacheStorage => exact cache_apply interpreter modulePath settings
  | csp => exact csp_apply interpreter modulePath settings
  | auth => exact check_apply (fun settings => validateAuthSettings settings.auth) settings
  | proxies => exact check_apply (validateProxySettings interpreter) settings
  | cors => exact check_apply validateCorsCredentials settings
  | healthPaths => exact check_apply validateHealthPaths settings

theorem steps_independent (first second : Step) (different : first ≠ second) :
    Independent (first.update interpreter modulePath) (second.update interpreter modulePath) := by
  cases first <;> cases second <;>
    first
      | exact absurd rfl different
      | exact ⟨fun _ _ => rfl, fun _ _ => rfl, fun _ _ _ => rfl⟩

theorem run_all_apply (steps : List Step) (settings : Settings) :
    (runAll interpreter modulePath steps settings).toOption =
      applyAll (steps.map (Step.update interpreter modulePath)) settings := by
  induction steps generalizing settings with
  | nil => rfl
  | cons step rest ih =>
      rw [List.map_cons, applyAll, ← step_apply, runAll, List.foldlM_cons]
      cases step.run interpreter modulePath settings with
      | error message => rfl
      | ok next => exact ih next

theorem kept_again (keep : Str → Prop) [DecidablePred keep] (value default : Str) :
    (if keep (if keep value then value else default) then (if keep value then value else default) else default) =
      if keep value then value else default := by
  by_cases kept : keep value
  · rw [if_pos kept, if_pos kept]
  · rw [if_neg kept, ite_id]

theorem fill_again (value default : Str) :
    (if (if value = [] then default else value) = [] then default else (if value = [] then default else value)) =
      if value = [] then default else value := by
  by_cases empty : value = []
  · rw [if_pos empty, ite_id]
  · rw [if_neg empty, if_neg empty]

theorem filled_again (value found : Str) (derived : Except Str Str) (first : filled value derived = .ok found) :
    filled found derived = .ok found := by
  unfold filled at first ⊢
  by_cases empty : found = []
  · rw [if_pos empty]
    by_cases given : value = []
    · rwa [if_pos given] at first
    · rw [if_neg given] at first
      cases first
      exact absurd empty given
  · rw [if_neg empty]

theorem database_urls_again (settings : Connections.Settings) (urls : Str × Str) (found : databaseUrls settings = .ok urls) :
    databaseUrls (withUrls settings urls) = .ok urls := by
  obtain ⟨url, first, rest⟩ := bind_ok _ _ _ found
  obtain ⟨alembic, second, same⟩ := bind_ok _ _ _ rest
  cases same
  have underived : deriveDatabaseUrl (withUrls settings (url, alembic)) = deriveDatabaseUrl settings := rfl
  rw [databaseUrls, underived]
  simp only [withUrls, filled_again settings.databaseUrl url _ first, ok_bind,
    filled_again settings.alembicDatabaseUrl alembic _ second]

theorem database_found (settings : Settings) (urls : Str × Str)
    (read : (Step.update interpreter modulePath .database).read settings = some urls) :
    databaseUrls settings.connections = .ok urls := by
  simp only [Step.update] at read
  cases same : databaseUrls settings.connections with
  | error message =>
      rw [same] at read
      cases read
  | ok value =>
      rw [same] at read
      exact congrArg Except.ok (Option.some.inj read)

theorem policy_again (settings : Settings) :
    contentSecurityPolicy { settings with securityContentSecurityPolicy := contentSecurityPolicy settings } =
      contentSecurityPolicy settings := by
  simp only [contentSecurityPolicy]
  by_cases docs : settings.docsEnabled = true ∨ settings.redocEnabled = true
  · simp only [if_neg (not_not.mpr docs)]
    exact kept_again (fun policy => policy ≠ defaultCsp) _ _
  · simp only [if_pos docs]

theorem check_settled (verdict : Settings → Except Str Unit) : Settled (check verdict) :=
  fun _ _ read => ⟨read, rfl⟩

theorem steps_settled (step : Step) : Settled (step.update interpreter modulePath) := by
  cases step with
  | logging =>
      rintro _ settings ⟨⟩
      exact ⟨congrArg some (fill_again _ _), rfl⟩
  | database =>
      intro urls settings read
      have found := database_found interpreter modulePath settings urls read
      exact ⟨congrArg Except.toOption (database_urls_again settings.connections urls found), rfl⟩
  | otel =>
      rintro _ settings ⟨⟩
      exact ⟨congrArg some (Prod.ext (fill_again _ _) (fill_again _ _)), rfl⟩
  | rateLimitStorage =>
      rintro _ settings ⟨⟩
      exact ⟨congrArg some (kept_again (fun url => url ≠ [] ∨ settings.connections.rateLimitStorageBackend ≠ .redis) _ _), rfl⟩
  | cacheStorage =>
      rintro _ settings ⟨⟩
      exact ⟨congrArg some (kept_again (fun url => url ≠ [] ∨ settings.connections.cacheBackend ≠ .redis) _ _), rfl⟩
  | csp =>
      rintro _ settings ⟨⟩
      exact ⟨congrArg some (policy_again settings), rfl⟩
  | auth => exact check_settled _
  | proxies => exact check_settled _
  | cors => exact check_settled _
  | healthPaths => exact check_settled _

theorem kept_trans (set : Str → Prop) (given between resolved : Str) (first : set given → between = given)
    (second : set between → resolved = between) (chosen : set given) : resolved = given := by
  have kept := first chosen
  rw [second (kept ▸ chosen), kept]

theorem overrides_trans (given between resolved : Settings) (first : Overrides given between)
    (second : Overrides between resolved) : Overrides given resolved where
  loggingConfigPath := kept_trans (· ≠ []) _ _ _ first.loggingConfigPath second.loggingConfigPath
  otelServiceName := kept_trans (· ≠ []) _ _ _ first.otelServiceName second.otelServiceName
  otelServiceVersion := kept_trans (· ≠ []) _ _ _ first.otelServiceVersion second.otelServiceVersion
  databaseUrl := kept_trans (· ≠ []) _ _ _ first.databaseUrl second.databaseUrl
  alembicDatabaseUrl := kept_trans (· ≠ []) _ _ _ first.alembicDatabaseUrl second.alembicDatabaseUrl
  rateLimitStorageUrl := kept_trans (· ≠ []) _ _ _ first.rateLimitStorageUrl second.rateLimitStorageUrl
  cacheStorageUrl := kept_trans (· ≠ []) _ _ _ first.cacheStorageUrl second.cacheStorageUrl
  securityContentSecurityPolicy :=
    kept_trans (· ≠ defaultCsp) _ _ _ first.securityContentSecurityPolicy second.securityContentSecurityPolicy
  untouched := by
    rw [second.untouched, first.untouched]

theorem overrides_refl (settings : Settings) : Overrides settings settings :=
  ⟨fun _ => rfl, fun _ => rfl, fun _ => rfl, fun _ => rfl, fun _ => rfl, fun _ => rfl, fun _ => rfl, fun _ => rfl, rfl⟩

theorem database_urls_kept (settings : Connections.Settings) (urls : Str × Str) (found : databaseUrls settings = .ok urls) :
    (settings.databaseUrl ≠ [] → urls.1 = settings.databaseUrl) ∧
      (settings.alembicDatabaseUrl ≠ [] → urls.2 = settings.alembicDatabaseUrl) := by
  obtain ⟨url, first, rest⟩ := bind_ok _ _ _ found
  obtain ⟨alembic, second, same⟩ := bind_ok _ _ _ rest
  cases same
  constructor
  · intro set
    rw [filled, if_neg set] at first
    exact (Except.ok.inj first).symm
  · intro set
    rw [filled, if_neg set] at second
    exact (Except.ok.inj second).symm

theorem policy_kept (settings : Settings) (custom : settings.securityContentSecurityPolicy ≠ defaultCsp) :
    contentSecurityPolicy settings = settings.securityContentSecurityPolicy := by
  rw [contentSecurityPolicy, if_pos custom, ite_id]

theorem check_overrides (verdict : Settings → Except Str Unit) (settings next : Settings)
    (taken : (check verdict).apply settings = some next) : Overrides settings next := by
  obtain ⟨_, _, rfl⟩ := Option.map_eq_some_iff.mp taken
  exact overrides_refl settings

theorem step_overrides (step : Step) (settings next : Settings)
    (taken : (step.update interpreter modulePath).apply settings = some next) : Overrides settings next := by
  have same := overrides_refl settings
  cases step with
  | logging =>
      cases taken
      exact { same with loggingConfigPath := fun set => if_neg set, untouched := rfl }
  | database =>
      obtain ⟨urls, read, rfl⟩ := Option.map_eq_some_iff.mp taken
      have kept := database_urls_kept settings.connections urls (database_found interpreter modulePath settings urls read)
      exact { same with databaseUrl := kept.1, alembicDatabaseUrl := kept.2, untouched := rfl }
  | otel =>
      cases taken
      exact { same with otelServiceName := fun set => if_neg set, otelServiceVersion := fun set => if_neg set, untouched := rfl }
  | rateLimitStorage =>
      cases taken
      exact { same with rateLimitStorageUrl := fun set => if_pos (Or.inl set), untouched := rfl }
  | cacheStorage =>
      cases taken
      exact { same with cacheStorageUrl := fun set => if_pos (Or.inl set), untouched := rfl }
  | csp =>
      cases taken
      exact { same with securityContentSecurityPolicy := policy_kept settings, untouched := rfl }
  | auth => exact check_overrides _ settings next taken
  | proxies => exact check_overrides _ settings next taken
  | cors => exact check_overrides _ settings next taken
  | healthPaths => exact check_overrides _ settings next taken

theorem run_overrides (steps : List Step) (settings resolved : Settings)
    (taken : applyAll (steps.map (Step.update interpreter modulePath)) settings = some resolved) :
    Overrides settings resolved := by
  induction steps generalizing settings with
  | nil =>
      cases taken
      exact overrides_refl _
  | cons step rest ih =>
      obtain ⟨next, first, later⟩ := Option.bind_eq_some_iff.mp taken
      exact overrides_trans settings next resolved (step_overrides interpreter modulePath step settings next first) (ih next later)

theorem redis_url_nonempty (host : Str) (port db : Nat) (password : Str) : buildRedisUrl host port db password ≠ [] := by
  rw [buildRedisUrl]
  split <;> simp

theorem database_url_nonempty (settings : Connections.Settings) : deriveDatabaseUrl settings ≠ .ok [] := by
  rw [deriveDatabaseUrl]
  split
  · simp
  · split <;> simp
  · simp

theorem replaced_nonempty (old new url : Str) (starts : Auth.startsWith old url = true) (nonempty : old ≠ []) (kept : new ≠ []) :
    replaceFirst old new url ≠ [] := by
  obtain ⟨rest, rfl⟩ := List.isPrefixOf_iff_prefix.mp starts
  rw [replace_first_start old new rest nonempty]
  exact List.append_ne_nil_of_left_ne_nil kept rest

theorem alembic_url_nonempty (url : Str) : deriveAlembicDatabaseUrl url ≠ .ok [] := by
  intro derived
  unfold deriveAlembicDatabaseUrl at derived
  split at derived
  case isTrue starts =>
    exact replaced_nonempty _ _ url starts (by simp) (by simp) (Except.ok.inj derived)
  case isFalse =>
    split at derived
    case isTrue starts => exact replaced_nonempty _ _ url starts (by simp) (by simp) (Except.ok.inj derived)
    case isFalse => cases derived

theorem filled_nonempty (value found : Str) (derived : Except Str Str) (first : filled value derived = .ok found)
    (nonempty : derived ≠ .ok []) : found ≠ [] := by
  intro empty
  have again := filled_again value found derived first
  rw [filled, if_pos empty, empty] at again
  exact nonempty again

theorem database_urls_nonempty (settings : Connections.Settings) (urls : Str × Str) (found : databaseUrls settings = .ok urls) :
    urls.1 ≠ [] ∧ urls.2 ≠ [] := by
  obtain ⟨url, first, rest⟩ := bind_ok _ _ _ found
  obtain ⟨alembic, second, same⟩ := bind_ok _ _ _ rest
  cases same
  exact ⟨filled_nonempty _ url _ first (database_url_nonempty settings), filled_nonempty _ alembic _ second (alembic_url_nonempty url)⟩

theorem docs_policy_differs (redocEnabled : Bool) : join "; ".toList (cspDirectives redocEnabled) ≠ defaultCsp := by
  unfold cspDirectives defaultCsp
  rw [Literals.to_list_bytewise]
  cases redocEnabled <;> decide +kernel

theorem filling_nonempty (value default : Str) (stands : (if value = [] then default else value) = value) (nonempty : default ≠ []) :
    value ≠ [] := by
  intro empty
  rw [if_pos empty, empty] at stands
  exact nonempty stands

theorem derived_nonempty (backend : StorageBackend) (value derived : Str)
    (stands : (if value ≠ [] ∨ backend ≠ .redis then value else derived) = value) (redis : backend = .redis)
    (nonempty : derived ≠ []) : value ≠ [] := by
  intro empty
  simp only [empty, redis, ne_eq, not_true_eq_false, or_self, if_false] at stands
  exact nonempty stands

theorem policy_differs (settings : Settings) (stands : contentSecurityPolicy settings = settings.securityContentSecurityPolicy)
    (docs : settings.docsEnabled = true ∨ settings.redocEnabled = true) : settings.securityContentSecurityPolicy ≠ defaultCsp := by
  intro api
  rw [contentSecurityPolicy, if_neg (not_not.mpr docs), if_neg (not_not.mpr api), api] at stands
  exact docs_policy_differs _ stands

theorem fixed_filled (settings : Settings)
    (fixed : ∀ step : Step, (step.update interpreter modulePath).apply settings = some settings) : Filled settings := by
  have stands {α : Type} (field : Settings → α) (step : Step) (next : Settings)
      (applied : (step.update interpreter modulePath).apply settings = some next) : field next = field settings :=
    congrArg field (Option.some.inj (applied.symm.trans (fixed step)))
  obtain ⟨urls, read, same⟩ := Option.map_eq_some_iff.mp (fixed .database)
  have urlsNonempty := database_urls_nonempty settings.connections urls (database_found interpreter modulePath settings urls read)
  have connections : withUrls settings.connections urls = settings.connections := congrArg Settings.connections same
  exact
    { loggingConfigPath := filling_nonempty _ _ (stands Settings.loggingConfigPath .logging _ rfl) (by simp)
      otelServiceName := filling_nonempty _ _ (stands Settings.otelServiceName .otel _ rfl)
      otelServiceVersion := filling_nonempty _ _ (stands Settings.otelServiceVersion .otel _ rfl)
      databaseUrl := connections ▸ urlsNonempty.1
      alembicDatabaseUrl := connections ▸ urlsNonempty.2
      rateLimitStorageUrl := fun redis =>
        derived_nonempty _ _ _ (stands (fun found => found.connections.rateLimitStorageUrl) .rateLimitStorage _ rfl) redis
          (redis_url_nonempty _ _ _ _)
      cacheStorageUrl := fun redis =>
        derived_nonempty _ _ _ (stands (fun found => found.connections.cacheStorageUrl) .cacheStorage _ rfl) redis
          (redis_url_nonempty _ _ _ _)
      securityContentSecurityPolicy :=
        policy_differs settings (stands Settings.securityContentSecurityPolicy .csp _ rfl) }

theorem updates_independent : (Step.all.map (Step.update interpreter modulePath)).Pairwise Independent := by
  have distinct : Step.all.Nodup := by decide
  exact List.pairwise_map.mpr (distinct.imp (fun different => steps_independent interpreter modulePath _ _ different))

theorem step_listed (step : Step) : step ∈ Step.all := by
  cases step <;> decide

theorem ok_iff (result : Except Str Settings) (settings : Settings) : result = .ok settings ↔ result.toOption = some settings := by
  cases result with
  | error message => exact iff_of_false nofun nofun
  | ok found => exact ⟨fun same => congrArg Except.toOption same, fun same => congrArg Except.ok (Option.some.inj same)⟩

theorem accepted_iff_reads (settings : Settings) :
    (∃ found, resolvePathsAndDefaults interpreter modulePath settings = .ok found) ↔
      ∀ step : Step, ((step.update interpreter modulePath).read settings).isSome := by
  simp only [resolve_runs_all, ok_iff, run_all_apply, ← Option.isSome_iff_exists]
  rw [apply_all_some _ (updates_independent interpreter modulePath), List.forall_mem_map]
  exact ⟨fun all step => all step (step_listed step), fun all step _ => all step⟩

theorem resolution_settles (settings resolved : Settings)
    (accepted : resolvePathsAndDefaults interpreter modulePath settings = .ok resolved) :
    Overrides settings resolved ∧ Filled resolved ∧ resolvePathsAndDefaults interpreter modulePath resolved = .ok resolved := by
  rw [resolve_runs_all, ok_iff, run_all_apply] at accepted
  have settled : ∀ update ∈ Step.all.map (Step.update interpreter modulePath), Settled update := by
    intro update member
    obtain ⟨step, _, rfl⟩ := List.mem_map.mp member
    exact steps_settled interpreter modulePath step
  have fixed := apply_all_settled _ (updates_independent interpreter modulePath) settled settings resolved accepted
  have finished : Filled resolved := by
    apply fixed_filled interpreter modulePath resolved
    intro step
    exact fixed _ (List.mem_map_of_mem (step_listed step))
  refine ⟨run_overrides interpreter modulePath Step.all settings resolved accepted, finished, ?_⟩
  rw [resolve_runs_all, ok_iff, run_all_apply]
  exact all_fixed _ resolved fixed

theorem resolution_any_order (order : List Step) (perm : order.Perm Step.all) (settings : Settings) :
    (∀ resolved, runAll interpreter modulePath order settings = .ok resolved ↔
      resolvePathsAndDefaults interpreter modulePath settings = .ok resolved) ∧
    ((∃ found, resolvePathsAndDefaults interpreter modulePath settings = .ok found) ↔
      ∀ step : Step, ∃ next, step.run interpreter modulePath settings = .ok next) := by
  have independent := updates_independent interpreter modulePath
  have listed := perm.map (Step.update interpreter modulePath)
  have same := apply_all_perm _ _ listed.symm independent settings
  constructor
  · intro resolved
    rw [resolve_runs_all, ok_iff, ok_iff, run_all_apply, run_all_apply, same]
  · have each (step : Step) : (step.run interpreter modulePath settings).toOption.isSome =
        ((step.update interpreter modulePath).read settings).isSome := by
      rw [step_apply, Update.apply, Option.isSome_map]
    rw [accepted_iff_reads]
    simp only [ok_iff, ← Option.isSome_iff_exists, each]

end Resolve

def documentedSettings : Settings where
  appName := "chassis".toList
  appVersion := "1.0".toList
  docsEnabled := false
  redocEnabled := true
  loggingConfigPath := []
  otelServiceName := []
  otelServiceVersion := "2".toList
  securityContentSecurityPolicy := defaultCsp
  connections := { cacheBackend := .redis }
  auth := {}
  rateLimitTrustProxyHeaders := true
  rateLimitTrustedProxies := ["10.0.0.0/8".toList]
  securityTrustProxyProtoHeader := false
  securityTrustedProxies := []
  corsAllowCredentials := true
  corsAllowedOrigins := []
  healthCheckPath := "/healthcheck".toList
  readinessCheckPath := "/ready".toList

theorem resolution_settles_documented :
    ∃ resolved, resolvePathsAndDefaults plainInterpreter "/app".toList documentedSettings = .ok resolved ∧
      Overrides documentedSettings resolved ∧ Filled resolved ∧
      resolvePathsAndDefaults plainInterpreter "/app".toList resolved = .ok resolved :=
  ⟨_, rfl, resolution_settles plainInterpreter "/app".toList documentedSettings _ rfl⟩

theorem resolution_any_order_reversed :
    ∃ resolved, resolvePathsAndDefaults plainInterpreter "/app".toList documentedSettings = .ok resolved ∧
      runAll plainInterpreter "/app".toList Step.all.reverse documentedSettings = .ok resolved := by
  refine ⟨_, rfl, ?_⟩
  have same := resolution_any_order plainInterpreter "/app".toList Step.all.reverse (List.reverse_perm Step.all) documentedSettings
  exact (same.1 _).mpr rfl

end Chassis.Resolution
