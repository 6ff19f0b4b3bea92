import Chassis.JwksReadiness
import Chassis.Lifespan
import Chassis.Readiness
import Mathlib.Tactic.Linarith

set_option autoImplicit false

namespace Chassis.AppReadiness

open JsonRender JsonText Readiness Transition

structure AppState where
  dbEngine : Bool
  authService : Bool
  cacheStore : Bool

structure AppWorld where
  state : AppState
  clock : Rat

def perfCounter (world : AppWorld) : Rat × AppWorld := (world.clock, world)

inductive PingFailure where
  | timeoutError
  | other (text : PyStr)

-- How a ping goes when nobody stops it: after how many seconds it ends, if it
-- does, and with which exception. What it answers is not looked at.
structure Ping where
  ends : Option (Rat × Option PingFailure)

-- async with asyncio.timeout(limit). A ping that is due at the deadline itself
-- is cancelled before it goes on.
def withTimeout (limit : Rat) (ping : Ping) : Rat × Option PingFailure :=
  match ping.ends with
  | none => (limit, some .timeoutError)
  | some (seconds, failure) => if seconds < limit then (seconds, failure) else (limit, some .timeoutError)

structure Settings where
  databaseHealthTimeoutSeconds : Int
  cacheEnabled : Bool
  cacheHealthTimeoutSeconds : Int
  readinessIncludeDetails : Bool

structure Dependencies where
  database : Ping
  auth : Auth.ReadinessCheckResult
  authSeconds : Rat
  cache : Ping

abbrev Check := ReadinessCheck AppWorld Asgi.Raised

def ok (name : String) (detail : PyStr) (latencyMs : Option PyFloat) : ReadinessCheckResult :=
  ⟨points name.toList, true, detail, latencyMs⟩

def error (name : String) (detail : PyStr) (latencyMs : Option PyFloat) : ReadinessCheckResult :=
  ⟨points name.toList, false, detail, latencyMs⟩

structure PingTexts where
  name : String
  unset : String
  slow : String
  failed : String

def pingResult (texts : PingTexts) (seconds : Rat) : Option PingFailure → ReadinessCheckResult
  | none => ok texts.name (points "ok".toList) (some (.finite (seconds * 1000)))
  | some .timeoutError => error texts.name (points texts.slow.toList) (some (.finite (seconds * 1000)))
  | some (.other text) => error texts.name (points texts.failed.toList ++ text) (some (.finite (seconds * 1000)))

-- The coroutine of a check that pings a resource of app.state.
def pingCheck (texts : PingTexts) (resource : AppState → Bool) (limit : Int) (ping : Ping) : Check := fun world =>
  (.ok (.awaitable (fun resumed =>
    if resource resumed.state = false then (.ok (error texts.name (points texts.unset.toList) none), resumed)
    else
      let (seconds, failure) := withTimeout limit ping
      (.ok (pingResult texts seconds failure), { resumed with clock := resumed.clock + seconds }))), world)

def databaseTexts : PingTexts where
  name := "database"
  unset := "Database engine not initialized"
  slow := "Timed out while checking database connectivity"
  failed := "Database check failed: "

def cacheTexts : PingTexts where
  name := "cache"
  unset := "Cache store not initialized"
  slow := "Timed out while checking cache connectivity"
  failed := "Cache check failed: "

def checkDatabaseReadiness (settings : Settings) (ping : Ping) : Check :=
  pingCheck databaseTexts AppState.dbEngine settings.databaseHealthTimeoutSeconds ping

def checkCacheReadiness (settings : Settings) (ping : Ping) : Check :=
  pingCheck cacheTexts AppState.cacheStore settings.cacheHealthTimeoutSeconds ping

def authResult (report : Auth.ReadinessCheckResult) : ReadinessCheckResult :=
  ⟨points report.name, report.isHealthy, points report.detail, none⟩

-- Without an auth service there is no readiness_check to call.
def authReadinessCheck (report : Auth.ReadinessCheckResult) (seconds : Rat) : Check := fun world =>
  (.ok (.awaitable (fun resumed =>
    if resumed.state.authService = false then (.error (.other "AttributeError".toList), resumed)
    else (.ok (authResult report), { resumed with clock := resumed.clock + seconds }))), world)

def readyResult : ReadinessCheckResult := ok "application" (points "ok".toList) none

-- _ready
def ready : Check := fun world => (.ok (.ready readyResult), world)

-- The registrations of setup_settings, setup_database, setup_auth and
-- setup_cache, in the order in which create_app calls them.
def registrations (settings : Settings) (dependencies : Dependencies) : List (PyStr × Check) :=
  [(points "application".toList, ready),
    (points "database".toList, checkDatabaseReadiness settings dependencies.database),
    (points "auth".toList, authReadinessCheck dependencies.auth dependencies.authSeconds)] ++
  if settings.cacheEnabled then [(points "cache".toList, checkCacheReadiness settings dependencies.cache)] else []

def appRegistry (settings : Settings) (dependencies : Dependencies) : ReadinessRegistry AppWorld Asgi.Raised :=
  registerAll (registrations settings dependencies)

-- app.state as a finished startup leaves it; the auth service is there with
-- the HTTP client it was made from.
def served (world : Lifespan.World) : AppState where
  dbEngine := world.dbEngine.isSome
  authService := world.httpClient.isSome
  cacheStore := world.cacheStore.isSome

def measured (result : ReadinessCheckResult) (seconds : Rat) : ReadinessCheckResult :=
  { result with latencyMs := some (.finite (seconds * 1000)) }

def databaseEnd (settings : Settings) (dependencies : Dependencies) : Rat × Option PingFailure :=
  withTimeout settings.databaseHealthTimeoutSeconds dependencies.database

def cacheEnd (settings : Settings) (dependencies : Dependencies) : Rat × Option PingFailure :=
  withTimeout settings.cacheHealthTimeoutSeconds dependencies.cache

def appResults (settings : Settings) (dependencies : Dependencies) : List ReadinessCheckResult :=
  [measured readyResult 0,
    pingResult databaseTexts (databaseEnd settings dependencies).1 (databaseEnd settings dependencies).2,
    measured (authResult dependencies.auth) dependencies.authSeconds] ++
  if settings.cacheEnabled then
    [pingResult cacheTexts (cacheEnd settings dependencies).1 (cacheEnd settings dependencies).2] else []

def seconds (settings : Settings) (dependencies : Dependencies) : Rat :=
  (databaseEnd settings dependencies).1 + dependencies.authSeconds +
    if settings.cacheEnabled then (cacheEnd settings dependencies).1 else 0

structure Equipped (settings : Settings) (state : AppState) : Prop where
  dbEngine : state.dbEngine = true
  authService : state.authService = true
  cacheStore : settings.cacheEnabled = true → state.cacheStore = true

def AppWorld.later (world : AppWorld) (seconds : Rat) : AppWorld := { world with clock := world.clock + seconds }

@[simp] theorem later_state (world : AppWorld) (seconds : Rat) : (world.later seconds).state = world.state := rfl

@[simp] theorem later_later (world : AppWorld) (first second : Rat) :
    (world.later first).later second = world.later (first + second) := by
  simp [AppWorld.later, add_assoc]

theorem ready_runs (world : AppWorld) :
    runCheck perfCounter ready world = (.ok (measured readyResult 0), world) := by
  simp [runCheck, perfCounter, settle, ready, readyResult, ok, measured]

theorem ping_runs (texts : PingTexts) (resource : AppState → Bool) (limit : Int) (ping : Ping) (world : AppWorld)
    (present : resource world.state = true) :
    runCheck perfCounter (pingCheck texts resource limit ping) world =
      (.ok (pingResult texts (withTimeout limit ping).1 (withTimeout limit ping).2), world.later (withTimeout limit ping).1) := by
  have latency : (pingResult texts (withTimeout limit ping).1 (withTimeout limit ping).2).latencyMs =
      some (.finite ((withTimeout limit ping).1 * 1000)) := by
    cases (withTimeout limit ping).2 with
    | none => rfl
    | some failure => cases failure <;> rfl
  simp [runCheck, perfCounter, settle, pingCheck, present, latency, AppWorld.later]

theorem auth_runs (report : Auth.ReadinessCheckResult) (seconds : Rat) (world : AppWorld)
    (present : world.state.authService = true) :
    runCheck perfCounter (authReadinessCheck report seconds) world =
      (.ok (measured (authResult report) seconds), world.later seconds) := by
  have unset : ¬ world.state.authService = false := by simp [present]
  have settled : settle (authReadinessCheck report seconds) world = (.ok (authResult report), world.later seconds) := by
    simp only [settle, authReadinessCheck, if_neg unset]
    rfl
  have elapsed : world.clock + seconds - world.clock = seconds := add_sub_cancel_left _ _
  simp only [runCheck, perfCounter, settled, authResult, AppWorld.later, measured, elapsed]

def resultNames (settings : Settings) : List PyStr :=
  [points "application".toList, points "database".toList, points "auth".toList] ++
    if settings.cacheEnabled then [points "cache".toList] else []

theorem names_distinct (settings : Settings) : (resultNames settings).Nodup := by
  unfold resultNames
  cases settings.cacheEnabled with
  | true => decide
  | false => decide

theorem registered_checks (settings : Settings) (dependencies : Dependencies) :
    (appRegistry settings dependencies).values = (registrations settings dependencies).map Prod.snd := by
  have named : (registrations settings dependencies).map Prod.fst = resultNames settings := by
    unfold registrations resultNames
    cases settings.cacheEnabled <;> rfl
  rw [ReadinessRegistry.values, appRegistry, register_all_checks,
    Dict.of_pairs_items _ (named ▸ names_distinct settings)]

theorem run_loop_next (check : Check) (rest : List Check) (world after last : AppWorld) (result : ReadinessCheckResult)
    (results : List ReadinessCheckResult) (ran : runCheck perfCounter check world = (.ok result, after))
    (others : runLoop perfCounter rest after = (.ok results, last)) :
    runLoop perfCounter (check :: rest) world = (.ok (result :: results), last) := by
  rw [runLoop, ran]
  simp only [others]
  rfl

theorem app_run (settings : Settings) (dependencies : Dependencies) (world : AppWorld)
    (equipped : Equipped settings world.state) :
    (appRegistry settings dependencies).run perfCounter world =
      (.ok (appResults settings dependencies), world.later (seconds settings dependencies)) := by
  have database := ping_runs databaseTexts AppState.dbEngine settings.databaseHealthTimeoutSeconds dependencies.database
    world equipped.dbEngine
  have auth := auth_runs dependencies.auth dependencies.authSeconds (world.later (databaseEnd settings dependencies).1)
    equipped.authService
  rw [ReadinessRegistry.run, registered_checks]
  by_cases cached : settings.cacheEnabled = true
  · have cache := ping_runs cacheTexts AppState.cacheStore settings.cacheHealthTimeoutSeconds dependencies.cache
      ((world.later (databaseEnd settings dependencies).1).later dependencies.authSeconds) (equipped.cacheStore cached)
    have whole := run_loop_next _ _ _ _ _ _ _ (ready_runs world)
      (run_loop_next _ _ _ _ _ _ _ database (run_loop_next _ _ _ _ _ _ _ auth (run_loop_next _ [] _ _ _ _ _ cache rfl)))
    rw [later_later, later_later] at whole
    simp only [registrations, appResults, seconds, cached, if_true, add_assoc]
    exact whole
  · have whole := run_loop_next _ _ _ _ _ _ _ (ready_runs world)
      (run_loop_next _ _ _ _ _ _ _ database (run_loop_next _ [] _ _ _ _ _ auth rfl))
    rw [later_later] at whole
    simp only [registrations, appResults, seconds, if_neg cached, List.append_nil, add_zero]
    exact whole

-- The text of the exception that a ping ended with, if it is reported.
def Legible (failure : Option PingFailure) : Prop := ∀ text, failure = some (.other text) → Encodable text

def LegibleFailures (settings : Settings) (dependencies : Dependencies) : Prop :=
  Legible (databaseEnd settings dependencies).2 ∧
    (settings.cacheEnabled = true → Legible (cacheEnd settings dependencies).2)

def Answers (limit : Int) (ping : Ping) : Prop := ∃ seconds, ping.ends = some (seconds, none) ∧ seconds < limit

theorem ping_healthy (texts : PingTexts) (limit : Int) (ping : Ping) (seconds : Rat) :
    (pingResult texts seconds (withTimeout limit ping).2).isHealthy = true ↔ Answers limit ping := by
  unfold withTimeout Answers
  cases ping.ends with
  | none => simp [pingResult, error]
  | some way =>
      obtain ⟨own, failure⟩ := way
      by_cases early : own < limit
      · cases failure with
        | none => simp [early, pingResult, ok]
        | some failure => cases failure <;> simp [early, pingResult, error]
      · simp [early, pingResult, error]

theorem timeout_bounds (limit : Int) (ping : Ping) : (withTimeout limit ping).1 ≤ limit := by
  unfold withTimeout
  cases ping.ends with
  | none => exact le_refl _
  | some way =>
      obtain ⟨own, failure⟩ := way
      by_cases early : own < limit
      · simpa [early] using early.le
      · simp [early]

theorem ping_sendable (includeDetail : Bool) (texts : PingTexts) (seconds : Rat) (failure : Option PingFailure) :
    Sendable includeDetail (pingResult texts seconds failure) ↔ (includeDetail = true → Legible failure) := by
  cases failure with
  | none => simp [pingResult, ok, Sendable, Legible]
  | some failure => cases failure <;> simp [pingResult, error, Sendable, Legible]

theorem auth_sendable (includeDetail : Bool) (report : Auth.ReadinessCheckResult) (seconds : Rat) :
    Sendable includeDetail (measured (authResult report) seconds) := by
  simp [measured, authResult, Sendable]

theorem application_sendable (includeDetail : Bool) :
    Sendable includeDetail (measured readyResult 0) := by
  simp [measured, readyResult, ok, Sendable]

theorem ping_name (texts : PingTexts) (seconds : Rat) (failure : Option PingFailure) :
    (pingResult texts seconds failure).name = points texts.name.toList := by
  cases failure with
  | none => rfl
  | some failure => cases failure <;> rfl

theorem results_named (settings : Settings) (dependencies : Dependencies)
    (named : dependencies.auth.name = "auth".toList) :
    (appResults settings dependencies).map ReadinessCheckResult.name = resultNames settings := by
  unfold appResults resultNames
  cases settings.cacheEnabled with
  | true => simp [ping_name, measured, readyResult, ok, authResult, named, databaseTexts, cacheTexts]
  | false => simp [ping_name, measured, readyResult, ok, authResult, named, databaseTexts]

theorem results_sendable (settings : Settings) (dependencies : Dependencies) (includeDetail : Bool) :
    (∀ result ∈ appResults settings dependencies, Sendable includeDetail result) ↔
      (includeDetail = true → LegibleFailures settings dependencies) := by
  unfold appResults LegibleFailures
  by_cases cached : settings.cacheEnabled = true
  · simp only [cached, if_true, List.cons_append, List.nil_append, List.forall_mem_cons, ping_sendable, auth_sendable,
      application_sendable, List.not_mem_nil, false_implies, implies_true, and_true, true_and, forall_const]
    exact ⟨fun both details => ⟨both.1 details, both.2 details⟩,
      fun both => ⟨fun details => (both details).1, fun details => (both details).2⟩⟩
  · simp [cached, ping_sendable, auth_sendable, application_sendable]

theorem results_healthy (settings : Settings) (dependencies : Dependencies) :
    (appResults settings dependencies).all ReadinessCheckResult.isHealthy = true ↔
      Answers settings.databaseHealthTimeoutSeconds dependencies.database ∧ dependencies.auth.isHealthy = true ∧
        (settings.cacheEnabled = true → Answers settings.cacheHealthTimeoutSeconds dependencies.cache) := by
  unfold appResults databaseEnd cacheEnd
  by_cases cached : settings.cacheEnabled = true
  · simp [cached, ping_healthy, measured, readyResult, ok, authResult]
  · simp [cached, ping_healthy, measured, readyResult, ok, authResult]

theorem seconds_bound (settings : Settings) (dependencies : Dependencies) :
    seconds settings dependencies ≤ settings.databaseHealthTimeoutSeconds + dependencies.authSeconds +
      if settings.cacheEnabled then (settings.cacheHealthTimeoutSeconds : Rat) else 0 := by
  have database := timeout_bounds settings.databaseHealthTimeoutSeconds dependencies.database
  have cache := timeout_bounds settings.cacheHealthTimeoutSeconds dependencies.cache
  unfold seconds databaseEnd cacheEnd
  by_cases cached : settings.cacheEnabled = true
  · rw [if_pos cached, if_pos cached]
    linarith
  · rw [if_neg cached, if_neg cached]
    linarith

theorem equipped_content (settings : Settings) (dependencies : Dependencies) (named : dependencies.auth.name = "auth".toList) :
    (checksPayload settings.readinessIncludeDetails (appResults settings dependencies)).items =
      (appResults settings dependencies).map
        (fun result => (result.name, result.asPayload settings.readinessIncludeDetails)) := by
  apply payload_items
  rw [results_named settings dependencies named]
  exact names_distinct settings

theorem app_answer_iff (interpreter : Interpreter) (room : 3 ≤ interpreter.nesting) (settings : Settings)
    (dependencies : Dependencies) (named : dependencies.auth.name = "auth".toList) :
    (∃ response, answer interpreter settings.readinessIncludeDetails (appResults settings dependencies) = .ok response) ↔
      (settings.readinessIncludeDetails = true → LegibleFailures settings dependencies) := by
  obtain ⟨depth, deep⟩ := Nat.exists_eq_add_of_le' room
  rw [answer, json_response_built_iff, deep, content_renderable, equipped_content settings dependencies named,
    entries_renderable, results_sendable]

section Service

variable {κ : Type} (auth : Auth.Settings) (library : Auth.JwtLibrary κ) (describe : Auth.Failure → Str)

theorem entered_report (purpose : Auth.Purpose) (report : Auth.ReadinessCheckResult)
    (entered : Auth.enter auth library purpose = .done (.reported report)) : report.name = "auth".toList := by
  cases purpose with
  | authenticate token =>
      rw [Auth.enter, Auth.enterAuthenticate] at entered
      split at entered
      · cases entered
      · split at entered
        · split at entered
          · cases entered
          · split at entered
            · cases entered
            · split at entered <;> cases entered
        · cases entered
  | warmUp =>
      rw [Auth.enter, Auth.enterWarmUp] at entered
      split at entered <;> cases entered
  | readiness =>
      rw [Auth.enter, Auth.enterReadiness] at entered
      split at entered
      · cases entered
        rfl
      · split at entered
        · cases entered
        · split at entered
          · cases entered
            rfl
          · split at entered
            · cases entered
              rfl
            · cases entered
              rfl

theorem reported_name (clock : Rat) (steps : List Auth.TaskStep) (state : Auth.ServiceState κ)
    (trace : List (Auth.TaskEvent κ))
    (ran : exec (Auth.taskStep auth library describe) (Auth.ServiceState.start clock) steps = some (state, trace)) (task : Nat)
    (report : Auth.ReadinessCheckResult) (reported : .finished task (.reported report) ∈ trace) :
    report.name = "auth".toList := by
  have holds := Auth.tasks_hold auth library describe clock steps state trace ran
  have progress := Auth.finished_progress auth library describe task _ state trace holds reported
  generalize Auth.own task trace = history at progress
  cases progress with
  | direct purpose outcome entered => exact entered_report auth library purpose report entered
  | first purpose stage entered awaits => cases awaits
  | once purpose stage outcome result flag events entered awaits ends answer =>
      obtain ⟨_, ⟨_, _, same⟩ | ⟨_, _, same⟩⟩ := Auth.continue_reported library describe stage flag result report answer awaits
      · rw [same]
        rfl
      · rw [same]
        rfl
  | twice purpose kid jwks flag events outcome result again more entered ends absent refresh answer =>
      obtain ⟨checking, _⟩ := Auth.continue_reported library describe (.refreshing kid) again result report answer rfl
      cases checking

theorem started_equipped (settings : Settings) (life : Lifespan.Settings) (plan : Lifespan.Plan)
    (before serving : Lifespan.World) (same : life.cacheEnabled = settings.cacheEnabled)
    (up : Lifespan.startup life plan before = (.ok (), serving)) : Equipped settings (served serving) := by
  by_cases started : Lifespan.Started life plan
  · have opened := Lifespan.startup_started life plan before started
    rw [up] at opened
    have reached : serving = Lifespan.opened life before := (Prod.mk.inj opened).2
    subst reached
    refine ⟨?_, ?_, fun cached => ?_⟩
    · cases enabled : life.cacheEnabled <;> simp [served, Lifespan.opened, Lifespan.acquired, enabled]
    · cases enabled : life.cacheEnabled <;> simp [served, Lifespan.opened, Lifespan.acquired, enabled]
    · simp [served, Lifespan.opened, Lifespan.acquired, same.trans cached]
  · obtain ⟨error, reached, raised, _⟩ := Lifespan.startup_aborted life plan before started
    rw [up] at raised
    cases raised

structure Reports (interpreter : Interpreter) (settings : Settings) (dependencies : Dependencies) (asked : AppWorld)
    (response : RenderedResponse interpreter) (after : AppWorld) : Prop where
  statuses : response.statusCode = 200 ∨ response.statusCode = 503
  ready : response.statusCode = 200 ↔ Answers settings.databaseHealthTimeoutSeconds dependencies.database ∧
    dependencies.auth.isHealthy = true ∧
      (settings.cacheEnabled = true → Answers settings.cacheHealthTimeoutSeconds dependencies.cache)
  content : response.content = readinessContent (response.statusCode = 200) ((appResults settings dependencies).map
    (fun result => (result.name, result.asPayload settings.readinessIncludeDetails)))
  names : (appResults settings dependencies).map ReadinessCheckResult.name = resultNames settings
  unchanged : after.state = asked.state
  bounded : after.clock ≤ asked.clock + (settings.databaseHealthTimeoutSeconds + dependencies.authSeconds +
    if settings.cacheEnabled then (settings.cacheHealthTimeoutSeconds : Rat) else 0)

theorem app_readiness_exact (interpreter : Interpreter) (room : 3 ≤ interpreter.nesting) (settings : Settings)
    (life : Lifespan.Settings) (same : life.cacheEnabled = settings.cacheEnabled) (plan : Lifespan.Plan)
    (before serving : Lifespan.World) (up : Lifespan.startup life plan before = (.ok (), serving)) (clock : Rat)
    (steps : List Auth.TaskStep) (state : Auth.ServiceState κ) (trace : List (Auth.TaskEvent κ))
    (ran : exec (Auth.taskStep auth library describe) (Auth.ServiceState.start clock) steps = some (state, trace)) (task : Nat)
    (dependencies : Dependencies) (reported : .finished task (.reported dependencies.auth) ∈ trace) (now : Rat) :
    ((∃ response after, readinessCheck perfCounter interpreter settings.readinessIncludeDetails
        (appRegistry settings dependencies) ⟨served serving, now⟩ = (.ok response, after)) ↔
      (settings.readinessIncludeDetails = true → LegibleFailures settings dependencies)) ∧
    ∀ response after, readinessCheck perfCounter interpreter settings.readinessIncludeDetails
        (appRegistry settings dependencies) ⟨served serving, now⟩ = (.ok response, after) →
      Reports interpreter settings dependencies ⟨served serving, now⟩ response after := by
  have named := reported_name auth library describe clock steps state trace ran task dependencies.auth reported
  have equipped := started_equipped settings life plan before serving same up
  have names := results_named settings dependencies named
  have answered : readinessCheck perfCounter interpreter settings.readinessIncludeDetails
      (appRegistry settings dependencies) ⟨served serving, now⟩ =
        ((answer interpreter settings.readinessIncludeDetails (appResults settings dependencies)).mapError .rendering,
          AppWorld.later ⟨served serving, now⟩ (seconds settings dependencies)) := by
    rw [readinessCheck, app_run settings dependencies ⟨served serving, now⟩ equipped]
  have built := app_answer_iff interpreter room settings dependencies named
  rw [answered]
  constructor
  · rw [← built]
    constructor
    · rintro ⟨response, after, gave⟩
      exact ⟨response, (map_error_ok _ _ _).mp (Prod.mk.inj gave).1⟩
    · rintro ⟨response, gave⟩
      exact ⟨response, _, by rw [gave]; rfl⟩
  · intro response after gave
    obtain ⟨rendered, rfl⟩ := Prod.mk.inj gave
    obtain ⟨status, content⟩ := answer_content interpreter _ _ response ((map_error_ok _ _ _).mp rendered)
    rw [equipped_content settings dependencies named] at content
    have healthy := results_healthy settings dependencies
    refine ⟨?_, ?_, ?_, names, rfl, add_le_add_right (seconds_bound settings dependencies) now⟩
    · rw [status]
      split
      · exact .inl rfl
      · exact .inr rfl
    · rw [← healthy, status]
      split
      next all => simp [all]
      next some => simp [some]
    · rw [content, status]
      congr 1
      split
      next all => simp [all]
      next some => simp [some]

end Service

def probeSettings : Settings where
  databaseHealthTimeoutSeconds := 2
  cacheEnabled := true
  cacheHealthTimeoutSeconds := 2
  readinessIncludeDetails := true

def hangingCache : Dependencies where
  database := ⟨some (1 / 100, none)⟩
  auth := Auth.readinessResult true
  authSeconds := 1
  cache := ⟨none⟩

theorem app_readiness_exact_hanging :
    ∃ serving response after, Lifespan.startup ⟨false, true⟩ {} {} = (.ok (), serving) ∧
      readinessCheck perfCounter Auth.cpython true (appRegistry probeSettings hangingCache) ⟨served serving, 0⟩ =
        (.ok response, after) ∧ response.statusCode = 503 ∧ after.clock ≤ 5 := by
  obtain ⟨state, ran⟩ := Auth.stale_ran
  have up := Lifespan.startup_started ⟨false, true⟩ {} {} ⟨rfl, rfl, rfl, rfl, rfl, .inl rfl, fun _ => ⟨rfl, .inl rfl⟩⟩
  have probed := app_readiness_exact Auth.jwksSettings Auth.oneKeyLibrary (fun _ => []) Auth.cpython (by decide) probeSettings
    ⟨false, true⟩ rfl {} {} _ up 0 Auth.staleSteps state Auth.staleTrace ran 1 hangingCache
    (by simp [Auth.staleTrace, hangingCache]) 0
  obtain ⟨response, after, answered⟩ := probed.1.mpr (fun _ => by
    constructor
    · intro text failed
      norm_num [databaseEnd, withTimeout, hangingCache, probeSettings] at failed
      cases failed
    · intro _ text failed
      simp [cacheEnd, withTimeout, hangingCache] at failed)
  have reports := probed.2 response after answered
  refine ⟨_, response, after, up, answered, reports.statuses.resolve_left ?_, ?_⟩
  · intro ready
    obtain ⟨seconds, ends, _⟩ := (reports.ready.mp ready).2.2 rfl
    cases ends
  · have bound := reports.bounded
    norm_num [probeSettings, hangingCache] at bound
    exact bound

end Chassis.AppReadiness
