import Chassis.JwksHistories

set_option autoImplicit false

namespace Chassis.Auth

open Transition

variable {κ : Type} (settings : Settings) (library : JwtLibrary κ) (describe : Failure → Str)

structure JwksMode (settings : Settings) : Prop where
  enabled : settings.authEnabled = true
  url : settings.authJwksUrl ≠ []

theorem enter_readiness (mode : JwksMode settings) : enter settings library .readiness = .checking := by
  rw [enter, enterReadiness, if_neg (by simp [mode.enabled]), if_pos mode.url]

theorem enter_warm_up (mode : JwksMode settings) : enter settings library .warmUp = .warming := by
  rw [enter, enterWarmUp, if_pos ⟨mode.enabled, mode.url⟩]

theorem enter_unreported (mode : JwksMode settings) (purpose : Purpose) (result : ReadinessCheckResult) :
    enter settings library purpose ≠ .done (.reported result) := by
  cases purpose with
  | readiness => simp [enter_readiness settings library mode]
  | warmUp => simp [enter_warm_up settings library mode]
  | authenticate token =>
      rw [enter, enterAuthenticate, if_neg (by simp [mode.enabled]), if_pos mode.url]
      cases library.unverifiedHeader token with
      | error failure => simp
      | ok header =>
          cases named : header.kid with
          | none => simp [named]
          | some kid => by_cases empty : kid = [] <;> simp [named, empty]

theorem continue_reported (stage : Stage κ) (flag : Bool) (result : CallResult) (report : ReadinessCheckResult)
    (answer : continueWith library describe stage flag result = .done (.reported report)) (awaits : stage.awaits = true) :
    stage = .checking ∧
      ((∃ jwks, result = .returned jwks ∧ report = readinessResult flag) ∨
        ∃ failure, result = .raised failure ∧
          report = .error "auth" ("JWKS unavailable: ".toList ++ describe failure)) := by
  cases result with
  | cancelled => simp [continueWith] at answer
  | raised failure =>
      cases stage with
      | checking => exact ⟨rfl, .inr ⟨failure, rfl, by simpa [continueWith, eq_comm] using answer⟩⟩
      | idle => cases awaits
      | done outcome => cases awaits
      | lookingUp kid => simp [continueWith] at answer
      | refreshing kid => simp [continueWith] at answer
      | warming => simp [continueWith] at answer
  | returned jwks =>
      cases stage with
      | checking => exact ⟨rfl, .inl ⟨jwks, rfl, by simpa [continueWith, eq_comm] using answer⟩⟩
      | idle => cases awaits
      | done outcome => cases awaits
      | warming => simp [continueWith] at answer
      | lookingUp kid =>
          cases found : getJwkKeyForKid library jwks kid with
          | error failure => simp [continueWith, found] at answer
          | ok key => cases key <;> simp [continueWith, found] at answer
      | refreshing kid =>
          cases found : getJwkKeyForKid library jwks kid with
          | error failure => simp [continueWith, found] at answer
          | ok key => cases key <;> simp [continueWith, found] at answer

theorem unavailable_not_stale (failure : Failure) : "JWKS unavailable: ".toList ++ describe failure ≠ staleDetail := by
  intro same
  have left : ("JWKS unavailable: ".toList ++ describe failure).head? = some 'J' := by simp
  have right : staleDetail.head? = some 'U' := by decide
  rw [same, right] at left
  cases left

theorem report_of_call (task : Nat) (flag : Bool) (result : CallResult) (events : List FetchEvent)
    (report : ReadinessCheckResult) (ends : CallEnds (firstCall task) false result flag events)
    (answer : continueWith library describe .checking flag result = .done (.reported report)) :
    (report.detail = staleDetail ↔ ∃ now jwks, .refreshFailed (firstCall task) now ∈ events ∧
        .returned (firstCall task) now jwks ∈ events) ∧
      (report.isHealthy = false ↔ ∃ failure, .raised (firstCall task) failure ∈ events) := by
  have available : availableDetail ≠ staleDetail := by decide
  obtain ⟨_, ⟨jwks, same, reported⟩ | ⟨failure, same, reported⟩⟩ :=
    continue_reported library describe .checking flag result report answer rfl
  · subst same reported
    cases ends with
    | cached now jwks free => simp [readinessResult, available]
    | fetched now jwks => simp [readinessResult, available]
    | stale now jwks => simp [readinessResult]
  · subst same reported
    cases ends with
    | raised now failure flag =>
        have apart := unavailable_not_stale describe failure
        simp only [ReadinessCheckResult.error, apart]
        simp

theorem readiness_reports_own_call (mode : JwksMode settings) (clock : Rat) (steps : List TaskStep)
    (state : ServiceState κ) (trace : List (TaskEvent κ))
    (ran : exec (taskStep settings library describe) (ServiceState.start clock) steps = some (state, trace))
    (task : Nat) (report : ReadinessCheckResult) (reported : .finished task (.reported report) ∈ trace) :
    (report.detail = staleDetail ↔ ∃ now jwks, .fetch (.refreshFailed (firstCall task) now) ∈ trace ∧
        .fetch (.returned (firstCall task) now jwks) ∈ trace) ∧
      (report.isHealthy = false ↔ ∃ failure, .fetch (.raised (firstCall task) failure) ∈ trace) := by
  have holds := tasks_hold settings library describe clock steps state trace ran
  have progress := finished_progress settings library describe task _ state trace holds reported
  have mine (event : FetchEvent) (belongs : event.call = firstCall task) :
      TaskEvent.fetch event ∈ trace ↔ TaskEvent.fetch event ∈ own task trace := by
    refine mem_own task trace _ ?_
    rw [TaskEvent.owner, belongs]
    exact stage_call_owner task (.checking : Stage κ)
  generalize own task trace = history at progress mine
  cases progress with
  | direct purpose outcome entered => exact absurd entered (enter_unreported settings library mode purpose report)
  | first purpose stage entered awaits => cases awaits
  | once purpose stage outcome result flag events entered awaits ends answer =>
      obtain ⟨checking, _⟩ := continue_reported library describe stage flag result report answer awaits
      subst checking
      have own := report_of_call library describe task flag result events report ends answer
      have found (event : FetchEvent) (belongs : event.call = firstCall task) :
          TaskEvent.fetch event ∈ trace ↔ event ∈ events := by
        rw [mine event belongs]
        simp
      have failed (now : Rat) := found (.refreshFailed (firstCall task) now) rfl
      have returned (now : Rat) (jwks : Jwks) := found (.returned (firstCall task) now jwks) rfl
      have raised (failure : Failure) := found (.raised (firstCall task) failure) rfl
      simp only [failed, returned, raised]
      exact own
  | twice purpose kid jwks flag events outcome result again more entered ends absent refresh answer =>
      obtain ⟨checking, _⟩ := continue_reported library describe (.refreshing kid) again result report answer rfl
      cases checking

theorem jwks_settings_mode : JwksMode jwksSettings := ⟨rfl, by decide⟩

def staleSteps : List TaskStep :=
  [⟨1, 0, .start .warmUp⟩, ⟨1, 0, .fetch .acquire⟩, ⟨2, 0, .fetch (.complete (.answered (.object oneKeySet.members)))⟩,
    ⟨400, 1, .start .readiness⟩, ⟨400, 1, .fetch .acquire⟩, ⟨401, 1, .fetch (.complete (.failed .other))⟩]

def staleTrace : List (TaskEvent Unit) :=
  [.started 0 .warmUp, .called 0 true, .fetch (.refreshed 0 2 oneKeySet), .fetch (.returned 0 2 oneKeySet),
    .finished 0 (.warmed (.ok ())), .started 1 .readiness, .called 1 false, .fetch (.refreshFailed 2 401),
    .fetch (.returned 2 401 oneKeySet), .finished 1 (.reported (readinessResult true))]

theorem stale_ran : ∃ state, exec (taskStep jwksSettings oneKeyLibrary (fun _ => [])) (ServiceState.start 0) staleSteps =
    some (state, staleTrace) := by
  have warmUp := enter_warm_up jwksSettings oneKeyLibrary jwks_settings_mode
  have readiness := enter_readiness jwksSettings oneKeyLibrary jwks_settings_mode
  have ttl : jwksSettings.authJwksCacheTtlSeconds = 300 := rfl
  have maxStale : jwksSettings.authJwksMaxStaleSeconds = 3600 := rfl
  norm_num [exec, staleSteps, staleTrace, taskStep, warmUp, readiness, ttl, maxStale, pursue, settle, callResult,
    continueWith, fetchStep, FetchState.start, FetchState.enter, cachedKeys, staleKeys, completeFetch, readPayload,
    validate_members, ServiceState.start, ServiceState.move, Stage.call, Stage.forceRefresh, Stage.awaits, firstCall,
    jwksCacheExpired]

theorem readiness_reports_own_call_stale :
    ((readinessResult true).detail = staleDetail ↔
        ∃ now jwks, TaskEvent.fetch (.refreshFailed 2 now) ∈ staleTrace ∧
          TaskEvent.fetch (.returned 2 now jwks) ∈ staleTrace) ∧
      ((readinessResult true).isHealthy = false ↔ ∃ failure, TaskEvent.fetch (.raised 2 failure) ∈ staleTrace) := by
  obtain ⟨state, ran⟩ := stale_ran
  exact readiness_reports_own_call jwksSettings oneKeyLibrary (fun _ => []) jwks_settings_mode 0 staleSteps state staleTrace
    ran 1 (readinessResult true) (by simp [staleTrace])

end Chassis.Auth
