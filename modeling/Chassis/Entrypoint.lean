import Chassis.ClaimErrors
import Chassis.Deploy
import Chassis.SettingsFields

set_option autoImplicit false

namespace Chassis.Entrypoint

open Chassis.Configuration Shell Text
open Deploy (orDefault)

inductive Event where
  | ran (command : List Str)
  | wrote (line : Str)
  | complained (line : Str)
  | started (command : List Str)
deriving DecidableEq

abbrev Trace := List Event

def note (event : Event) : Script Trace Nat Unit := fun trace codes => ⟨.value (), trace ++ [event], codes⟩

-- A simple command under `set -e`; it is answered by its exit status.
def strict (command : List Str) : Script Trace Nat Unit := do
  let code ← act (fun trace code => (trace ++ [.ran command], code))
  if code = 0 then pure () else exit code

-- ${NAME:-default}
def expand (environment : Environment) (name : String) (default : String) : Str :=
  orDefault (environment name.toList) default.toList

def workersText (environment : Environment) : Str := expand environment "UVICORN_WORKERS" "1"

def rateLimitGuard (environment : Environment) : Bool :=
  expand environment "APP_RATE_LIMIT_ENABLED" "false" = "true".toList ∧
    expand environment "APP_RATE_LIMIT_STORAGE_URL" "" = [] ∧ workersText environment ≠ "1".toList

def refusal : Str :=
  "APP_RATE_LIMIT_STORAGE_URL is required when APP_RATE_LIMIT_ENABLED=true and UVICORN_WORKERS>1.".toList

def uvicornCommand (environment : Environment) : List Str :=
  ["uvicorn".toList, "main:app".toList, "--host".toList, expand environment "APP_HOST" "0.0.0.0",
    "--port".toList, expand environment "APP_PORT" "8000",
    "--workers".toList, workersText environment, "--proxy-headers".toList,
    "--forwarded-allow-ips".toList, expand environment "UVICORN_FORWARDED_ALLOW_IPS" "127.0.0.1",
    "--no-access-log".toList]

def checkRateLimitStorage (environment : Environment) : Script Trace Nat Unit :=
  if rateLimitGuard environment = true then do
    note (.complained refusal)
    exit 1
  else pure ()

def runMigrations (environment : Environment) : Script Trace Nat Unit :=
  if expand environment "RUN_DB_MIGRATIONS" "false" = "true".toList then do
    note (.wrote "Applying Alembic migrations...".toList)
    strict ["alembic".toList, "-c".toList, "alembic.ini".toList, "upgrade".toList, "head".toList]
  else pure ()

def entrypoint (environment : Environment) (arguments : List Str) : Script Trace Nat Unit := do
  strict ["cd".toList, "/app".toList]
  strict ["mkdir".toList, "-p".toList, "/app/data".toList]
  checkRateLimitStorage environment
  runMigrations environment
  note (.started (if arguments = [] then uvicornCommand environment else arguments))

def run (environment : Environment) (arguments : List Str) (codes : List Nat) : Ran Trace Nat Unit :=
  entrypoint environment arguments [] codes

def RefusesToStart (environment : Environment) (arguments : List Str) : Prop :=
  ∀ codes command, .started command ∉ (run environment arguments codes).world

def Unstarted (trace : Trace) : Prop := ∀ command, .started command ∉ trace

theorem unstarted_snoc (trace : Trace) (event : Event) (quiet : ∀ command, event ≠ .started command)
    (unstarted : Unstarted trace) : Unstarted (trace ++ [event]) := by
  intro command member
  cases List.mem_append.mp member with
  | inl earlier => exact unstarted command earlier
  | inr last => exact quiet command (List.mem_singleton.mp last).symm

theorem strict_unstarted (command : List Str) :
    Ensures Unstarted (strict command) (fun _ => Unstarted) (fun _ => Unstarted) Unstarted := by
  refine ensures_bind _ _ (fun _ => Unstarted) _ ?_ ?_
  · refine ensures_act _ _ (fun _ before => before) ?_
    intro trace code before
    exact unstarted_snoc trace (.ran command) (fun _ => nofun) before
  · intro code
    refine ensures_if _ _ _ _ ?_ ?_
    · intro _
      exact ensures_result _ _ (fun _ before => before)
    · intro _
      exact ensures_exit _ _ (fun _ before => before)

theorem check_refuses (environment : Environment) (refuses : rateLimitGuard environment = true) :
    Ensures Unstarted (checkRateLimitStorage environment) (fun _ _ => False) (fun _ => Unstarted) Unstarted := by
  intro trace codes before
  rw [checkRateLimitStorage, if_pos refuses]
  exact unstarted_snoc trace (.complained refusal) (fun _ => nofun) before

theorem guard_refuses (environment : Environment) (arguments : List Str) (refuses : rateLimitGuard environment = true) :
    RefusesToStart environment arguments := by
  have ended : Ensures Unstarted (entrypoint environment arguments) (fun _ _ => False) (fun _ => Unstarted) Unstarted := by
    refine ensures_bind _ _ (fun _ => Unstarted) _ (strict_unstarted _) ?_
    intro _
    refine ensures_bind _ _ (fun _ => Unstarted) _ (strict_unstarted _) ?_
    intro _
    refine ensures_bind _ _ (fun _ _ => False) _ (check_refuses environment refuses) ?_
    intro _ trace codes impossible
    exact impossible.elim
  intro codes command started
  have done := ended [] codes (fun _ => List.not_mem_nil)
  unfold Ends at done
  unfold run at started
  split at done
  · exact done
  · exact done command started
  · exact done command started

theorem guard_admits (environment : Environment) (arguments : List Str) (admits : rateLimitGuard environment = false) :
    .started (if arguments = [] then uvicornCommand environment else arguments) ∈
      (run environment arguments [0, 0, 0]).world := by
  have passed : checkRateLimitStorage environment = pure () := by
    rw [checkRateLimitStorage, if_neg (by simp [admits])]
  unfold run entrypoint
  rw [passed]
  by_cases migrates : expand environment "RUN_DB_MIGRATIONS" "false" = "true".toList
  · rw [runMigrations, if_pos migrates]
    exact List.mem_append_right _ (List.mem_singleton.mpr rfl)
  · rw [runMigrations, if_neg migrates]
    exact List.mem_append_right _ (List.mem_singleton.mpr rfl)

theorem refuses_to_start_iff (environment : Environment) (arguments : List Str) :
    RefusesToStart environment arguments ↔ rateLimitGuard environment = true := by
  constructor
  · intro refuses
    cases guarded : rateLimitGuard environment with
    | true => rfl
    | false => exact absurd (guard_admits environment arguments guarded) (refuses _ _)
  · exact guard_refuses environment arguments

-- The number of worker processes that uvicorn runs for the text of --workers;
-- none where it takes the text for no number.
structure Uvicorn where
  workers : Str → Option Nat
  single : workers "1".toList = some 1

inductive StoreChoice where
  | memory
  | redis (storageUrl : Str)
deriving DecidableEq

-- RateLimitMiddleware.__init__
def chooseStore (storageUrl : Str) : StoreChoice := if storageUrl ≠ [] then .redis storageUrl else .memory

def MultipliesLimit (settings : RateLimitSettings) (workers : Nat) : Prop :=
  settings.rateLimitEnabled = true ∧ chooseStore settings.resolvedUrl = .memory ∧ 1 < workers

def enabledText (environment : Environment) : Str := expand environment "APP_RATE_LIMIT_ENABLED" "false"

-- Where the guard and Settings agree: no store is needed, or the switch is
-- spelled the way the guard reads it and the rest calls for a shared store, or
-- it is spelled another way and no shared store is called for.
def GuardFits (environment : Environment) (settings : RateLimitSettings) (workers : Nat) : Prop :=
  settings.storage.rateLimitStorageUrl ≠ [] ∨ settings.rateLimitEnabled = false ∨
    (enabledText environment = "true".toList ∧
      (workersText environment = "1".toList ∨ settings.storage.rateLimitStorageBackend = .memory ∧ 1 < workers)) ∨
    (enabledText environment ≠ "true".toList ∧
      ¬ (settings.storage.rateLimitStorageBackend = .memory ∧ 1 < workers))

theorem choose_store_memory (settings : RateLimitSettings) :
    chooseStore settings.resolvedUrl = .memory ↔
      settings.storage.rateLimitStorageUrl = [] ∧ settings.storage.rateLimitStorageBackend = .memory := by
  rw [← resolved_url_empty, chooseStore]
  by_cases given : settings.resolvedUrl ≠ []
  · rw [if_pos given]
    simp [given]
  · rw [if_neg given]
    simp [not_not.mp given]

theorem expand_empty (environment : Environment) (name : String) :
    expand environment name "" = (environment name.toList).getD [] := by
  unfold expand
  cases environment name.toList with
  | none => rfl
  | some text =>
      cases text with
      | nil => rfl
      | cons head tail => rfl

section Accepted

variable (parsing : Parsing) (environment : Environment) (settings : RateLimitSettings)

theorem accepted_url (accepted : readRateLimitSettings parsing environment = some settings) :
    expand environment "APP_RATE_LIMIT_STORAGE_URL" "" = settings.storage.rateLimitStorageUrl := by
  have read := (read_settings_fields parsing environment settings accepted).storageUrl
  rw [expand_empty]
  cases found : environment "APP_RATE_LIMIT_STORAGE_URL".toList with
  | none =>
      rw [read_unset _ _ _ found] at read
      exact Option.some.inj read
  | some text =>
      rw [read_set _ _ _ text found] at read
      exact Option.some.inj read

theorem accepted_enabled (accepted : readRateLimitSettings parsing environment = some settings)
    (spelled : enabledText environment = "true".toList) : settings.rateLimitEnabled = true := by
  have read := (read_settings_fields parsing environment settings accepted).enabled
  unfold enabledText expand at spelled
  cases found : environment "APP_RATE_LIMIT_ENABLED".toList with
  | none =>
      rw [found] at spelled
      exact absurd spelled (by decide)
  | some text =>
      rw [found] at spelled
      have same : text = "true".toList := by
        cases text with
        | nil => exact absurd spelled (by decide)
        | cons head tail => exact spelled
      rw [read_set _ _ _ text found, same] at read
      have decided : parseBool "true".toList = some true := by decide
      exact Option.some.inj (read.symm.trans decided)

end Accepted

theorem decisions_agree_iff (spelled underived one memory several enabled : Prop) (known : spelled → enabled)
    (alone : one → ¬ several) :
    ((spelled ∧ underived ∧ ¬ one) ↔ (enabled ∧ (underived ∧ memory) ∧ several)) ↔
      (¬ underived ∨ ¬ enabled ∨ (spelled ∧ (one ∨ memory ∧ several)) ∨ (¬ spelled ∧ ¬ (memory ∧ several))) := by
  by_cases given : underived
  · by_cases on : enabled
    · by_cases shared : memory ∧ several
      · have more : ¬ one := fun single => alone single shared.2
        simp [given, on, shared, more]
      · by_cases spelling : spelled
        · simp [given, on, shared, spelling]
        · simp [given, on, spelling, shared]
    · have other : ¬ spelled := fun spelling => on (known spelling)
      simp [on, other]
  · simp [given]

theorem entrypoint_guard_agrees_iff (parsing : Parsing) (uvicorn : Uvicorn) (environment : Environment)
    (settings : RateLimitSettings) (workers : Nat)
    (accepted : readRateLimitSettings parsing environment = some settings)
    (launched : uvicorn.workers (workersText environment) = some workers) :
    (RefusesToStart environment [] ↔ MultipliesLimit settings workers) ↔ GuardFits environment settings workers := by
  have url := accepted_url parsing environment settings accepted
  have spelled := accepted_enabled parsing environment settings accepted
  have alone : workersText environment = "1".toList → ¬ 1 < workers := by
    intro one several
    rw [one, uvicorn.single] at launched
    exact absurd (Option.some.inj launched) (by omega)
  have guarded : rateLimitGuard environment = true ↔
      enabledText environment = "true".toList ∧ settings.storage.rateLimitStorageUrl = [] ∧
        workersText environment ≠ "1".toList := by
    rw [rateLimitGuard, decide_eq_true_eq, url, enabledText]
  rw [refuses_to_start_iff, guarded, MultipliesLimit, choose_store_memory, GuardFits, ← Bool.not_eq_true]
  exact decisions_agree_iff _ _ _ _ _ _ spelled alone

def uvicorn : Uvicorn where
  workers := fun text => (plainInt text).map (fun n => max 1 n.toNat)
  single := by decide

def environmentOf (pairs : List (String × String)) : Environment := fun name =>
  (pairs.find? (fun pair => pair.1.toList = name)).map (fun pair => pair.2.toList)

def sharedStore : Environment :=
  environmentOf [("APP_RATE_LIMIT_ENABLED", "true"), ("APP_RATE_LIMIT_STORAGE_BACKEND", "redis"), ("UVICORN_WORKERS", "4")]

def capitalSwitch : Environment := environmentOf [("APP_RATE_LIMIT_ENABLED", "True"), ("UVICORN_WORKERS", "4")]

def redisSettings : RateLimitSettings :=
  { rateLimitEnabled := true, rateLimitRequests := 100, rateLimitWindowSeconds := 60, rateLimitKeyStrategy := "ip".toList
    rateLimitTrustProxyHeaders := false, rateLimitProxyHeaders := ["X-Forwarded-For".toList, "X-Real-IP".toList]
    rateLimitTrustedProxies := [], storage := { rateLimitStorageBackend := .redis } }

def memorySettings : RateLimitSettings := { redisSettings with storage := {} }

theorem shared_store_accepted : readRateLimitSettings (pydantic Auth.cpython) sharedStore = some redisSettings := rfl

theorem capital_switch_accepted : readRateLimitSettings (pydantic Auth.cpython) capitalSwitch = some memorySettings := rfl

theorem entrypoint_guard_agrees_iff_shared :
    (RefusesToStart sharedStore [] ↔ MultipliesLimit redisSettings 4) ↔ GuardFits sharedStore redisSettings 4 :=
  entrypoint_guard_agrees_iff (pydantic Auth.cpython) uvicorn sharedStore redisSettings 4 shared_store_accepted (by decide)

theorem guard_disagrees :
    (RefusesToStart sharedStore [] ∧ ¬ MultipliesLimit redisSettings 4) ∧
      ¬ RefusesToStart capitalSwitch [] ∧ MultipliesLimit memorySettings 4 := by
  rw [refuses_to_start_iff, refuses_to_start_iff, MultipliesLimit, MultipliesLimit, choose_store_memory,
    choose_store_memory]
  decide

end Chassis.Entrypoint
