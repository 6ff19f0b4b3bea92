import Chassis.JwksEntries
import Chassis.JwksFreshness

set_option autoImplicit false

namespace Chassis.Auth

open Transition

structure ReadinessCheckResult where
  name : Str
  isHealthy : Bool
  detail : Str
deriving DecidableEq

def ReadinessCheckResult.ok (name detail : String) : ReadinessCheckResult := ⟨name.toList, true, detail.toList⟩

def ReadinessCheckResult.error (name : String) (detail : Str) : ReadinessCheckResult := ⟨name.toList, false, detail⟩

-- The coroutines of the service that come to _fetch_jwks: authenticate_token
-- (through _resolve_key), readiness_check and warm_up.
inductive Purpose where
  | authenticate (token : Str)
  | readiness
  | warmUp

-- Of authenticate_token only the key is followed; what comes after it does not
-- suspend.
inductive Outcome (κ : Type) where
  | disabled
  | resolved (result : Except KeyFailure (VerificationKey κ))
  | reported (result : ReadinessCheckResult)
  | warmed (result : Except Failure Unit)
  | cancelled

-- The await of _fetch_jwks in which a coroutine stands.
inductive Stage (κ : Type) where
  | idle
  | lookingUp (kid : Str)
  | refreshing (kid : Str)
  | checking
  | warming
  | done (outcome : Outcome κ)

section Model

variable {κ : Type}

def Stage.forceRefresh : Stage κ → Bool
  | .refreshing _ => true
  | .warming => true
  | _ => false

def Stage.awaits : Stage κ → Bool
  | .idle => false
  | .done _ => false
  | _ => true

-- A coroutine calls _fetch_jwks at most twice; the two calls have numbers of
-- their own.
def firstCall (task : Nat) : Nat := 2 * task

def forcedCall (task : Nat) : Nat := 2 * task + 1

def Stage.call (task : Nat) : Stage κ → Nat
  | .refreshing _ => forcedCall task
  | _ => firstCall task

structure ServiceState (κ : Type) where
  fetch : FetchState
  stage : Nat → Stage κ

def ServiceState.start (clock : Rat) : ServiceState κ := ⟨FetchState.start clock, fun _ => .idle⟩

def ServiceState.move (state : ServiceState κ) (task : Nat) (fetch : FetchState) (stage : Stage κ) : ServiceState κ :=
  ⟨fetch, fun other => if other = task then stage else state.stage other⟩

inductive TaskAction where
  | start (purpose : Purpose)
  | fetch (action : Action)

structure TaskStep where
  time : Rat
  task : Nat
  action : TaskAction

inductive TaskEvent (κ : Type) where
  | started (task : Nat) (purpose : Purpose)
  | called (task : Nat) (forceRefresh : Bool)
  | fetch (event : FetchEvent)
  | finished (task : Nat) (outcome : Outcome κ)

inductive CallResult where
  | returned (jwks : Jwks)
  | raised (failure : Failure)
  | cancelled

-- How the call ends that leaves these events, if it has come to that.
def callResult (events : List FetchEvent) : Option CallResult :=
  match events.getLast? with
  | some (.returned _ _ jwks) => some (.returned jwks)
  | some (.raised _ failure) => some (.raised failure)
  | some (.cancelled _) => some .cancelled
  | _ => none

section Service

variable (settings : Settings) (library : JwtLibrary κ) (describe : Failure → Str)

-- The code before the first await.
def enterAuthenticate (token : Str) : Stage κ :=
  if settings.authEnabled = false then .done .disabled
  else if settings.authJwksUrl ≠ [] then
    match library.unverifiedHeader token with
    | .error failure => .done (.resolved (.error (.raised failure)))
    | .ok header =>
        match header.kid with
        | none => .done (.resolved (.error .missingKid))
        | some kid => if kid = [] then .done (.resolved (.error .missingKid)) else .lookingUp kid
  else .done (.resolved (resolveKey library settings (fun _ => .error .other) token))

def enterReadiness : Stage κ :=
  if settings.authEnabled = false then .done (.reported (.ok "auth" "Authentication disabled"))
  else if settings.authJwksUrl ≠ [] then .checking
  else if settings.authJwtPublicKey ≠ [] then .done (.reported (.ok "auth" "Static public key configured"))
  else if usesSharedSecret settings then .done (.reported (.ok "auth" "Shared-secret JWT validation configured"))
  else .done (.reported (.error "auth" "No JWT verification material configured".toList))

def enterWarmUp : Stage κ :=
  if settings.authEnabled = true ∧ settings.authJwksUrl ≠ [] then .warming else .done (.warmed (.ok ()))

def enter : Purpose → Stage κ
  | .authenticate token => enterAuthenticate settings library token
  | .readiness => enterReadiness settings
  | .warmUp => enterWarmUp settings

def staleDetail : Str := "Using stale JWKS cache after refresh failure".toList

def availableDetail : Str := "JWKS available".toList

def readinessResult (usedStaleCache : Bool) : ReadinessCheckResult :=
  ⟨"auth".toList, true, if usedStaleCache then staleDetail else availableDetail⟩

-- The code after an await, with the flag as it is then.
def continueWith (stage : Stage κ) (usedStaleCache : Bool) : CallResult → Stage κ
  | .cancelled => .done .cancelled
  | .raised failure =>
      match stage with
      | .checking => .done (.reported (.error "auth" ("JWKS unavailable: ".toList ++ describe failure)))
      | .warming => .done (.warmed (.error failure))
      | _ => .done (.resolved (.error (.raised failure)))
  | .returned jwks =>
      match stage with
      | .lookingUp kid =>
          match getJwkKeyForKid library jwks kid with
          | .error failure => .done (.resolved (.error (.raised failure)))
          | .ok (some key) => .done (.resolved (.ok (.jwk key)))
          | .ok none => .refreshing kid
      | .refreshing kid =>
          match getJwkKeyForKid library jwks kid with
          | .error failure => .done (.resolved (.error (.raised failure)))
          | .ok (some key) => .done (.resolved (.ok (.jwk key)))
          | .ok none => .done (.resolved (.error .noMatchingKey))
      | .checking => .done (.reported (readinessResult usedStaleCache))
      | .warming => .done (.warmed (.ok ()))
      | other => other

-- No other coroutine runs between the end of a call and the next await: the
-- flag is read, and a forced refresh begun, in the same step.
def settle (fetch : FetchState) (task : Nat) (now : Rat) (stage : Stage κ) (events : List FetchEvent) :
    Option (FetchState × Stage κ × List (TaskEvent κ)) :=
  match callResult events with
  | none => some (fetch, stage, events.map .fetch)
  | some result =>
      match continueWith library describe stage fetch.jwksLastFetchUsedStaleCache result with
      | .done outcome => some (fetch, .done outcome, events.map .fetch ++ [.finished task outcome])
      | next =>
          match fetchStep settings fetch ⟨now, next.call task, .begin next.forceRefresh⟩ with
          | none => none
          | some (again, more) =>
              some (again, next, events.map .fetch ++ .called task next.forceRefresh :: more.map .fetch)

def pursue (fetch : FetchState) (task : Nat) (now : Rat) (stage : Stage κ) (action : Action) :
    Option (FetchState × Stage κ × List (TaskEvent κ)) :=
  match fetchStep settings fetch ⟨now, stage.call task, action⟩ with
  | none => none
  | some (next, events) => settle settings library describe next task now stage events

def taskStep (state : ServiceState κ) (input : TaskStep) : Option (ServiceState κ × List (TaskEvent κ)) :=
  let { time := now, task, action } := input
  match action, state.stage task with
  | .start purpose, .idle =>
      match enter settings library purpose with
      | .done outcome =>
          some (state.move task state.fetch (.done outcome), [.started task purpose, .finished task outcome])
      | stage =>
          match pursue settings library describe state.fetch task now stage (.begin stage.forceRefresh) with
          | none => none
          | some (fetch, next, events) =>
              some (state.move task fetch next, [.started task purpose, .called task stage.forceRefresh] ++ events)
  | .fetch action, stage =>
      if stage.awaits then
        match pursue settings library describe state.fetch task now stage action with
        | none => none
        | some (fetch, next, events) => some (state.move task fetch next, events)
      else none
  | _, _ => none

end Service

end Model

end Chassis.Auth
