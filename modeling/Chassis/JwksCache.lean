import Chassis.AuthKey
import Chassis.Transition
import Mathlib.Algebra.Order.Field.Rat

set_option autoImplicit false

namespace Chassis.Auth

open Transition

-- How the HTTP request ends: with a decoded payload, or with an exception
-- (transport error, error status, a body that is not JSON).
inductive NetworkOutcome where
  | answered (payload : Json)
  | failed (failure : Failure)

inductive Phase where
  | idle
  | waiting (forceRefresh : Bool)
  | fetching
  | finished
deriving DecidableEq, Repr

-- The fields of the service, with where each call of _fetch_jwks stands and
-- the latest reading of the clock.
structure FetchState where
  jwksLock : Option Nat
  jwksCache : Option Jwks
  jwksLoadedAt : Rat
  jwksLastFetchUsedStaleCache : Bool
  phase : Nat → Phase
  clock : Rat

def FetchState.start (clock : Rat) : FetchState :=
  { jwksLock := none
    jwksCache := none
    jwksLoadedAt := 0
    jwksLastFetchUsedStaleCache := false
    phase := fun _ => .idle
    clock := clock }

-- A step is the code of one call between two suspension points.
inductive Action where
  | begin (forceRefresh : Bool)
  | acquire
  | complete (outcome : NetworkOutcome)
  | cancel

structure FetchStep where
  time : Rat
  call : Nat
  action : Action

inductive FetchEvent where
  | refreshed (call : Nat) (time : Rat) (jwks : Jwks)
  | refreshFailed (call : Nat) (time : Rat)
  | returned (call : Nat) (time : Rat) (jwks : Jwks)
  | raised (call : Nat) (failure : Failure)
  | cancelled (call : Nat)

def jwksCacheExpired (settings : Settings) (state : FetchState) (now : Rat) : Bool :=
  now - state.jwksLoadedAt ≥ settings.authJwksCacheTtlSeconds

-- The guard of both fast paths. A cached payload has members, so it is truthy.
def cachedKeys (settings : Settings) (state : FetchState) (forceRefresh : Bool) (now : Rat) : Option Jwks :=
  if forceRefresh = false ∧ jwksCacheExpired settings state now = false then state.jwksCache else none

def staleKeys (settings : Settings) (state : FetchState) (now : Rat) : Option Jwks :=
  let staleSeconds := now - state.jwksLoadedAt
  let maxStale := settings.authJwksMaxStaleSeconds
  if maxStale > 0 ∧ staleSeconds ≤ maxStale then state.jwksCache else none

def readPayload (outcome : NetworkOutcome) : Except Failure Jwks :=
  match outcome with
  | .answered payload => validateJwksPayload payload
  | .failed failure => .error failure

def FetchState.enter (state : FetchState) (now : Rat) (call : Nat) (phase : Phase) : FetchState :=
  { state with phase := fun other => if other = call then phase else state.phase other, clock := now }

def completeFetch (settings : Settings) (state : FetchState) (now : Rat) (call : Nat) (outcome : NetworkOutcome) :
    FetchState × List FetchEvent :=
  let released := { state.enter now call .finished with jwksLock := none }
  match readPayload outcome with
  | .ok jwks =>
      ({ released with jwksCache := some jwks, jwksLoadedAt := now, jwksLastFetchUsedStaleCache := false },
        [.refreshed call now jwks, .returned call now jwks])
  | .error failure =>
      match staleKeys settings state now with
      | some jwks =>
          ({ released with jwksLastFetchUsedStaleCache := true }, [.refreshFailed call now, .returned call now jwks])
      | none => (released, [.refreshFailed call now, .raised call failure])

def fetchStep (settings : Settings) (state : FetchState) (input : FetchStep) :
    Option (FetchState × List FetchEvent) :=
  let { time := now, call, action } := input
  if now < state.clock then none
  else
    match action, state.phase call with
    | .begin forceRefresh, .idle =>
        match cachedKeys settings state forceRefresh now with
        | some jwks =>
            some ({ state.enter now call .finished with jwksLastFetchUsedStaleCache := false }, [.returned call now jwks])
        | none => some (state.enter now call (.waiting forceRefresh), [])
    | .acquire, .waiting forceRefresh =>
        if state.jwksLock ≠ none then none
        else
          match cachedKeys settings state forceRefresh now with
          | some jwks =>
              some ({ state.enter now call .finished with jwksLastFetchUsedStaleCache := false },
                [.returned call now jwks])
          | none => some ({ state.enter now call .fetching with jwksLock := some call }, [])
    | .complete outcome, .fetching => some (completeFetch settings state now call outcome)
    | .cancel, .waiting _ => some (state.enter now call .finished, [.cancelled call])
    | .cancel, .fetching => some ({ state.enter now call .finished with jwksLock := none }, [.cancelled call])
    | _, _ => none

-- All that one step can be. A call is served from the cache as it begins or as
-- it gets the lock, or else goes on to wait and to fetch.
inductive Taken (settings : Settings) (state : FetchState) (now : Rat) (call : Nat) :
    Action → FetchState → List FetchEvent → Prop where
  | hit (forceRefresh : Bool) (jwks : Jwks) (begins : state.phase call = .idle)
      (found : cachedKeys settings state forceRefresh now = some jwks) :
      Taken settings state now call (.begin forceRefresh)
        { state.enter now call .finished with jwksLastFetchUsedStaleCache := false } [.returned call now jwks]
  | wait (forceRefresh : Bool) (begins : state.phase call = .idle)
      (missed : cachedKeys settings state forceRefresh now = none) :
      Taken settings state now call (.begin forceRefresh) (state.enter now call (.waiting forceRefresh)) []
  | recheck (forceRefresh : Bool) (jwks : Jwks) (waits : state.phase call = .waiting forceRefresh)
      (free : state.jwksLock = none) (found : cachedKeys settings state forceRefresh now = some jwks) :
      Taken settings state now call .acquire
        { state.enter now call .finished with jwksLastFetchUsedStaleCache := false } [.returned call now jwks]
  | fetch (forceRefresh : Bool) (waits : state.phase call = .waiting forceRefresh) (free : state.jwksLock = none)
      (missed : cachedKeys settings state forceRefresh now = none) :
      Taken settings state now call .acquire { state.enter now call .fetching with jwksLock := some call } []
  | complete (outcome : NetworkOutcome) (fetches : state.phase call = .fetching) :
      Taken settings state now call (.complete outcome) (completeFetch settings state now call outcome).1
        (completeFetch settings state now call outcome).2
  | leaveQueue (forceRefresh : Bool) (waits : state.phase call = .waiting forceRefresh) :
      Taken settings state now call .cancel (state.enter now call .finished) [.cancelled call]
  | leaveFetch (fetches : state.phase call = .fetching) :
      Taken settings state now call .cancel { state.enter now call .finished with jwksLock := none } [.cancelled call]

theorem fetch_step_taken (settings : Settings) (state next : FetchState) (now : Rat) (call : Nat) (action : Action)
    (events : List FetchEvent) (stepped : fetchStep settings state ⟨now, call, action⟩ = some (next, events)) :
    state.clock ≤ now ∧ Taken settings state now call action next events := by
  by_cases past : now < state.clock
  · simp [fetchStep, past] at stepped
  · refine ⟨not_lt.mp past, ?_⟩
    simp only [fetchStep, if_neg past] at stepped
    cases phase : state.phase call with
    | idle =>
        cases action with
        | begin forceRefresh =>
            simp only [phase] at stepped
            cases found : cachedKeys settings state forceRefresh now with
            | none =>
                rw [found] at stepped
                cases stepped
                exact .wait forceRefresh phase found
            | some jwks =>
                rw [found] at stepped
                cases stepped
                exact .hit forceRefresh jwks phase found
        | acquire => simp [phase] at stepped
        | complete outcome => simp [phase] at stepped
        | cancel => simp [phase] at stepped
    | waiting forceRefresh =>
        cases action with
        | begin _ => simp [phase] at stepped
        | acquire =>
            simp only [phase] at stepped
            by_cases held : state.jwksLock ≠ none
            · simp [held] at stepped
            · rw [if_neg held] at stepped
              have free : state.jwksLock = none := not_not.mp held
              cases found : cachedKeys settings state forceRefresh now with
              | none =>
                  rw [found] at stepped
                  cases stepped
                  exact .fetch forceRefresh phase free found
              | some jwks =>
                  rw [found] at stepped
                  cases stepped
                  exact .recheck forceRefresh jwks phase free found
        | complete outcome => simp [phase] at stepped
        | cancel =>
            simp only [phase] at stepped
            cases stepped
            exact .leaveQueue forceRefresh phase
    | fetching =>
        cases action with
        | begin _ => simp [phase] at stepped
        | acquire => simp [phase] at stepped
        | complete outcome =>
            simp only [phase] at stepped
            have completed : Taken settings state now call (.complete outcome)
                (completeFetch settings state now call outcome).1 (completeFetch settings state now call outcome).2 :=
              .complete outcome phase
            rw [Option.some.inj stepped] at completed
            exact completed
        | cancel =>
            simp only [phase] at stepped
            cases stepped
            exact .leaveFetch phase
    | finished => cases action <;> simp [phase] at stepped

theorem cached_unforced (settings : Settings) (state : FetchState) (forceRefresh : Bool) (now : Rat) (jwks : Jwks)
    (found : cachedKeys settings state forceRefresh now = some jwks) : forceRefresh = false := by
  by_contra forced
  have refused : cachedKeys settings state forceRefresh now = none := if_neg (fun usable => forced usable.1)
  rw [refused] at found
  cases found

theorem enter_other (state : FetchState) (now : Rat) (call other : Nat) (phase : Phase) (different : other ≠ call) :
    (state.enter now call phase).phase other = state.phase other := if_neg different

theorem enter_same (state : FetchState) (now : Rat) (call : Nat) (phase : Phase) :
    (state.enter now call phase).phase call = phase := if_pos rfl

theorem validated_object (payload : Json) (jwks : Jwks) (read : validateJwksPayload payload = .ok jwks) :
    ∃ members, payload = .object members ∧ Json.member "keys".toList members = some (.array jwks.keys) := by
  cases payload with
  | object members =>
      refine ⟨members, rfl, ?_⟩
      unfold validateJwksPayload at read
      simp only at read
      split at read
      next keys found =>
          by_cases nonempty : keys ≠ []
          · rw [dif_pos nonempty] at read
            cases read
            exact found
          · rw [dif_neg nonempty] at read
            cases read
      next absent => cases read
  | null => cases read
  | bool value => cases read
  | int value => cases read
  | float value => cases read
  | str text => cases read
  | array items => cases read

theorem validate_members (jwks : Jwks) : validateJwksPayload (.object jwks.members) = .ok jwks := by
  unfold validateJwksPayload
  simp only
  split
  next keys found =>
      have same : keys = jwks.keys := by
        have both := found.symm.trans jwks.found
        cases both
        rfl
      subst same
      rw [dif_pos jwks.nonempty]
  next absent => exact absurd jwks.found (absent jwks.keys)

end Chassis.Auth
