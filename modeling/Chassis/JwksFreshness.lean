import Chassis.JwksCache
import Mathlib.Tactic.NormNum

set_option autoImplicit false

namespace Chassis.Auth

open Transition

def FetchEvent.isRefresh : FetchEvent → Bool
  | .refreshed _ _ _ => true
  | _ => false

def FetchEvent.call : FetchEvent → Nat
  | .refreshed call _ _ => call
  | .refreshFailed call _ => call
  | .returned call _ _ => call
  | .raised call _ => call
  | .cancelled call => call

def LatestRefresh (trace : List FetchEvent) (loaded : Rat) (jwks : Jwks) : Prop :=
  ∃ earlier call later, trace = earlier ++ .refreshed call loaded jwks :: later ∧
    ∀ event ∈ later, event.isRefresh = false

inductive Move (settings : Settings) (state next : FetchState) (call : Nat) (now : Rat) : List FetchEvent → Prop where
  | quiet (events : List FetchEvent) (cache : next.jwksCache = state.jwksCache)
      (loaded : next.jwksLoadedAt = state.jwksLoadedAt)
      (silent : events = [] ∨ events = [.cancelled call] ∨
        ∃ failure, events = [.refreshFailed call now, .raised call failure]) : Move settings state next call now events
  | fresh (jwks : Jwks) (cache : next.jwksCache = state.jwksCache) (loaded : next.jwksLoadedAt = state.jwksLoadedAt)
      (held : state.jwksCache = some jwks) (young : now - state.jwksLoadedAt < settings.authJwksCacheTtlSeconds) :
      Move settings state next call now [.returned call now jwks]
  | install (jwks : Jwks) (cache : next.jwksCache = some jwks) (loaded : next.jwksLoadedAt = now) :
      Move settings state next call now [.refreshed call now jwks, .returned call now jwks]
  | stale (jwks : Jwks) (cache : next.jwksCache = state.jwksCache) (loaded : next.jwksLoadedAt = state.jwksLoadedAt)
      (held : state.jwksCache = some jwks) (allowed : settings.authJwksMaxStaleSeconds > 0)
      (bounded : now - state.jwksLoadedAt ≤ settings.authJwksMaxStaleSeconds) :
      Move settings state next call now [.refreshFailed call now, .returned call now jwks]

theorem cached_keys_some (settings : Settings) (state : FetchState) (forceRefresh : Bool) (now : Rat) (jwks : Jwks)
    (found : cachedKeys settings state forceRefresh now = some jwks) :
    state.jwksCache = some jwks ∧ now - state.jwksLoadedAt < settings.authJwksCacheTtlSeconds := by
  unfold cachedKeys at found
  by_cases usable : forceRefresh = false ∧ jwksCacheExpired settings state now = false
  · rw [if_pos usable] at found
    have young := usable.2
    rw [jwksCacheExpired, decide_eq_false_iff_not] at young
    exact ⟨found, not_le.mp young⟩
  · rw [if_neg usable] at found
    cases found

theorem stale_keys_some (settings : Settings) (state : FetchState) (now : Rat) (jwks : Jwks)
    (found : staleKeys settings state now = some jwks) :
    state.jwksCache = some jwks ∧ settings.authJwksMaxStaleSeconds > 0 ∧
      now - state.jwksLoadedAt ≤ settings.authJwksMaxStaleSeconds := by
  unfold staleKeys at found
  by_cases allowed : settings.authJwksMaxStaleSeconds > 0 ∧
      now - state.jwksLoadedAt ≤ settings.authJwksMaxStaleSeconds
  · exact ⟨(if_pos allowed).symm.trans found, allowed.1, allowed.2⟩
  · have refused := (if_neg allowed).symm.trans found
    cases refused

theorem complete_fetch_move (settings : Settings) (state : FetchState) (now : Rat) (call : Nat)
    (outcome : NetworkOutcome) :
    (completeFetch settings state now call outcome).1.clock = now ∧
      Move settings state (completeFetch settings state now call outcome).1 call now
        (completeFetch settings state now call outcome).2 := by
  unfold completeFetch
  cases readPayload outcome with
  | ok jwks => exact ⟨rfl, .install jwks rfl rfl⟩
  | error failure =>
      cases kept : staleKeys settings state now with
      | none => exact ⟨rfl, .quiet _ rfl rfl (.inr (.inr ⟨failure, rfl⟩))⟩
      | some jwks =>
          obtain ⟨held, allowed, bounded⟩ := stale_keys_some settings state now jwks kept
          exact ⟨rfl, .stale jwks rfl rfl held allowed bounded⟩

theorem fetch_step_move (settings : Settings) (state next : FetchState) (input : FetchStep)
    (events : List FetchEvent) (stepped : fetchStep settings state input = some (next, events)) :
    state.clock ≤ input.time ∧ next.clock = input.time ∧
      Move settings state next input.call input.time events := by
  obtain ⟨now, call, action⟩ := input
  obtain ⟨ordered, taken⟩ := fetch_step_taken settings state next now call action events stepped
  refine ⟨ordered, ?_⟩
  cases taken with
  | hit forceRefresh jwks begins found =>
      obtain ⟨held, young⟩ := cached_keys_some settings state forceRefresh now jwks found
      exact ⟨rfl, .fresh jwks rfl rfl held young⟩
  | wait forceRefresh begins missed => exact ⟨rfl, .quiet [] rfl rfl (.inl rfl)⟩
  | recheck forceRefresh jwks waits free found =>
      obtain ⟨held, young⟩ := cached_keys_some settings state forceRefresh now jwks found
      exact ⟨rfl, .fresh jwks rfl rfl held young⟩
  | fetch forceRefresh waits free missed => exact ⟨rfl, .quiet [] rfl rfl (.inl rfl)⟩
  | complete outcome fetches => exact complete_fetch_move settings state now call outcome
  | leaveQueue forceRefresh waits => exact ⟨rfl, .quiet _ rfl rfl (.inr (.inl rfl))⟩
  | leaveFetch fetches => exact ⟨rfl, .quiet _ rfl rfl (.inr (.inl rfl))⟩

def Served (settings : Settings) (before : List FetchEvent) : FetchEvent → Prop
  | .returned call now jwks =>
      ∃ loaded, LatestRefresh before loaded jwks ∧ loaded ≤ now ∧
        (now - loaded < settings.authJwksCacheTtlSeconds ∨
          settings.authJwksMaxStaleSeconds > 0 ∧ now - loaded ≤ settings.authJwksMaxStaleSeconds ∧
            .refreshFailed call now ∈ before)
  | _ => True

structure CacheTracks (settings : Settings) (trace : List FetchEvent) (state : FetchState) : Prop where
  cached : ∀ jwks, state.jwksCache = some jwks →
    LatestRefresh trace state.jwksLoadedAt jwks ∧ state.jwksLoadedAt ≤ state.clock
  never : state.jwksCache = none → ∀ event ∈ trace, event.isRefresh = false
  served : Always (Served settings) trace

theorem latest_append (trace events : List FetchEvent) (loaded : Rat) (jwks : Jwks)
    (latest : LatestRefresh trace loaded jwks) (silent : ∀ event ∈ events, event.isRefresh = false) :
    LatestRefresh (trace ++ events) loaded jwks := by
  obtain ⟨earlier, call, later, split, quiet⟩ := latest
  refine ⟨earlier, call, later ++ events, by simp [split], ?_⟩
  intro event member
  cases List.mem_append.mp member with
  | inl before => exact quiet event before
  | inr after => exact silent event after

theorem tracks_kept (settings : Settings) (trace events : List FetchEvent) (state next : FetchState)
    (tracks : CacheTracks settings trace state) (cache : next.jwksCache = state.jwksCache)
    (loaded : next.jwksLoadedAt = state.jwksLoadedAt) (clock : state.clock ≤ next.clock)
    (silent : ∀ event ∈ events, event.isRefresh = false) (served : Always (Served settings) (trace ++ events)) :
    CacheTracks settings (trace ++ events) next := by
  refine ⟨?_, ?_, served⟩
  · intro jwks held
    obtain ⟨latest, past⟩ := tracks.cached jwks (cache ▸ held)
    exact loaded ▸ ⟨latest_append trace events _ jwks latest silent, le_trans past clock⟩
  · intro empty event member
    cases List.mem_append.mp member with
    | inl before => exact tracks.never (cache ▸ empty) event before
    | inr after => exact silent event after

theorem fetch_step_tracks (settings : Settings) (positive : 0 < settings.authJwksCacheTtlSeconds)
    (trace : List FetchEvent) (state : FetchState) (input : FetchStep) (next : FetchState) (events : List FetchEvent)
    (tracks : CacheTracks settings trace state) (stepped : fetchStep settings state input = some (next, events)) :
    CacheTracks settings (trace ++ events) next := by
  obtain ⟨ordered, clock, move⟩ := fetch_step_move settings state next input events stepped
  have advanced : state.clock ≤ next.clock := clock.symm ▸ ordered
  cases move with
  | quiet _ cache loaded silent =>
      cases silent with
      | inl none =>
          subst none
          exact tracks_kept settings trace [] state next tracks cache loaded advanced (by simp) (by simpa using tracks.served)
      | inr noted =>
          cases noted with
          | inl cancelled =>
              subst cancelled
              exact tracks_kept settings trace _ state next tracks cache loaded advanced (by simp [FetchEvent.isRefresh])
                (always_snoc _ trace _ tracks.served trivial)
          | inr raised =>
              obtain ⟨failure, same⟩ := raised
              subst same
              exact tracks_kept settings trace _ state next tracks cache loaded advanced (by simp [FetchEvent.isRefresh])
                (always_pair _ trace _ _ tracks.served trivial trivial)
  | fresh jwks cache loaded held young =>
      obtain ⟨latest, past⟩ := tracks.cached jwks held
      exact tracks_kept settings trace _ state next tracks cache loaded advanced (by simp [FetchEvent.isRefresh])
        (always_snoc _ trace _ tracks.served ⟨state.jwksLoadedAt, latest, le_trans past ordered, .inl young⟩)
  | install jwks cache loaded =>
      have latest : LatestRefresh (trace ++ [.refreshed input.call input.time jwks]) input.time jwks :=
        ⟨trace, input.call, [], rfl, by simp⟩
      have young : input.time - input.time < (settings.authJwksCacheTtlSeconds : Rat) := by
        rw [sub_self]
        exact Int.cast_pos.mpr positive
      have served := always_pair _ trace (.refreshed input.call input.time jwks)
        (.returned input.call input.time jwks) tracks.served trivial ⟨input.time, latest, le_rfl, .inl young⟩
      refine ⟨?_, ?_, served⟩
      · intro other held
        rw [cache] at held
        rw [loaded, clock, ← Option.some.inj held]
        have both := latest_append _ [.returned input.call input.time jwks] _ _ latest (by simp [FetchEvent.isRefresh])
        exact ⟨by rwa [List.append_assoc] at both, le_rfl⟩
      · intro empty
        rw [cache] at empty
        cases empty
  | stale jwks cache loaded held allowed bounded =>
      obtain ⟨latest, past⟩ := tracks.cached jwks held
      have noted := latest_append trace [.refreshFailed input.call input.time] _ _ latest (by simp [FetchEvent.isRefresh])
      exact tracks_kept settings trace _ state next tracks cache loaded advanced (by simp [FetchEvent.isRefresh])
        (always_pair _ trace _ _ tracks.served trivial
          ⟨state.jwksLoadedAt, noted, le_trans past ordered, .inr ⟨allowed, bounded, by simp⟩⟩)

theorem start_tracks (settings : Settings) (clock : Rat) : CacheTracks settings [] (FetchState.start clock) :=
  ⟨by simp [FetchState.start], by simp, always_nil _⟩

theorem fetch_run_tracks (settings : Settings) (positive : 0 < settings.authJwksCacheTtlSeconds) (start : Rat)
    (steps : List FetchStep) (state : FetchState) (trace : List FetchEvent)
    (ran : exec (fetchStep settings) (FetchState.start start) steps = some (state, trace)) :
    CacheTracks settings trace state := by
  have tracks := exec_invariant (fetchStep settings) (CacheTracks settings) (fetch_step_tracks settings positive)
    (FetchState.start start) state [] trace steps (start_tracks settings start) ran
  rwa [List.nil_append] at tracks

theorem jwks_served_fresh (settings : Settings) (positive : 0 < settings.authJwksCacheTtlSeconds) (start : Rat)
    (steps : List FetchStep) (state : FetchState) (trace : List FetchEvent)
    (ran : exec (fetchStep settings) (FetchState.start start) steps = some (state, trace)) :
    (∀ before call now jwks after, trace = before ++ .returned call now jwks :: after →
      ∃ loaded, LatestRefresh before loaded jwks ∧ loaded ≤ now ∧
        (now - loaded < settings.authJwksCacheTtlSeconds ∨
          settings.authJwksMaxStaleSeconds > 0 ∧ now - loaded ≤ settings.authJwksMaxStaleSeconds ∧
            .refreshFailed call now ∈ before) ∧
        now - loaded ≤ max (settings.authJwksCacheTtlSeconds : Rat) settings.authJwksMaxStaleSeconds) ∧
    (∀ jwks, state.jwksCache = some jwks → LatestRefresh trace state.jwksLoadedAt jwks) ∧
    (state.jwksCache = none → ∀ event ∈ trace, event.isRefresh = false) := by
  have tracks := fetch_run_tracks settings positive start steps state trace ran
  refine ⟨?_, fun jwks held => (tracks.cached jwks held).1, tracks.never⟩
  intro before call now jwks after split
  obtain ⟨loaded, latest, past, age⟩ := tracks.served before _ after split
  refine ⟨loaded, latest, past, age, ?_⟩
  cases age with
  | inl young => exact le_max_of_le_left young.le
  | inr stale => exact le_max_of_le_right stale.2.1

def refreshSteps : List FetchStep :=
  [⟨1, 7, .begin false⟩, ⟨1, 7, .acquire⟩, ⟨2, 7, .complete (.answered (.object oneKeySet.members))⟩]

theorem refresh_ran : ∃ state, exec (fetchStep jwksSettings) (FetchState.start 0) refreshSteps =
    some (state, [.refreshed 7 2 oneKeySet, .returned 7 2 oneKeySet]) := by
  norm_num [exec, refreshSteps, fetchStep, FetchState.start, FetchState.enter, cachedKeys, completeFetch, readPayload,
    validate_members]

theorem jwks_served_fresh_first :
    ∃ loaded, LatestRefresh [.refreshed 7 2 oneKeySet] loaded oneKeySet ∧
      (2 : Rat) - loaded ≤ max (jwksSettings.authJwksCacheTtlSeconds : Rat) jwksSettings.authJwksMaxStaleSeconds := by
  obtain ⟨state, ran⟩ := refresh_ran
  obtain ⟨loaded, latest, _, _, bounded⟩ := (jwks_served_fresh jwksSettings (by decide) 0 refreshSteps state _ ran).1
    [.refreshed 7 2 oneKeySet] 7 2 oneKeySet [] rfl
  exact ⟨loaded, latest, bounded⟩

end Chassis.Auth
