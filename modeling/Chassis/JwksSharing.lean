import Chassis.JwksFailures
import Chassis.JwksResolution

set_option autoImplicit false

namespace Chassis.Auth

open Transition

section Sharing

variable (settings : Settings)

def WaitsIn (state : FetchState) (call : Nat) : Prop := ∃ forceRefresh, state.phase call = .waiting forceRefresh

def installedSet (jwks : Jwks) : List FetchEvent → Jwks
  | [] => jwks
  | .refreshed _ _ fetched :: rest => installedSet fetched rest
  | _ :: rest => installedSet jwks rest

-- In no state of the run is such a call at the network, and what it returns is
-- the set that is installed then.
structure SharesRefresh (installed : FetchState) (jwks : Jwks) (steps : List FetchStep) (trace : List FetchEvent) :
    Prop where
  unfetched : ∀ before after state events, steps = before ++ after →
    exec (fetchStep settings) installed before = some (state, events) →
    ∀ call, WaitsIn installed call → state.phase call ≠ .fetching
  served : ∀ before call now other after, trace = before ++ .returned call now other :: after →
    WaitsIn installed call → other = installedSet jwks before

def FindsCache (installed : FetchState) (_ : List FetchEvent) (state : FetchState) (input : FetchStep) : Prop :=
  input.action = .acquire → ∀ forceRefresh, installed.phase input.call = .waiting forceRefresh →
    forceRefresh = false ∧ jwksCacheExpired settings state input.time = false

theorem installed_append (jwks : Jwks) (before after : List FetchEvent) :
    installedSet jwks (before ++ after) = installedSet (installedSet jwks before) after := by
  induction before generalizing jwks with
  | nil => rfl
  | cons event rest ih => cases event <;> exact ih _

theorem installed_silent (jwks : Jwks) (past events : List FetchEvent)
    (silent : ∀ event ∈ events, event.isRefresh = false) :
    installedSet jwks (past ++ events) = installedSet jwks past := by
  rw [installed_append]
  induction events with
  | nil => rfl
  | cons event rest ih =>
      have later := ih (fun other member => silent other (by simp [member]))
      cases event with
      | refreshed call time fetched => simp [FetchEvent.isRefresh] at silent
      | refreshFailed call time => exact later
      | returned call time fetched => exact later
      | raised call failure => exact later
      | cancelled call => exact later

structure Shared (installed : FetchState) (jwks : Jwks) (past : List FetchEvent) (state : FetchState) : Prop where
  phases : ∀ call forceRefresh, installed.phase call = .waiting forceRefresh →
    state.phase call = .waiting forceRefresh ∨ state.phase call = .finished
  cache : state.jwksCache = some (installedSet jwks past)
  served : Always (fun before event => ∀ call now other, event = .returned call now other → WaitsIn installed call →
    other = installedSet jwks before) past

theorem shared_phases (installed state next : FetchState) (now : Rat) (call : Nat) (phase : Phase)
    (phases : ∀ call forceRefresh, installed.phase call = .waiting forceRefresh →
      state.phase call = .waiting forceRefresh ∨ state.phase call = .finished)
    (moved : next.phase = (state.enter now call phase).phase)
    (own : ∀ forceRefresh, installed.phase call = .waiting forceRefresh →
      phase = .waiting forceRefresh ∨ phase = .finished) :
    ∀ call forceRefresh, installed.phase call = .waiting forceRefresh →
      next.phase call = .waiting forceRefresh ∨ next.phase call = .finished := by
  intro other forceRefresh waits
  rw [moved]
  by_cases same : other = call
  · subst same
    rw [enter_same]
    exact own forceRefresh waits
  · rw [enter_other state now call other phase same]
    exact phases other forceRefresh waits

theorem usable_cache (state : FetchState) (forceRefresh : Bool) (now : Rat) :
    (forceRefresh = false ∧ jwksCacheExpired settings state now = false →
        cachedKeys settings state forceRefresh now = state.jwksCache) ∧
      (¬ (forceRefresh = false ∧ jwksCacheExpired settings state now = false) →
        cachedKeys settings state forceRefresh now = none) :=
  ⟨fun usable => if_pos usable, fun unusable => if_neg unusable⟩

theorem shared_own_phase (installed state next : FetchState) (jwks : Jwks) (past events : List FetchEvent)
    (now : Rat) (call : Nat) (action : Action) (shared : Shared installed jwks past state)
    (permitted : FindsCache settings installed past state ⟨now, call, action⟩)
    (taken : Taken settings state now call action next events) :
    ∃ phase, next.phase = (state.enter now call phase).phase ∧
      ∀ forceRefresh, installed.phase call = .waiting forceRefresh → phase = .waiting forceRefresh ∨ phase = .finished := by
  cases taken with
  | hit forceRefresh keys begins found => exact ⟨.finished, rfl, fun _ _ => .inr rfl⟩
  | recheck forceRefresh keys waits free found => exact ⟨.finished, rfl, fun _ _ => .inr rfl⟩
  | leaveQueue forceRefresh waits => exact ⟨.finished, rfl, fun _ _ => .inr rfl⟩
  | leaveFetch fetches => exact ⟨.finished, rfl, fun _ _ => .inr rfl⟩
  | complete outcome fetches =>
      exact ⟨.finished, (complete_fetch_keeps settings state now call outcome).1, fun _ _ => .inr rfl⟩
  | wait forceRefresh begins missed =>
      refine ⟨.waiting forceRefresh, rfl, ?_⟩
      intro forced waits
      obtain same | same := shared.phases call forced waits
      · rw [begins] at same
        cases same
      · rw [begins] at same
        cases same
  | fetch forceRefresh waits free missed =>
      refine ⟨.fetching, rfl, ?_⟩
      intro forced waited
      have same : forceRefresh = forced := by
        obtain stays | ended := shared.phases call forced waited
        · rw [waits] at stays
          cases stays
          rfl
        · rw [waits] at ended
          cases ended
      have usable := permitted rfl forced waited
      rw [← same] at usable
      rw [(usable_cache settings state forceRefresh now).1 usable, shared.cache] at missed
      cases missed

theorem shared_step (installed : FetchState) (jwks : Jwks) (past : List FetchEvent) (state : FetchState)
    (input : FetchStep) (next : FetchState) (events : List FetchEvent) (shared : Shared installed jwks past state)
    (permitted : FindsCache settings installed past state input)
    (stepped : fetchStep settings state input = some (next, events)) :
    Shared installed jwks (past ++ events) next := by
  obtain ⟨_, _, move⟩ := fetch_step_move settings state next input events stepped
  obtain ⟨now, call, action⟩ := input
  obtain ⟨_, taken⟩ := fetch_step_taken settings state next now call action events stepped
  obtain ⟨phase, moved, own⟩ :=
    shared_own_phase settings installed state next jwks past events now call action shared permitted taken
  have phases := shared_phases installed state next now call phase shared.phases moved own
  have untouched (silent : ∀ event ∈ events, event.isRefresh = false) := installed_silent jwks past events silent
  have unreturned (before : List FetchEvent) (event : FetchEvent) (quiet : ∀ call now other, event ≠ .returned call now other) :
      ∀ call now other, event = .returned call now other → WaitsIn installed call → other = installedSet jwks before :=
    fun call now other same _ => absurd same (quiet call now other)
  have served := shared.served
  cases move with
  | quiet _ cache loaded silent =>
      rcases silent with rfl | rfl | ⟨failure, rfl⟩
      · exact ⟨phases, by rw [cache, shared.cache, List.append_nil], by simpa using served⟩
      · exact ⟨phases, by rw [cache, shared.cache, untouched (by simp [FetchEvent.isRefresh])],
          always_snoc _ past _ served (unreturned _ _ (by simp))⟩
      · refine ⟨phases, by rw [cache, shared.cache, untouched (by simp [FetchEvent.isRefresh])], ?_⟩
        exact always_pair _ past _ _ served (unreturned _ _ (by simp)) (unreturned _ _ (by simp))
  | fresh keys cache loaded held young =>
      refine ⟨phases, by rw [cache, shared.cache, untouched (by simp [FetchEvent.isRefresh])],
        always_snoc _ past _ served ?_⟩
      intro other time found same _
      cases same
      exact Option.some.inj (held.symm.trans shared.cache)
  | install keys cache loaded =>
      have installedKeys : installedSet jwks (past ++ [.refreshed call now keys]) = keys := by
        rw [installed_append]
        rfl
      refine ⟨phases, ?_, ?_⟩
      · rw [cache, installed_append]
        rfl
      · refine always_pair _ past _ _ served (unreturned _ _ (by simp)) ?_
        intro other time found same _
        cases same
        exact installedKeys.symm
  | stale keys cache loaded held allowed bounded =>
      have kept : installedSet jwks (past ++ [.refreshFailed call now]) = installedSet jwks past := by
        rw [installed_append]
        rfl
      refine ⟨phases, by rw [cache, shared.cache, untouched (by simp [FetchEvent.isRefresh])], ?_⟩
      refine always_pair _ past _ _ served (unreturned _ _ (by simp)) ?_
      intro other time found same _
      cases same
      rw [kept]
      exact Option.some.inj (held.symm.trans shared.cache)

theorem completed_shared (held installed : FetchState) (now : Rat) (fetcher : Nat) (outcome : NetworkOutcome)
    (jwks : Jwks) (events : List FetchEvent) (read : readPayload outcome = .ok jwks)
    (completed : fetchStep settings held ⟨now, fetcher, .complete outcome⟩ = some (installed, events)) :
    Shared installed jwks [] installed := by
  obtain ⟨_, taken⟩ := fetch_step_taken settings held installed now fetcher _ events completed
  refine ⟨fun call forceRefresh waits => .inl waits, ?_, always_nil _⟩
  cases taken with
  | complete outcome fetches => simp [completeFetch, read, installedSet]

theorem shared_permits (installed state next : FetchState) (past events : List FetchEvent) (input : FetchStep)
    (phases : ∀ call forceRefresh, installed.phase call = .waiting forceRefresh →
      state.phase call = .waiting forceRefresh ∨ state.phase call = .finished)
    (stepped : fetchStep settings state input = some (next, events))
    (unfetched : ∀ call, WaitsIn installed call → next.phase call ≠ .fetching) :
    FindsCache settings installed past state input := by
  obtain ⟨now, call, action⟩ := input
  intro acquires forceRefresh waited
  subst acquires
  by_contra unusable
  obtain ⟨_, taken⟩ := fetch_step_taken settings state next now call .acquire events stepped
  cases taken with
  | recheck forced keys waits free found =>
      have same : forced = forceRefresh := by
        obtain stays | ended := phases call forceRefresh waited
        · rw [waits] at stays
          cases stays
          rfl
        · rw [waits] at ended
          cases ended
      rw [same, (usable_cache settings state forceRefresh now).2 unusable] at found
      cases found
  | fetch forced waits free missed => exact unfetched call ⟨forceRefresh, waited⟩ (enter_same state now call .fetching)

theorem shares_respects (installed state last : FetchState) (jwks : Jwks) (past trace : List FetchEvent)
    (steps : List FetchStep) (shared : Shared installed jwks past state)
    (ran : exec (fetchStep settings) state steps = some (last, trace))
    (unfetched : ∀ before after reached events, steps = before ++ after →
      exec (fetchStep settings) state before = some (reached, events) →
      ∀ call, WaitsIn installed call → reached.phase call ≠ .fetching) :
    Respects (fetchStep settings) (FindsCache settings installed) past state steps := by
  induction steps generalizing state past trace with
  | nil => trivial
  | cons input rest ih =>
      obtain ⟨next, events, later, stepped, continued, _⟩ := exec_cons _ state last input rest trace ran
      have permitted := shared_permits settings installed state next past events input shared.phases stepped
        (unfetched [input] rest next events rfl (exec_single _ _ _ _ _ stepped))
      refine ⟨permitted, ?_⟩
      intro reached found same
      rw [stepped] at same
      cases same
      refine ih next (past ++ events) later (shared_step settings installed jwks past state input next events shared permitted
        stepped) continued ?_
      intro before after reached found split went
      refine unfetched (input :: before) after reached (events ++ found) (by simp [split]) ?_
      simp [exec, stepped, went]

theorem waiters_share_refresh_iff (held installed : FetchState) (now : Rat) (fetcher : Nat) (outcome : NetworkOutcome)
    (jwks : Jwks) (events : List FetchEvent) (read : readPayload outcome = .ok jwks)
    (completed : fetchStep settings held ⟨now, fetcher, .complete outcome⟩ = some (installed, events))
    (steps : List FetchStep) (state : FetchState) (trace : List FetchEvent)
    (ran : exec (fetchStep settings) installed steps = some (state, trace)) :
    SharesRefresh settings installed jwks steps trace ↔
      Respects (fetchStep settings) (FindsCache settings installed) [] installed steps := by
  have start := completed_shared settings held installed now fetcher outcome jwks events read completed
  constructor
  · intro shares
    exact shares_respects settings installed installed state jwks [] trace steps start ran shares.unfetched
  · intro respects
    have reaches (before : List FetchStep) (reached : FetchState) (found : List FetchEvent)
        (within : Respects (fetchStep settings) (FindsCache settings installed) [] installed before)
        (went : exec (fetchStep settings) installed before = some (reached, found)) :
        Shared installed jwks found reached := by
      have shared := respecting_invariant (fetchStep settings) (FindsCache settings installed) (Shared installed jwks)
        (fun past state input next events shared permitted stepped =>
          shared_step settings installed jwks past state input next events shared permitted stepped)
        installed reached [] found before start within went
      rwa [List.nil_append] at shared
    constructor
    · intro before after reached found split went call waits
      subst split
      have shared := reaches before reached found (respects_before _ _ _ _ before after respects) went
      obtain ⟨forceRefresh, waited⟩ := waits
      obtain stays | ended := shared.phases call forceRefresh waited
      · simp [stays]
      · simp [ended]
    · intro before call time other after split waits
      exact (reaches steps state trace respects ran).served before _ after split call time other rfl waits

end Sharing

def queuedState (forceRefresh : Bool) : FetchState :=
  { (((FetchState.start 0).enter 1 3 (.waiting true)).enter 1 5 (.waiting forceRefresh)).enter 1 3 .fetching with
    jwksLock := some 3 }

def queuedSteps (forceRefresh : Bool) : List FetchStep :=
  [⟨1, 3, .begin true⟩, ⟨1, 5, .begin forceRefresh⟩, ⟨1, 3, .acquire⟩]

def oneKeyAnswer : NetworkOutcome := .answered (.object oneKeySet.members)

def installedState (forceRefresh : Bool) : FetchState :=
  (completeFetch jwksSettings (queuedState forceRefresh) 2 3 oneKeyAnswer).1

theorem one_key_read : readPayload oneKeyAnswer = .ok oneKeySet := validate_members oneKeySet

theorem queued_ran (forceRefresh : Bool) :
    exec (fetchStep jwksSettings) (FetchState.start 0) (queuedSteps forceRefresh) = some (queuedState forceRefresh, []) := by
  cases forceRefresh <;>
    norm_num [exec, queuedSteps, queuedState, fetchStep, FetchState.start, FetchState.enter, cachedKeys]

theorem queued_completed (forceRefresh : Bool) :
    fetchStep jwksSettings (queuedState forceRefresh) ⟨2, 3, .complete oneKeyAnswer⟩ =
      some (installedState forceRefresh, [.refreshed 3 2 oneKeySet, .returned 3 2 oneKeySet]) := by
  have timely : ¬ (2 : Rat) < (queuedState forceRefresh).clock := by norm_num [queuedState, FetchState.enter]
  have fetching : (queuedState forceRefresh).phase 3 = .fetching := rfl
  simp [fetchStep, timely, fetching, installedState, completeFetch, one_key_read]

theorem queued_forced_fetches :
    exec (fetchStep jwksSettings) (installedState true) [⟨2, 5, .acquire⟩] =
      some ({ (installedState true).enter 2 5 .fetching with jwksLock := some 5 }, []) := by
  norm_num [exec, fetchStep, installedState, completeFetch, one_key_read, queuedState, FetchState.enter, cachedKeys,
    FetchState.start]

theorem queued_unforced_served :
    exec (fetchStep jwksSettings) (installedState false) [⟨2, 5, .acquire⟩] =
      some ({ (installedState false).enter 2 5 .finished with jwksLastFetchUsedStaleCache := false },
        [.returned 5 2 oneKeySet]) := by
  have ttl : jwksSettings.authJwksCacheTtlSeconds = 300 := rfl
  norm_num [exec, fetchStep, installedState, completeFetch, one_key_read, queuedState, FetchState.enter, cachedKeys,
    FetchState.start, jwksCacheExpired, ttl]

theorem waiters_share_refresh_iff_unforced :
    SharesRefresh jwksSettings (installedState false) oneKeySet [⟨2, 5, .acquire⟩] [.returned 5 2 oneKeySet] ↔
      Respects (fetchStep jwksSettings) (FindsCache jwksSettings (installedState false)) [] (installedState false)
        [⟨2, 5, .acquire⟩] :=
  waiters_share_refresh_iff jwksSettings (queuedState false) (installedState false) 2 3 oneKeyAnswer oneKeySet _
    one_key_read (queued_completed false) _ _ _ queued_unforced_served

def newKidLibrary : JwtLibrary Unit where
  unverifiedHeader := fun _ => .ok ⟨some "k2".toList⟩
  fromDict := fun _ => .ok ()
  decode := fun _ => .ok []

def newKidSteps : List TaskStep :=
  [⟨1, 0, .start .warmUp⟩, ⟨1, 0, .fetch .acquire⟩, ⟨2, 0, .fetch (.complete oneKeyAnswer)⟩,
    ⟨3, 1, .start (.authenticate "token".toList)⟩, ⟨3, 2, .start (.authenticate "token".toList)⟩,
    ⟨3, 1, .fetch .acquire⟩, ⟨4, 1, .fetch (.complete oneKeyAnswer)⟩,
    ⟨4, 2, .fetch .acquire⟩, ⟨5, 2, .fetch (.complete oneKeyAnswer)⟩]

def newKidTrace : List (TaskEvent Unit) :=
  [.started 0 .warmUp, .called 0 true, .fetch (.refreshed 0 2 oneKeySet), .fetch (.returned 0 2 oneKeySet),
    .finished 0 (.warmed (.ok ())),
    .started 1 (.authenticate "token".toList), .called 1 false, .fetch (.returned 2 3 oneKeySet), .called 1 true,
    .started 2 (.authenticate "token".toList), .called 2 false, .fetch (.returned 4 3 oneKeySet), .called 2 true,
    .fetch (.refreshed 3 4 oneKeySet), .fetch (.returned 3 4 oneKeySet), .finished 1 (.resolved (.error .noMatchingKey)),
    .fetch (.refreshed 5 5 oneKeySet), .fetch (.returned 5 5 oneKeySet), .finished 2 (.resolved (.error .noMatchingKey))]

theorem new_kid_ran : ∃ state, exec (taskStep jwksSettings newKidLibrary (fun _ => [])) (ServiceState.start 0) newKidSteps =
    some (state, newKidTrace) := by
  have warmUp := enter_warm_up jwksSettings newKidLibrary jwks_settings_mode
  have entered := enter_looking jwksSettings newKidLibrary jwks_settings_mode "token".toList "k2".toList _ rfl rfl (by decide)
  have absent : getJwkKeyForKid newKidLibrary oneKeySet "k2".toList = .ok none := rfl
  have ttl : jwksSettings.authJwksCacheTtlSeconds = 300 := rfl
  norm_num [exec, newKidSteps, newKidTrace, taskStep, warmUp, entered, absent, ttl, pursue, settle, callResult,
    continueWith, fetchStep, FetchState.start, FetchState.enter, cachedKeys, completeFetch, one_key_read,
    ServiceState.start, ServiceState.move, Stage.call, Stage.forceRefresh, Stage.awaits, firstCall, forcedCall,
    jwksCacheExpired]

theorem forced_waiter_fetches_again :
    (∃ state, exec (taskStep jwksSettings newKidLibrary (fun _ => [])) (ServiceState.start 0) newKidSteps =
      some (state, newKidTrace)) ∧
    ¬ ∀ (settings : Settings) (start : Rat) (before : List FetchStep) (held installed : FetchState)
      (past events : List FetchEvent) (now : Rat) (fetcher : Nat) (outcome : NetworkOutcome) (jwks : Jwks)
      (steps : List FetchStep) (state : FetchState) (trace : List FetchEvent),
      exec (fetchStep settings) (FetchState.start start) before = some (held, past) →
      readPayload outcome = .ok jwks →
      fetchStep settings held ⟨now, fetcher, .complete outcome⟩ = some (installed, events) →
      exec (fetchStep settings) installed steps = some (state, trace) →
      SharesRefresh settings installed jwks steps trace := by
  refine ⟨new_kid_ran, ?_⟩
  intro claim
  have shares := claim jwksSettings 0 (queuedSteps true) (queuedState true) (installedState true) [] _ 2 3 oneKeyAnswer
    oneKeySet _ _ _ (queued_ran true) one_key_read (queued_completed true) queued_forced_fetches
  have waits : WaitsIn (installedState true) 5 := by
    refine ⟨true, ?_⟩
    simp [installedState, completeFetch, one_key_read, queuedState, FetchState.enter]
  have fetching : ({ (installedState true).enter 2 5 .fetching with jwksLock := some 5 } : FetchState).phase 5 =
      .fetching := enter_same (installedState true) 2 5 .fetching
  exact shares.unfetched [⟨2, 5, .acquire⟩] [] _ _ rfl queued_forced_fetches 5 waits fetching

end Chassis.Auth
