import Chassis.JwksFreshness

set_option autoImplicit false

namespace Chassis.Auth

open Transition

def Fails : Action → Prop
  | .complete outcome => ∃ failure, readPayload outcome = .error failure
  | .cancel => True
  | _ => False

theorem payload_rejected_iff (payload : Json) :
    (∃ failure, validateJwksPayload payload = .error failure) ↔
      ∀ members keys, payload = .object members → Json.member "keys".toList members = some (.array keys) → keys = [] := by
  constructor
  · intro rejected members keys same found
    obtain ⟨failure, raised⟩ := rejected
    subst same
    by_contra nonempty
    have accepted := validate_members ⟨members, keys, found, nonempty⟩
    rw [accepted] at raised
    cases raised
  · intro unusable
    cases read : validateJwksPayload payload with
    | error failure => exact ⟨failure, rfl⟩
    | ok jwks =>
        obtain ⟨members, same, found⟩ := validated_object payload jwks read
        exact absurd (unusable members jwks.keys same found) jwks.nonempty

def LockHeld (state : FetchState) : Prop := ∀ call, state.phase call = .fetching ↔ state.jwksLock = some call

theorem start_lock_held (clock : Rat) : LockHeld (FetchState.start clock) := by
  intro call
  simp [FetchState.start]

theorem enter_lock_held (state next : FetchState) (now : Rat) (call : Nat) (phase : Phase) (held : LockHeld state)
    (phases : next.phase = (state.enter now call phase).phase) (lock : next.jwksLock = state.jwksLock)
    (outside : state.phase call ≠ .fetching) (stays : phase ≠ .fetching) : LockHeld next := by
  intro other
  rw [phases, lock]
  by_cases same : other = call
  · rw [same, enter_same, ← held call]
    exact iff_of_false stays outside
  · rw [enter_other state now call other phase same]
    exact held other

theorem release_lock_held (state next : FetchState) (now : Rat) (call : Nat) (held : LockHeld state)
    (fetches : state.phase call = .fetching) (phases : next.phase = (state.enter now call .finished).phase)
    (lock : next.jwksLock = none) : LockHeld next := by
  intro other
  rw [phases, lock]
  refine iff_of_false ?_ (by simp)
  by_cases same : other = call
  · rw [same, enter_same]
    simp
  · rw [enter_other state now call other _ same, held other, (held call).mp fetches]
    intro clash
    exact same (Option.some.inj clash).symm

theorem complete_fetch_keeps (settings : Settings) (state : FetchState) (now : Rat) (call : Nat)
    (outcome : NetworkOutcome) :
    (completeFetch settings state now call outcome).1.phase = (state.enter now call .finished).phase ∧
      (completeFetch settings state now call outcome).1.jwksLock = none := by
  unfold completeFetch
  cases readPayload outcome with
  | ok jwks => exact ⟨rfl, rfl⟩
  | error failure => cases staleKeys settings state now <;> exact ⟨rfl, rfl⟩

theorem lock_held_step (settings : Settings) (state next : FetchState) (input : FetchStep) (events : List FetchEvent)
    (held : LockHeld state) (stepped : fetchStep settings state input = some (next, events)) : LockHeld next := by
  obtain ⟨now, call, action⟩ := input
  obtain ⟨_, taken⟩ := fetch_step_taken settings state next now call action events stepped
  cases taken with
  | hit forceRefresh jwks begins found =>
      exact enter_lock_held state _ now call .finished held rfl rfl (by simp [begins]) (by simp)
  | wait forceRefresh begins missed =>
      exact enter_lock_held state _ now call (.waiting forceRefresh) held rfl rfl (by simp [begins]) (by simp)
  | recheck forceRefresh jwks waits free found =>
      exact enter_lock_held state _ now call .finished held rfl rfl (by simp [waits]) (by simp)
  | leaveQueue forceRefresh waits =>
      exact enter_lock_held state _ now call .finished held rfl rfl (by simp [waits]) (by simp)
  | complete outcome fetches =>
      obtain ⟨phases, lock⟩ := complete_fetch_keeps settings state now call outcome
      exact release_lock_held state _ now call held fetches phases lock
  | leaveFetch fetches => exact release_lock_held state _ now call held fetches rfl rfl
  | fetch forceRefresh waits free missed =>
      intro other
      show (state.enter now call .fetching).phase other = .fetching ↔ some call = some other
      by_cases same : other = call
      · rw [same, enter_same]
        simp
      · rw [enter_other state now call other _ same, held other, free]
        refine iff_of_false (by simp) ?_
        intro clash
        exact same (Option.some.inj clash).symm

theorem step_events_call (settings : Settings) (state next : FetchState) (input : FetchStep)
    (events : List FetchEvent) (stepped : fetchStep settings state input = some (next, events)) :
    ∀ event ∈ events, event.call = input.call := by
  obtain ⟨_, _, move⟩ := fetch_step_move settings state next input events stepped
  cases move with
  | quiet events cache loaded silent =>
      rcases silent with rfl | rfl | ⟨failure, rfl⟩
      · simp
      · simp [FetchEvent.call]
      · simp [FetchEvent.call]
  | fresh jwks cache loaded held young => simp [FetchEvent.call]
  | install jwks cache loaded => simp [FetchEvent.call]
  | stale jwks cache loaded held allowed bounded => simp [FetchEvent.call]

theorem failed_step_keeps (settings : Settings) (state next : FetchState) (input : FetchStep)
    (events : List FetchEvent) (held : LockHeld state) (fails : Fails input.action)
    (stepped : fetchStep settings state input = some (next, events)) :
    next.jwksCache = state.jwksCache ∧ next.jwksLoadedAt = state.jwksLoadedAt ∧
      (state.phase input.call = .fetching → next.jwksLock = none) ∧
      (state.phase input.call ≠ .fetching → next.jwksLock = state.jwksLock ∧ state.jwksLock ≠ some input.call) ∧
      ∀ call now jwks, .returned call now jwks ∈ events → state.jwksCache = some jwks := by
  obtain ⟨now, call, action⟩ := input
  obtain ⟨_, taken⟩ := fetch_step_taken settings state next now call action events stepped
  cases taken with
  | hit forceRefresh jwks begins found => cases fails
  | wait forceRefresh begins missed => cases fails
  | recheck forceRefresh jwks waits free found => cases fails
  | fetch forceRefresh waits free missed => cases fails
  | leaveQueue forceRefresh waits =>
      have outside : state.phase call ≠ .fetching := by simp [waits]
      refine ⟨rfl, rfl, fun fetches => absurd fetches outside, fun _ => ⟨rfl, ?_⟩, by simp⟩
      intro lock
      exact outside ((held call).mpr lock)
  | leaveFetch fetches => exact ⟨rfl, rfl, fun _ => rfl, fun outside => absurd fetches outside, by simp⟩
  | complete outcome fetches =>
      obtain ⟨failure, refused⟩ := fails
      obtain ⟨_, lock⟩ := complete_fetch_keeps settings state now call outcome
      have kept : staleKeys settings state now = none ∨
          ∃ jwks, staleKeys settings state now = some jwks ∧ state.jwksCache = some jwks := by
        cases found : staleKeys settings state now with
        | none => exact .inl rfl
        | some jwks => exact .inr ⟨jwks, rfl, (stale_keys_some settings state now jwks found).1⟩
      have shape : (completeFetch settings state now call outcome).1.jwksCache = state.jwksCache ∧
          (completeFetch settings state now call outcome).1.jwksLoadedAt = state.jwksLoadedAt ∧
          ∀ other time jwks, .returned other time jwks ∈ (completeFetch settings state now call outcome).2 →
            state.jwksCache = some jwks := by
        obtain none | ⟨jwks, found, cached⟩ := kept
        · simp [completeFetch, refused, none, FetchState.enter]
        · simp +contextual [completeFetch, refused, found, cached, FetchState.enter]
      exact ⟨shape.1, shape.2.1, fun _ => lock, fun outside => absurd fetches outside, shape.2.2⟩

structure Answered (steps : List FetchStep) (trace : List FetchEvent) (state : FetchState) : Prop where
  cached : ∀ jwks, state.jwksCache = some jwks →
    ∃ input ∈ steps, ∃ outcome, input.action = .complete outcome ∧ readPayload outcome = .ok jwks
  returned : ∀ call now jwks, .returned call now jwks ∈ trace →
    ∃ input ∈ steps, ∃ outcome, input.action = .complete outcome ∧ readPayload outcome = .ok jwks

theorem step_sources (settings : Settings) (state next : FetchState) (now : Rat) (call : Nat) (action : Action)
    (events : List FetchEvent) (stepped : fetchStep settings state ⟨now, call, action⟩ = some (next, events)) :
    (∀ jwks, next.jwksCache = some jwks → state.jwksCache = some jwks ∨
        ∃ outcome, action = .complete outcome ∧ readPayload outcome = .ok jwks) ∧
      ∀ other time jwks, .returned other time jwks ∈ events → state.jwksCache = some jwks ∨
        ∃ outcome, action = .complete outcome ∧ readPayload outcome = .ok jwks := by
  obtain ⟨_, taken⟩ := fetch_step_taken settings state next now call action events stepped
  cases taken with
  | hit forceRefresh jwks begins found =>
      obtain ⟨held, _⟩ := cached_keys_some settings state forceRefresh now jwks found
      exact ⟨fun _ same => .inl same, by simp +contextual [held]⟩
  | recheck forceRefresh jwks waits free found =>
      obtain ⟨held, _⟩ := cached_keys_some settings state forceRefresh now jwks found
      exact ⟨fun _ same => .inl same, by simp +contextual [held]⟩
  | wait forceRefresh begins missed => exact ⟨fun _ same => .inl same, by simp⟩
  | fetch forceRefresh waits free missed => exact ⟨fun _ same => .inl same, by simp⟩
  | leaveQueue forceRefresh waits => exact ⟨fun _ same => .inl same, by simp⟩
  | leaveFetch fetches => exact ⟨fun _ same => .inl same, by simp⟩
  | complete outcome fetches =>
      unfold completeFetch
      cases read : readPayload outcome with
      | ok jwks =>
          refine ⟨?_, ?_⟩
          · intro installed same
            exact .inr ⟨outcome, rfl, read.trans (congrArg Except.ok (Option.some.inj same))⟩
          · intro other time served member
            have same : served = jwks := by
              simp only [List.mem_cons, reduceCtorEq, FetchEvent.returned.injEq, List.not_mem_nil, or_false, false_or] at member
              exact member.2.2
            exact .inr ⟨outcome, rfl, by rw [read, same]⟩
      | error failure =>
          cases found : staleKeys settings state now with
          | none => exact ⟨fun _ same => .inl same, by simp⟩
          | some jwks =>
              obtain ⟨held, _⟩ := stale_keys_some settings state now jwks found
              exact ⟨fun _ same => .inl same, by simp +contextual [held]⟩

theorem step_answered (settings : Settings) (state next : FetchState) (input : FetchStep) (events : List FetchEvent)
    (before : List FetchStep) (trace : List FetchEvent) (answered : Answered before trace state)
    (stepped : fetchStep settings state input = some (next, events)) :
    Answered (before ++ [input]) (trace ++ events) next := by
  have wider (jwks : Jwks)
      (found : ∃ input ∈ before, ∃ outcome, input.action = .complete outcome ∧ readPayload outcome = .ok jwks) :
      ∃ other ∈ before ++ [input], ∃ outcome, other.action = .complete outcome ∧ readPayload outcome = .ok jwks := by
    obtain ⟨other, member, outcome, action, read⟩ := found
    exact ⟨other, by simp [member], outcome, action, read⟩
  have brought (jwks : Jwks) (outcome : NetworkOutcome) (action : input.action = .complete outcome)
      (read : readPayload outcome = .ok jwks) :
      ∃ other ∈ before ++ [input], ∃ outcome, other.action = .complete outcome ∧ readPayload outcome = .ok jwks :=
    ⟨input, by simp, outcome, action, read⟩
  obtain ⟨now, call, action⟩ := input
  have sources := step_sources settings state next now call action events stepped
  constructor
  · intro jwks same
    obtain held | ⟨outcome, completes, read⟩ := sources.1 jwks same
    · exact wider jwks (answered.cached jwks held)
    · exact brought jwks outcome completes read
  · intro other time jwks member
    cases List.mem_append.mp member with
    | inl earlier => exact wider jwks (answered.returned other time jwks earlier)
    | inr now =>
        obtain held | ⟨outcome, completes, read⟩ := sources.2 other time jwks now
        · exact wider jwks (answered.cached jwks held)
        · exact brought jwks outcome completes read

theorem run_answered (settings : Settings) (state last : FetchState) (before steps : List FetchStep)
    (past trace : List FetchEvent) (start : Answered before past state)
    (ran : exec (fetchStep settings) state steps = some (last, trace)) :
    Answered (before ++ steps) (past ++ trace) last := by
  induction steps generalizing state before past trace with
  | nil =>
      cases ran
      simpa using start
  | cons input rest ih =>
      obtain ⟨next, events, later, stepped, continued, split⟩ := exec_cons _ state last input rest trace ran
      have moved := ih next (before ++ [input]) (past ++ events) later
        (step_answered settings state next input events before past start stepped) continued
      rw [split, ← List.append_assoc, List.append_cons]
      exact moved

section Erasure

variable (settings : Settings) (failed : Nat → Bool)

structure Shadow (state shadow : FetchState) : Prop where
  held : LockHeld state
  cache : shadow.jwksCache = state.jwksCache
  loaded : shadow.jwksLoadedAt = state.jwksLoadedAt
  phases : ∀ call, failed call = false → shadow.phase call = state.phase call
  lock : shadow.jwksLock = state.jwksLock.filter (fun call => !failed call)
  clock : shadow.clock ≤ state.clock

theorem shadow_cached_keys (state shadow : FetchState) (forceRefresh : Bool) (now : Rat)
    (related : Shadow failed state shadow) :
    cachedKeys settings shadow forceRefresh now = cachedKeys settings state forceRefresh now := by
  have expired : jwksCacheExpired settings shadow now = jwksCacheExpired settings state now := by
    rw [jwksCacheExpired, jwksCacheExpired, related.loaded]
  rw [cachedKeys, cachedKeys, expired, related.cache]

theorem shadow_stale_keys (state shadow : FetchState) (now : Rat) (related : Shadow failed state shadow) :
    staleKeys settings shadow now = staleKeys settings state now := by
  simp only [staleKeys, related.cache, related.loaded]

theorem shadow_enter (state shadow : FetchState) (now : Rat) (call other : Nat) (phase : Phase)
    (related : Shadow failed state shadow) (kept : failed other = false) :
    (shadow.enter now call phase).phase other = (state.enter now call phase).phase other := by
  by_cases same : other = call
  · rw [same, enter_same, enter_same]
  · rw [enter_other shadow now call other phase same, enter_other state now call other phase same]
    exact related.phases other kept

theorem shadow_complete (state shadow : FetchState) (now : Rat) (call : Nat) (outcome : NetworkOutcome)
    (related : Shadow failed state shadow) :
    (completeFetch settings shadow now call outcome).2 = (completeFetch settings state now call outcome).2 ∧
      (completeFetch settings shadow now call outcome).1.jwksCache =
        (completeFetch settings state now call outcome).1.jwksCache ∧
      (completeFetch settings shadow now call outcome).1.jwksLoadedAt =
        (completeFetch settings state now call outcome).1.jwksLoadedAt ∧
      (completeFetch settings shadow now call outcome).1.clock =
        (completeFetch settings state now call outcome).1.clock := by
  unfold completeFetch
  rw [shadow_stale_keys settings failed state shadow now related]
  cases readPayload outcome with
  | ok jwks => exact ⟨rfl, rfl, rfl, rfl⟩
  | error failure =>
      cases staleKeys settings state now with
      | none => exact ⟨rfl, related.cache, related.loaded, rfl⟩
      | some jwks => exact ⟨rfl, related.cache, related.loaded, rfl⟩

theorem shadow_kept (state shadow next : FetchState) (input : FetchStep) (events : List FetchEvent)
    (related : Shadow failed state shadow) (kept : failed input.call = false)
    (stepped : fetchStep settings state input = some (next, events)) :
    ∃ moved, fetchStep settings shadow input = some (moved, events) ∧ Shadow failed next moved := by
  have heldNext := lock_held_step settings state next input events related.held stepped
  obtain ⟨now, call, action⟩ := input
  have same := related.phases call kept
  have cached (forceRefresh : Bool) (now : Rat) :=
    shadow_cached_keys settings failed state shadow forceRefresh now related
  obtain ⟨ordered, taken⟩ := fetch_step_taken settings state next now call action events stepped
  have timely : ¬ now < shadow.clock := not_lt.mpr (le_trans related.clock ordered)
  have enters (phase : Phase) (other : Nat) (counts : failed other = false) :=
    shadow_enter failed state shadow now call other phase related counts
  cases taken with
  | hit forceRefresh jwks begins found =>
      refine ⟨{ shadow.enter now call .finished with jwksLastFetchUsedStaleCache := false }, ?_,
        heldNext, related.cache, related.loaded, enters .finished, related.lock, le_rfl⟩
      simp [fetchStep, timely, same, begins, cached, found]
  | wait forceRefresh begins missed =>
      refine ⟨shadow.enter now call (.waiting forceRefresh), ?_,
        heldNext, related.cache, related.loaded, enters (.waiting forceRefresh), related.lock, le_rfl⟩
      simp [fetchStep, timely, same, begins, cached, missed]
  | recheck forceRefresh jwks waits free found =>
      refine ⟨{ shadow.enter now call .finished with jwksLastFetchUsedStaleCache := false }, ?_,
        heldNext, related.cache, related.loaded, enters .finished, related.lock, le_rfl⟩
      simp [fetchStep, timely, same, waits, cached, found, related.lock, free]
  | fetch forceRefresh waits free missed =>
      refine ⟨{ shadow.enter now call .fetching with jwksLock := some call }, ?_,
        heldNext, related.cache, related.loaded, enters .fetching, by simp [Option.filter, kept], le_rfl⟩
      simp [fetchStep, timely, same, waits, cached, missed, related.lock, free]
  | leaveQueue forceRefresh waits =>
      refine ⟨shadow.enter now call .finished, ?_,
        heldNext, related.cache, related.loaded, enters .finished, related.lock, le_rfl⟩
      simp [fetchStep, timely, same, waits]
  | leaveFetch fetches =>
      refine ⟨{ shadow.enter now call .finished with jwksLock := none }, ?_,
        heldNext, related.cache, related.loaded, enters .finished, rfl, le_rfl⟩
      simp [fetchStep, timely, same, fetches]
  | complete outcome fetches =>
      obtain ⟨equal, cache, loaded, clock⟩ := shadow_complete settings failed state shadow now call outcome related
      refine ⟨(completeFetch settings shadow now call outcome).1, ?_, ?_⟩
      · rw [← equal]
        simp [fetchStep, timely, same, fetches]
      · obtain ⟨phases, lock⟩ := complete_fetch_keeps settings state now call outcome
        obtain ⟨shadowPhases, shadowLock⟩ := complete_fetch_keeps settings shadow now call outcome
        refine ⟨heldNext, cache, loaded, ?_, by rw [lock, shadowLock]; rfl, le_of_eq clock⟩
        intro other counts
        rw [phases, shadowPhases]
        exact enters .finished other counts

theorem shadow_dropped (state shadow next : FetchState) (input : FetchStep) (events : List FetchEvent)
    (related : Shadow failed state shadow) (gone : failed input.call = true)
    (stepped : fetchStep settings state input = some (next, events))
    (unrefreshed : ∀ event ∈ events, event.isRefresh = false) : Shadow failed next shadow := by
  have heldNext := lock_held_step settings state next input events related.held stepped
  obtain ⟨ordered, clock, move⟩ := fetch_step_move settings state next input events stepped
  have same : next.jwksCache = state.jwksCache ∧ next.jwksLoadedAt = state.jwksLoadedAt := by
    cases move with
    | quiet events cache loaded silent => exact ⟨cache, loaded⟩
    | fresh jwks cache loaded held young => exact ⟨cache, loaded⟩
    | stale jwks cache loaded held allowed bounded => exact ⟨cache, loaded⟩
    | install jwks cache loaded =>
        have refreshed := unrefreshed (.refreshed input.call input.time jwks) (by simp)
        cases refreshed
  obtain ⟨now, call, action⟩ := input
  obtain ⟨_, taken⟩ := fetch_step_taken settings state next now call action events stepped
  have moved : (∃ phase, next.phase = (state.enter now call phase).phase) ∧
      next.jwksLock.filter (fun other => !failed other) = state.jwksLock.filter (fun other => !failed other) := by
    have gone' : failed call = true := gone
    cases taken with
    | hit forceRefresh jwks begins found => exact ⟨⟨.finished, rfl⟩, rfl⟩
    | wait forceRefresh begins missed => exact ⟨⟨.waiting forceRefresh, rfl⟩, rfl⟩
    | recheck forceRefresh jwks waits free found => exact ⟨⟨.finished, rfl⟩, rfl⟩
    | fetch forceRefresh waits free missed => exact ⟨⟨.fetching, rfl⟩, by simp [Option.filter, gone', free]⟩
    | leaveQueue forceRefresh waits => exact ⟨⟨.finished, rfl⟩, rfl⟩
    | leaveFetch fetches =>
        have mine := (related.held call).mp fetches
        exact ⟨⟨.finished, rfl⟩, by simp [Option.filter, gone', mine]⟩
    | complete outcome fetches =>
        have mine := (related.held call).mp fetches
        obtain ⟨phases, lock⟩ := complete_fetch_keeps settings state now call outcome
        exact ⟨⟨.finished, phases⟩, by simp [Option.filter, gone', mine, lock]⟩
  obtain ⟨⟨phase, phases⟩, lock⟩ := moved
  refine ⟨heldNext, related.cache.trans same.1.symm, related.loaded.trans same.2.symm, ?_, related.lock.trans lock.symm, ?_⟩
  · intro other counts
    have different : other ≠ call := by
      intro equal
      rw [equal] at counts
      exact absurd (counts.symm.trans gone) (by simp)
    rw [phases, enter_other state now call other phase different]
    exact related.phases other counts
  · rw [clock]
    exact le_trans related.clock ordered

theorem failed_calls_unseen (start : Rat) (steps : List FetchStep) (state : FetchState) (trace : List FetchEvent)
    (ran : exec (fetchStep settings) (FetchState.start start) steps = some (state, trace))
    (unrefreshed : ∀ event ∈ trace, failed event.call = true → event.isRefresh = false) :
    ∃ other, exec (fetchStep settings) (FetchState.start start) (steps.filter (fun step => !failed step.call)) =
        some (other, trace.filter (fun event => !failed event.call)) ∧ Shadow failed state other := by
  refine exec_erase (fetchStep settings) (fun step => !failed step.call) (fun event => !failed event.call)
    (fun event => event.isRefresh = false) (Shadow failed) ?_ ?_ (FetchState.start start) (FetchState.start start) state
    trace steps ⟨start_lock_held start, rfl, rfl, fun _ _ => rfl, rfl, le_rfl⟩ ?_ ?_ ran
  · intro state shadow input next events related kept stepped
    have counts : failed input.call = false := by simpa using kept
    refine ⟨?_, shadow_kept settings failed state shadow next input events related counts stepped⟩
    intro event member
    rw [step_events_call settings state next input events stepped event member, counts]
    rfl
  · intro state shadow input next events related gone stepped harmless
    exact shadow_dropped settings failed state shadow next input events related (by simpa using gone) stepped harmless
  · intro event member gone
    exact unrefreshed event member (by simpa using gone)
  · intro state input next events gone stepped event member
    rw [step_events_call settings state next input events stepped event member]
    exact gone

end Erasure

theorem run_lock_held (settings : Settings) (start : Rat) (steps : List FetchStep) (state : FetchState)
    (trace : List FetchEvent)
    (ran : exec (fetchStep settings) (FetchState.start start) steps = some (state, trace)) : LockHeld state :=
  exec_invariant (fetchStep settings) (fun _ state => LockHeld state)
    (fun _ state input next events held stepped => lock_held_step settings state next input events held stepped)
    (FetchState.start start) state [] trace steps (start_lock_held start) ran

theorem failed_refresh_harmless (settings : Settings) (start : Rat) (steps : List FetchStep) (state : FetchState)
    (trace : List FetchEvent)
    (ran : exec (fetchStep settings) (FetchState.start start) steps = some (state, trace)) :
    (∀ input next events, Fails input.action → fetchStep settings state input = some (next, events) →
      next.jwksCache = state.jwksCache ∧ next.jwksLoadedAt = state.jwksLoadedAt ∧
        (state.phase input.call = .fetching → next.jwksLock = none) ∧
        (state.phase input.call ≠ .fetching → next.jwksLock = state.jwksLock ∧ state.jwksLock ≠ some input.call) ∧
        ∀ call now jwks, .returned call now jwks ∈ events → state.jwksCache = some jwks) ∧
    (∀ call now jwks, .returned call now jwks ∈ trace →
      ∃ input ∈ steps, ∃ outcome, input.action = .complete outcome ∧ readPayload outcome = .ok jwks) ∧
    ∀ failed : Nat → Bool, (∀ event ∈ trace, failed event.call = true → event.isRefresh = false) →
      ∃ other, exec (fetchStep settings) (FetchState.start start) (steps.filter (fun step => !failed step.call)) =
          some (other, trace.filter (fun event => !failed event.call)) ∧
        other.jwksCache = state.jwksCache ∧ other.jwksLoadedAt = state.jwksLoadedAt ∧
        (∀ call, failed call = false → other.phase call = state.phase call) ∧
        ((∀ call, state.jwksLock = some call → failed call = false) → other.jwksLock = state.jwksLock) := by
  refine ⟨?_, ?_, ?_⟩
  · intro input next events fails stepped
    exact failed_step_keeps settings state next input events (run_lock_held settings start steps state trace ran) fails
      stepped
  · have empty : Answered [] [] (FetchState.start start) := ⟨by simp [FetchState.start], by simp⟩
    have answered := run_answered settings (FetchState.start start) state [] steps [] trace empty ran
    exact answered.returned
  · intro failed unrefreshed
    obtain ⟨other, erased, shadow⟩ := failed_calls_unseen settings failed start steps state trace ran unrefreshed
    refine ⟨other, erased, shadow.cache, shadow.loaded, shadow.phases, ?_⟩
    intro counts
    rw [shadow.lock]
    cases lock : state.jwksLock with
    | none => rfl
    | some call => simp [Option.filter, counts call lock]

-- Call 3 is cancelled at the network, call 5 gets no answer, call 7 refreshes,
-- and call 9 falls back on what call 7 brought.
def failingSteps : List FetchStep :=
  [⟨1, 3, .begin false⟩, ⟨1, 3, .acquire⟩, ⟨2, 3, .cancel⟩,
    ⟨2, 5, .begin true⟩, ⟨3, 5, .acquire⟩, ⟨4, 5, .complete (.failed .other)⟩,
    ⟨5, 7, .begin false⟩, ⟨5, 7, .acquire⟩, ⟨6, 7, .complete (.answered (.object oneKeySet.members))⟩,
    ⟨7, 9, .begin true⟩, ⟨7, 9, .acquire⟩, ⟨8, 9, .complete (.failed .other)⟩]

def failingTrace : List FetchEvent :=
  [.cancelled 3, .refreshFailed 5 4, .raised 5 .other, .refreshed 7 6 oneKeySet, .returned 7 6 oneKeySet,
    .refreshFailed 9 8, .returned 9 8 oneKeySet]

theorem failing_ran : ∃ state, exec (fetchStep jwksSettings) (FetchState.start 0) failingSteps =
    some (state, failingTrace) ∧ state.jwksCache = some oneKeySet ∧ state.jwksLoadedAt = 6 ∧ state.jwksLock = none := by
  norm_num [exec, failingSteps, failingTrace, fetchStep, FetchState.start, FetchState.enter, cachedKeys, completeFetch,
    readPayload, staleKeys, jwksSettings, validate_members]

theorem failed_refresh_harmless_failing :
    (∃ input ∈ failingSteps, ∃ outcome, input.action = .complete outcome ∧ readPayload outcome = .ok oneKeySet) ∧
      ∃ other, exec (fetchStep jwksSettings) (FetchState.start 0) (failingSteps.filter (fun step => step.call == 7)) =
          some (other, [.refreshed 7 6 oneKeySet, .returned 7 6 oneKeySet]) ∧
        other.jwksCache = some oneKeySet ∧ other.jwksLoadedAt = 6 ∧ other.jwksLock = none := by
  obtain ⟨state, ran, cache, loaded, lock⟩ := failing_ran
  obtain ⟨_, answered, unseen⟩ := failed_refresh_harmless jwksSettings 0 failingSteps state failingTrace ran
  have served := answered 9 8 oneKeySet (by simp [failingTrace])
  obtain ⟨other, erased, sameCache, sameLoaded, _, sameLock⟩ := unseen (fun call => call != 7) (by
    intro event member fails
    simp only [failingTrace, List.mem_cons, List.not_mem_nil, or_false] at member
    rcases member with rfl | rfl | rfl | rfl | rfl | rfl | rfl <;> first | rfl | simp [FetchEvent.call] at fails)
  refine ⟨served, other, ?_, sameCache.trans cache, sameLoaded.trans loaded, ?_⟩
  · simpa [failingTrace, FetchEvent.call, bne] using erased
  · exact (sameLock (by simp [lock])).trans lock

end Chassis.Auth
