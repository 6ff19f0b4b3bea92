import Chassis.JwksRotation

set_option autoImplicit false

namespace Chassis.Auth

open Transition

section Refinement

variable {κ : Type} (settings : Settings) (library : JwtLibrary κ) (describe : Failure → Str)

def TaskEvent.fetched : TaskEvent κ → Option FetchEvent
  | .fetch event => some event
  | _ => none

def fetchEvents (trace : List (TaskEvent κ)) : List FetchEvent := trace.filterMap TaskEvent.fetched

@[simp] theorem fetch_events_append (before after : List (TaskEvent κ)) :
    fetchEvents (before ++ after) = fetchEvents before ++ fetchEvents after := List.filterMap_append

@[simp] theorem fetch_events_cons (event : TaskEvent κ) (rest : List (TaskEvent κ)) :
    fetchEvents (event :: rest) = event.fetched.toList ++ fetchEvents rest := by
  cases event <;> rfl

@[simp] theorem fetch_events_nil : fetchEvents ([] : List (TaskEvent κ)) = [] := rfl

@[simp] theorem fetch_events_map (events : List FetchEvent) :
    fetchEvents (events.map (TaskEvent.fetch (κ := κ))) = events := by
  induction events with
  | nil => rfl
  | cons event rest ih => simp [TaskEvent.fetched, ih]

theorem settle_refines (fetch last : FetchState) (task : Nat) (now : Rat) (stage reached : Stage κ)
    (events : List FetchEvent) (out : List (TaskEvent κ))
    (settled : settle settings library describe fetch task now stage events = some (last, reached, out)) :
    ∃ inputs more, exec (fetchStep settings) fetch inputs = some (last, more) ∧ fetchEvents out = events ++ more := by
  unfold settle at settled
  cases ended : callResult events with
  | none =>
      rw [ended] at settled
      cases settled
      exact ⟨[], [], rfl, by simp⟩
  | some result =>
      simp only [ended] at settled
      generalize continueWith library describe stage fetch.jwksLastFetchUsedStaleCache result = next at settled
      split at settled
      next outcome =>
        cases settled
        exact ⟨[], [], rfl, by simp [TaskEvent.fetched]⟩
      next =>
        cases stepped : fetchStep settings fetch ⟨now, next.call task, .begin next.forceRefresh⟩ with
        | none =>
            rw [stepped] at settled
            cases settled
        | some outcome =>
            obtain ⟨again, more⟩ := outcome
            rw [stepped] at settled
            cases settled
            exact ⟨[⟨now, reached.call task, .begin reached.forceRefresh⟩], more, exec_single _ _ _ _ _ stepped,
              by simp [TaskEvent.fetched]⟩

theorem pursue_refines (fetch last : FetchState) (task : Nat) (now : Rat) (stage reached : Stage κ) (action : Action)
    (out : List (TaskEvent κ))
    (pursued : pursue settings library describe fetch task now stage action = some (last, reached, out)) :
    ∃ inputs, exec (fetchStep settings) fetch inputs = some (last, fetchEvents out) := by
  unfold pursue at pursued
  cases stepped : fetchStep settings fetch ⟨now, stage.call task, action⟩ with
  | none => simp [stepped] at pursued
  | some outcome =>
      obtain ⟨next, events⟩ := outcome
      simp only [stepped] at pursued
      obtain ⟨inputs, more, ran, split⟩ :=
        settle_refines settings library describe next last task now stage reached events out pursued
      exact ⟨⟨now, stage.call task, action⟩ :: inputs, by simp [exec, stepped, ran, split]⟩

theorem task_step_refines (state next : ServiceState κ) (input : TaskStep) (events : List (TaskEvent κ))
    (stepped : taskStep settings library describe state input = some (next, events)) :
    ∃ inputs, exec (fetchStep settings) state.fetch inputs = some (next.fetch, fetchEvents events) := by
  obtain ⟨now, task, action⟩ := input
  cases action with
  | start purpose =>
      cases stage : state.stage task with
      | idle =>
          obtain ⟨outcome, entered⟩ | awaits := enter_awaits settings library purpose
          · simp only [taskStep, stage, entered] at stepped
            cases stepped
            exact ⟨[], rfl⟩
          · rw [start_step settings library describe state now task purpose _ stage rfl awaits] at stepped
            obtain ⟨⟨fetch, reached, out⟩, pursued, moved⟩ := Option.map_eq_some_iff.mp stepped
            cases moved
            obtain ⟨inputs, ran⟩ := pursue_refines settings library describe _ _ task now _ _ _ _ pursued
            exact ⟨inputs, by simpa [TaskEvent.fetched, ServiceState.move] using ran⟩
      | lookingUp kid => simp [taskStep, stage] at stepped
      | refreshing kid => simp [taskStep, stage] at stepped
      | checking => simp [taskStep, stage] at stepped
      | warming => simp [taskStep, stage] at stepped
      | done outcome => simp [taskStep, stage] at stepped
  | fetch action =>
      by_cases awaits : (state.stage task).awaits = true
      · rw [continue_step settings library describe state now task action awaits] at stepped
        obtain ⟨⟨fetch, reached, out⟩, pursued, moved⟩ := Option.map_eq_some_iff.mp stepped
        cases moved
        exact pursue_refines settings library describe _ _ task now _ _ _ _ pursued
      · simp [taskStep, awaits] at stepped

theorem tasks_refine_fetch (state last : ServiceState κ) (steps : List TaskStep) (trace : List (TaskEvent κ))
    (ran : exec (taskStep settings library describe) state steps = some (last, trace)) :
    ∃ inputs, exec (fetchStep settings) state.fetch inputs = some (last.fetch, fetchEvents trace) := by
  induction steps generalizing state trace with
  | nil =>
      cases ran
      exact ⟨[], rfl⟩
  | cons step rest ih =>
      obtain ⟨next, events, later, stepped, continued, split⟩ := exec_cons _ state last step rest trace ran
      obtain ⟨first, began⟩ := task_step_refines settings library describe state next step events stepped
      obtain ⟨second, went⟩ := ih next later continued
      refine ⟨first ++ second, ?_⟩
      rw [split, fetch_events_append]
      exact exec_append _ _ _ _ first second _ _ began went

end Refinement

section Alone

variable (settings : Settings)

structure Sourced (cache : Option Jwks) (outcomes : List NetworkOutcome) (events : List FetchEvent) : Prop where
  returned : ∀ call time jwks, .returned call time jwks ∈ events →
    cache = some jwks ∨ ∃ outcome ∈ outcomes, readPayload outcome = .ok jwks
  failed : ∀ call time, .refreshFailed call time ∈ events →
    ∃ outcome ∈ outcomes, ∃ failure, readPayload outcome = .error failure
  refreshed : ∀ call time jwks, .refreshed call time jwks ∈ events →
    ∃ outcome ∈ outcomes, readPayload outcome = .ok jwks

structure Ended (fetch next : FetchState) (now : Rat) (call : Nat) (outcome : NetworkOutcome)
    (events : List FetchEvent) : Prop where
  free : next.jwksLock = none
  clock : next.clock = now
  others : ∀ other, other ≠ call → next.phase other = fetch.phase other
  cache : ∀ jwks, next.jwksCache = some jwks → fetch.jwksCache = some jwks ∨ readPayload outcome = .ok jwks
  result : ∃ result, callResult events = some result ∧ result ≠ .cancelled
  sourced : Sourced fetch.jwksCache [outcome] events

structure Waiting (fetch next : FetchState) (now : Rat) (call : Nat) (forceRefresh : Bool) : Prop where
  waits : next.phase call = .waiting forceRefresh
  free : next.jwksLock = none
  clock : next.clock = now
  others : ∀ other, other ≠ call → next.phase other = fetch.phase other
  cache : next.jwksCache = fetch.jwksCache

theorem served_sourced (fetch : FetchState) (outcomes : List NetworkOutcome) (call : Nat) (now : Rat) (jwks : Jwks)
    (held : fetch.jwksCache = some jwks) : Sourced fetch.jwksCache outcomes [.returned call now jwks] := by
  refine ⟨?_, by simp, by simp⟩
  intro other time served member
  have same : served = jwks := by
    have equal := List.mem_singleton.mp member
    cases equal
    rfl
  exact .inl (same ▸ held)

theorem cached_ended (fetch : FetchState) (now : Rat) (call : Nat) (outcome : NetworkOutcome) (jwks : Jwks)
    (free : fetch.jwksLock = none) (held : fetch.jwksCache = some jwks) :
    Ended fetch { fetch.enter now call .finished with jwksLastFetchUsedStaleCache := false } now call outcome
      [.returned call now jwks] where
  free := free
  clock := rfl
  others := fun other different => enter_other fetch now call other _ different
  cache := fun _ same => .inl same
  result := ⟨.returned jwks, rfl, by simp⟩
  sourced := served_sourced fetch [outcome] call now jwks held

theorem completed_ended (fetch middle : FetchState) (now : Rat) (call : Nat) (outcome : NetworkOutcome)
    (others : ∀ other, other ≠ call → middle.phase other = fetch.phase other)
    (cache : middle.jwksCache = fetch.jwksCache) :
    Ended fetch (completeFetch settings middle now call outcome).1 now call outcome
      (completeFetch settings middle now call outcome).2 := by
  have phases (other : Nat) (different : other ≠ call) :
      (middle.enter now call .finished).phase other = fetch.phase other :=
    (enter_other middle now call other _ different).trans (others other different)
  unfold completeFetch
  cases read : readPayload outcome with
  | ok jwks =>
      refine ⟨rfl, rfl, phases, ?_, ⟨.returned jwks, rfl, by simp⟩, ?_, by simp, ?_⟩
      · intro installed same
        exact .inr (read.trans (congrArg Except.ok (Option.some.inj same)))
      · intro other time served member
        simp only [List.mem_cons, FetchEvent.returned.injEq, reduceCtorEq, List.not_mem_nil, or_false, false_or] at member
        exact .inr ⟨outcome, by simp, by rw [read, member.2.2]⟩
      · intro other time served member
        simp only [List.mem_cons, FetchEvent.refreshed.injEq, reduceCtorEq, List.not_mem_nil, or_false] at member
        exact ⟨outcome, by simp, by rw [read, member.2.2]⟩
  | error failure =>
      cases kept : staleKeys settings middle now with
      | none =>
          refine ⟨rfl, rfl, phases, ?_, ⟨.raised failure, rfl, by simp⟩, by simp, ?_, by simp⟩
          · intro jwks same
            exact .inl (cache.symm.trans same)
          · intro other time member
            exact ⟨outcome, by simp, failure, read⟩
      | some jwks =>
          obtain ⟨held, _⟩ := stale_keys_some settings middle now jwks kept
          refine ⟨rfl, rfl, phases, ?_, ⟨.returned jwks, rfl, by simp⟩, ?_, ?_, by simp⟩
          · intro installed same
            exact .inl (cache.symm.trans same)
          · intro other time served member
            simp only [List.mem_cons, FetchEvent.returned.injEq, reduceCtorEq, List.not_mem_nil, or_false, false_or] at member
            exact .inl (by rw [← cache, held, member.2.2])
          · intro other time member
            exact ⟨outcome, by simp, failure, read⟩

theorem begin_alone (fetch : FetchState) (now : Rat) (call : Nat) (forceRefresh : Bool) (outcome : NetworkOutcome)
    (idle : fetch.phase call = .idle) (free : fetch.jwksLock = none) (ordered : fetch.clock ≤ now) :
    ∃ next events, fetchStep settings fetch ⟨now, call, .begin forceRefresh⟩ = some (next, events) ∧
      (Ended fetch next now call outcome events ∨ (events = [] ∧ Waiting fetch next now call forceRefresh)) := by
  have timely : ¬ now < fetch.clock := not_lt.mpr ordered
  cases found : cachedKeys settings fetch forceRefresh now with
  | some jwks =>
      obtain ⟨held, _⟩ := cached_keys_some settings fetch forceRefresh now jwks found
      refine ⟨_, _, ?_, .inl (cached_ended fetch now call outcome jwks free held)⟩
      simp [fetchStep, timely, idle, found]
  | none =>
      have waiting : Waiting fetch (fetch.enter now call (.waiting forceRefresh)) now call forceRefresh :=
        ⟨enter_same fetch now call _, free, rfl, fun other different => enter_other fetch now call other _ different, rfl⟩
      refine ⟨_, _, ?_, .inr ⟨rfl, waiting⟩⟩
      simp [fetchStep, timely, idle, found]

theorem waiting_alone (fetch : FetchState) (now : Rat) (call : Nat) (forceRefresh : Bool) (outcome : NetworkOutcome)
    (waits : fetch.phase call = .waiting forceRefresh) (free : fetch.jwksLock = none) (ordered : fetch.clock ≤ now) :
    (∃ next events, fetchStep settings fetch ⟨now, call, .acquire⟩ = some (next, events) ∧
      Ended fetch next now call outcome events) ∨
    ∃ middle next events, fetchStep settings fetch ⟨now, call, .acquire⟩ = some (middle, []) ∧
      fetchStep settings middle ⟨now, call, .complete outcome⟩ = some (next, events) ∧
      Ended fetch next now call outcome events := by
  have timely : ¬ now < fetch.clock := not_lt.mpr ordered
  cases found : cachedKeys settings fetch forceRefresh now with
  | some jwks =>
      obtain ⟨held, _⟩ := cached_keys_some settings fetch forceRefresh now jwks found
      refine .inl ⟨_, _, ?_, cached_ended fetch now call outcome jwks free held⟩
      simp [fetchStep, timely, waits, free, found]
  | none =>
      let middle : FetchState := { fetch.enter now call .fetching with jwksLock := some call }
      have acquired : fetchStep settings fetch ⟨now, call, .acquire⟩ = some (middle, []) := by
        simp [fetchStep, timely, waits, free, found, middle]
      have fetching : middle.phase call = .fetching := enter_same fetch now call _
      have completed : fetchStep settings middle ⟨now, call, .complete outcome⟩ =
          some (completeFetch settings middle now call outcome) := by
        have late : ¬ now < middle.clock := lt_irrefl now
        simp [fetchStep, late, fetching]
      refine .inr ⟨middle, _, _, acquired, completed, ?_⟩
      exact completed_ended settings fetch middle now call outcome
        (fun other different => enter_other fetch now call other _ different) rfl

theorem sourced_append (cache : Option Jwks) (outcomes : List NetworkOutcome) (before after : List FetchEvent)
    (first : Sourced cache outcomes before) (second : Sourced cache outcomes after) :
    Sourced cache outcomes (before ++ after) := by
  refine ⟨?_, ?_, ?_⟩
  · intro call time jwks member
    exact (List.mem_append.mp member).elim (first.returned call time jwks) (second.returned call time jwks)
  · intro call time member
    exact (List.mem_append.mp member).elim (first.failed call time) (second.failed call time)
  · intro call time jwks member
    exact (List.mem_append.mp member).elim (first.refreshed call time jwks) (second.refreshed call time jwks)

theorem sourced_later (cache later : Option Jwks) (outcomes : List NetworkOutcome) (own : NetworkOutcome)
    (events : List FetchEvent) (member : own ∈ outcomes)
    (source : ∀ jwks, later = some jwks → cache = some jwks ∨ ∃ outcome ∈ outcomes, readPayload outcome = .ok jwks)
    (sourced : Sourced later [own] events) : Sourced cache outcomes events := by
  have widen (accepts : NetworkOutcome → Prop) (found : ∃ outcome ∈ [own], accepts outcome) :
      ∃ outcome ∈ outcomes, accepts outcome := by
    obtain ⟨outcome, only, accepted⟩ := found
    exact ⟨own, member, List.mem_singleton.mp only ▸ accepted⟩
  refine ⟨?_, ?_, ?_⟩
  · intro call time jwks returned
    obtain held | answered := sourced.returned call time jwks returned
    · exact source jwks held
    · exact .inr (widen _ answered)
  · intro call time failed
    exact widen _ (sourced.failed call time failed)
  · intro call time jwks refreshed
    exact widen _ (sourced.refreshed call time jwks refreshed)

end Alone

section Resolves

variable {κ : Type} (settings : Settings) (library : JwtLibrary κ) (describe : Failure → Str)

theorem continue_looking (kid : Str) (stage : Stage κ) (looks : stage = .lookingUp kid ∨ stage = .refreshing kid)
    (flag : Bool) (result : CallResult) (kept : result ≠ .cancelled) :
    (∃ answer, continueWith library describe stage flag result = .done (.resolved answer)) ∨
      (stage = .lookingUp kid ∧ continueWith library describe stage flag result = .refreshing kid) := by
  cases result with
  | cancelled => exact absurd rfl kept
  | raised failure =>
      obtain same | same := looks
      · exact .inl ⟨.error (.raised failure), by rw [same]; rfl⟩
      · exact .inl ⟨.error (.raised failure), by rw [same]; rfl⟩
  | returned jwks =>
      obtain same | same := looks
      · rw [same]
        cases found : getJwkKeyForKid library jwks kid with
        | error failure => exact .inl ⟨.error (.raised failure), by simp [continueWith, found]⟩
        | ok answer =>
            cases answer with
            | some key => exact .inl ⟨.ok (.jwk key), by simp [continueWith, found]⟩
            | none => exact .inr ⟨rfl, by simp [continueWith, found]⟩
      · rw [same]
        cases found : getJwkKeyForKid library jwks kid with
        | error failure => exact .inl ⟨.error (.raised failure), by simp [continueWith, found]⟩
        | ok answer =>
            cases answer with
            | some key => exact .inl ⟨.ok (.jwk key), by simp [continueWith, found]⟩
            | none => exact .inl ⟨.error .noMatchingKey, by simp [continueWith, found]⟩

theorem settle_ended (kid : Str) (stage : Stage κ) (looks : stage = .lookingUp kid ∨ stage = .refreshing kid)
    (fetch next : FetchState) (task : Nat) (now : Rat) (outcome : NetworkOutcome) (events : List FetchEvent)
    (ended : Ended fetch next now (stage.call task) outcome events)
    (unused : stage = .lookingUp kid → fetch.phase (forcedCall task) = .idle) :
    (∃ answer, settle settings library describe next task now stage events =
        some (next, .done (.resolved answer), events.map .fetch ++ [.finished task (.resolved answer)])) ∨
      (stage = .lookingUp kid ∧ settle settings library describe next task now stage events =
        some (next.enter now (forcedCall task) (.waiting true), .refreshing kid,
          events.map .fetch ++ [.called task true])) := by
  obtain ⟨result, ends, kept⟩ := ended.result
  obtain ⟨answer, done⟩ | ⟨first, again⟩ :=
    continue_looking library describe kid stage looks next.jwksLastFetchUsedStaleCache result kept
  · exact .inl ⟨answer, by simp [settle, ends, done]⟩
  · have apart : forcedCall task ≠ stage.call task := by
      rw [first]
      exact (calls_apart task).symm
    have idle : next.phase (forcedCall task) = .idle := (ended.others _ apart).trans (unused first)
    have timely : ¬ now < next.clock := not_lt.mpr (le_of_eq ended.clock)
    have missed : cachedKeys settings next true now = none := by simp [cachedKeys]
    have begun : fetchStep settings next ⟨now, forcedCall task, .begin true⟩ =
        some (next.enter now (forcedCall task) (.waiting true), []) := by
      simp [fetchStep, timely, idle, missed]
    exact .inr ⟨first, by simp [settle, ends, again, Stage.call, Stage.forceRefresh, begun]⟩

structure Alone (outcomes : List NetworkOutcome) (task : Nat) (state later : ServiceState κ) (own : List TaskStep)
    (more : List (TaskEvent κ)) : Prop where
  ran : exec (taskStep settings library describe) state own = some (later, more)
  steps : ∀ step ∈ own, step.task = task ∧ ∀ outcome, step.action = .fetch (.complete outcome) → outcome ∈ outcomes
  sourced : Sourced state.fetch.jwksCache outcomes (fetchEvents more)

structure Refreshing (kid : Str) (task : Nat) (now : Rat) (outcome : NetworkOutcome) (state later : ServiceState κ) :
    Prop where
  stage : later.stage task = .refreshing kid
  waits : later.fetch.phase (forcedCall task) = .waiting true
  free : later.fetch.jwksLock = none
  clock : later.fetch.clock = now
  cache : ∀ jwks, later.fetch.jwksCache = some jwks → state.fetch.jwksCache = some jwks ∨ readPayload outcome = .ok jwks

theorem ended_lands (kid : Str) (stage : Stage κ) (looks : stage = .lookingUp kid ∨ stage = .refreshing kid)
    (state middle : ServiceState κ) (task : Nat) (now : Rat) (outcome : NetworkOutcome) (next : FetchState)
    (events : List FetchEvent) (ended : Ended state.fetch next now (stage.call task) outcome events)
    (unused : stage = .lookingUp kid → state.fetch.phase (forcedCall task) = .idle) :
    ∃ last reached out, settle settings library describe next task now stage events = some (last, reached, out) ∧
      Sourced state.fetch.jwksCache [outcome] (fetchEvents out) ∧
      ((∃ answer, .finished task (.resolved answer) ∈ out) ∨
        (stage = .lookingUp kid ∧ Refreshing kid task now outcome state (middle.move task last reached))) := by
  obtain ⟨answer, settled⟩ | ⟨first, settled⟩ :=
    settle_ended settings library describe kid stage looks state.fetch next task now outcome events ended unused
  · refine ⟨_, _, _, settled, ?_, .inl ⟨answer, by simp⟩⟩
    have same : fetchEvents (events.map TaskEvent.fetch ++ [TaskEvent.finished task (.resolved answer)]) = events := by
      simp [TaskEvent.fetched]
    rw [same]
    exact ended.sourced
  · refine ⟨_, _, _, settled, ?_, .inr ⟨first, ?_⟩⟩
    · have same : fetchEvents (events.map (TaskEvent.fetch (κ := κ)) ++ [.called task true]) = events := by
        simp [TaskEvent.fetched]
      rw [same]
      exact ended.sourced
    · exact ⟨if_pos rfl, enter_same next now _ _, ended.free, rfl, ended.cache⟩

theorem fetch_runs (state : ServiceState κ) (task : Nat) (now : Rat) (action : Action) (next last : FetchState)
    (events : List FetchEvent) (reached : Stage κ) (out : List (TaskEvent κ))
    (awaits : (state.stage task).awaits = true)
    (stepped : fetchStep settings state.fetch ⟨now, (state.stage task).call task, action⟩ = some (next, events))
    (settled : settle settings library describe next task now (state.stage task) events = some (last, reached, out)) :
    taskStep settings library describe state ⟨now, task, .fetch action⟩ = some (state.move task last reached, out) := by
  rw [continue_step settings library describe state now task action awaits]
  simp [pursue, stepped, settled]

theorem lookup_alone (kid : Str) (stage : Stage κ) (looks : stage = .lookingUp kid ∨ stage = .refreshing kid)
    (state : ServiceState κ) (task : Nat) (now : Rat) (outcome : NetworkOutcome) (current : state.stage task = stage)
    (waits : state.fetch.phase (stage.call task) = .waiting stage.forceRefresh) (free : state.fetch.jwksLock = none)
    (ordered : state.fetch.clock ≤ now)
    (unused : stage = .lookingUp kid → state.fetch.phase (forcedCall task) = .idle) :
    ∃ own later more, Alone settings library describe [outcome] task state later own more ∧
      ((∃ answer, .finished task (.resolved answer) ∈ more) ∨
        (stage = .lookingUp kid ∧ Refreshing kid task now outcome state later)) := by
  have awaits : stage.awaits = true := by
    obtain same | same := looks
    · rw [same]
      rfl
    · rw [same]
      rfl
  obtain ⟨next, events, acquired, ended⟩ | ⟨middle, next, events, acquired, completed, ended⟩ :=
    waiting_alone settings state.fetch now (stage.call task) stage.forceRefresh outcome waits free ordered
  · obtain ⟨last, reached, out, settled, sourced, landed⟩ := ended_lands settings library describe kid stage looks state
      state task now outcome next events ended unused
    have ran := fetch_runs settings library describe state task now .acquire next last events reached out
      (by rwa [current]) (by rwa [current]) (by rwa [current])
    exact ⟨[⟨now, task, .fetch .acquire⟩], _, out, ⟨exec_single _ _ _ _ _ ran, by simp, sourced⟩, landed⟩
  · have paused : settle settings library describe middle task now stage [] = some (middle, stage, []) := rfl
    have first := fetch_runs settings library describe state task now .acquire middle middle [] stage []
      (by rwa [current]) (by rwa [current]) (by rwa [current])
    have kept : (state.move task middle stage).stage task = stage := if_pos rfl
    obtain ⟨last, reached, out, settled, sourced, landed⟩ := ended_lands settings library describe kid stage looks state
      (state.move task middle stage) task now outcome next events ended unused
    have second := fetch_runs settings library describe (state.move task middle stage) task now (.complete outcome) next
      last events reached out (by rwa [kept]) (by rwa [kept]) (by rwa [kept])
    have ran := exec_append _ _ _ _ _ _ _ _ (exec_single _ _ _ _ _ first) (exec_single _ _ _ _ _ second)
    exact ⟨[⟨now, task, .fetch .acquire⟩, ⟨now, task, .fetch (.complete outcome)⟩], _, out,
      ⟨by simpa using ran, by simp, sourced⟩, landed⟩

theorem alone_append (first second : NetworkOutcome) (task : Nat) (state middle later : ServiceState κ)
    (before after : List TaskStep) (early late : List (TaskEvent κ))
    (cache : ∀ jwks, middle.fetch.jwksCache = some jwks →
      state.fetch.jwksCache = some jwks ∨ readPayload first = .ok jwks)
    (one : Alone settings library describe [first] task state middle before early)
    (two : Alone settings library describe [second] task middle later after late) :
    Alone settings library describe [first, second] task state later (before ++ after) (early ++ late) := by
  refine ⟨exec_append _ _ _ _ _ _ _ _ one.ran two.ran, ?_, ?_⟩
  · intro step member
    cases List.mem_append.mp member with
    | inl inFirst =>
        obtain ⟨same, answers⟩ := one.steps step inFirst
        exact ⟨same, fun outcome action => by simp [List.mem_singleton.mp (answers outcome action)]⟩
    | inr inSecond =>
        obtain ⟨same, answers⟩ := two.steps step inSecond
        exact ⟨same, fun outcome action => by simp [List.mem_singleton.mp (answers outcome action)]⟩
  · rw [fetch_events_append]
    refine sourced_append _ _ _ _ ?_ ?_
    · exact sourced_later _ _ _ first _ (by simp) (fun jwks held => .inl held) one.sourced
    · refine sourced_later _ _ _ second _ (by simp) ?_ two.sourced
      intro jwks held
      obtain before | answered := cache jwks held
      · exact .inl before
      · exact .inr ⟨first, by simp, answered⟩

def Finishes (task : Nat) (more : List (TaskEvent κ)) : Prop := ∃ answer, .finished task (.resolved answer) ∈ more

theorem refreshing_finishes (kid : Str) (task : Nat) (now : Rat) (first second : NetworkOutcome)
    (state middle : ServiceState κ) (before : List TaskStep) (early : List (TaskEvent κ))
    (one : Alone settings library describe [first] task state middle before early)
    (refreshing : Refreshing kid task now first state middle) :
    ∃ own later more, Alone settings library describe [first, second] task state later own (early ++ more) ∧
      Finishes task more := by
  obtain ⟨own, later, more, alone, finished | ⟨again, _⟩⟩ := lookup_alone settings library describe kid
    (.refreshing kid) (.inr rfl) middle task now second refreshing.stage refreshing.waits refreshing.free
    (le_of_eq refreshing.clock) (fun same => by cases same)
  · exact ⟨before ++ own, later, more,
      alone_append settings library describe first second task state middle later before own early more refreshing.cache
        one alone, finished⟩
  · cases again

theorem alone_widen (first second : NetworkOutcome) (task : Nat) (state later : ServiceState κ) (own : List TaskStep)
    (more : List (TaskEvent κ)) (alone : Alone settings library describe [first] task state later own more) :
    Alone settings library describe [first, second] task state later own more := by
  refine ⟨alone.ran, ?_, sourced_later _ _ _ first _ (by simp) (fun jwks held => .inl held) alone.sourced⟩
  intro step member
  obtain ⟨same, answers⟩ := alone.steps step member
  exact ⟨same, fun outcome action => by simp [List.mem_singleton.mp (answers outcome action)]⟩

theorem authenticate_alone (token kid : Str) (entered : enter settings library (.authenticate token) = .lookingUp kid)
    (state : ServiceState κ) (task : Nat) (now : Rat) (first second : NetworkOutcome) (idle : state.stage task = .idle)
    (unused : state.fetch.phase (firstCall task) = .idle ∧ state.fetch.phase (forcedCall task) = .idle)
    (free : state.fetch.jwksLock = none) (ordered : state.fetch.clock ≤ now) :
    ∃ own later more, Alone settings library describe [first, second] task state later own more ∧
      .started task (.authenticate token) ∈ more ∧ Finishes task more := by
  obtain ⟨next, events, begun, ended | ⟨silent, waiting⟩⟩ :=
    begin_alone settings state.fetch now (firstCall task) false first unused.1 free ordered
  · obtain ⟨last, reached, out, settled, sourced, landed⟩ := ended_lands settings library describe kid (.lookingUp kid)
      (.inl rfl) state state task now first next events ended (fun _ => unused.2)
    have ran : taskStep settings library describe state ⟨now, task, .start (.authenticate token)⟩ =
        some (state.move task last reached, [.started task (.authenticate token), .called task false] ++ out) := by
      rw [start_step settings library describe state now task _ _ idle entered rfl]
      simp [pursue, Stage.call, Stage.forceRefresh, begun, settled]
    have alone : Alone settings library describe [first] task state (state.move task last reached)
        [⟨now, task, .start (.authenticate token)⟩]
        ([.started task (.authenticate token), .called task false] ++ out) :=
      ⟨exec_single _ _ _ _ _ ran, by simp, by simpa [TaskEvent.fetched] using sourced⟩
    obtain finished | ⟨_, refreshing⟩ := landed
    · obtain ⟨answer, member⟩ := finished
      exact ⟨_, _, _, alone_widen settings library describe first second task _ _ _ _ alone, by simp, answer,
        by simp [member]⟩
    · obtain ⟨own, later, more, together, answer, member⟩ :=
        refreshing_finishes settings library describe kid task now first second state _ _ _ alone refreshing
      exact ⟨own, later, _, together, by simp, answer, by simp [member]⟩
  · subst silent
    have ran : taskStep settings library describe state ⟨now, task, .start (.authenticate token)⟩ =
        some (state.move task next (.lookingUp kid), [.started task (.authenticate token), .called task false]) := by
      rw [start_step settings library describe state now task _ _ idle entered rfl]
      simp [pursue, Stage.call, Stage.forceRefresh, begun, settle, callResult]
    have started : Alone settings library describe [first] task state (state.move task next (.lookingUp kid))
        [⟨now, task, .start (.authenticate token)⟩] [.started task (.authenticate token), .called task false] :=
      ⟨exec_single _ _ _ _ _ ran, by simp, ⟨by simp [TaskEvent.fetched], by simp [TaskEvent.fetched],
        by simp [TaskEvent.fetched]⟩⟩
    have moved : (state.move task next (.lookingUp kid)).stage task = .lookingUp kid := if_pos rfl
    have forcedIdle : next.phase (forcedCall task) = .idle :=
      (waiting.others _ (calls_apart task).symm).trans unused.2
    obtain ⟨own, middle, early, one, landed⟩ := lookup_alone settings library describe kid (.lookingUp kid) (.inl rfl)
      (state.move task next (.lookingUp kid)) task now first moved waiting.waits waiting.free (le_of_eq waiting.clock)
      (fun _ => forcedIdle)
    have same : (state.move task next (.lookingUp kid)).fetch.jwksCache = state.fetch.jwksCache := waiting.cache
    have together : Alone settings library describe [first] task state middle
        ([⟨now, task, .start (.authenticate token)⟩] ++ own)
        ([.started task (.authenticate token), .called task false] ++ early) := by
      refine ⟨exec_append _ _ _ _ _ _ _ _ started.ran one.ran, ?_, ?_⟩
      · intro step member
        exact (List.mem_append.mp member).elim (started.steps step) (one.steps step)
      · have sourced := one.sourced
        rw [same] at sourced
        simpa [TaskEvent.fetched] using sourced
    obtain ⟨answer, member⟩ | ⟨_, refreshing⟩ := landed
    · exact ⟨_, _, _, alone_widen settings library describe first second task _ _ _ _ together, by simp, answer,
        by simp [member]⟩
    · have onward : Refreshing kid task now first state middle :=
        ⟨refreshing.stage, refreshing.waits, refreshing.free, refreshing.clock, same ▸ refreshing.cache⟩
      obtain ⟨own, later, more, whole, answer, member⟩ :=
        refreshing_finishes settings library describe kid task now first second state _ _ _ together onward
      exact ⟨own, later, _, whole, by simp, answer, by simp [member]⟩

theorem enter_looking (mode : JwksMode settings) (token kid : Str) (header : TokenHeader)
    (read : library.unverifiedHeader token = .ok header) (named : header.kid = some kid) (nonempty : kid ≠ []) :
    enter settings library (.authenticate token) = .lookingUp kid := by
  rw [enter, enterAuthenticate, if_neg (by simp [mode.enabled]), if_pos mode.url, read]
  simp [named, nonempty]

def ServesKid (kid : Str) (outcome : NetworkOutcome) : Prop :=
  ∃ jwks, readPayload outcome = .ok jwks ∧ WellFormed library jwks ∧ Publishes kid jwks

theorem started_rotates (clock : Rat) (steps : List TaskStep) (state : ServiceState κ) (trace : List (TaskEvent κ))
    (ran : exec (taskStep settings library describe) (ServiceState.start clock) steps = some (state, trace))
    (token kid : Str) (entered : enter settings library (.authenticate token) = .lookingUp kid) (task : Nat)
    (started : .started task (.authenticate token) ∈ trace) (wellFormed : WellFormedSeen library task trace) :
    Rotates library kid task trace := by
  have holds := tasks_hold settings library describe clock steps state trace ran
  refine rotates_in_trace library kid task trace ?_
  refine history_rotates settings library describe token kid task _ _ entered (holds.progress task)
    ((mem_own task trace _ rfl).mp started) ?_
  intro call now jwks which member
  exact wellFormed call now jwks which ((mem_own_fetch task trace (.returned call now jwks) which).mpr member)

theorem own_fetch_later (task : Nat) (trace more : List (TaskEvent κ)) (empty : own task trace = [])
    (event : FetchEvent) (owned : event.call = firstCall task ∨ event.call = forcedCall task)
    (member : TaskEvent.fetch event ∈ trace ++ more) : event ∈ fetchEvents more := by
  cases List.mem_append.mp member with
  | inl before =>
      have inside := (mem_own_fetch task trace event owned).mp before
      rw [empty] at inside
      cases inside
  | inr after => exact List.mem_filterMap.mpr ⟨.fetch event, after, rfl⟩

theorem served_rotation (kid : Str) (outcomes : List NetworkOutcome) (task : Nat) (cache : Option Jwks)
    (trace more : List (TaskEvent κ)) (empty : own task trace = []) (sourced : Sourced cache outcomes (fetchEvents more))
    (cached : ∀ jwks, cache = some jwks → WellFormed library jwks)
    (serves : ∀ outcome ∈ outcomes, ServesKid library kid outcome) :
    WellFormedSeen library task (trace ++ more) ∧ ProviderPublishes kid task (trace ++ more) := by
  have reads (outcome : NetworkOutcome) (member : outcome ∈ outcomes) (jwks : Jwks)
      (answered : readPayload outcome = .ok jwks) : WellFormed library jwks ∧ Publishes kid jwks := by
    obtain ⟨other, same, wellFormed, published⟩ := serves outcome member
    rw [answered] at same
    cases same
    exact ⟨wellFormed, published⟩
  refine ⟨?_, ?_⟩
  · intro call time jwks which member
    have inMore := own_fetch_later task trace more empty (.returned call time jwks) which member
    obtain held | ⟨outcome, listed, answered⟩ := sourced.returned call time jwks inMore
    · exact cached jwks held
    · exact (reads outcome listed jwks answered).1
  · intro call which
    refine ⟨?_, ?_⟩
    · intro time member
      have inMore := own_fetch_later task trace more empty (.refreshFailed call time) which member
      obtain ⟨outcome, listed, failure, refused⟩ := sourced.failed call time inMore
      obtain ⟨jwks, answered, _⟩ := serves outcome listed
      rw [refused] at answered
      cases answered
    · intro time jwks member
      have inMore := own_fetch_later task trace more empty (.refreshed call time jwks) which member
      obtain ⟨outcome, listed, answered⟩ := sourced.refreshed call time jwks inMore
      exact (reads outcome listed jwks answered).2

theorem key_rotation_picked_up (mode : JwksMode settings) (positive : 0 < settings.authJwksCacheTtlSeconds)
    (token kid : Str) (header : TokenHeader) (read : library.unverifiedHeader token = .ok header)
    (named : header.kid = some kid) (nonempty : kid ≠ []) (clock : Rat) (steps : List TaskStep)
    (state : ServiceState κ) (trace : List (TaskEvent κ))
    (ran : exec (taskStep settings library describe) (ServiceState.start clock) steps = some (state, trace)) :
    (∀ task, .started task (.authenticate token) ∈ trace → WellFormedSeen library task trace →
      Rotates library kid task trace) ∧
    ((∀ jwks, state.fetch.jwksCache = some jwks →
        LatestRefresh (fetchEvents trace) state.fetch.jwksLoadedAt jwks) ∧
      (state.fetch.jwksCache = none → ∀ event ∈ fetchEvents trace, event.isRefresh = false)) ∧
    ∀ task now first second, state.stage task = .idle → state.fetch.jwksLock = none → state.fetch.clock ≤ now →
      ∃ own later more answer, Alone settings library describe [first, second] task state later own more ∧
        .finished task (.resolved answer) ∈ more ∧
        ((∀ jwks, state.fetch.jwksCache = some jwks → WellFormed library jwks) → ServesKid library kid first →
          ServesKid library kid second → ∃ key, answer = .ok key) := by
  have entered := enter_looking settings library mode token kid header read named nonempty
  refine ⟨?_, ?_, ?_⟩
  · intro task started wellFormed
    exact started_rotates settings library describe clock steps state trace ran token kid entered task started wellFormed
  · obtain ⟨inputs, fetched⟩ := tasks_refine_fetch settings library describe (ServiceState.start clock) state steps trace ran
    have tracks := fetch_run_tracks settings positive clock inputs state.fetch (fetchEvents trace) fetched
    exact ⟨fun jwks held => (tracks.cached jwks held).1, tracks.never⟩
  · intro task now first second idle free ordered
    have holds := tasks_hold settings library describe clock steps state trace ran
    have empty := idle_history settings library describe task _ _ idle (holds.progress task)
    have aligned := holds.aligned task
    rw [idle] at aligned
    obtain ⟨own, later, more, alone, started, answer, finished⟩ :=
      authenticate_alone settings library describe token kid entered state task now first second idle
        ⟨aligned.1 rfl, aligned.2.2 (.inr rfl) rfl⟩ free ordered
    refine ⟨own, later, more, answer, alone, finished, ?_⟩
    intro cached firstServes secondServes
    have serves : ∀ outcome ∈ [first, second], ServesKid library kid outcome := by
      intro outcome member
      simp only [List.mem_cons, List.not_mem_nil, or_false] at member
      obtain same | same := member
      · exact same ▸ firstServes
      · exact same ▸ secondServes
    obtain ⟨wellFormed, provider⟩ := served_rotation library kid [first, second] task state.fetch.jwksCache trace more empty
      alone.sourced cached serves
    have whole := exec_append _ _ _ _ _ _ _ _ ran alone.ran
    have rotates := started_rotates settings library describe clock _ later _ whole token kid entered task
      (by simp [started]) wellFormed
    exact rotates.current provider answer (by simp [finished])

end Resolves

def formerKeySet : Jwks where
  members := [("keys".toList, .array [.object [("kid".toList, Json.text "k0")]])]
  keys := [.object [("kid".toList, Json.text "k0")]]
  found := rfl
  nonempty := List.cons_ne_nil _ _

-- The provider changes its key after the warm-up; the kid of the token is not in
-- the cache, and a forced refresh brings it.
def rotationSteps : List TaskStep :=
  [⟨1, 0, .start .warmUp⟩, ⟨1, 0, .fetch .acquire⟩, ⟨2, 0, .fetch (.complete (.answered (.object formerKeySet.members)))⟩,
    ⟨3, 1, .start (.authenticate "token".toList)⟩, ⟨3, 1, .fetch .acquire⟩,
    ⟨4, 1, .fetch (.complete (.answered (.object oneKeySet.members)))⟩]

def rotationTrace : List (TaskEvent Unit) :=
  [.started 0 .warmUp, .called 0 true, .fetch (.refreshed 0 2 formerKeySet), .fetch (.returned 0 2 formerKeySet),
    .finished 0 (.warmed (.ok ())),
    .started 1 (.authenticate "token".toList), .called 1 false, .fetch (.returned 2 3 formerKeySet), .called 1 true,
    .fetch (.refreshed 3 4 oneKeySet), .fetch (.returned 3 4 oneKeySet), .finished 1 (.resolved (.ok (.jwk ())))]

theorem rotation_ran :
    ∃ state, exec (taskStep jwksSettings oneKeyLibrary (fun _ => [])) (ServiceState.start 0) rotationSteps =
      some (state, rotationTrace) := by
  have entered := enter_looking jwksSettings oneKeyLibrary jwks_settings_mode "token".toList "k1".toList _ rfl rfl (by decide)
  have warms : enter jwksSettings oneKeyLibrary .warmUp = .warming := rfl
  have missed : getJwkKeyForKid oneKeyLibrary formerKeySet "k1".toList = .ok none := rfl
  have found : getJwkKeyForKid oneKeyLibrary oneKeySet "k1".toList = .ok (some ()) := rfl
  have young : jwksSettings.authJwksCacheTtlSeconds = 300 := rfl
  norm_num [exec, rotationSteps, rotationTrace, taskStep, entered, warms, pursue, settle, callResult, continueWith, missed,
    found, fetchStep, FetchState.start, FetchState.enter, cachedKeys, jwksCacheExpired, young, completeFetch, readPayload,
    validate_members, ServiceState.start, ServiceState.move, Stage.call, Stage.forceRefresh, Stage.awaits, firstCall,
    forcedCall]

theorem key_rotation_picked_up_first : Rotates oneKeyLibrary "k1".toList 1 rotationTrace := by
  obtain ⟨state, ran⟩ := rotation_ran
  refine (key_rotation_picked_up jwksSettings oneKeyLibrary (fun _ => []) jwks_settings_mode (by decide) "token".toList
    "k1".toList ⟨some "k1".toList⟩ rfl rfl (by decide) 0 rotationSteps state rotationTrace ran).1 1 (by simp [rotationTrace])
    ?_
  intro call now jwks which member
  have served : jwks = formerKeySet ∨ jwks = oneKeySet := by
    simp only [rotationTrace, List.mem_cons, reduceCtorEq, TaskEvent.fetch.injEq, FetchEvent.returned.injEq,
      List.not_mem_nil, or_false, false_or] at member
    rcases member with ⟨_, _, same⟩ | ⟨_, _, same⟩ | ⟨_, _, same⟩
    · exact .inl same
    · exact .inl same
    · exact .inr same
  intro entry listed
  obtain same | same := served
  · exact ⟨_, (), List.mem_singleton.mp (same ▸ listed), rfl⟩
  · exact ⟨_, (), List.mem_singleton.mp (same ▸ listed), rfl⟩

end Chassis.Auth
