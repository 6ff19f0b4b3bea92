import Chassis.JwksReadiness
import Chassis.JwksResolution

set_option autoImplicit false

namespace Chassis.Auth

open Transition

def RefreshesPast (trace : List FetchEvent) (state : FetchState) : Prop :=
  ∀ call time jwks, .refreshed call time jwks ∈ trace → time ≤ state.jwksLoadedAt

theorem silent_refreshes_past (trace events : List FetchEvent) (state next : FetchState)
    (past : RefreshesPast trace state) (loaded : next.jwksLoadedAt = state.jwksLoadedAt)
    (silent : ∀ event ∈ events, event.isRefresh = false) : RefreshesPast (trace ++ events) next := by
  intro call time jwks member
  rw [loaded]
  cases List.mem_append.mp member with
  | inl before => exact past call time jwks before
  | inr after => cases silent _ after

theorem fetch_step_refreshes (settings : Settings) (trace events : List FetchEvent) (state next : FetchState)
    (input : FetchStep) (tracks : CacheTracks settings trace state) (past : RefreshesPast trace state)
    (stepped : fetchStep settings state input = some (next, events)) : RefreshesPast (trace ++ events) next := by
  obtain ⟨ordered, _, move⟩ := fetch_step_move settings state next input events stepped
  cases move with
  | quiet _ cache loaded silent =>
      refine silent_refreshes_past trace events state next past loaded ?_
      rcases silent with none | cancelled | ⟨failure, raised⟩
      · simp [none]
      · simp [cancelled, FetchEvent.isRefresh]
      · simp [raised, FetchEvent.isRefresh]
  | fresh jwks cache loaded held young =>
      exact silent_refreshes_past trace _ state next past loaded (by simp [FetchEvent.isRefresh])
  | stale jwks cache loaded held allowed bounded =>
      exact silent_refreshes_past trace _ state next past loaded (by simp [FetchEvent.isRefresh])
  | install jwks cache loaded =>
      intro call time other member
      rw [loaded]
      cases List.mem_append.mp member with
      | inl before =>
          cases held : state.jwksCache with
          | none => cases tracks.never held _ before
          | some cached => exact le_trans (past call time other before) (le_trans (tracks.cached cached held).2 ordered)
      | inr after =>
          have same : time = input.time := by
            simp only [List.mem_cons, FetchEvent.refreshed.injEq, reduceCtorEq, List.not_mem_nil, or_false] at after
            exact after.2.1
          exact le_of_eq same

theorem fetch_run_refreshes (settings : Settings) (positive : 0 < settings.authJwksCacheTtlSeconds) (start : Rat)
    (steps : List FetchStep) (state : FetchState) (trace : List FetchEvent)
    (ran : exec (fetchStep settings) (FetchState.start start) steps = some (state, trace)) :
    CacheTracks settings trace state ∧ RefreshesPast trace state := by
  have both := exec_invariant (fetchStep settings)
    (fun past reached => CacheTracks settings past reached ∧ RefreshesPast past reached)
    (fun past reached input next events holds stepped =>
      ⟨fetch_step_tracks settings positive past reached input next events holds.1 stepped,
        fetch_step_refreshes settings past events reached next input holds.1 holds.2 stepped⟩)
    (FetchState.start start) state [] trace steps
    ⟨start_tracks settings start, by intro call time jwks member; cases member⟩ ran
  rwa [List.nil_append] at both

theorem move_returned (settings : Settings) (state next : FetchState) (call : Nat) (now : Rat)
    (events : List FetchEvent) (jwks : Jwks) (move : Move settings state next call now events)
    (ended : callResult events = some (.returned jwks)) :
    next.jwksCache = some jwks ∧ ∃ before, events = before ++ [.returned call now jwks] := by
  cases move with
  | quiet _ cache loaded silent =>
      rcases silent with none | cancelled | ⟨failure, raised⟩
      · rw [none] at ended
        cases ended
      · rw [cancelled] at ended
        cases ended
      · rw [raised] at ended
        cases ended
  | fresh other cache loaded held young =>
      cases ended
      exact ⟨cache.trans held, [], rfl⟩
  | install other cache loaded =>
      cases ended
      exact ⟨cache, [.refreshed call now jwks], rfl⟩
  | stale other cache loaded held allowed bounded =>
      cases ended
      exact ⟨cache.trans held, [.refreshFailed call now], rfl⟩

section Withdrawal

variable {κ : Type} (settings : Settings) (library : JwtLibrary κ) (describe : Failure → Str)

-- How a step ends its coroutine: before the first await, or with the call of
-- _fetch_jwks in which it stood.
inductive Ends (state next : ServiceState κ) (input : TaskStep) (events : List (TaskEvent κ)) (outcome : Outcome κ) :
    Prop where
  | direct (purpose : Purpose) (entered : enter settings library purpose = .done outcome)
  | awaited (stage : Stage κ) (action : Action) (result : CallResult) (flag : Bool)
      (stands : state.stage input.task = stage ∨
        ∃ purpose, .started input.task purpose ∈ events ∧ enter settings library purpose = stage)
      (awaits : stage.awaits = true)
      (called : fetchStep settings state.fetch ⟨input.time, stage.call input.task, action⟩ =
        some (next.fetch, fetchEvents events))
      (ended : callResult (fetchEvents events) = some result)
      (answer : continueWith library describe stage flag result = .done outcome)

theorem settle_finished (fetch last : FetchState) (task other : Nat) (now : Rat) (stage reached : Stage κ)
    (events : List FetchEvent) (out : List (TaskEvent κ)) (outcome : Outcome κ)
    (settled : settle settings library describe fetch task now stage events = some (last, reached, out))
    (finished : .finished other outcome ∈ out) :
    other = task ∧ last = fetch ∧ fetchEvents out = events ∧ ∃ result, callResult events = some result ∧
      continueWith library describe stage fetch.jwksLastFetchUsedStaleCache result = .done outcome := by
  unfold settle at settled
  cases ended : callResult events with
  | none =>
      rw [ended] at settled
      cases settled
      simp at finished
  | some result =>
      simp only [ended] at settled
      cases continued : continueWith library describe stage fetch.jwksLastFetchUsedStaleCache result with
      | done other =>
          simp only [continued] at settled
          cases settled
          simp only [List.mem_append, List.mem_map, reduceCtorEq, and_false, exists_false, List.mem_singleton,
            TaskEvent.finished.injEq, false_or] at finished
          obtain ⟨own, same⟩ := finished
          exact ⟨own, rfl, by simp [TaskEvent.fetched], result, rfl, same ▸ continued⟩
      | _ =>
          simp only [continued] at settled
          split at settled
          · cases settled
          · cases settled
            simp at finished

theorem pursue_finished (fetch last : FetchState) (task other : Nat) (now : Rat) (stage reached : Stage κ)
    (action : Action) (out : List (TaskEvent κ)) (outcome : Outcome κ)
    (pursued : pursue settings library describe fetch task now stage action = some (last, reached, out))
    (finished : .finished other outcome ∈ out) :
    other = task ∧ fetchStep settings fetch ⟨now, stage.call task, action⟩ = some (last, fetchEvents out) ∧
      ∃ result flag, callResult (fetchEvents out) = some result ∧
        continueWith library describe stage flag result = .done outcome := by
  unfold pursue at pursued
  cases stepped : fetchStep settings fetch ⟨now, stage.call task, action⟩ with
  | none =>
      rw [stepped] at pursued
      cases pursued
  | some moved =>
      obtain ⟨next, events⟩ := moved
      rw [stepped] at pursued
      obtain ⟨own, same, fetched, result, ended, answer⟩ :=
        settle_finished settings library describe next last task other now stage reached events out outcome pursued finished
      subst same
      rw [fetched]
      exact ⟨own, rfl, result, _, ended, answer⟩

theorem step_finished (state next : ServiceState κ) (input : TaskStep) (events : List (TaskEvent κ)) (task : Nat)
    (outcome : Outcome κ) (stepped : taskStep settings library describe state input = some (next, events))
    (finished : .finished task outcome ∈ events) :
    task = input.task ∧ Ends settings library describe state next input events outcome := by
  obtain ⟨now, mover, action⟩ := input
  cases action with
  | start purpose =>
      cases stage : state.stage mover with
      | idle =>
          obtain ⟨reached, entered⟩ | awaits := enter_awaits settings library purpose
          · simp only [taskStep, stage, entered] at stepped
            cases stepped
            simp only [List.mem_cons, reduceCtorEq, TaskEvent.finished.injEq, List.not_mem_nil, or_false, false_or] at finished
            exact ⟨finished.1, .direct purpose (finished.2 ▸ entered)⟩
          · rw [start_step settings library describe state now mover purpose _ stage rfl awaits] at stepped
            obtain ⟨⟨fetch, reached, out⟩, pursued, moved⟩ := Option.map_eq_some_iff.mp stepped
            cases moved
            have own : .finished task outcome ∈ out := by simpa using finished
            obtain ⟨same, called, result, flag, ended, answer⟩ :=
              pursue_finished settings library describe _ _ _ _ _ _ _ _ _ _ pursued own
            have fetched : fetchEvents ([.started mover purpose, .called mover (enter settings library purpose).forceRefresh] ++
                out) = fetchEvents out := by
              simp [TaskEvent.fetched]
            refine ⟨same, .awaited _ (.begin (enter settings library purpose).forceRefresh) result flag
              (.inr ⟨purpose, by simp, rfl⟩) awaits ?_ ?_ answer⟩
            · rw [fetched]
              exact called
            · rw [fetched]
              exact ended
      | lookingUp kid => simp [taskStep, stage] at stepped
      | refreshing kid => simp [taskStep, stage] at stepped
      | checking => simp [taskStep, stage] at stepped
      | warming => simp [taskStep, stage] at stepped
      | done reached => simp [taskStep, stage] at stepped
  | fetch action =>
      by_cases awaits : (state.stage mover).awaits = true
      · rw [continue_step settings library describe state now mover action awaits] at stepped
        obtain ⟨⟨fetch, reached, out⟩, pursued, moved⟩ := Option.map_eq_some_iff.mp stepped
        cases moved
        obtain ⟨same, called, result, flag, ended, answer⟩ :=
          pursue_finished settings library describe _ _ _ _ _ _ _ _ _ _ pursued finished
        exact ⟨same, .awaited _ action result flag (.inl rfl) awaits called ended answer⟩
      · simp [taskStep, awaits] at stepped

theorem resolving_stage (stage : Stage κ) (awaits : stage.awaits = true) (flag : Bool) (result : CallResult)
    (key : VerificationKey κ)
    (answer : continueWith library describe stage flag result = .done (.resolved (.ok key))) :
    ∃ kid jwks entry, (stage = .lookingUp kid ∨ stage = .refreshing kid) ∧ result = .returned jwks ∧
      getJwkKeyForKid library jwks kid = .ok (some entry) ∧ key = .jwk entry := by
  cases result with
  | cancelled => cases answer
  | raised failure => cases stage <;> cases answer
  | returned jwks =>
      cases stage with
      | idle => cases awaits
      | done outcome => cases awaits
      | checking => cases answer
      | warming => cases answer
      | lookingUp kid =>
          cases found : getJwkKeyForKid library jwks kid with
          | error failure => simp [continueWith, found] at answer
          | ok looked =>
              cases looked with
              | none => simp [continueWith, found] at answer
              | some entry =>
                  have same : key = .jwk entry := by simpa [continueWith, found, eq_comm] using answer
                  exact ⟨kid, jwks, entry, .inl rfl, rfl, found, same⟩
      | refreshing kid =>
          cases found : getJwkKeyForKid library jwks kid with
          | error failure => simp [continueWith, found] at answer
          | ok looked =>
              cases looked with
              | none => simp [continueWith, found] at answer
              | some entry =>
                  have same : key = .jwk entry := by simpa [continueWith, found, eq_comm] using answer
                  exact ⟨kid, jwks, entry, .inr rfl, rfl, found, same⟩

theorem enter_unresolved (mode : JwksMode settings) (purpose : Purpose) (key : VerificationKey κ) :
    enter settings library purpose ≠ .done (.resolved (.ok key)) := by
  cases purpose with
  | readiness =>
      rw [enter_readiness settings library mode]
      simp
  | warmUp =>
      rw [enter_warm_up settings library mode]
      simp
  | authenticate token =>
      rw [enter, enterAuthenticate, if_neg (by simp [mode.enabled]), if_pos mode.url]
      cases read : library.unverifiedHeader token with
      | error failure => simp
      | ok header =>
          cases named : header.kid with
          | none => simp [named]
          | some kid =>
              by_cases empty : kid = []
              · simp [named, empty]
              · simp [named, empty]

theorem looking_started (purpose : Purpose) (kid : Str) (entered : enter settings library purpose = .lookingUp kid) :
    ∃ token header, purpose = .authenticate token ∧ library.unverifiedHeader token = .ok header ∧ header.kid = some kid := by
  obtain ⟨outcome, done⟩ | ⟨token, header, other, same, read, named, _, looks⟩ | ⟨_, checks⟩ | ⟨_, warms⟩ :=
    enter_cases settings library purpose
  · rw [done] at entered
    cases entered
  · rw [looks] at entered
    cases entered
    exact ⟨token, header, same, read, named⟩
  · rw [checks] at entered
    cases entered
  · rw [warms] at entered
    cases entered

theorem standing_started (task : Nat) (stage : Stage κ) (history : List (TaskEvent κ)) (kid : Str)
    (progress : Progress settings library describe task stage history)
    (looks : stage = .lookingUp kid ∨ stage = .refreshing kid) :
    ∃ purpose, .started task purpose ∈ history ∧ enter settings library purpose = .lookingUp kid := by
  cases progress with
  | idle => rcases looks with same | same <;> cases same
  | direct purpose outcome entered => rcases looks with same | same <;> cases same
  | first purpose stage entered awaits =>
      rcases looks with same | same
      · exact ⟨purpose, by simp, entered.trans same⟩
      · have first := enter_cases settings library purpose
        rw [entered, same] at first
        rcases first with ⟨_, done⟩ | ⟨_, _, _, _, _, _, _, looking⟩ | ⟨_, checks⟩ | ⟨_, warms⟩
        · cases done
        · cases looking
        · cases checks
        · cases warms
  | once purpose stage outcome result flag events entered awaits ends answer => rcases looks with same | same <;> cases same
  | missed purpose other jwks flag events entered ends absent =>
      rcases looks with same | same
      · cases same
      · cases same
        exact ⟨purpose, by simp, entered⟩
  | twice purpose other jwks flag events outcome result again more entered ends absent refresh answer =>
      rcases looks with same | same <;> cases same

def WithdrawnAt (kid : Str) (entry : κ) (withdrawn : Rat) (trace : List (TaskEvent κ)) : Prop :=
  ∀ call time jwks, .fetch (.refreshed call time jwks) ∈ trace → withdrawn ≤ time →
    getJwkKeyForKid library jwks kid ≠ .ok (some entry)

def oldestServed : Rat := max (settings.authJwksCacheTtlSeconds : Rat) settings.authJwksMaxStaleSeconds

structure KeyGrounds (trace : List (TaskEvent κ)) (now : Rat) (kid : Str) (entry : κ) : Prop where
  latest : ∃ loaded jwks, LatestRefresh (fetchEvents trace) loaded jwks ∧ loaded ≤ now ∧
    now - loaded ≤ oldestServed settings ∧ getJwkKeyForKid library jwks kid = .ok (some entry)
  unrefreshed : ∀ withdrawn, WithdrawnAt library kid entry withdrawn trace →
    ∀ call time jwks, .fetch (.refreshed call time jwks) ∈ trace → time < withdrawn
  recent : ∀ withdrawn, WithdrawnAt library kid entry withdrawn trace → now < withdrawn + oldestServed settings

theorem served_age (before : List FetchEvent) (call : Nat) (now : Rat) (jwks : Jwks)
    (served : Served settings before (.returned call now jwks)) :
    ∃ loaded, LatestRefresh before loaded jwks ∧ loaded ≤ now ∧ now - loaded ≤ oldestServed settings := by
  obtain ⟨loaded, latest, past, age⟩ := served
  refine ⟨loaded, latest, past, ?_⟩
  rcases age with young | ⟨_, stale, _⟩
  · exact le_max_of_le_left young.le
  · exact le_max_of_le_right stale

theorem mem_fetch_events (event : FetchEvent) (trace : List (TaskEvent κ)) :
    event ∈ fetchEvents trace ↔ .fetch event ∈ trace := by
  rw [fetchEvents, List.mem_filterMap]
  constructor
  · rintro ⟨other, member, same⟩
    cases other <;> cases same
    exact member
  · intro member
    exact ⟨_, member, rfl⟩

theorem returned_grounds (positive : 0 < settings.authJwksCacheTtlSeconds) (clock : Rat) (steps : List TaskStep)
    (state next : ServiceState κ) (trace events : List (TaskEvent κ)) (call : Nat) (now : Rat) (action : Action)
    (ran : exec (taskStep settings library describe) (ServiceState.start clock) steps = some (state, trace))
    (called : fetchStep settings state.fetch ⟨now, call, action⟩ = some (next.fetch, fetchEvents events)) (jwks : Jwks)
    (ended : callResult (fetchEvents events) = some (.returned jwks)) (kid : Str) (entry : κ)
    (found : getJwkKeyForKid library jwks kid = .ok (some entry)) :
    KeyGrounds settings library (trace ++ events) now kid entry := by
  obtain ⟨inputs, fetched⟩ := tasks_refine_fetch settings library describe _ state steps trace ran
  have whole := exec_append _ _ _ _ _ _ _ _ fetched (exec_single _ _ _ _ _ called)
  obtain ⟨tracks, past⟩ := fetch_run_refreshes settings positive clock _ _ _ whole
  obtain ⟨_, _, move⟩ := fetch_step_move settings state.fetch next.fetch _ _ called
  obtain ⟨cached, before, split⟩ := move_returned settings _ _ _ _ _ jwks move ended
  have last : fetchEvents trace ++ fetchEvents events = (fetchEvents trace ++ before) ++ [.returned call now jwks] := by
    rw [split, List.append_assoc]
  obtain ⟨loaded, latest, earlier, age⟩ := served_age settings _ call now jwks (tracks.served _ _ [] last)
  obtain ⟨held, _⟩ := tracks.cached jwks cached
  have kept := latest_append _ [.returned call now jwks] loaded jwks latest (by simp [FetchEvent.isRefresh])
  rw [← last] at kept
  have refreshed : ∀ withdrawn, WithdrawnAt library kid entry withdrawn (trace ++ events) →
      next.fetch.jwksLoadedAt < withdrawn := by
    intro withdrawn gone
    by_contra late
    obtain ⟨first, fetcher, later, cut, _⟩ := held
    refine gone fetcher next.fetch.jwksLoadedAt jwks ?_ (not_lt.mp late) found
    rw [← mem_fetch_events, fetch_events_append, cut]
    simp
  constructor
  · exact ⟨loaded, jwks, by rw [fetch_events_append]; exact kept, earlier, age, found⟩
  · intro withdrawn gone other time set member
    rw [← mem_fetch_events, fetch_events_append] at member
    exact lt_of_le_of_lt (past other time set member) (refreshed withdrawn gone)
  · intro withdrawn gone
    obtain ⟨first, fetcher, later, cut, _⟩ := kept
    have member : .refreshed fetcher loaded jwks ∈ fetchEvents trace ++ fetchEvents events := by
      rw [cut]
      simp
    have young := lt_of_le_of_lt (past fetcher loaded jwks member) (refreshed withdrawn gone)
    have bound : now ≤ loaded + oldestServed settings := by linarith
    exact lt_of_le_of_lt bound (by linarith)

theorem awaited_grounds (positive : 0 < settings.authJwksCacheTtlSeconds) (clock : Rat) (steps : List TaskStep)
    (state next : ServiceState κ) (trace events : List (TaskEvent κ)) (input : TaskStep)
    (ran : exec (taskStep settings library describe) (ServiceState.start clock) steps = some (state, trace))
    (stage : Stage κ) (action : Action) (result : CallResult) (flag : Bool)
    (stands : state.stage input.task = stage ∨
      ∃ purpose, .started input.task purpose ∈ events ∧ enter settings library purpose = stage)
    (awaits : stage.awaits = true)
    (called : fetchStep settings state.fetch ⟨input.time, stage.call input.task, action⟩ =
      some (next.fetch, fetchEvents events))
    (ended : callResult (fetchEvents events) = some result) (key : VerificationKey κ)
    (answer : continueWith library describe stage flag result = .done (.resolved (.ok key))) :
    ∃ token header kid entry, .started input.task (.authenticate token) ∈ trace ++ events ∧
      library.unverifiedHeader token = .ok header ∧ header.kid = some kid ∧ key = .jwk entry ∧
      KeyGrounds settings library (trace ++ events) input.time kid entry := by
  obtain ⟨kid, jwks, entry, looks, same, found, loaded⟩ :=
    resolving_stage library describe stage awaits flag result key answer
  subst same
  have started : ∃ purpose, .started input.task purpose ∈ trace ++ events ∧
      enter settings library purpose = .lookingUp kid := by
    rcases stands with standing | ⟨purpose, member, entered⟩
    · have progress := (tasks_hold settings library describe clock steps state trace ran).progress input.task
      rw [standing] at progress
      obtain ⟨purpose, member, entered⟩ := standing_started settings library describe _ _ _ kid progress looks
      exact ⟨purpose, List.mem_append_left _ ((mem_own _ trace _ rfl).mpr member), entered⟩
    · refine ⟨purpose, List.mem_append_right _ member, ?_⟩
      rcases looks with looking | refreshing
      · exact entered.trans looking
      · have first := enter_first_call settings library purpose input.task
        rw [entered, refreshing] at first
        exact absurd first.symm (calls_apart input.task)
  obtain ⟨purpose, member, entered⟩ := started
  obtain ⟨token, header, same, read, named⟩ := looking_started settings library purpose kid entered
  have grounds := returned_grounds settings library describe positive clock steps state next trace events _ _ action
    ran called jwks ended kid entry found
  exact ⟨token, header, kid, entry, same ▸ member, read, named, loaded, grounds⟩

theorem withdrawn_key_expires (mode : JwksMode settings) (positive : 0 < settings.authJwksCacheTtlSeconds) (clock : Rat)
    (steps : List TaskStep) (state : ServiceState κ) (trace : List (TaskEvent κ))
    (ran : exec (taskStep settings library describe) (ServiceState.start clock) steps = some (state, trace))
    (input : TaskStep) (next : ServiceState κ) (events : List (TaskEvent κ))
    (stepped : taskStep settings library describe state input = some (next, events)) (task : Nat)
    (key : VerificationKey κ) (resolved : .finished task (.resolved (.ok key)) ∈ events) :
    ∃ token header kid entry, .started task (.authenticate token) ∈ trace ++ events ∧
      library.unverifiedHeader token = .ok header ∧ header.kid = some kid ∧ key = .jwk entry ∧
      (∃ loaded jwks, LatestRefresh (fetchEvents (trace ++ events)) loaded jwks ∧ loaded ≤ input.time ∧
        input.time - loaded ≤ oldestServed settings ∧ getJwkKeyForKid library jwks kid = .ok (some entry)) ∧
      ∀ withdrawn, WithdrawnAt library kid entry withdrawn (trace ++ events) →
        (∀ call time jwks, .fetch (.refreshed call time jwks) ∈ trace ++ events → time < withdrawn) ∧
          input.time < withdrawn + oldestServed settings := by
  obtain ⟨own, ends⟩ := step_finished settings library describe state next input events task _ stepped resolved
  subst own
  cases ends with
  | direct purpose entered => exact absurd entered (enter_unresolved settings library mode purpose key)
  | awaited stage action result flag stands awaits called ended answer =>
      obtain ⟨token, header, kid, entry, started, read, named, loaded, grounds⟩ :=
        awaited_grounds settings library describe positive clock steps state next trace events input ran stage action result
          flag stands awaits called ended key answer
      exact ⟨token, header, kid, entry, started, read, named, loaded, grounds.latest, fun withdrawn gone =>
        ⟨grounds.unrefreshed withdrawn gone, grounds.recent withdrawn gone⟩⟩

end Withdrawal

def tokenTrace : List (TaskEvent Unit) :=
  [.started 0 (.authenticate "token".toList), .called 0 false, .fetch (.refreshed 0 2 oneKeySet),
    .fetch (.returned 0 2 oneKeySet), .finished 0 (.resolved (.ok (.jwk ())))]

def tokenWaiting : List TaskStep := [⟨1, 0, .start (.authenticate "token".toList)⟩, ⟨1, 0, .fetch .acquire⟩]

def tokenAnswered : TaskStep := ⟨2, 0, .fetch (.complete (.answered (.object oneKeySet.members)))⟩

theorem token_answered (settings : Settings) (mode : JwksMode settings) (library : JwtLibrary Unit)
    (read : library.unverifiedHeader "token".toList = .ok ⟨some "k1".toList⟩)
    (found : getJwkKeyForKid library oneKeySet "k1".toList = .ok (some ())) :
    ∃ state next,
      exec (taskStep settings library (fun _ => [])) (ServiceState.start 0) tokenWaiting =
          some (state, tokenTrace.take 2) ∧
        taskStep settings library (fun _ => []) state tokenAnswered = some (next, tokenTrace.drop 2) := by
  have entered := enter_looking settings library mode "token".toList "k1".toList _ read rfl (by decide)
  norm_num [exec, tokenWaiting, tokenAnswered, tokenTrace, taskStep, entered, pursue, settle, callResult, continueWith, found,
    fetchStep, FetchState.start, FetchState.enter, cachedKeys, completeFetch, readPayload, validate_members,
    ServiceState.start, ServiceState.move, Stage.call, Stage.forceRefresh, Stage.awaits, firstCall]

theorem withdrawn_key_expires_first :
    ∃ token kid, oneKeyLibrary.unverifiedHeader token = .ok ⟨some kid⟩ ∧
      ∀ withdrawn, WithdrawnAt oneKeyLibrary kid () withdrawn tokenTrace →
        (2 : Rat) < withdrawn + oldestServed jwksSettings := by
  obtain ⟨state, next, waits, answered⟩ := token_answered jwksSettings jwks_settings_mode oneKeyLibrary rfl rfl
  obtain ⟨token, header, kid, entry, _, read, named, _, _, gone⟩ := withdrawn_key_expires jwksSettings oneKeyLibrary
    (fun _ => []) jwks_settings_mode (by decide) 0 tokenWaiting state _ waits tokenAnswered next _ answered 0 (.jwk ())
    (by simp [tokenTrace])
  rw [List.take_append_drop] at gone
  refine ⟨token, kid, ?_, fun withdrawn since => (gone withdrawn since).2⟩
  rw [read, ← named]

end Chassis.Auth
