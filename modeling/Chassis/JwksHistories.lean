import Chassis.JwksTasks

set_option autoImplicit false

namespace Chassis.Auth

open Transition

-- How a call of _fetch_jwks ends: its result, the flag as it leaves it, and
-- its events. A forced call is never served from a cache that has not expired.
inductive CallEnds (call : Nat) (forceRefresh : Bool) : CallResult → Bool → List FetchEvent → Prop where
  | cached (now : Rat) (jwks : Jwks) (free : forceRefresh = false) :
      CallEnds call forceRefresh (.returned jwks) false [.returned call now jwks]
  | fetched (now : Rat) (jwks : Jwks) :
      CallEnds call forceRefresh (.returned jwks) false [.refreshed call now jwks, .returned call now jwks]
  | stale (now : Rat) (jwks : Jwks) :
      CallEnds call forceRefresh (.returned jwks) true [.refreshFailed call now, .returned call now jwks]
  | raised (now : Rat) (failure : Failure) (flag : Bool) :
      CallEnds call forceRefresh (.raised failure) flag [.refreshFailed call now, .raised call failure]
  | cancelled (flag : Bool) : CallEnds call forceRefresh .cancelled flag [.cancelled call]

def Pending (forceRefresh : Bool) : Phase → Prop
  | .waiting forced => forced = forceRefresh
  | .fetching => True
  | _ => False

theorem complete_fetch_ends (settings : Settings) (state : FetchState) (now : Rat) (call : Nat)
    (outcome : NetworkOutcome) (forceRefresh : Bool) :
    (completeFetch settings state now call outcome).1.phase = (state.enter now call .finished).phase ∧
      ∃ result, CallEnds call forceRefresh result
        (completeFetch settings state now call outcome).1.jwksLastFetchUsedStaleCache
        (completeFetch settings state now call outcome).2 := by
  unfold completeFetch
  cases readPayload outcome with
  | ok jwks => exact ⟨rfl, _, .fetched now jwks⟩
  | error failure =>
      cases staleKeys settings state now with
      | none => exact ⟨rfl, _, .raised now failure _⟩
      | some jwks => exact ⟨rfl, _, .stale now jwks⟩

theorem fetch_step_call (settings : Settings) (state next : FetchState) (now : Rat) (call : Nat)
    (forceRefresh : Bool) (action : Action) (events : List FetchEvent)
    (ready : action = .begin forceRefresh ∨ Pending forceRefresh (state.phase call))
    (stepped : fetchStep settings state ⟨now, call, action⟩ = some (next, events)) :
    (∀ other, other ≠ call → next.phase other = state.phase other) ∧
      ((events = [] ∧ Pending forceRefresh (next.phase call)) ∨
        ∃ result, CallEnds call forceRefresh result next.jwksLastFetchUsedStaleCache events) := by
  obtain ⟨_, taken⟩ := fetch_step_taken settings state next now call action events stepped
  cases taken with
  | hit forced jwks begins found =>
      refine ⟨fun other different => enter_other state now call other _ different, .inr ⟨_, .cached now jwks ?_⟩⟩
      have unforced := cached_unforced settings state forced now jwks found
      cases ready with
      | inl same =>
          cases same
          exact unforced
      | inr pending =>
          rw [begins] at pending
          cases pending
  | wait forced begins missed =>
      refine ⟨fun other different => enter_other state now call other _ different, .inl ⟨rfl, ?_⟩⟩
      rw [enter_same]
      cases ready with
      | inl same =>
          cases same
          rfl
      | inr pending =>
          rw [begins] at pending
          cases pending
  | recheck forced jwks waits free found =>
      refine ⟨fun other different => enter_other state now call other _ different, .inr ⟨_, .cached now jwks ?_⟩⟩
      have unforced := cached_unforced settings state forced now jwks found
      have pending : Pending forceRefresh (state.phase call) := ready.resolve_left (fun same => by cases same)
      rw [waits] at pending
      exact pending.symm.trans unforced
  | fetch forced waits free missed =>
      refine ⟨fun other different => enter_other state now call other _ different, .inl ⟨rfl, ?_⟩⟩
      have same : (state.enter now call .fetching).phase call = .fetching := enter_same state now call _
      rw [show ({ state.enter now call .fetching with jwksLock := some call } : FetchState).phase call = .fetching from
        same]
      trivial
  | complete outcome fetches =>
      obtain ⟨phases, ends⟩ := complete_fetch_ends settings state now call outcome forceRefresh
      refine ⟨?_, .inr ends⟩
      intro other different
      rw [phases]
      exact enter_other state now call other _ different
  | leaveQueue forced waits =>
      exact ⟨fun other different => enter_other state now call other _ different, .inr ⟨_, .cancelled _⟩⟩
  | leaveFetch fetches =>
      exact ⟨fun other different => enter_other state now call other _ different, .inr ⟨_, .cancelled _⟩⟩

theorem call_ends_result (call : Nat) (forceRefresh flag : Bool) (result : CallResult) (events : List FetchEvent)
    (ends : CallEnds call forceRefresh result flag events) : callResult events = some result := by
  cases ends <;> rfl

theorem begin_forced (settings : Settings) (state next : FetchState) (now : Rat) (call : Nat)
    (events : List FetchEvent) (stepped : fetchStep settings state ⟨now, call, .begin true⟩ = some (next, events)) :
    events = [] ∧ next = state.enter now call (.waiting true) := by
  obtain ⟨_, taken⟩ := fetch_step_taken settings state next now call _ events stepped
  cases taken with
  | hit forced jwks begins found => cases cached_unforced settings state true now jwks found
  | wait forced begins missed => exact ⟨rfl, rfl⟩

theorem call_ends_call (call : Nat) (forceRefresh flag : Bool) (result : CallResult) (events : List FetchEvent)
    (ends : CallEnds call forceRefresh result flag events) : ∀ event ∈ events, event.call = call := by
  cases ends <;> simp [FetchEvent.call]

section Histories

variable {κ : Type} (settings : Settings) (library : JwtLibrary κ) (describe : Failure → Str)

def TaskEvent.owner : TaskEvent κ → Nat
  | .started task _ => task
  | .called task _ => task
  | .fetch event => event.call / 2
  | .finished task _ => task

def own (task : Nat) (trace : List (TaskEvent κ)) : List (TaskEvent κ) :=
  trace.filter (fun event => event.owner = task)

def Owned (task : Nat) (events : List (TaskEvent κ)) : Prop := ∀ event ∈ events, event.owner = task

theorem own_append_owned (task : Nat) (trace events : List (TaskEvent κ)) (owned : Owned task events) :
    own task (trace ++ events) = own task trace ++ events := by
  have kept : events.filter (fun event => decide (event.owner = task)) = events :=
    List.filter_eq_self.mpr (fun event member => decide_eq_true (owned event member))
  rw [own, List.filter_append, kept]
  rfl

theorem own_append_other (task other : Nat) (trace events : List (TaskEvent κ)) (owned : Owned task events)
    (different : other ≠ task) : own other (trace ++ events) = own other trace := by
  have dropped : events.filter (fun event => decide (event.owner = other)) = [] := by
    refine List.filter_eq_nil_iff.mpr ?_
    intro event member
    simpa [owned event member] using different.symm
  rw [own, List.filter_append, dropped, List.append_nil]
  rfl

theorem owned_append (task : Nat) (before after : List (TaskEvent κ)) (first : Owned task before)
    (second : Owned task after) : Owned task (before ++ after) := by
  intro event member
  exact (List.mem_append.mp member).elim (first event) (second event)

theorem owned_cons (task : Nat) (event : TaskEvent κ) (rest : List (TaskEvent κ)) (first : event.owner = task)
    (second : Owned task rest) : Owned task (event :: rest) :=
  owned_append task [event] rest (by simpa [Owned] using first) second

theorem owned_fetch (task : Nat) (events : List FetchEvent) (owned : ∀ event ∈ events, event.call / 2 = task) :
    Owned task (events.map (TaskEvent.fetch (κ := κ))) := by
  intro event member
  obtain ⟨inner, found, same⟩ := List.mem_map.mp member
  rw [← same]
  exact owned inner found

theorem stage_call_owner (task : Nat) (stage : Stage κ) : stage.call task / 2 = task := by
  have forced : forcedCall task / 2 = task := by
    unfold forcedCall
    omega
  have first : firstCall task / 2 = task := by
    unfold firstCall
    omega
  cases stage with
  | refreshing kid => exact forced
  | idle => exact first
  | lookingUp kid => exact first
  | checking => exact first
  | warming => exact first
  | done outcome => exact first

theorem other_call (task call : Nat) (stage : Stage κ) (elsewhere : call / 2 ≠ task) : call ≠ stage.call task := by
  intro same
  rw [same] at elsewhere
  exact elsewhere (stage_call_owner task stage)

inductive Progress (task : Nat) : Stage κ → List (TaskEvent κ) → Prop where
  | idle : Progress task .idle []
  | direct (purpose : Purpose) (outcome : Outcome κ) (entered : enter settings library purpose = .done outcome) :
      Progress task (.done outcome) [.started task purpose, .finished task outcome]
  | first (purpose : Purpose) (stage : Stage κ) (entered : enter settings library purpose = stage)
      (awaits : stage.awaits = true) : Progress task stage [.started task purpose, .called task stage.forceRefresh]
  | once (purpose : Purpose) (stage : Stage κ) (outcome : Outcome κ) (result : CallResult) (flag : Bool)
      (events : List FetchEvent) (entered : enter settings library purpose = stage) (awaits : stage.awaits = true)
      (ends : CallEnds (firstCall task) stage.forceRefresh result flag events)
      (answer : continueWith library describe stage flag result = .done outcome) :
      Progress task (.done outcome)
        ([.started task purpose, .called task stage.forceRefresh] ++
          (events.map .fetch ++ [.finished task outcome]))
  | missed (purpose : Purpose) (kid : Str) (jwks : Jwks) (flag : Bool) (events : List FetchEvent)
      (entered : enter settings library purpose = .lookingUp kid)
      (ends : CallEnds (firstCall task) false (.returned jwks) flag events)
      (absent : getJwkKeyForKid library jwks kid = .ok none) :
      Progress task (.refreshing kid)
        ([.started task purpose, .called task false] ++ (events.map .fetch ++ [.called task true]))
  | twice (purpose : Purpose) (kid : Str) (jwks : Jwks) (flag : Bool) (events : List FetchEvent) (outcome : Outcome κ)
      (result : CallResult) (again : Bool) (more : List FetchEvent)
      (entered : enter settings library purpose = .lookingUp kid)
      (ends : CallEnds (firstCall task) false (.returned jwks) flag events)
      (absent : getJwkKeyForKid library jwks kid = .ok none)
      (refresh : CallEnds (forcedCall task) true result again more)
      (answer : continueWith library describe (.refreshing kid) again result = .done outcome) :
      Progress task (.done outcome)
        (([.started task purpose, .called task false] ++ (events.map .fetch ++ [.called task true])) ++
          (more.map .fetch ++ [.finished task outcome]))

def Aligned (fetch : FetchState) (task : Nat) (stage : Stage κ) : Prop :=
  (stage = .idle → fetch.phase (firstCall task) = .idle) ∧
    (stage.awaits = true → Pending stage.forceRefresh (fetch.phase (stage.call task))) ∧
    ((stage.awaits = true ∨ stage = .idle) → stage.call task = firstCall task →
      fetch.phase (forcedCall task) = .idle)

structure TasksHold (trace : List (TaskEvent κ)) (state : ServiceState κ) : Prop where
  progress : ∀ task, Progress settings library describe task (state.stage task) (own task trace)
  aligned : ∀ task, Aligned state.fetch task (state.stage task)

theorem enter_cases (purpose : Purpose) :
    (∃ outcome, enter settings library purpose = .done outcome) ∨
      (∃ token header kid, purpose = .authenticate token ∧ library.unverifiedHeader token = .ok header ∧
        header.kid = some kid ∧ kid ≠ [] ∧ enter settings library purpose = .lookingUp kid) ∨
      (purpose = .readiness ∧ enter settings library purpose = .checking) ∨
      (purpose = .warmUp ∧ enter settings library purpose = .warming) := by
  cases purpose with
  | authenticate token =>
      rw [enter, enterAuthenticate]
      by_cases disabled : settings.authEnabled = false
      · exact .inl ⟨_, if_pos disabled⟩
      · rw [if_neg disabled]
        by_cases jwksMode : settings.authJwksUrl ≠ []
        · rw [if_pos jwksMode]
          cases read : library.unverifiedHeader token with
          | error failure => exact .inl ⟨_, rfl⟩
          | ok header =>
              cases named : header.kid with
              | none => exact .inl ⟨_, by simp [named]; rfl⟩
              | some kid =>
                  by_cases empty : kid = []
                  · exact .inl ⟨_, by simp [named, empty]; rfl⟩
                  · exact .inr (.inl ⟨token, header, kid, rfl, read, named, empty, by simp [named, empty]⟩)
        · exact .inl ⟨_, if_neg jwksMode⟩
  | readiness =>
      rw [enter, enterReadiness]
      by_cases disabled : settings.authEnabled = false
      · exact .inl ⟨_, if_pos disabled⟩
      · rw [if_neg disabled]
        by_cases jwksMode : settings.authJwksUrl ≠ []
        · exact .inr (.inr (.inl ⟨rfl, if_pos jwksMode⟩))
        · rw [if_neg jwksMode]
          by_cases publicKey : settings.authJwtPublicKey ≠ []
          · exact .inl ⟨_, if_pos publicKey⟩
          · rw [if_neg publicKey]
            by_cases shared : usesSharedSecret settings = true
            · exact .inl ⟨_, if_pos shared⟩
            · exact .inl ⟨_, if_neg shared⟩
  | warmUp =>
      rw [enter, enterWarmUp]
      by_cases jwksMode : settings.authEnabled = true ∧ settings.authJwksUrl ≠ []
      · exact .inr (.inr (.inr ⟨rfl, if_pos jwksMode⟩))
      · exact .inl ⟨_, if_neg jwksMode⟩

theorem enter_awaits (purpose : Purpose) :
    (∃ outcome, enter settings library purpose = .done outcome) ∨ (enter settings library purpose).awaits = true := by
  obtain done | ⟨_, _, _, _, _, _, _, entered⟩ | ⟨_, entered⟩ | ⟨_, entered⟩ := enter_cases settings library purpose
  · exact .inl done
  · exact .inr (by rw [entered]; rfl)
  · exact .inr (by rw [entered]; rfl)
  · exact .inr (by rw [entered]; rfl)

theorem enter_first_call (purpose : Purpose) (task : Nat) :
    (enter settings library purpose).call task = firstCall task := by
  obtain ⟨_, entered⟩ | ⟨_, _, _, _, _, _, _, entered⟩ | ⟨_, entered⟩ | ⟨_, entered⟩ :=
    enter_cases settings library purpose
  · rw [entered]
    rfl
  · rw [entered]
    rfl
  · rw [entered]
    rfl
  · rw [entered]
    rfl

theorem continue_cases (stage : Stage κ) (awaits : stage.awaits = true) (flag : Bool) (result : CallResult) :
    (∃ outcome, continueWith library describe stage flag result = .done outcome) ∨
      ∃ kid jwks, stage = .lookingUp kid ∧ result = .returned jwks ∧ getJwkKeyForKid library jwks kid = .ok none ∧
        continueWith library describe stage flag result = .refreshing kid := by
  cases result with
  | cancelled => exact .inl ⟨_, rfl⟩
  | raised failure => cases stage <;> exact .inl ⟨_, rfl⟩
  | returned jwks =>
      cases stage with
      | idle => cases awaits
      | done outcome => cases awaits
      | checking => exact .inl ⟨_, rfl⟩
      | warming => exact .inl ⟨_, rfl⟩
      | lookingUp kid =>
          cases found : getJwkKeyForKid library jwks kid with
          | error failure => exact .inl ⟨_, by simp [continueWith, found]; rfl⟩
          | ok answer =>
              cases answer with
              | some key => exact .inl ⟨_, by simp [continueWith, found]; rfl⟩
              | none => exact .inr ⟨kid, jwks, rfl, rfl, found, by simp [continueWith, found]⟩
      | refreshing kid =>
          cases found : getJwkKeyForKid library jwks kid with
          | error failure => exact .inl ⟨_, by simp [continueWith, found]; rfl⟩
          | ok answer => cases answer <;> exact .inl ⟨_, by simp [continueWith, found]; rfl⟩

def Advanced (task : Nat) (fetch next : FetchState) (history : List (TaskEvent κ)) (stage : Stage κ)
    (events : List (TaskEvent κ)) : Prop :=
  Owned task events ∧ (∀ call, call / 2 ≠ task → next.phase call = fetch.phase call) ∧
    Progress settings library describe task stage (history ++ events) ∧ Aligned next task stage

theorem done_aligned (fetch : FetchState) (task : Nat) (outcome : Outcome κ) : Aligned fetch task (.done outcome) := by
  refine ⟨(fun idle => by cases idle), (fun awaits => by cases awaits), ?_⟩
  intro unfinished
  cases unfinished with
  | inl awaits => cases awaits
  | inr idle => cases idle

theorem refreshing_aligned (fetch : FetchState) (task : Nat) (kid : Str)
    (pending : Pending true (fetch.phase (forcedCall task))) : Aligned fetch task (Stage.refreshing (κ := κ) kid) := by
  refine ⟨(fun idle => by cases idle), fun _ => pending, ?_⟩
  intro _ same
  have apart : forcedCall task ≠ firstCall task := by
    unfold forcedCall firstCall
    omega
  exact absurd same apart

theorem first_settled (purpose : Purpose) (stage : Stage κ) (entered : enter settings library purpose = stage)
    (awaits : stage.awaits = true) (fetch next last : FetchState) (task : Nat) (now : Rat)
    (others : ∀ other, other ≠ firstCall task → next.phase other = fetch.phase other) (result : CallResult)
    (events : List FetchEvent)
    (ends : CallEnds (firstCall task) stage.forceRefresh result next.jwksLastFetchUsedStaleCache events)
    (reached : Stage κ) (out : List (TaskEvent κ))
    (settled : settle settings library describe next task now stage events = some (last, reached, out)) :
    Advanced settings library describe task fetch last [.started task purpose, .called task stage.forceRefresh]
      reached out := by
  have owned := owned_fetch (κ := κ) task events (fun event member => by
    rw [call_ends_call _ _ _ _ _ ends event member]
    exact stage_call_owner task (.checking : Stage κ))
  have untouched : ∀ call, call / 2 ≠ task → next.phase call = fetch.phase call := by
    intro call elsewhere
    exact others call (other_call task call (.checking : Stage κ) elsewhere)
  unfold settle at settled
  rw [call_ends_result _ _ _ _ _ ends] at settled
  obtain ⟨outcome, answer⟩ | ⟨kid, jwks, same, returned, absent, answer⟩ :=
    continue_cases library describe stage awaits next.jwksLastFetchUsedStaleCache result
  · simp only [answer] at settled
    cases settled
    exact ⟨owned_append task _ _ owned (owned_cons task _ [] rfl (by simp [Owned])), untouched,
      .once purpose stage outcome result _ events entered awaits ends answer, done_aligned _ task outcome⟩
  · subst same returned
    simp only [answer] at settled
    cases begun : fetchStep settings next ⟨now, forcedCall task, .begin true⟩ with
    | none => simp [Stage.call, Stage.forceRefresh, begun] at settled
    | some outcome =>
        obtain ⟨again, more⟩ := outcome
        obtain ⟨silent, waits⟩ := begin_forced settings next again now (forcedCall task) more begun
        subst silent waits
        simp only [Stage.call, Stage.forceRefresh, begun] at settled
        cases settled
        refine ⟨owned_append task _ _ owned (owned_cons task _ [] rfl (by simp [Owned])), ?_,
          .missed purpose kid jwks _ events entered ends absent, ?_⟩
        · intro call elsewhere
          rw [enter_other next now (forcedCall task) call _ (other_call task call (.refreshing kid : Stage κ) elsewhere)]
          exact untouched call elsewhere
        · refine refreshing_aligned _ task kid ?_
          rw [enter_same]
          rfl

theorem refresh_settled (task : Nat) (purpose : Purpose) (kid : Str) (jwks : Jwks) (flag : Bool) (before : List FetchEvent)
    (entered : enter settings library purpose = .lookingUp kid)
    (firstEnds : CallEnds (firstCall task) false (.returned jwks) flag before)
    (absent : getJwkKeyForKid library jwks kid = .ok none) (fetch next last : FetchState) (now : Rat)
    (others : ∀ other, other ≠ forcedCall task → next.phase other = fetch.phase other) (result : CallResult)
    (events : List FetchEvent)
    (ends : CallEnds (forcedCall task) true result next.jwksLastFetchUsedStaleCache events)
    (reached : Stage κ) (out : List (TaskEvent κ))
    (settled : settle settings library describe next task now (.refreshing kid) events = some (last, reached, out)) :
    Advanced settings library describe task fetch last
      ([.started task purpose, .called task false] ++ (before.map .fetch ++ [.called task true])) reached out := by
  have owned := owned_fetch (κ := κ) task events (fun event member => by
    rw [call_ends_call _ _ _ _ _ ends event member]
    exact stage_call_owner task (.refreshing kid : Stage κ))
  unfold settle at settled
  rw [call_ends_result _ _ _ _ _ ends] at settled
  obtain ⟨outcome, answer⟩ | ⟨other, _, same, _⟩ :=
    continue_cases library describe (.refreshing kid : Stage κ) rfl next.jwksLastFetchUsedStaleCache result
  · simp only [answer] at settled
    cases settled
    refine ⟨owned_append task _ _ owned (owned_cons task _ [] rfl (by simp [Owned])), ?_,
      .twice purpose kid jwks flag before outcome result _ events entered firstEnds absent ends answer,
      done_aligned _ task outcome⟩
    intro call elsewhere
    exact others call (other_call task call (.refreshing kid : Stage κ) elsewhere)
  · cases same

theorem pursue_advances (task : Nat) (stage : Stage κ) (history : List (TaskEvent κ)) (fetch last : FetchState)
    (now : Rat) (action : Action) (reached : Stage κ) (out : List (TaskEvent κ)) (awaits : stage.awaits = true)
    (progress : Progress settings library describe task stage history)
    (ready : action = .begin stage.forceRefresh ∨ Pending stage.forceRefresh (fetch.phase (stage.call task)))
    (unused : stage.call task = firstCall task → fetch.phase (forcedCall task) = .idle)
    (pursued : pursue settings library describe fetch task now stage action = some (last, reached, out)) :
    Advanced settings library describe task fetch last history reached out := by
  unfold pursue at pursued
  cases stepped : fetchStep settings fetch ⟨now, stage.call task, action⟩ with
  | none => simp [stepped] at pursued
  | some outcome =>
      obtain ⟨next, events⟩ := outcome
      simp only [stepped] at pursued
      obtain ⟨others, suspended | ended⟩ :=
        fetch_step_call settings fetch next now (stage.call task) stage.forceRefresh action events ready stepped
      · obtain ⟨silent, pending⟩ := suspended
        subst silent
        have same : last = next ∧ reached = stage ∧ out = [] := by
          simpa [settle, callResult, eq_comm] using pursued
        obtain ⟨rfl, rfl, rfl⟩ := same
        refine ⟨by simp [Owned], ?_, by simpa using progress, ?_⟩
        · intro call elsewhere
          exact others call (other_call task call reached elsewhere)
        · refine ⟨?_, fun _ => pending, ?_⟩
          · intro idle
            rw [idle] at awaits
            cases awaits
          · intro _ first
            have apart : forcedCall task ≠ reached.call task := by
              rw [first]
              unfold forcedCall firstCall
              omega
            rw [others _ apart]
            exact unused first
      · obtain ⟨result, ends⟩ := ended
        cases progress with
        | idle => cases awaits
        | direct purpose outcome entered => cases awaits
        | once purpose stage outcome result flag events entered stageAwaits ends answer => cases awaits
        | twice purpose kid jwks flag events outcome result again more entered ends absent refresh answer => cases awaits
        | first purpose stage entered _ =>
            have call := enter_first_call settings library purpose task
            rw [entered] at call
            rw [call] at others ends
            exact first_settled settings library describe purpose stage entered awaits fetch next last task now others
              result events ends reached out pursued
        | missed purpose kid jwks flag before entered firstEnds absent =>
            exact refresh_settled settings library describe task purpose kid jwks flag before entered firstEnds absent fetch next
              last now others result events ends reached out pursued

theorem aligned_same (fetch next : FetchState) (task : Nat) (stage : Stage κ)
    (same : ∀ call, call / 2 = task → next.phase call = fetch.phase call) (aligned : Aligned fetch task stage) :
    Aligned next task stage := by
  have first := same (firstCall task) (stage_call_owner task (.checking : Stage κ))
  have forced := same (forcedCall task) (stage_call_owner task (.refreshing [] : Stage κ))
  have current := same (stage.call task) (stage_call_owner task stage)
  rw [Aligned, first, forced, current]
  exact aligned

theorem advanced_holds (task : Nat) (trace start out : List (TaskEvent κ)) (state : ServiceState κ)
    (fetch : FetchState) (reached : Stage κ) (holds : TasksHold settings library describe trace state)
    (owned : Owned task start)
    (advanced : Advanced settings library describe task state.fetch fetch (own task trace ++ start) reached out) :
    TasksHold settings library describe (trace ++ (start ++ out)) (state.move task fetch reached) := by
  obtain ⟨outOwned, untouched, progress, aligned⟩ := advanced
  have together := owned_append task start out owned outOwned
  constructor
  · intro other
    by_cases same : other = task
    · subst same
      have moved : (state.move other fetch reached).stage other = reached := if_pos rfl
      rw [moved, own_append_owned other trace _ together, ← List.append_assoc]
      exact progress
    · have kept : (state.move task fetch reached).stage other = state.stage other := if_neg same
      rw [kept, own_append_other task other trace _ together same]
      exact holds.progress other
  · intro other
    by_cases same : other = task
    · subst same
      have moved : (state.move other fetch reached).stage other = reached := if_pos rfl
      rw [moved]
      exact aligned
    · have kept : (state.move task fetch reached).stage other = state.stage other := if_neg same
      rw [kept]
      refine aligned_same state.fetch fetch other _ ?_ (holds.aligned other)
      intro call belongs
      refine untouched call ?_
      rw [belongs]
      exact same

theorem idle_history (task : Nat) (stage : Stage κ) (history : List (TaskEvent κ)) (idle : stage = .idle)
    (progress : Progress settings library describe task stage history) : history = [] := by
  cases progress with
  | idle => rfl
  | direct purpose outcome entered => cases idle
  | first purpose stage entered awaits =>
      rw [idle] at awaits
      cases awaits
  | once purpose stage outcome result flag events entered awaits ends answer => cases idle
  | missed purpose kid jwks flag events entered ends absent => cases idle
  | twice purpose kid jwks flag events outcome result again more entered ends absent refresh answer => cases idle

theorem start_step (state : ServiceState κ) (now : Rat) (task : Nat) (purpose : Purpose) (stage : Stage κ)
    (idle : state.stage task = .idle) (entered : enter settings library purpose = stage) (awaits : stage.awaits = true) :
    taskStep settings library describe state ⟨now, task, .start purpose⟩ =
      (pursue settings library describe state.fetch task now stage (.begin stage.forceRefresh)).map
        (fun (fetch, reached, out) =>
          (state.move task fetch reached, [.started task purpose, .called task stage.forceRefresh] ++ out)) := by
  simp only [taskStep, idle, entered]
  cases pursued : pursue settings library describe state.fetch task now stage (.begin stage.forceRefresh) with
  | none =>
      cases stage with
      | idle => cases awaits
      | done outcome => cases awaits
      | lookingUp kid => simp [pursued]
      | refreshing kid => simp [pursued]
      | checking => simp [pursued]
      | warming => simp [pursued]
  | some outcome =>
      cases stage with
      | idle => cases awaits
      | done outcome => cases awaits
      | lookingUp kid => simp [pursued]
      | refreshing kid => simp [pursued]
      | checking => simp [pursued]
      | warming => simp [pursued]

theorem continue_step (state : ServiceState κ) (now : Rat) (task : Nat) (action : Action)
    (awaits : (state.stage task).awaits = true) :
    taskStep settings library describe state ⟨now, task, .fetch action⟩ =
      (pursue settings library describe state.fetch task now (state.stage task) action).map
        (fun (fetch, reached, out) => (state.move task fetch reached, out)) := by
  simp only [taskStep, awaits, if_true]
  cases pursue settings library describe state.fetch task now (state.stage task) action <;> rfl

theorem start_holds (state next : ServiceState κ) (trace events : List (TaskEvent κ)) (now : Rat) (task : Nat)
    (purpose : Purpose) (holds : TasksHold settings library describe trace state) (idle : state.stage task = .idle)
    (stepped : taskStep settings library describe state ⟨now, task, .start purpose⟩ = some (next, events)) :
    TasksHold settings library describe (trace ++ events) next := by
  have empty := idle_history settings library describe task _ _ idle (holds.progress task)
  obtain ⟨outcome, entered⟩ | awaits := enter_awaits settings library purpose
  · simp only [taskStep, idle, entered] at stepped
    cases stepped
    refine advanced_holds settings library describe task trace [] [.started task purpose, .finished task outcome] state
      state.fetch (.done outcome) holds (by simp [Owned]) ?_
    rw [empty]
    exact ⟨by simp [Owned, TaskEvent.owner], fun _ _ => rfl, .direct purpose outcome entered,
      done_aligned _ task outcome⟩
  · rw [start_step settings library describe state now task purpose _ idle rfl awaits] at stepped
    obtain ⟨⟨fetch, reached, out⟩, pursued, moved⟩ := Option.map_eq_some_iff.mp stepped
    cases moved
    have first : Progress settings library describe task (enter settings library purpose)
        [.started task purpose, .called task (enter settings library purpose).forceRefresh] :=
      .first purpose _ rfl awaits
    have unused : state.fetch.phase (forcedCall task) = .idle := by
      have aligned := (holds.aligned task).2.2
      rw [idle] at aligned
      exact aligned (.inr rfl) rfl
    have advanced := pursue_advances settings library describe task _ _ state.fetch fetch now _ reached out awaits
      first (.inl rfl) (fun _ => unused) pursued
    refine advanced_holds settings library describe task trace [.started task purpose, .called task _] out state fetch
      reached holds (by simp [Owned, TaskEvent.owner]) ?_
    rw [empty]
    exact advanced

theorem task_step_holds (trace : List (TaskEvent κ)) (state : ServiceState κ) (input : TaskStep)
    (next : ServiceState κ) (events : List (TaskEvent κ)) (holds : TasksHold settings library describe trace state)
    (stepped : taskStep settings library describe state input = some (next, events)) :
    TasksHold settings library describe (trace ++ events) next := by
  obtain ⟨now, task, action⟩ := input
  cases action with
  | start purpose =>
      cases stage : state.stage task with
      | idle => exact start_holds settings library describe state next trace events now task purpose holds stage stepped
      | lookingUp kid => simp [taskStep, stage] at stepped
      | refreshing kid => simp [taskStep, stage] at stepped
      | checking => simp [taskStep, stage] at stepped
      | warming => simp [taskStep, stage] at stepped
      | done outcome => simp [taskStep, stage] at stepped
  | fetch action =>
      by_cases awaits : (state.stage task).awaits = true
      · rw [continue_step settings library describe state now task action awaits] at stepped
        obtain ⟨⟨fetch, reached, out⟩, pursued, moved⟩ := Option.map_eq_some_iff.mp stepped
        cases moved
        have aligned := holds.aligned task
        have advanced := pursue_advances settings library describe task _ _ state.fetch fetch now action reached events
          awaits (holds.progress task) (.inr (aligned.2.1 awaits)) (aligned.2.2 (.inl awaits)) pursued
        refine advanced_holds settings library describe task trace [] events state fetch reached holds (by simp [Owned]) ?_
        rw [List.append_nil]
        exact advanced
      · simp [taskStep, awaits] at stepped

theorem start_tasks_hold (clock : Rat) : TasksHold settings library describe [] (ServiceState.start clock) := by
  constructor
  · intro task
    exact .idle
  · intro task
    exact ⟨fun _ => rfl, (fun awaits => by cases awaits), fun _ _ => rfl⟩

theorem tasks_hold (clock : Rat) (steps : List TaskStep) (state : ServiceState κ) (trace : List (TaskEvent κ))
    (ran : exec (taskStep settings library describe) (ServiceState.start clock) steps = some (state, trace)) :
    TasksHold settings library describe trace state := by
  have holds := exec_invariant (taskStep settings library describe) (TasksHold settings library describe)
    (task_step_holds settings library describe) (ServiceState.start clock) state [] trace steps
    (start_tasks_hold settings library describe clock) ran
  rwa [List.nil_append] at holds

theorem mem_own (task : Nat) (trace : List (TaskEvent κ)) (event : TaskEvent κ) (owned : event.owner = task) :
    event ∈ trace ↔ event ∈ own task trace := by
  simp [own, owned]

theorem finished_stage (task : Nat) (stage : Stage κ) (history : List (TaskEvent κ)) (outcome : Outcome κ)
    (progress : Progress settings library describe task stage history) (member : .finished task outcome ∈ history) :
    stage = .done outcome := by
  cases progress with
  | idle => cases member
  | direct purpose reached entered =>
      have same : outcome = reached := by simpa using member
      rw [same]
  | first purpose stage entered awaits => simp at member
  | once purpose stage reached result flag events entered awaits ends answer =>
      have same : outcome = reached := by simpa using member
      rw [same]
  | missed purpose kid jwks flag events entered ends absent => simp at member
  | twice purpose kid jwks flag events reached result again more entered ends absent refresh answer =>
      have same : outcome = reached := by simpa using member
      rw [same]

theorem finished_progress (task : Nat) (outcome : Outcome κ) (state : ServiceState κ) (trace : List (TaskEvent κ))
    (holds : TasksHold settings library describe trace state) (member : .finished task outcome ∈ trace) :
    Progress settings library describe task (.done outcome) (own task trace) := by
  have progress := holds.progress task
  have reached := finished_stage settings library describe task _ _ outcome progress ((mem_own task trace _ rfl).mp member)
  rwa [reached] at progress

end Histories

end Chassis.Auth
