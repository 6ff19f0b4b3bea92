import Chassis.RateLimitSurvivors
import Chassis.RedisInterleaving

set_option autoImplicit false

namespace Chassis.RateLimit

open Asgi Redis Text Transition

def retryAfterSeconds (response : JsonResponse) : Option Int :=
  match response.content with
  | .object members =>
      match Json.member "retry_after_seconds".toList members with
      | some (.int seconds) => some seconds
      | _ => none
  | _ => none

def retryAfterHeader (response : JsonResponse) : Option Str := response.headers.lookup "Retry-After".toList

def bucketAt (windowSeconds : Int) (time : WallClock) : Int := (epochSeconds time).fdiv windowSeconds

section Decisions

variable (limit windowSeconds : Int)

-- What a store can decide for a hit that reads the clock at this time: the
-- memory store in any state, and Redis in any state, whether or not other
-- calls come between the commands.
inductive StoreDecides (time : WallClock) (key : Str) : RateLimitDecision → Prop where
  | memory (store : MemoryRateLimitStore) :
      StoreDecides time key (hit store (epochSeconds time) key limit windowSeconds).2
  | redis (database : Database Str Int) : StoreDecides time key (redisHit database time key limit windowSeconds).2
  | shared (state next : SharedState) (input : HitStep) (events : List HitEvent) (call : Nat) (count : Int)
      (decision : RateLimitDecision) (stepped : hitStep limit windowSeconds state input = some (next, events))
      (decided : .decided call key (bucketAt windowSeconds time) count decision ∈ events) :
      StoreDecides time key decision

theorem decided_reset (state next : SharedState) (input : HitStep) (events : List HitEvent) (call : Nat) (key : Str)
    (bucket count : Int) (decision : RateLimitDecision)
    (stepped : hitStep limit windowSeconds state input = some (next, events))
    (decided : .decided call key bucket count decision ∈ events) :
    decision.resetAtEpoch = (bucket + 1) * windowSeconds := by
  obtain ⟨_, did⟩ := hit_step_cases limit windowSeconds state next input events stepped
  obtain ⟨_, _, rfl, _⟩ | ⟨_, _, _, _, _, rfl, _⟩ | ⟨_, _, _, _, _, _, _, rfl, _⟩ | ⟨_, _, _, rfl, _⟩ | ⟨rfl, _⟩ := did
  · cases decided
  · simp at decided
  · simp only [List.mem_cons, List.not_mem_nil, or_false, reduceCtorEq, false_or, HitEvent.decided.injEq] at decided
    obtain ⟨_, _, rfl, _, rfl⟩ := decided
    rfl
  · simp only [List.mem_singleton, HitEvent.decided.injEq] at decided
    obtain ⟨_, _, rfl, _, rfl⟩ := decided
    rfl
  · cases decided

theorem store_decides_reset (time : WallClock) (key : Str) (decision : RateLimitDecision)
    (decides : StoreDecides limit windowSeconds time key decision) :
    decision.resetAtEpoch = (bucketAt windowSeconds time + 1) * windowSeconds := by
  cases decides with
  | memory store => rfl
  | redis database => rfl
  | shared state next input events call count decision stepped decided =>
      exact decided_reset limit windowSeconds state next input events call key _ count decision stepped decided

end Decisions

-- What _decision_headers and the body compute from one more reading.
def secondsLeft (reset : Int) (time : WallClock) : Int := max (reset - epochSeconds time) 0

theorem waited_past_reset (reset : Int) (time received retry : WallClock) (ordered : time ≤ received)
    (waited : (received : Rat) + secondsLeft reset time ≤ retry) : reset ≤ epochSeconds retry := by
  have reading := epoch_seconds_le time
  have later : (time : Rat) ≤ (received : Rat) := NNRat.coe_le_coe.mpr ordered
  have left : ((reset - epochSeconds time : Int) : Rat) ≤ (secondsLeft reset time : Rat) :=
    Int.cast_le.mpr (le_max_left _ _)
  rw [Int.cast_sub] at left
  have reached : (reset : Rat) < ((epochSeconds retry + 1 : Int) : Rat) := by
    have above := lt_epoch_seconds_succ retry
    linarith
  have strict : reset < epochSeconds retry + 1 := Int.cast_lt.mp reached
  omega

section Waiting

variable (windowSeconds : Int) (positive : 0 < windowSeconds)

include positive

theorem seconds_left_bounds (hitTime time : WallClock) (ordered : hitTime ≤ time) :
    0 ≤ secondsLeft ((bucketAt windowSeconds hitTime + 1) * windowSeconds) time ∧
      secondsLeft ((bucketAt windowSeconds hitTime + 1) * windowSeconds) time ≤ windowSeconds := by
  have floors : epochSeconds hitTime ≤ epochSeconds time := Int.ofNat_le.mpr (Nat.floor_mono ordered)
  have started : bucketAt windowSeconds hitTime * windowSeconds ≤ epochSeconds hitTime := by
    rw [bucketAt, Int.fdiv_eq_ediv_of_nonneg _ positive.le]
    exact Int.ediv_mul_le _ positive.ne'
  have whole : (bucketAt windowSeconds hitTime + 1) * windowSeconds =
      bucketAt windowSeconds hitTime * windowSeconds + windowSeconds := by ring
  rw [secondsLeft, whole]
  omega

theorem retried_later (hitTime time received retry : WallClock) (ordered : time ≤ received)
    (waited : (received : Rat) + secondsLeft ((bucketAt windowSeconds hitTime + 1) * windowSeconds) time ≤ retry) :
    bucketAt windowSeconds hitTime < bucketAt windowSeconds retry := by
  have reached := waited_past_reset _ time received retry ordered waited
  have next : bucketAt windowSeconds hitTime + 1 ≤ bucketAt windowSeconds retry := by
    rw [bucketAt.eq_def windowSeconds retry, Int.fdiv_eq_ediv_of_nonneg _ positive.le]
    exact (Int.le_ediv_iff_mul_le positive).mpr reached
  omega

end Waiting

section Forgetting

variable (limit windowSeconds : Int)

def outside (window : Int) (past : List (WallClock × Str)) : List (WallClock × Str) :=
  past.filter (fun hit => bucketAt windowSeconds hit.1 ≠ window)

def asStoreHit (hit : WallClock × Str) : StoreHit := ⟨hit.1, hit.2, limit, windowSeconds⟩

theorem history_outside (window : Int) (past : List (WallClock × Str)) :
    historyOf windowSeconds (outside windowSeconds window past) =
      (historyOf windowSeconds past).filter (fun entry => entry.2 ≠ window) := by
  rw [historyOf, historyOf, outside, List.filter_map]
  rfl

theorem surviving_outside (history : History) (key : Str) (window earlier : Int) (before : earlier < window) :
    surviving (history.filter (fun entry => entry.2 ≠ earlier)) key window = surviving history key window := by
  induction history using List.reverseRecOn with
  | nil => rfl
  | append_singleton past entry ih =>
      by_cases old : entry.2 = earlier
      · have idle : survive key window (surviving past key window) entry = surviving past key window := by
          have different : ¬ entry = (key, window) := by
            rintro rfl
            exact absurd old before.ne'
          rw [survive, if_neg (by omega), if_neg different]
        rw [surviving_snoc, idle, List.filter_append, ← ih]
        simp [old]
      · rw [surviving_snoc, List.filter_append, ← ih]
        simp [old, surviving_snoc]

theorem seen_outside (history : History) (key : Str) (window earlier : Int) (before : earlier < window) :
    seen (history.filter (fun entry => entry.2 ≠ earlier)) key window = seen history key window := by
  rw [seen, seen, List.count_filter]
  simpa using before.ne'

theorem memory_run (past : List (WallClock × Str)) (store : MemoryRateLimitStore) :
    run (memoryStep limit windowSeconds) store past = run storeStep store (past.map (asStoreHit limit windowSeconds)) := by
  induction past generalizing store with
  | nil => rfl
  | cons input rest ih =>
      rw [List.map_cons, run_cons, run_cons, ih]
      rfl

theorem remembered_run (past spec : List StoreHit) : (run survivorStep spec past).1 = spec ++ past := by
  induction past generalizing spec with
  | nil => simp [run]
  | cons input rest ih =>
      rw [run_cons, ih]
      simp [survivorStep]

theorem memory_decision (past : List (WallClock × Str)) (retry : WallClock) (key : Str) :
    (memoryStep limit windowSeconds (run (memoryStep limit windowSeconds) emptyStore past).1 (retry, key)).2 =
      countDecision (surviving (historyOf windowSeconds past) key (bucketAt windowSeconds retry) + 1 : Nat) limit
        ((bucketAt windowSeconds retry + 1) * windowSeconds) := by
  have refined := simulates_run _ _ _ _ store_refines_survivors emptyStore [] (past.map (asStoreHit limit windowSeconds))
    holds_survivors_empty (always_admitted _ _ _)
  have holds := refined.1
  rw [remembered_run, List.nil_append] at holds
  have history : bucketsOf (past.map (asStoreHit limit windowSeconds)) = historyOf windowSeconds past := by
    rw [bucketsOf, historyOf, List.map_map]
    rfl
  rw [history] at holds
  rw [memory_run, memoryStep, survivors_decide _ _ _ limit windowSeconds key holds, surviving_own]
  rfl

theorem counted_run (past spec : List (WallClock × Str)) :
    (run (countingStep limit windowSeconds) spec past).1 = spec ++ past := by
  induction past generalizing spec with
  | nil => simp [run]
  | cons input rest ih =>
      rw [run_cons, ih]
      simp [countingStep]

theorem redis_decision (positive : 0 < windowSeconds) (past : List (WallClock × Str)) (retry : WallClock) (key : Str) :
    (redisStep limit windowSeconds (run (redisStep limit windowSeconds) Dict.empty past).1 (retry, key)).2 =
      countDecision (seen (historyOf windowSeconds past) key (bucketAt windowSeconds retry) + 1 : Nat) limit
        ((bucketAt windowSeconds retry + 1) * windowSeconds) := by
  have refined := simulates_run _ _ _ _ (redis_counts limit windowSeconds positive) Dict.empty [] past
    (fun _ _ => rfl) (always_admitted _ _ _)
  have holds := refined.1
  rw [counted_run, List.nil_append] at holds
  have decided := (redis_counts limit windowSeconds positive _ past (retry, key) holds trivial).2
  rw [decided]
  simp only [countingStep, history_snoc, seen_append, if_pos]
  rfl

theorem other_window_untouched (state next : SharedState) (input : HitStep) (events : List HitEvent) (window : Int)
    (stepped : hitStep limit windowSeconds state input = some (next, events))
    (other : ∀ key bucket, state.phase input.call = .counting key bucket ∨ state.phase input.call = .expiring key bucket →
      bucket ≠ window) (key : Str) :
    next.database.get (redisKey key window) = state.database.get (redisKey key window) := by
  have apart (name : Str) (bucket : Int)
      (reached : state.phase input.call = .counting name bucket ∨ state.phase input.call = .expiring name bucket) :
      redisKey key window ≠ redisKey name bucket :=
    fun same => other name bucket reached (redis_key_injective key name window bucket same).2.symm
  obtain ⟨_, did⟩ := hit_step_cases limit windowSeconds state next input events stepped
  obtain ⟨_, _, _, rfl⟩ | ⟨name, bucket, _, counting, _, _, rfl⟩ | ⟨name, bucket, _, _, counting, _, _, _, rfl⟩ |
    ⟨name, bucket, expiring, _, rfl⟩ | ⟨_, rfl⟩ := did
  · rfl
  · exact incr_other _ _ _ _ (apart name bucket (.inl counting))
  · exact incr_other _ _ _ _ (apart name bucket (.inl counting))
  · exact expire_other _ _ _ _ _ (apart name bucket (.inr expiring))
  · rfl

end Forgetting

theorem retry_after_safe (limit windowSeconds : Int) (positive : 1 ≤ windowSeconds) (request : Request) (key : Str)
    (decision : RateLimitDecision) (response : JsonResponse) (bodyOrdered : request.hitTime ≤ request.bodyTime)
    (headerOrdered : request.bodyTime ≤ request.headerTime)
    (decides : StoreDecides limit windowSeconds request.hitTime key decision)
    (refused : answer decision request = .limited decision response) :
    ∃ body header : Int,
      (retryAfterSeconds response = some body ∧ 0 ≤ body ∧ body ≤ windowSeconds) ∧
      (retryAfterHeader response = some (intText header) ∧ 0 ≤ header ∧ header ≤ windowSeconds) ∧
      ∀ received retry : WallClock, request.headerTime ≤ received →
        ((received : Rat) + body ≤ retry ∨ (received : Rat) + header ≤ retry) →
        bucketAt windowSeconds request.hitTime < bucketAt windowSeconds retry ∧
        (∀ past : List (WallClock × Str),
          (memoryStep limit windowSeconds (run (memoryStep limit windowSeconds) emptyStore past).1 (retry, key)).2 =
            (memoryStep limit windowSeconds (run (memoryStep limit windowSeconds) emptyStore
              (outside windowSeconds (bucketAt windowSeconds request.hitTime) past)).1 (retry, key)).2) ∧
        (∀ past : List (WallClock × Str),
          (redisStep limit windowSeconds (run (redisStep limit windowSeconds) Dict.empty past).1 (retry, key)).2 =
            (redisStep limit windowSeconds (run (redisStep limit windowSeconds) Dict.empty
              (outside windowSeconds (bucketAt windowSeconds request.hitTime) past)).1 (retry, key)).2) ∧
        ∀ state next input events, hitStep limit windowSeconds state input = some (next, events) →
          (∀ name bucket, state.phase input.call = .counting name bucket ∨ state.phase input.call = .expiring name bucket →
            bucket = bucketAt windowSeconds request.hitTime) →
          next.database.get (redisKey key (bucketAt windowSeconds retry)) =
            state.database.get (redisKey key (bucketAt windowSeconds retry)) := by
  have reset := store_decides_reset limit windowSeconds request.hitTime key decision decides
  have built : response = rateLimitedResponse decision request.bodyTime request.headerTime := by
    rw [answer] at refused
    split at refused <;> cases refused
    rfl
  subst built
  have bodyBounds := seconds_left_bounds windowSeconds positive request.hitTime request.bodyTime bodyOrdered
  have headerBounds := seconds_left_bounds windowSeconds positive request.hitTime request.headerTime
    (le_trans bodyOrdered headerOrdered)
  rw [← reset] at bodyBounds headerBounds
  refine ⟨secondsLeft decision.resetAtEpoch request.bodyTime, secondsLeft decision.resetAtEpoch request.headerTime,
    ⟨rfl, bodyBounds⟩, ⟨rfl, headerBounds⟩, ?_⟩
  intro received retry arrived waited
  have later : bucketAt windowSeconds request.hitTime < bucketAt windowSeconds retry := by
    rw [reset] at waited
    rcases waited with byBody | byHeader
    · exact retried_later windowSeconds positive _ request.bodyTime received retry (le_trans headerOrdered arrived) byBody
    · exact retried_later windowSeconds positive _ request.headerTime received retry arrived byHeader
  refine ⟨later, ?_, ?_, ?_⟩
  · intro past
    rw [memory_decision, memory_decision, history_outside, surviving_outside _ key _ _ later]
  · intro past
    rw [redis_decision limit windowSeconds positive, redis_decision limit windowSeconds positive, history_outside,
      seen_outside _ key _ _ later]
  · intro state next input events stepped own
    apply other_window_untouched limit windowSeconds state next input events _ stepped
    intro name bucket reached same
    rw [own name bucket reached] at same
    exact absurd same later.ne

def lateRequest : Request :=
  ⟨{ type := .http, client := some ("192.0.2.7".toList, 5000) }, 119 + 1 / 2, 119 + 3 / 4, 120⟩

theorem retry_after_safe_late :
    ∃ body header : Int, (0 ≤ body ∧ body ≤ 60) ∧ (0 ≤ header ∧ header ≤ 60) ∧
      ∀ retry : WallClock, ((120 : WallClock) : Rat) + body ≤ retry → bucketAt 60 lateRequest.hitTime < bucketAt 60 retry := by
  have refused : (hit (hit emptyStore 119 ['a'] 1 60).1 (epochSeconds lateRequest.hitTime) ['a'] 1 60).2.allowed = false := by
    decide +kernel
  obtain ⟨body, header, ⟨_, bodyBounds⟩, ⟨_, headerBounds⟩, later⟩ := retry_after_safe 1 60 (by decide) lateRequest ['a'] _
    (rateLimitedResponse _ lateRequest.bodyTime lateRequest.headerTime) (by decide +kernel) (by decide +kernel)
    (.memory (hit emptyStore 119 ['a'] 1 60).1) (if_pos refused)
  exact ⟨body, header, bodyBounds, headerBounds, fun retry waited => (later 120 retry (le_refl _) (.inl waited)).1⟩

end Chassis.RateLimit
