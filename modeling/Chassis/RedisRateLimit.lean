import Chassis.RateLimit
import Chassis.Redis

set_option autoImplicit false

namespace Chassis.RateLimit

open Redis Text Transition

def redisKey (key : Str) (bucket : Int) : Str := "rate_limit:".toList ++ intText bucket ++ ':' :: key

def countDecision (count limit resetAt : Int) : RateLimitDecision :=
  ⟨decide (count ≤ limit), limit, max (limit - count) 0, resetAt⟩

-- RedisRateLimitStore.hit with nothing between its steps.
def redisHit (database : Database Str Int) (now : WallClock) (key : Str) (limit windowSeconds : Int) :
    Database Str Int × RateLimitDecision :=
  let bucket := (epochSeconds now).fdiv windowSeconds
  let resetAt := (bucket + 1) * windowSeconds
  let (counted, count) := incr now database (redisKey key bucket)
  let kept := if count = 1 then expire now counted (redisKey key bucket) windowSeconds else counted
  (kept, countDecision count limit resetAt)

theorem redis_key_injective (key other : Str) (bucket window : Int) (same : redisKey key bucket = redisKey other window) :
    key = other ∧ bucket = window := by
  have tails : intText bucket ++ ':' :: key = intText window ++ ':' :: other := by
    have grouped : "rate_limit:".toList ++ (intText bucket ++ ':' :: key) =
        "rate_limit:".toList ++ (intText window ++ ':' :: other) := by
      rw [← List.append_assoc, ← List.append_assoc]
      exact same
    exact List.append_cancel_left grouped
  have cut (n : Int) (rest : Str) : (intText n ++ ':' :: rest).takeWhile (fun c => c ≠ ':') = intText n := by
    rw [List.takeWhile_append_of_pos]
    · simp
    · intro c member
      have different : c ≠ ':' := fun eq => int_text_colon_free n (eq ▸ member)
      simpa using different
  have numbers : intText bucket = intText window := by
    rw [← cut bucket key, ← cut window other, tails]
  rw [numbers] at tails
  exact ⟨(List.cons.inj (List.append_cancel_left tails)).2, int_text_injective bucket window numbers⟩

theorem epoch_seconds_le (time : WallClock) : ((epochSeconds time : Int) : Rat) ≤ (time : Rat) := by
  have below : ((⌊time⌋₊ : ℚ≥0) : Rat) ≤ (time : Rat) := NNRat.coe_le_coe.mpr (Nat.floor_le time.2)
  rw [epochSeconds, Int.cast_natCast]
  exact_mod_cast below

theorem lt_epoch_seconds_succ (time : WallClock) : (time : Rat) < ((epochSeconds time + 1 : Int) : Rat) := by
  have above : (time : Rat) < (((⌊time⌋₊ : ℚ≥0) + 1 : ℚ≥0) : Rat) := NNRat.coe_lt_coe.mpr (Nat.lt_floor_add_one time)
  rw [epochSeconds, Int.cast_add, Int.cast_natCast, Int.cast_one]
  exact_mod_cast above

theorem window_start (time : WallClock) (windowSeconds : Int) (positive : 0 < windowSeconds) :
    (((epochSeconds time).fdiv windowSeconds * windowSeconds : Int) : Rat) ≤ (time : Rat) := by
  have floor : (epochSeconds time).fdiv windowSeconds * windowSeconds ≤ epochSeconds time := by
    rw [Int.fdiv_eq_ediv_of_nonneg _ positive.le]
    exact Int.ediv_mul_le _ positive.ne'
  exact le_trans (Int.cast_le.mpr floor) (epoch_seconds_le time)

theorem window_end (time : WallClock) (windowSeconds : Int) (positive : 0 < windowSeconds) :
    (time : Rat) < ((((epochSeconds time).fdiv windowSeconds + 1) * windowSeconds : Int) : Rat) := by
  have ceiling : epochSeconds time + 1 ≤ ((epochSeconds time).fdiv windowSeconds + 1) * windowSeconds := by
    rw [Int.fdiv_eq_ediv_of_nonneg _ positive.le]
    exact Int.lt_ediv_add_one_mul_self _ positive
  exact lt_of_lt_of_le (lt_epoch_seconds_succ time) (Int.cast_le.mpr ceiling)

section Counter

variable (windowSeconds : Int)

def Counter (database : Database Str Int) (key : Str) (bucket : Int) (count : Nat) : Prop :=
  if count = 0 then database.get (redisKey key bucket) = none
  else ∃ expiry, database.get (redisKey key bucket) = some ((count : Int), expiry) ∧
    ((((bucket + 1) * windowSeconds : Int) : Rat) : WithTop Rat) ≤ expiry

theorem counter_other (database next : Database Str Int) (key other : Str) (bucket window : Int) (count : Nat)
    (untouched : ∀ name, name ≠ redisKey key bucket → next.get name = database.get name)
    (different : ¬ (other = key ∧ window = bucket)) (counter : Counter windowSeconds database other window count) :
    Counter windowSeconds next other window count := by
  have apart : redisKey other window ≠ redisKey key bucket := fun same =>
    different (redis_key_injective other key window bucket same)
  rwa [Counter, untouched _ apart]

theorem counter_gone (now : Rat) (database : Database Str Int) (key : Str) (bucket : Int)
    (counter : Counter windowSeconds database key bucket 0) : find now database (redisKey key bucket) = none := by
  rw [Counter, if_pos rfl] at counter
  rw [Option.eq_none_iff_forall_ne_some]
  intro entry found
  rw [((find_eq_some now database _ entry).mp found).1] at counter
  cases counter

theorem counter_alive (now : Rat) (database : Database Str Int) (key : Str) (bucket : Int) (count : Nat)
    (counter : Counter windowSeconds database key bucket count) (counted : count ≠ 0)
    (inWindow : now < (((bucket + 1) * windowSeconds : Int) : Rat)) :
    find now database (redisKey key bucket) ≠ none := by
  rw [Counter, if_neg counted] at counter
  obtain ⟨expiry, held, lasting⟩ := counter
  have alive : (now : WithTop Rat) ≤ expiry := le_trans (WithTop.coe_le_coe.mpr inWindow.le) lasting
  rw [(find_eq_some now database _ _).mpr ⟨held, alive⟩]
  simp

theorem counter_incr (now : Rat) (database : Database Str Int) (key : Str) (bucket : Int) (count : Nat)
    (counter : Counter windowSeconds database key bucket count)
    (alive : count ≠ 0 → find now database (redisKey key bucket) ≠ none) :
    (incr now database (redisKey key bucket)).2 = (count : Int) + 1 ∧
      Counter windowSeconds (incr now database (redisKey key bucket)).1 key bucket (count + 1) := by
  by_cases counted : count = 0
  · subst counted
    rw [incr_first now database _ (counter_gone windowSeconds now database key bucket counter)]
    refine ⟨rfl, ?_⟩
    rw [Counter, if_neg (Nat.succ_ne_zero _)]
    exact ⟨⊤, by simp [Dict.get_set], le_top⟩
  · obtain ⟨entry, found⟩ := Option.ne_none_iff_exists'.mp (alive counted)
    rw [Counter, if_neg counted] at counter
    obtain ⟨expiry, held, lasting⟩ := counter
    have same : entry = ((count : Int), expiry) :=
      Option.some.inj (((find_eq_some now database _ entry).mp found).1.symm.trans held)
    rw [same] at found
    rw [incr_next now database _ _ _ found]
    refine ⟨rfl, ?_⟩
    rw [Counter, if_neg (Nat.succ_ne_zero _)]
    exact ⟨expiry, by simp [Dict.get_set], lasting⟩

theorem counter_expire (now : Rat) (database : Database Str Int) (key : Str) (bucket : Int) (count : Nat)
    (counter : Counter windowSeconds database key bucket count)
    (started : ((bucket * windowSeconds : Int) : Rat) ≤ now) :
    Counter windowSeconds (expire now database (redisKey key bucket) windowSeconds) key bucket count := by
  cases found : find now database (redisKey key bucket) with
  | none =>
      rw [expire, found]
      exact counter
  | some entry =>
      obtain ⟨held, _⟩ := (find_eq_some now database _ entry).mp found
      rw [expire_found now database _ windowSeconds entry.1 entry.2 found]
      by_cases counted : count = 0
      · rw [Counter, if_pos counted, held] at counter
        cases counter
      · rw [Counter, if_neg counted] at counter
        obtain ⟨expiry, other, _⟩ := counter
        have value : entry.1 = (count : Int) := congrArg Prod.fst (Option.some.inj (held.symm.trans other))
        rw [Counter, if_neg counted]
        refine ⟨((now + windowSeconds : Rat) : WithTop Rat), by simp [setex, Dict.get_set, value], ?_⟩
        have long : (((bucket + 1) * windowSeconds : Int) : Rat) ≤ now + windowSeconds := by
          push_cast at started ⊢
          linarith
        exact WithTop.coe_le_coe.mpr long

end Counter

section Agreement

variable (limit windowSeconds : Int)

def hitWindow (hit : WallClock × Str) : Int := (epochSeconds hit.1).fdiv windowSeconds

def historyOf (past : List (WallClock × Str)) : History :=
  past.map (fun hit => (hit.2, hitWindow windowSeconds hit))

def memoryStep (store : MemoryRateLimitStore) (input : WallClock × Str) : MemoryRateLimitStore × RateLimitDecision :=
  hit store (epochSeconds input.1) input.2 limit windowSeconds

def redisStep (database : Database Str Int) (input : WallClock × Str) : Database Str Int × RateLimitDecision :=
  redisHit database input.1 input.2 limit windowSeconds

-- What both stores are meant to do: remember every hit and count those of the
-- key in its window.
def countingStep (past : List (WallClock × Str)) (input : WallClock × Str) :
    List (WallClock × Str) × RateLimitDecision :=
  let window := hitWindow windowSeconds input
  let count : Int := seen (historyOf windowSeconds (past ++ [input])) input.2 window
  (past ++ [input], countDecision count limit ((window + 1) * windowSeconds))

def NotBefore (past : List (WallClock × Str)) (input : WallClock × Str) : Prop := ∀ earlier ∈ past, earlier.1 ≤ input.1

theorem history_snoc (past : List (WallClock × Str)) (input : WallClock × Str) :
    historyOf windowSeconds (past ++ [input]) =
      historyOf windowSeconds past ++ [(input.2, hitWindow windowSeconds input)] := by
  simp [historyOf]

theorem hit_window_monotone (positive : 0 < windowSeconds) (earlier later : WallClock × Str)
    (ordered : earlier.1 ≤ later.1) : hitWindow windowSeconds earlier ≤ hitWindow windowSeconds later := by
  have floors : epochSeconds earlier.1 ≤ epochSeconds later.1 := Int.ofNat_le.mpr (Nat.floor_mono ordered)
  rw [hitWindow, hitWindow, Int.fdiv_eq_ediv_of_nonneg _ positive.le, Int.fdiv_eq_ediv_of_nonneg _ positive.le]
  exact Int.ediv_le_ediv positive floors

theorem memory_counts (positive : 0 < windowSeconds) :
    Simulates (memoryStep limit windowSeconds) (countingStep limit windowSeconds) NotBefore
      (fun store past => ∃ current, Tracks (historyOf windowSeconds past) current store) := by
  intro store past input tracked inOrder
  obtain ⟨current, tracks⟩ := tracked
  have ordered : ∀ hit ∈ historyOf windowSeconds past, hit.2 ≤ (epochSeconds input.1).fdiv windowSeconds := by
    intro hit member
    obtain ⟨earlier, found, rfl⟩ := List.mem_map.mp member
    exact hit_window_monotone windowSeconds positive earlier input (inOrder earlier found)
  constructor
  · refine ⟨hitWindow windowSeconds input, ?_⟩
    simp only [countingStep, history_snoc]
    exact hit_tracks _ current _ store input.2 limit windowSeconds tracks ordered
  · rw [memoryStep, hit_decision _ current _ store input.2 limit windowSeconds tracks ordered]
    simp only [countingStep, history_snoc]
    rfl

theorem redis_hit_counts (positive : 0 < windowSeconds) (database : Database Str Int) (now : WallClock) (key : Str)
    (count : Nat) (counter : Counter windowSeconds database key (hitWindow windowSeconds (now, key)) count) :
    (redisHit database now key limit windowSeconds).2 =
        countDecision (count + 1) limit ((hitWindow windowSeconds (now, key) + 1) * windowSeconds) ∧
      Counter windowSeconds (redisHit database now key limit windowSeconds).1 key (hitWindow windowSeconds (now, key))
        (count + 1) ∧
      ∀ name, name ≠ redisKey key (hitWindow windowSeconds (now, key)) →
        (redisHit database now key limit windowSeconds).1.get name = database.get name := by
  have start := window_start now windowSeconds positive
  have finish := window_end now windowSeconds positive
  obtain ⟨value, counted⟩ := counter_incr windowSeconds now database key _ count counter
    (fun some => counter_alive windowSeconds now database key _ count counter some finish)
  refine ⟨?_, ?_, ?_⟩
  · exact congrArg (fun counted => countDecision counted limit _) value
  · simp only [redisHit]
    split
    next => exact counter_expire windowSeconds now _ key _ _ counted start
    next => exact counted
  · intro name different
    simp only [redisHit]
    split
    next => exact (expire_other _ _ _ _ _ different).trans (incr_other _ _ _ _ different)
    next => exact incr_other _ _ _ _ different

def HoldsCounts (database : Database Str Int) (past : List (WallClock × Str)) : Prop :=
  ∀ key bucket, Counter windowSeconds database key bucket (seen (historyOf windowSeconds past) key bucket)

theorem redis_counts (positive : 0 < windowSeconds) :
    Simulates (redisStep limit windowSeconds) (countingStep limit windowSeconds) (fun _ _ => True)
      (HoldsCounts windowSeconds) := by
  intro database past input holds _
  obtain ⟨now, key⟩ := input
  have spec := redis_hit_counts limit windowSeconds positive database now key _ (holds key (hitWindow windowSeconds (now, key)))
  constructor
  · intro other window
    simp only [countingStep, history_snoc]
    by_cases same : other = key ∧ window = hitWindow windowSeconds (now, key)
    · rw [same.1, same.2, seen_append, if_pos rfl]
      exact spec.2.1
    · have apart : seen (historyOf windowSeconds past ++ [(key, hitWindow windowSeconds (now, key))]) other window =
          seen (historyOf windowSeconds past) other window := by
        have uncounted : ¬ (key, hitWindow windowSeconds (now, key)) = (other, window) := by
          intro eq
          exact same ⟨(congrArg Prod.fst eq).symm, (congrArg Prod.snd eq).symm⟩
        simp [seen, List.count_append, uncounted]
      rw [apart]
      exact counter_other windowSeconds database _ key other _ window _ spec.2.2 same (holds other window)
  · simp only [countingStep, history_snoc, seen_append, if_pos, Nat.cast_add, Nat.cast_one]
    exact spec.1

theorem pairwise_admitted (past hits : List (WallClock × Str))
    (ordered : (past ++ hits).Pairwise (fun earlier later => earlier.1 ≤ later.1)) :
    Admitted (countingStep limit windowSeconds) NotBefore past hits := by
  induction hits generalizing past with
  | nil => trivial
  | cons input rest ih =>
      constructor
      · intro earlier member
        exact (List.pairwise_append.mp ordered).2.2 earlier member input (by simp)
      · apply ih
        simpa [countingStep] using ordered

end Agreement

theorem stores_agree (limit windowSeconds : Int) (positive : 0 < windowSeconds) (hits : List (WallClock × Str))
    (ordered : hits.Pairwise (fun earlier later => earlier.1 ≤ later.1)) :
    (run (memoryStep limit windowSeconds) emptyStore hits).2 =
      (run (redisStep limit windowSeconds) Dict.empty hits).2 := by
  have memory := simulates_run _ _ _ _ (memory_counts limit windowSeconds positive) emptyStore [] hits
    ⟨0, tracks_empty⟩ (pairwise_admitted limit windowSeconds [] hits ordered)
  have redis := simulates_run _ _ _ _ (redis_counts limit windowSeconds positive) Dict.empty [] hits
    (fun _ _ => rfl) (always_admitted _ _ _)
  exact memory.2.trans redis.2.symm

def fourHits : List (WallClock × Str) := [(10, ['a']), (20, ['a']), (59, ['a']), (60, ['a'])]

theorem stores_agree_four :
    (run (memoryStep 2 60) emptyStore fourHits).2 = (run (redisStep 2 60) Dict.empty fourHits).2 := by
  apply stores_agree 2 60 (by decide) fourHits
  simp [fourHits]
  norm_num

end Chassis.RateLimit
