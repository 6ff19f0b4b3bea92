import Chassis.RedisRateLimit
import Chassis.Urls

set_option autoImplicit false

namespace Chassis.RateLimit

open Text Transition

-- One call of hit, with the reading of time.time() that it makes.
structure StoreHit where
  time : WallClock
  key : Str
  limit : Int
  windowSeconds : Int

def StoreHit.bucket (input : StoreHit) : Int := (epochSeconds input.time).fdiv input.windowSeconds

def storeStep (store : MemoryRateLimitStore) (input : StoreHit) : MemoryRateLimitStore × RateLimitDecision :=
  hit store (epochSeconds input.time) input.key input.limit input.windowSeconds

def bucketsOf (past : List StoreHit) : History := past.map (fun input => (input.key, input.bucket))

-- A hit with a larger bucket number takes the counter away, whatever its key.
def survive (key : Str) (window : Int) (count : Nat) (entry : Str × Int) : Nat :=
  if window < entry.2 then 0 else if entry = (key, window) then count + 1 else count

-- The hits of a key and window since the last hit with a larger bucket number.
def surviving (history : History) (key : Str) (window : Int) : Nat := history.foldl (survive key window) 0

-- The store without its dictionary: it remembers every call and counts the
-- survivors.
def survivorStep (past : List StoreHit) (input : StoreHit) : List StoreHit × RateLimitDecision :=
  let count : Int := surviving (bucketsOf (past ++ [input])) input.key input.bucket
  (past ++ [input], countDecision count input.limit ((input.bucket + 1) * input.windowSeconds))

def HoldsSurvivors (history : History) (store : MemoryRateLimitStore) : Prop :=
  ∀ name value, store.buckets.get name = some value ↔
    ∃ key window, name = bucketKey key window ∧ value = (window, (surviving history key window : Int)) ∧
      0 < surviving history key window

theorem bucket_key_split (key other : Str) (bucket window : Int) (same : bucketKey key bucket = bucketKey other window) :
    key = other ∧ bucket = window := by
  have cut (text : Str) (n : Int) : Urls.splitLast ':' (bucketKey text n) = some (text, intText n) :=
    (Urls.split_last_some ':' _ text (intText n)).mpr ⟨rfl, int_text_colon_free n⟩
  have parts := cut key bucket
  rw [same, cut other window] at parts
  have both := Prod.mk.inj (Option.some.inj parts)
  exact ⟨both.1.symm, int_text_injective bucket window both.2.symm⟩

theorem surviving_snoc (history : History) (entry : Str × Int) (key : Str) (window : Int) :
    surviving (history ++ [entry]) key window = survive key window (surviving history key window) entry := by
  simp [surviving]

theorem surviving_own (history : History) (key : Str) (window : Int) :
    surviving (history ++ [(key, window)]) key window = surviving history key window + 1 := by
  rw [surviving_snoc, survive, if_neg (lt_irrefl window), if_pos rfl]

theorem surviving_pruned (history : History) (key other : Str) (window bucket : Int) (later : window < bucket) :
    surviving (history ++ [(other, bucket)]) key window = 0 := by
  rw [surviving_snoc, survive, if_pos later]

theorem surviving_kept (history : History) (key other : Str) (window bucket : Int) (notLater : ¬ window < bucket)
    (different : ¬ (other, bucket) = (key, window)) :
    surviving (history ++ [(other, bucket)]) key window = surviving history key window := by
  rw [surviving_snoc, survive, if_neg notLater, if_neg different]

theorem holds_survivors_empty : HoldsSurvivors [] emptyStore := by
  intro name value
  simp [emptyStore, Dict.get, Dict.empty, surviving]

theorem pruned_survivors (history : History) (bucket : Int) (store : MemoryRateLimitStore)
    (holds : HoldsSurvivors history store) (name : Str) (value : Int × Int) :
    (pruneExpiredBuckets store bucket).buckets.get name = some value ↔
      ∃ key window, name = bucketKey key window ∧ value = (window, (surviving history key window : Int)) ∧
        0 < surviving history key window ∧ ¬ window < bucket := by
  rw [prune_get, Option.filter_eq_some_iff, holds]
  constructor
  · rintro ⟨⟨key, window, named, valued, positive⟩, alive⟩
    exact ⟨key, window, named, valued, positive, by simpa [valued] using alive⟩
  · rintro ⟨key, window, named, valued, positive, alive⟩
    exact ⟨⟨key, window, named, valued, positive⟩, by simpa [valued] using alive⟩

theorem held_survivors (history : History) (bucket : Int) (store : MemoryRateLimitStore)
    (holds : HoldsSurvivors history store) (key : Str) :
    (let held := ((pruneExpiredBuckets store bucket).buckets.get (bucketKey key bucket)).getD (bucket, 0)
      if held.1 ≠ bucket then 0 else held.2) = (surviving history key bucket : Int) := by
  have pruned := pruned_survivors history bucket store holds (bucketKey key bucket)
  cases held : (pruneExpiredBuckets store bucket).buckets.get (bucketKey key bucket) with
  | none =>
      have none : ¬ 0 < surviving history key bucket := by
        intro positive
        have found := (pruned _).mpr ⟨key, bucket, rfl, rfl, positive, lt_irrefl bucket⟩
        rw [held] at found
        cases found
      have zero : surviving history key bucket = 0 := Nat.eq_zero_of_not_pos none
      simp [zero]
  | some value =>
      obtain ⟨other, window, named, valued, _, _⟩ := (pruned value).mp held
      obtain ⟨sameKey, sameWindow⟩ := bucket_key_split key other bucket window named
      subst sameKey sameWindow
      simp [valued]

theorem stored_survivors (history : History) (store : MemoryRateLimitStore) (now limit windowSeconds : Int) (key : Str)
    (holds : HoldsSurvivors history store) :
    HoldsSurvivors (history ++ [(key, now.fdiv windowSeconds)]) (hit store now key limit windowSeconds).1 := by
  have counted := held_survivors history (now.fdiv windowSeconds) store holds key
  simp only at counted
  intro name value
  simp only [hit, counted, Dict.get_set]
  by_cases own : name = bucketKey key (now.fdiv windowSeconds)
  · rw [if_pos own, own]
    constructor
    · intro stored
      refine ⟨key, _, rfl, ?_, by simp [surviving_own]⟩
      rw [← Option.some.inj stored, surviving_own, Nat.cast_add, Nat.cast_one]
    · rintro ⟨other, window, named, valued, _⟩
      obtain ⟨sameKey, sameWindow⟩ := bucket_key_split key other _ window named
      rw [valued, ← sameKey, ← sameWindow, surviving_own, Nat.cast_add, Nat.cast_one]
  · rw [if_neg own, pruned_survivors history _ store holds]
    have apart (other : Str) (window : Int) (named : name = bucketKey other window) :
        ¬ (key, now.fdiv windowSeconds) = (other, window) := by
      intro same
      cases same
      exact own named
    constructor
    · rintro ⟨other, window, named, valued, positive, alive⟩
      have kept := surviving_kept history other key window _ alive (apart other window named)
      exact ⟨other, window, named, by rw [kept, valued], by rwa [kept]⟩
    · rintro ⟨other, window, named, valued, positive⟩
      by_cases later : window < now.fdiv windowSeconds
      · rw [surviving_pruned history other key window _ later] at positive
        exact absurd positive (Nat.lt_irrefl 0)
      · rw [surviving_kept history other key window _ later (apart other window named)] at valued positive
        exact ⟨other, window, named, valued, positive, later⟩

theorem survivors_decide (history : History) (store : MemoryRateLimitStore) (now limit windowSeconds : Int) (key : Str)
    (holds : HoldsSurvivors history store) :
    (hit store now key limit windowSeconds).2 =
      countDecision (surviving (history ++ [(key, now.fdiv windowSeconds)]) key (now.fdiv windowSeconds)) limit
        ((now.fdiv windowSeconds + 1) * windowSeconds) := by
  have counted := held_survivors history (now.fdiv windowSeconds) store holds key
  simp only at counted
  simp only [hit, counted, surviving_own, Nat.cast_add, Nat.cast_one, countDecision]

theorem buckets_snoc (past : List StoreHit) (input : StoreHit) :
    bucketsOf (past ++ [input]) = bucketsOf past ++ [(input.key, input.bucket)] := by
  simp [bucketsOf]

theorem store_refines_survivors :
    Simulates storeStep survivorStep (fun _ _ => True) (fun store past => HoldsSurvivors (bucketsOf past) store) := by
  intro store past input holds _
  have stored := stored_survivors (bucketsOf past) store (epochSeconds input.time) input.limit input.windowSeconds
    input.key holds
  have decided := survivors_decide (bucketsOf past) store (epochSeconds input.time) input.limit input.windowSeconds
    input.key holds
  constructor
  · simp only [survivorStep, buckets_snoc]
    exact stored
  · rw [storeStep, decided, survivorStep, buckets_snoc]
    rfl

theorem run_survivors (inputs : List StoreHit) :
    (run storeStep emptyStore inputs).2 = (run survivorStep [] inputs).2 :=
  (simulates_run _ _ _ _ store_refines_survivors emptyStore [] inputs holds_survivors_empty
    (always_admitted _ _ _)).2

end Chassis.RateLimit
